/-!
# Keyboard layout

The sixteen keys are the left four columns of the keyboard, numbered row by row:

```
1 2 3 4      0  1  2  3
Q W E R      4  5  6  7
A S D F      8  9 10 11
Z X C V     12 13 14 15
```
-/

namespace Chip8VM

/-- The number of a key. -/
abbrev Key := Fin 16

namespace Key

/-- The characters on the keys, by number. -/
def layout : Vector Char 16 :=
  #v['1', '2', '3', '4', 'Q', 'W', 'E', 'R', 'A', 'S', 'D', 'F', 'Z', 'X', 'C', 'V']

/-- The key with a given name: the one character on it, a letter in either case. -/
def ofName? (name : String) : Option Key :=
  match name.toList with
  | [c] => layout.finIdxOf? c.toUpper
  | _ => none

end Key

end Chip8VM
