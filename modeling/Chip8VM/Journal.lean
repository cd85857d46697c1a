import Chip8VM.Instruction.Assembly
import Chip8VM.Keypad.Layout
import Chip8VM.Memory.Basic
import Chip8VM.Opcode
import Chip8VM.Text.Quoted

/-!
# The journal

What happens while a program runs is told as events, each with a level and a line of text.
Addresses in the text have at least three hexadecimal digits.
-/

namespace Chip8VM

/-- How much an event matters; as a threshold, `off` lets nothing through. -/
inductive Level where
  | off | error | warn | info | debug | trace
deriving DecidableEq, Repr, Inhabited

namespace Level

/-- All levels, from the most to the least important. -/
def all : List Level :=
  [.off, .error, .warn, .info, .debug, .trace]

/-- The name of a level. -/
def name : Level → String
  | .off => "OFF"
  | .error => "ERROR"
  | .warn => "WARN"
  | .info => "INFO"
  | .debug => "DEBUG"
  | .trace => "TRACE"

/-- The level with a given name, in upper or lower case. -/
def ofName? (s : String) : Option Level :=
  all.find? fun l => l.name.toList == s.toList.map Char.toUpper

/-- The distance from `off`. -/
def rank (l : Level) : Nat :=
  all.idxOf l

/-- Whether a threshold lets a level through. -/
def passes (threshold l : Level) : Bool :=
  l.rank ≤ threshold.rank

end Level

/-- Something that happened. -/
inductive Event where
  /-- A program of `size` bytes was copied to memory. -/
  | programLoaded (size : Nat)
  /-- An instruction fetched at `pc` is about to take effect. -/
  | executing (pc : UInt16) (opcode : Opcode) (instruction : Instruction)
  /-- The word fetched at `pc` encodes no instruction. -/
  | unrecognised (pc : UInt16) (opcode : Opcode)
  /-- A key ended the wait of a register. -/
  | keyStored (key : Key) (register : UInt8)
  /-- A return at `pc` found no call to return from. -/
  | returnIgnored (pc : UInt16)
  /-- A call of `addr` at `pc` found the call stack full. -/
  | callIgnored (addr pc : UInt16)
  /-- A byte meant for the font was dropped. -/
  | writeDropped (value : UInt8) (place : Place)
  /-- The name of a key is on none of the sixteen. -/
  | keyUnmapped (name : String)
  /-- The program at `path` is ready. -/
  | romLoaded (path : String)
  /-- A window with pixels of the size `scale` is open. -/
  | windowOpened (scale : UInt32)
  /-- The tone began or ended. -/
  | tone (isOn : Bool)
  /-- The session was closed. -/
  | quit
deriving DecidableEq, Repr

namespace Event

/-- An address inside a line of text. -/
def addressText (addr : UInt16) : String :=
  Hex.text 3 addr.toNat

/-- How much an event matters. -/
def level : Event → Level
  | .executing .. | .keyUnmapped _ => .trace
  | .programLoaded _ | .unrecognised .. | .keyStored .. | .windowOpened _ | .tone _ => .debug
  | .romLoaded _ | .quit => .info
  | .returnIgnored _ | .callIgnored .. | .writeDropped .. => .warn

/-- The line of text of an event. -/
def text : Event → String
  | .programLoaded size =>
    "loaded " ++ toString size ++ " byte program at " ++ Hex.text 3 Memory.programStart
  | .executing pc opcode instruction =>
    addressText pc ++ "  " ++ opcode.text ++ "  " ++ instruction.text
  | .unrecognised pc opcode =>
    addressText pc ++ "  " ++ opcode.text ++ "  ignored unrecognised opcode"
  | .keyStored key register =>
    "key " ++ Hex.text 1 key.val ++ " pressed, storing it in V" ++ Hex.text 1 register.toNat
  | .returnIgnored pc =>
    "RET at " ++ addressText pc ++ " with an empty call stack was ignored"
  | .callIgnored addr pc =>
    "CALL " ++ addressText addr ++ " at " ++ addressText pc
      ++ " would exceed 16 nested calls and was ignored"
  | .writeDropped value place =>
    "dropped write of " ++ Hex.text 2 value.toNat ++ " to font address " ++ Hex.text 3 place.val
  | .keyUnmapped name => "ignoring unmapped key " ++ Quoted.text name
  | .romLoaded path => "loaded " ++ path
  | .windowOpened scale => "opened " ++ toString scale.toNat ++ "x scaled window"
  | .tone isOn => "tone " ++ (if isOn then "on" else "off")
  | .quit => "quit"

end Event

end Chip8VM
