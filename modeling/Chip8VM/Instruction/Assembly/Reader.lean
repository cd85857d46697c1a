import Chip8VM.Instruction.Assembly

/-!
# Reading assembly text

The inverse of the assembly writer: from characters to a line and from a line to the instruction it
names.

- `instruction?_line`: a line determines its instruction, although instructions share mnemonics.
-/

namespace Chip8VM

namespace Assembly

/-! ## Words of a line -/

/-- All mnemonics. -/
def Mnemonic.all : List Mnemonic :=
  [.sys, .cls, .ret, .jp, .call, .se, .sne, .ld, .add, .or, .and, .xor, .sub, .shr, .subn, .shl,
    .rnd, .drw, .skp, .sknp]

/-- The mnemonic with the given letters. -/
def Mnemonic.read? (cs : List Char) : Option Mnemonic :=
  all.find? fun m => m.text.toList == cs

/-- A number that fits a byte. -/
def byteOf? (n : Nat) : Option UInt8 :=
  if n < 256 then some n.toUInt8 else none

/-- A number that fits an address. -/
def addressOf? (n : Nat) : Option UInt16 :=
  if n < 65536 then some n.toUInt16 else none

/-- Reads an operand; of the hexadecimal numbers, those of two digits are bytes and the others
addresses. -/
def Operand.read? : List Char → Option Operand
  | ['I'] => some .index
  | ['[', 'I', ']'] => some .atIndex
  | ['D', 'T'] => some .delay
  | ['S', 'T'] => some .sound
  | ['K'] => some .key
  | ['F'] => some .glyph
  | ['B'] => some .decimal
  | 'V' :: cs => (Numeral.read? 16 cs).bind fun n => (byteOf? n).map .register
  | '0' :: 'x' :: cs =>
    match Hex.decode cs with
    | some [kk] => some (.byte kk)
    | _ => (Numeral.read? 16 cs).bind fun n => (addressOf? n).map .address
  | cs => (Numeral.read? 10 cs).bind fun n => (byteOf? n).map .height

/-- The parts of a text between its commas, each comma being followed by a blank. -/
def fields : List Char → List (List Char)
  | [] => [[]]
  | ',' :: ' ' :: rest => [] :: fields rest
  | c :: rest =>
    match fields rest with
    | [] => [[c]]
    | first :: others => (c :: first) :: others

/-- Reads a line: the mnemonic ends at the first blank, the operands follow it. -/
def Line.read? (cs : List Char) : Option Line := do
  let mnemonic ← Mnemonic.read? (cs.takeWhile (· ≠ ' '))
  match cs.dropWhile (· ≠ ' ') with
  | [] => return ⟨mnemonic, []⟩
  | _ :: rest => return ⟨mnemonic, ← (fields rest).mapM Operand.read?⟩

/-! ## Instructions -/

/-- The instruction that a line names. -/
def Line.instruction? : Line → Option Instruction
  | ⟨.sys, [.address addr]⟩ => some (.sys addr)
  | ⟨.cls, []⟩ => some .cls
  | ⟨.ret, []⟩ => some .ret
  | ⟨.jp, [.address addr]⟩ => some (.jump addr)
  | ⟨.jp, [.register x, .address addr]⟩ => if x = 0 then some (.jumpOffset addr) else none
  | ⟨.call, [.address addr]⟩ => some (.call addr)
  | ⟨.se, [.register x, .byte kk]⟩ => some (.skipEqByte x kk)
  | ⟨.se, [.register x, .register y]⟩ => some (.skipEqReg x y)
  | ⟨.sne, [.register x, .byte kk]⟩ => some (.skipNeByte x kk)
  | ⟨.sne, [.register x, .register y]⟩ => some (.skipNeReg x y)
  | ⟨.ld, [.register x, .byte kk]⟩ => some (.loadByte x kk)
  | ⟨.ld, [.register x, .register y]⟩ => some (.move x y)
  | ⟨.ld, [.index, .address addr]⟩ => some (.loadIndex addr)
  | ⟨.ld, [.register x, .delay]⟩ => some (.readDelay x)
  | ⟨.ld, [.register x, .key]⟩ => some (.awaitKey x)
  | ⟨.ld, [.delay, .register x]⟩ => some (.setDelay x)
  | ⟨.ld, [.sound, .register x]⟩ => some (.setSound x)
  | ⟨.ld, [.glyph, .register x]⟩ => some (.loadGlyph x)
  | ⟨.ld, [.decimal, .register x]⟩ => some (.storeBcd x)
  | ⟨.ld, [.atIndex, .register x]⟩ => some (.storeRegisters x)
  | ⟨.ld, [.register x, .atIndex]⟩ => some (.loadRegisters x)
  | ⟨.add, [.register x, .byte kk]⟩ => some (.addByte x kk)
  | ⟨.add, [.register x, .register y]⟩ => some (.addReg x y)
  | ⟨.add, [.index, .register x]⟩ => some (.addIndex x)
  | ⟨.or, [.register x, .register y]⟩ => some (.or x y)
  | ⟨.and, [.register x, .register y]⟩ => some (.and x y)
  | ⟨.xor, [.register x, .register y]⟩ => some (.xor x y)
  | ⟨.sub, [.register x, .register y]⟩ => some (.sub x y)
  | ⟨.shr, [.register x]⟩ => some (.shiftRight x)
  | ⟨.subn, [.register x, .register y]⟩ => some (.subN x y)
  | ⟨.shl, [.register x]⟩ => some (.shiftLeft x)
  | ⟨.rnd, [.register x, .byte kk]⟩ => some (.random x kk)
  | ⟨.drw, [.register x, .register y, .height n]⟩ => some (.draw x y n)
  | ⟨.skp, [.register x]⟩ => some (.skipKeyDown x)
  | ⟨.sknp, [.register x]⟩ => some (.skipKeyUp x)
  | _ => none

theorem Line.instruction?_line (ins : Instruction) : ins.line.instruction? = some ins := by
  cases ins <;> rfl

end Assembly

/-- The instruction with the given assembly text. -/
def Instruction.read? (s : String) : Option Instruction :=
  (Assembly.Line.read? s.toList).bind Assembly.Line.instruction?

end Chip8VM
