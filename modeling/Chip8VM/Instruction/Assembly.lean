import Chip8VM.Instruction.Basic
import Chip8VM.Text.Hex

/-!
# Assembly text

An instruction is written as a line: a mnemonic and its operands, separated by commas. Several
instructions share a mnemonic and are told apart by the kind of their operands.

- `Instruction.line` chooses mnemonic and operands, `Line.chars` spells them.
- Bytes have two hexadecimal digits; registers have one and addresses three, or more where the
  value needs more; the height of a sprite is decimal.
-/

namespace Chip8VM

namespace Assembly

/-- The word that opens a line. -/
inductive Mnemonic where
  | sys | cls | ret | jp | call | se | sne | ld | add | or | and | xor | sub | shr | subn | shl
  | rnd | drw | skp | sknp
deriving DecidableEq, Repr

/-- The letters of a mnemonic. -/
def Mnemonic.text : Mnemonic → String
  | .sys => "SYS"
  | .cls => "CLS"
  | .ret => "RET"
  | .jp => "JP"
  | .call => "CALL"
  | .se => "SE"
  | .sne => "SNE"
  | .ld => "LD"
  | .add => "ADD"
  | .or => "OR"
  | .and => "AND"
  | .xor => "XOR"
  | .sub => "SUB"
  | .shr => "SHR"
  | .subn => "SUBN"
  | .shl => "SHL"
  | .rnd => "RND"
  | .drw => "DRW"
  | .skp => "SKP"
  | .sknp => "SKNP"

/-- An operand of a line. -/
inductive Operand where
  /-- A register, by number. -/
  | register (x : UInt8)
  /-- An immediate byte. -/
  | byte (kk : UInt8)
  /-- An address. -/
  | address (addr : UInt16)
  /-- The height of a sprite. -/
  | height (n : UInt8)
  /-- The index register. -/
  | index
  /-- The memory that the index register points at. -/
  | atIndex
  /-- The delay timer. -/
  | delay
  /-- The sound timer. -/
  | sound
  /-- The next key. -/
  | key
  /-- A glyph of the font. -/
  | glyph
  /-- A number in decimal digits. -/
  | decimal
deriving DecidableEq, Repr

/-- The spelling of an operand. -/
def Operand.chars : Operand → List Char
  | .register x => 'V' :: Hex.chars 1 x.toNat
  | .byte kk => '0' :: 'x' :: Hex.encode [kk]
  | .address addr => '0' :: 'x' :: Hex.chars 3 addr.toNat
  | .height n => Numeral.text 10 1 n.toNat
  | .index => ['I']
  | .atIndex => ['[', 'I', ']']
  | .delay => ['D', 'T']
  | .sound => ['S', 'T']
  | .key => ['K']
  | .glyph => ['F']
  | .decimal => ['B']

/-- A mnemonic with its operands. -/
structure Line where
  mnemonic : Mnemonic
  operands : List Operand
deriving DecidableEq, Repr

/-- Operands separated by a comma and a blank. -/
def operandChars : List Operand → List Char
  | [] => []
  | [o] => o.chars
  | o :: rest => o.chars ++ ',' :: ' ' :: operandChars rest

/-- The spelling of a line: a blank stands before the operands, if there are any. -/
def Line.chars (l : Line) : List Char :=
  if l.operands.isEmpty then l.mnemonic.text.toList
  else l.mnemonic.text.toList ++ ' ' :: operandChars l.operands

end Assembly

namespace Instruction

/-- The line of an instruction. -/
def line : Instruction → Assembly.Line
  | .sys addr => ⟨.sys, [.address addr]⟩
  | .cls => ⟨.cls, []⟩
  | .ret => ⟨.ret, []⟩
  | .jump addr => ⟨.jp, [.address addr]⟩
  | .call addr => ⟨.call, [.address addr]⟩
  | .skipEqByte x kk => ⟨.se, [.register x, .byte kk]⟩
  | .skipNeByte x kk => ⟨.sne, [.register x, .byte kk]⟩
  | .skipEqReg x y => ⟨.se, [.register x, .register y]⟩
  | .loadByte x kk => ⟨.ld, [.register x, .byte kk]⟩
  | .addByte x kk => ⟨.add, [.register x, .byte kk]⟩
  | .move x y => ⟨.ld, [.register x, .register y]⟩
  | .or x y => ⟨.or, [.register x, .register y]⟩
  | .and x y => ⟨.and, [.register x, .register y]⟩
  | .xor x y => ⟨.xor, [.register x, .register y]⟩
  | .addReg x y => ⟨.add, [.register x, .register y]⟩
  | .sub x y => ⟨.sub, [.register x, .register y]⟩
  | .shiftRight x => ⟨.shr, [.register x]⟩
  | .subN x y => ⟨.subn, [.register x, .register y]⟩
  | .shiftLeft x => ⟨.shl, [.register x]⟩
  | .skipNeReg x y => ⟨.sne, [.register x, .register y]⟩
  | .loadIndex addr => ⟨.ld, [.index, .address addr]⟩
  | .jumpOffset addr => ⟨.jp, [.register 0, .address addr]⟩
  | .random x kk => ⟨.rnd, [.register x, .byte kk]⟩
  | .draw x y n => ⟨.drw, [.register x, .register y, .height n]⟩
  | .skipKeyDown x => ⟨.skp, [.register x]⟩
  | .skipKeyUp x => ⟨.sknp, [.register x]⟩
  | .readDelay x => ⟨.ld, [.register x, .delay]⟩
  | .awaitKey x => ⟨.ld, [.register x, .key]⟩
  | .setDelay x => ⟨.ld, [.delay, .register x]⟩
  | .setSound x => ⟨.ld, [.sound, .register x]⟩
  | .addIndex x => ⟨.add, [.index, .register x]⟩
  | .loadGlyph x => ⟨.ld, [.glyph, .register x]⟩
  | .storeBcd x => ⟨.ld, [.decimal, .register x]⟩
  | .storeRegisters x => ⟨.ld, [.atIndex, .register x]⟩
  | .loadRegisters x => ⟨.ld, [.register x, .atIndex]⟩

/-- The assembly text of an instruction. -/
def text (ins : Instruction) : String :=
  String.ofList ins.line.chars

end Instruction

end Chip8VM
