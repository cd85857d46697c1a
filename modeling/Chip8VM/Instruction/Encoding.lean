import Chip8VM.Instruction.Basic
import Chip8VM.Opcode

/-!
# Encoding of instructions

The instruction format: which opcodes encode which instructions. Some opcodes encode none; some
instructions ignore a digit, so several opcodes encode them, of which `encode` gives the one whose
ignored digits are zero.
-/

namespace Chip8VM

namespace Instruction

/-! ## From opcodes -/

/-- The family `0`: two opcodes with a meaning of their own, the others are machine routines. -/
def decodeSystem (op : Opcode) : Instruction :=
  match op.word with
  | 0x00E0 => .cls
  | 0x00EE => .ret
  | _ => .sys op.addr

/-- The family `8`: the last digit selects an operation on two registers. -/
def decodeArithmetic (x y n : UInt8) : Option Instruction :=
  match n with
  | 0x0 => some (.move x y)
  | 0x1 => some (.or x y)
  | 0x2 => some (.and x y)
  | 0x3 => some (.xor x y)
  | 0x4 => some (.addReg x y)
  | 0x5 => some (.sub x y)
  | 0x6 => some (.shiftRight x)
  | 0x7 => some (.subN x y)
  | 0xE => some (.shiftLeft x)
  | _ => none

/-- The family `E`: the low byte selects a test of a key. -/
def decodeKeyTest (x kk : UInt8) : Option Instruction :=
  match kk with
  | 0x9E => some (.skipKeyDown x)
  | 0xA1 => some (.skipKeyUp x)
  | _ => none

/-- The family `F`: the low byte selects an operation on one register. -/
def decodeTransfer (x kk : UInt8) : Option Instruction :=
  match kk with
  | 0x07 => some (.readDelay x)
  | 0x0A => some (.awaitKey x)
  | 0x15 => some (.setDelay x)
  | 0x18 => some (.setSound x)
  | 0x1E => some (.addIndex x)
  | 0x29 => some (.loadGlyph x)
  | 0x33 => some (.storeBcd x)
  | 0x55 => some (.storeRegisters x)
  | 0x65 => some (.loadRegisters x)
  | _ => none

/-- The instruction that an opcode encodes, if it encodes one. -/
def decode (op : Opcode) : Option Instruction :=
  match op.family with
  | 0x0 => some (decodeSystem op)
  | 0x1 => some (.jump op.addr)
  | 0x2 => some (.call op.addr)
  | 0x3 => some (.skipEqByte op.x op.kk)
  | 0x4 => some (.skipNeByte op.x op.kk)
  | 0x5 => some (.skipEqReg op.x op.y)
  | 0x6 => some (.loadByte op.x op.kk)
  | 0x7 => some (.addByte op.x op.kk)
  | 0x8 => decodeArithmetic op.x op.y op.n
  | 0x9 => some (.skipNeReg op.x op.y)
  | 0xA => some (.loadIndex op.addr)
  | 0xB => some (.jumpOffset op.addr)
  | 0xC => some (.random op.x op.kk)
  | 0xD => some (.draw op.x op.y op.n)
  | 0xE => decodeKeyTest op.x op.kk
  | _ => decodeTransfer op.x op.kk

/-! ## To opcodes -/

/-- The opcode of a family with a 12-bit operand. -/
def wordOfAddr (family addr : UInt16) : UInt16 :=
  0x1000 * family + addr

/-- The opcode of a family with a register and a byte. -/
def wordOfByte (family : UInt16) (x kk : UInt8) : UInt16 :=
  0x1000 * family + 0x100 * x.toUInt16 + kk.toUInt16

/-- The opcode of a family with two registers and a last digit. -/
def wordOfDigits (family : UInt16) (x y n : UInt8) : UInt16 :=
  0x1000 * family + 0x100 * x.toUInt16 + 0x10 * y.toUInt16 + n.toUInt16

/-- The opcode of an instruction, its ignored digits being zero. -/
def encode (ins : Instruction) : Opcode :=
  ⟨match ins with
    | .sys addr => wordOfAddr 0x0 addr
    | .cls => 0x00E0
    | .ret => 0x00EE
    | .jump addr => wordOfAddr 0x1 addr
    | .call addr => wordOfAddr 0x2 addr
    | .skipEqByte x kk => wordOfByte 0x3 x kk
    | .skipNeByte x kk => wordOfByte 0x4 x kk
    | .skipEqReg x y => wordOfDigits 0x5 x y 0x0
    | .loadByte x kk => wordOfByte 0x6 x kk
    | .addByte x kk => wordOfByte 0x7 x kk
    | .move x y => wordOfDigits 0x8 x y 0x0
    | .or x y => wordOfDigits 0x8 x y 0x1
    | .and x y => wordOfDigits 0x8 x y 0x2
    | .xor x y => wordOfDigits 0x8 x y 0x3
    | .addReg x y => wordOfDigits 0x8 x y 0x4
    | .sub x y => wordOfDigits 0x8 x y 0x5
    | .shiftRight x => wordOfDigits 0x8 x 0x0 0x6
    | .subN x y => wordOfDigits 0x8 x y 0x7
    | .shiftLeft x => wordOfDigits 0x8 x 0x0 0xE
    | .skipNeReg x y => wordOfDigits 0x9 x y 0x0
    | .loadIndex addr => wordOfAddr 0xA addr
    | .jumpOffset addr => wordOfAddr 0xB addr
    | .random x kk => wordOfByte 0xC x kk
    | .draw x y n => wordOfDigits 0xD x y n
    | .skipKeyDown x => wordOfByte 0xE x 0x9E
    | .skipKeyUp x => wordOfByte 0xE x 0xA1
    | .readDelay x => wordOfByte 0xF x 0x07
    | .awaitKey x => wordOfByte 0xF x 0x0A
    | .setDelay x => wordOfByte 0xF x 0x15
    | .setSound x => wordOfByte 0xF x 0x18
    | .addIndex x => wordOfByte 0xF x 0x1E
    | .loadGlyph x => wordOfByte 0xF x 0x29
    | .storeBcd x => wordOfByte 0xF x 0x33
    | .storeRegisters x => wordOfByte 0xF x 0x55
    | .loadRegisters x => wordOfByte 0xF x 0x65⟩

end Instruction

end Chip8VM
