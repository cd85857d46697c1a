import Chip8VM.Instruction.Basic

/-!
# Listing of instructions

An instruction in full: its name and its operands by field name, in decimal. This is the form in
which instructions are entered and shown field by field; the assembly text is the one for reading.

- `listing` shows an instruction, `ofFields?` finds the one with a given name and given fields.
-/

namespace Chip8VM.Instruction

/-- The name of an instruction. -/
def name : Instruction → String
  | .sys _ => "Sys"
  | .cls => "Cls"
  | .ret => "Ret"
  | .jump _ => "Jump"
  | .call _ => "Call"
  | .skipEqByte _ _ => "SkipEqByte"
  | .skipNeByte _ _ => "SkipNeByte"
  | .skipEqReg _ _ => "SkipEqReg"
  | .loadByte _ _ => "LoadByte"
  | .addByte _ _ => "AddByte"
  | .move _ _ => "Move"
  | .or _ _ => "Or"
  | .and _ _ => "And"
  | .xor _ _ => "Xor"
  | .addReg _ _ => "AddReg"
  | .sub _ _ => "Sub"
  | .shiftRight _ => "ShiftRight"
  | .subN _ _ => "SubN"
  | .shiftLeft _ => "ShiftLeft"
  | .skipNeReg _ _ => "SkipNeReg"
  | .loadIndex _ => "LoadIndex"
  | .jumpOffset _ => "JumpOffset"
  | .random _ _ => "Random"
  | .draw _ _ _ => "Draw"
  | .skipKeyDown _ => "SkipKeyDown"
  | .skipKeyUp _ => "SkipKeyUp"
  | .readDelay _ => "ReadDelay"
  | .awaitKey _ => "AwaitKey"
  | .setDelay _ => "SetDelay"
  | .setSound _ => "SetSound"
  | .addIndex _ => "AddIndex"
  | .loadGlyph _ => "LoadGlyph"
  | .storeBcd _ => "StoreBcd"
  | .storeRegisters _ => "StoreRegisters"
  | .loadRegisters _ => "LoadRegisters"

/-- The operands of an instruction by field name, in order. -/
def fields : Instruction → List (String × Nat)
  | .cls | .ret => []
  | .sys addr | .jump addr | .call addr | .loadIndex addr | .jumpOffset addr =>
    [("addr", addr.toNat)]
  | .skipEqByte x kk | .skipNeByte x kk | .loadByte x kk | .addByte x kk | .random x kk =>
    [("x", x.toNat), ("kk", kk.toNat)]
  | .skipEqReg x y | .move x y | .or x y | .and x y | .xor x y | .addReg x y | .sub x y
  | .subN x y | .skipNeReg x y => [("x", x.toNat), ("y", y.toNat)]
  | .draw x y n => [("x", x.toNat), ("y", y.toNat), ("n", n.toNat)]
  | .shiftRight x | .shiftLeft x | .skipKeyDown x | .skipKeyUp x | .readDelay x | .awaitKey x
  | .setDelay x | .setSound x | .addIndex x | .loadGlyph x | .storeBcd x | .storeRegisters x
  | .loadRegisters x => [("x", x.toNat)]

/-- The fields in braces behind the name; an instruction without operands is its bare name. -/
def listing (ins : Instruction) : String :=
  if ins.fields.isEmpty then ins.name
  else
    ins.name ++ " \x7b " ++
      String.intercalate ", " (ins.fields.map fun (field, value) => field ++ ": " ++ toString value)
      ++ " \x7d"

/-! ## From names and fields -/

/-- The instructions without operands, by name. -/
def bare? (name : String) : Option Instruction :=
  match name with
  | "Cls" => some .cls
  | "Ret" => some .ret
  | _ => none

/-- The instructions with an address, by name. -/
def ofAddress? (name : String) : Option (UInt16 → Instruction) :=
  match name with
  | "Sys" => some .sys
  | "Jump" => some .jump
  | "Call" => some .call
  | "LoadIndex" => some .loadIndex
  | "JumpOffset" => some .jumpOffset
  | _ => none

/-- The instructions with one register, by name. -/
def ofRegister? (name : String) : Option (UInt8 → Instruction) :=
  match name with
  | "ShiftRight" => some .shiftRight
  | "ShiftLeft" => some .shiftLeft
  | "SkipKeyDown" => some .skipKeyDown
  | "SkipKeyUp" => some .skipKeyUp
  | "ReadDelay" => some .readDelay
  | "AwaitKey" => some .awaitKey
  | "SetDelay" => some .setDelay
  | "SetSound" => some .setSound
  | "AddIndex" => some .addIndex
  | "LoadGlyph" => some .loadGlyph
  | "StoreBcd" => some .storeBcd
  | "StoreRegisters" => some .storeRegisters
  | "LoadRegisters" => some .loadRegisters
  | _ => none

/-- The instructions with a register and a byte, by name. -/
def ofRegisterByte? (name : String) : Option (UInt8 → UInt8 → Instruction) :=
  match name with
  | "SkipEqByte" => some .skipEqByte
  | "SkipNeByte" => some .skipNeByte
  | "LoadByte" => some .loadByte
  | "AddByte" => some .addByte
  | "Random" => some .random
  | _ => none

/-- The instructions with two registers, by name. -/
def ofRegisters? (name : String) : Option (UInt8 → UInt8 → Instruction) :=
  match name with
  | "SkipEqReg" => some .skipEqReg
  | "Move" => some .move
  | "Or" => some .or
  | "And" => some .and
  | "Xor" => some .xor
  | "AddReg" => some .addReg
  | "Sub" => some .sub
  | "SubN" => some .subN
  | "SkipNeReg" => some .skipNeReg
  | _ => none

/-- The instruction with two registers and a height, by name. -/
def ofSprite? (name : String) : Option (UInt8 → UInt8 → UInt8 → Instruction) :=
  if name = "Draw" then some .draw else none

/-- The instruction of a name whose operands are looked up by field name. -/
def ofFields? (name : String) (field : String → Option Nat) : Option Instruction :=
  let byte (key : String) := (field key).map Nat.toUInt8
  let word (key : String) := (field key).map Nat.toUInt16
  (bare? name)
    |>.or ((ofAddress? name).bind fun ins => (word "addr").map ins)
    |>.or ((ofRegister? name).bind fun ins => (byte "x").map ins)
    |>.or ((ofRegisterByte? name).bind fun ins =>
      (byte "x").bind fun x => (byte "kk").map (ins x))
    |>.or ((ofRegisters? name).bind fun ins =>
      (byte "x").bind fun x => (byte "y").map (ins x))
    |>.or ((ofSprite? name).bind fun ins =>
      (byte "x").bind fun x => (byte "y").bind fun y => (byte "n").map (ins x y))

end Chip8VM.Instruction
