import Chip8VM.Instruction.Encoding

/-!
# Formats

Which opcodes encode which instructions, by their digits. Every instruction has a family, most
families have one format, and the families `0`, `8`, `E` and `F` are told apart further by their
last digits.

* `Instruction.HasFormat`: the digits of an instruction.
* `decode_eq_some_iff`: an opcode encodes an instruction exactly if it has its digits.
* `decode_eq_none_iff`: the opcodes that encode none.
-/

namespace Chip8VM.Instruction

/-- An opcode has the digits of an instruction. Digits that are not mentioned may be anything. -/
def HasFormat (op : Opcode) : Instruction → Prop
  | .sys addr => op.family = 0x0 ∧ op.word ≠ 0x00E0 ∧ op.word ≠ 0x00EE ∧ addr = op.addr
  | .cls => op.word = 0x00E0
  | .ret => op.word = 0x00EE
  | .jump addr => op.family = 0x1 ∧ addr = op.addr
  | .call addr => op.family = 0x2 ∧ addr = op.addr
  | .skipEqByte x kk => op.family = 0x3 ∧ x = op.x ∧ kk = op.kk
  | .skipNeByte x kk => op.family = 0x4 ∧ x = op.x ∧ kk = op.kk
  | .skipEqReg x y => op.family = 0x5 ∧ x = op.x ∧ y = op.y
  | .loadByte x kk => op.family = 0x6 ∧ x = op.x ∧ kk = op.kk
  | .addByte x kk => op.family = 0x7 ∧ x = op.x ∧ kk = op.kk
  | .move x y => op.family = 0x8 ∧ op.n = 0x0 ∧ x = op.x ∧ y = op.y
  | .or x y => op.family = 0x8 ∧ op.n = 0x1 ∧ x = op.x ∧ y = op.y
  | .and x y => op.family = 0x8 ∧ op.n = 0x2 ∧ x = op.x ∧ y = op.y
  | .xor x y => op.family = 0x8 ∧ op.n = 0x3 ∧ x = op.x ∧ y = op.y
  | .addReg x y => op.family = 0x8 ∧ op.n = 0x4 ∧ x = op.x ∧ y = op.y
  | .sub x y => op.family = 0x8 ∧ op.n = 0x5 ∧ x = op.x ∧ y = op.y
  | .shiftRight x => op.family = 0x8 ∧ op.n = 0x6 ∧ x = op.x
  | .subN x y => op.family = 0x8 ∧ op.n = 0x7 ∧ x = op.x ∧ y = op.y
  | .shiftLeft x => op.family = 0x8 ∧ op.n = 0xE ∧ x = op.x
  | .skipNeReg x y => op.family = 0x9 ∧ x = op.x ∧ y = op.y
  | .loadIndex addr => op.family = 0xA ∧ addr = op.addr
  | .jumpOffset addr => op.family = 0xB ∧ addr = op.addr
  | .random x kk => op.family = 0xC ∧ x = op.x ∧ kk = op.kk
  | .draw x y n => op.family = 0xD ∧ x = op.x ∧ y = op.y ∧ n = op.n
  | .skipKeyDown x => op.family = 0xE ∧ op.kk = 0x9E ∧ x = op.x
  | .skipKeyUp x => op.family = 0xE ∧ op.kk = 0xA1 ∧ x = op.x
  | .readDelay x => op.family = 0xF ∧ op.kk = 0x07 ∧ x = op.x
  | .awaitKey x => op.family = 0xF ∧ op.kk = 0x0A ∧ x = op.x
  | .setDelay x => op.family = 0xF ∧ op.kk = 0x15 ∧ x = op.x
  | .setSound x => op.family = 0xF ∧ op.kk = 0x18 ∧ x = op.x
  | .addIndex x => op.family = 0xF ∧ op.kk = 0x1E ∧ x = op.x
  | .loadGlyph x => op.family = 0xF ∧ op.kk = 0x29 ∧ x = op.x
  | .storeBcd x => op.family = 0xF ∧ op.kk = 0x33 ∧ x = op.x
  | .storeRegisters x => op.family = 0xF ∧ op.kk = 0x55 ∧ x = op.x
  | .loadRegisters x => op.family = 0xF ∧ op.kk = 0x65 ∧ x = op.x

variable {op : Opcode} {ins : Instruction}

/-! ## From the opcode to its digits -/

theorem hasFormat_decodeSystem (h : op.family = 0x0) : (decodeSystem op).HasFormat op := by
  unfold decodeSystem
  split
  · assumption
  · assumption
  · rename_i hcls hret
    exact ⟨h, hcls, hret, rfl⟩

theorem hasFormat_of_decodeArithmetic (hfamily : op.family = 0x8)
    (h : decodeArithmetic op.x op.y op.n = some ins) : ins.HasFormat op := by
  unfold decodeArithmetic at h
  split at h <;> cases h <;> simp [HasFormat, *]

theorem hasFormat_of_decodeKeyTest (hfamily : op.family = 0xE)
    (h : decodeKeyTest op.x op.kk = some ins) : ins.HasFormat op := by
  unfold decodeKeyTest at h
  split at h <;> cases h <;> simp [HasFormat, *]

theorem hasFormat_of_decodeTransfer (hfamily : op.family = 0xF)
    (h : decodeTransfer op.x op.kk = some ins) : ins.HasFormat op := by
  unfold decodeTransfer at h
  split at h <;> cases h <;> simp [HasFormat, *]

/-- A digit that is none of the others is the last one. -/
theorem eq_last_of_notMem {d : UInt8} (hd : d.toNat < 16)
    (h : d ∉ ([0x0, 0x1, 0x2, 0x3, 0x4, 0x5, 0x6, 0x7, 0x8, 0x9, 0xA, 0xB, 0xC, 0xD, 0xE] :
      List UInt8)) : d = 0xF := by
  simp only [List.mem_cons, List.not_mem_nil, or_false, not_or, ← UInt8.toNat_inj,
    UInt8.reduceToNat] at *
  omega

/-- An opcode has the digits of the instruction that it encodes. -/
theorem hasFormat_of_decode (h : decode op = some ins) : ins.HasFormat op := by
  unfold decode at h
  split at h
  -- four of the families are decoded further by their last digits
  case h_1 hfamily =>
    cases h
    exact hasFormat_decodeSystem hfamily
  case h_9 hfamily => exact hasFormat_of_decodeArithmetic hfamily h
  case h_15 hfamily => exact hasFormat_of_decodeKeyTest hfamily h
  case h_16 =>
    have hfamily : op.family = 0xF := eq_last_of_notMem op.family_lt (by simp_all)
    exact hasFormat_of_decodeTransfer hfamily h
  all_goals
    cases h
    simp [HasFormat, *]

/-! ## From the digits to the instruction -/

theorem family_eq_zero (h : op.word = 0x00E0 ∨ op.word = 0x00EE) : op.family = 0x0 := by
  obtain ⟨word⟩ := op
  rcases h with rfl | rfl <;> rfl

/-- An opcode with the digits of an instruction encodes it. -/
theorem decode_of_hasFormat (h : ins.HasFormat op) : decode op = some ins := by
  cases ins
  case cls =>
    have hword : op.word = 0x00E0 := h
    unfold decode
    rw [family_eq_zero (.inl hword)]
    simp [decodeSystem, hword]
  case ret =>
    have hword : op.word = 0x00EE := h
    unfold decode
    rw [family_eq_zero (.inr hword)]
    simp [decodeSystem, hword]
  case sys addr =>
    rcases h with ⟨hfamily, hcls, hret, rfl⟩
    unfold decode
    rw [hfamily]
    unfold decodeSystem
    split <;> simp_all
  all_goals
    simp only [HasFormat] at h
    simp [decode, decodeArithmetic, decodeKeyTest, decodeTransfer, h]

/-- An opcode encodes an instruction exactly if it has its digits. -/
theorem decode_eq_some_iff : decode op = some ins ↔ ins.HasFormat op :=
  ⟨hasFormat_of_decode, decode_of_hasFormat⟩

/-! ## Opcodes that encode nothing -/

theorem decodeArithmetic_eq_none_iff {x y n : UInt8} (hn : n.toNat < 16) :
    decodeArithmetic x y n = none ↔ 0x8 ≤ n ∧ n ≤ 0xD ∨ n = 0xF := by
  unfold decodeArithmetic
  split
  -- the last digit is none of those that select an operation
  case h_10 =>
    simp only [imp_false, ← UInt8.toNat_inj, UInt8.le_iff_toNat_le, UInt8.reduceToNat] at *
    simp only [true_iff]
    omega
  all_goals simp

theorem decodeKeyTest_eq_none_iff {x kk : UInt8} :
    decodeKeyTest x kk = none ↔ kk ≠ 0x9E ∧ kk ≠ 0xA1 := by
  unfold decodeKeyTest
  split <;> simp_all

theorem decodeTransfer_eq_none_iff {x kk : UInt8} :
    decodeTransfer x kk = none ↔
      kk ∉ ([0x07, 0x0A, 0x15, 0x18, 0x1E, 0x29, 0x33, 0x55, 0x65] : List UInt8) := by
  unfold decodeTransfer
  split <;> simp_all

/-- The opcodes that encode nothing. -/
theorem decode_eq_none_iff : decode op = none ↔
    op.family = 0x8 ∧ (0x8 ≤ op.n ∧ op.n ≤ 0xD ∨ op.n = 0xF) ∨
    op.family = 0xE ∧ op.kk ≠ 0x9E ∧ op.kk ≠ 0xA1 ∨
    op.family = 0xF ∧
      op.kk ∉ ([0x07, 0x0A, 0x15, 0x18, 0x1E, 0x29, 0x33, 0x55, 0x65] : List UInt8) := by
  unfold decode
  split
  case h_9 hfamily => simp [hfamily, decodeArithmetic_eq_none_iff op.n_lt]
  case h_15 hfamily => simp [hfamily, decodeKeyTest_eq_none_iff]
  case h_16 =>
    have hfamily : op.family = 0xF := eq_last_of_notMem op.family_lt (by simp_all)
    rw [decodeTransfer_eq_none_iff]
    simp [hfamily]
  all_goals simp [*]

end Chip8VM.Instruction
