import Chip8VM.Proofs.Formats
import Chip8VM.Proofs.Operands

/-!
# Encodings

Encoding and decoding are inverse to each other. An instruction whose operands fit in an opcode is
read back from its encoding; a word that encodes an instruction is the encoding of that instruction,
but for digits that play no part, which the encoding has as zeros.

* `Opcode.canonical`: a word with the digits that play no part cleared; `Opcode.canonical_eq_iff`
  says which words it makes equal.
* `decode_encode`: instructions are read back.
* `encode_of_hasFormat`: the encoding of the instruction that a word encodes.
* `decode_inverts_encode`: both together, the words that encode nothing, and when two words decode
  alike.
-/

namespace Chip8VM

/-! ## Digits that play no part -/

namespace Opcode

variable {op op' : Opcode}

/-- The last digit plays no part. -/
def IgnoresN (op : Opcode) : Prop :=
  op.family = 0x5 ∨ op.family = 0x9

/-- The third digit plays no part. -/
def IgnoresY (op : Opcode) : Prop :=
  op.family = 0x8 ∧ (op.n = 0x6 ∨ op.n = 0xE)

instance (op : Opcode) : Decidable op.IgnoresN :=
  inferInstanceAs (Decidable (_ ∨ _))

instance (op : Opcode) : Decidable op.IgnoresY :=
  inferInstanceAs (Decidable (_ ∧ _))

/-- The word with the digit that plays no part set to zero. -/
def canonical (op : Opcode) : Opcode :=
  if op.IgnoresN then ⟨op.word - op.n.toUInt16⟩
  else if op.IgnoresY then ⟨op.word - 0x10 * op.y.toUInt16⟩
  else op

/-- Two words differ at most in digits that play no part. -/
structure Alike (op op' : Opcode) : Prop where
  family : op.family = op'.family
  x : op.x = op'.x
  y : op.y = op'.y ∨ op.IgnoresY
  n : op.n = op'.n ∨ op.IgnoresN

theorem not_ignoresY_of_ignoresN (h : op.IgnoresN) : ¬ op.IgnoresY := by
  rintro ⟨hfamily, -⟩
  rcases h with h | h
  · simp [hfamily] at h
  · simp [hfamily] at h

theorem toNat_clearN (op : Opcode) :
    (op.word - op.n.toUInt16).toNat = op.word.toNat - op.word.toNat % 16 := by
  have hle : op.n.toUInt16 ≤ op.word := by
    rw [UInt16.le_iff_toNat_le, UInt8.toNat_toUInt16, toNat_n]
    omega
  rw [UInt16.toNat_sub_of_le _ _ hle, UInt8.toNat_toUInt16, toNat_n]

theorem toNat_clearY (op : Opcode) :
    (op.word - 0x10 * op.y.toUInt16).toNat = op.word.toNat - 16 * (op.word.toNat / 16 % 16) := by
  have hy : (0x10 * op.y.toUInt16).toNat = 16 * (op.word.toNat / 16 % 16) := by
    rw [UInt16.toNat_mul, UInt8.toNat_toUInt16, toNat_y]
    simp only [UInt16.reduceToNat]
    omega
  have hle : 0x10 * op.y.toUInt16 ≤ op.word := by
    rw [UInt16.le_iff_toNat_le, hy]
    omega
  rw [UInt16.toNat_sub_of_le _ _ hle, hy]

theorem canonical_eq_self (hN : ¬ op.IgnoresN) (hY : ¬ op.IgnoresY) : op.canonical = op := by
  rw [canonical, if_neg hN, if_neg hY]

theorem canonical_eq_self_of_family (h : op.family ∉ ([0x5, 0x8, 0x9] : List UInt8)) :
    op.canonical = op := by
  apply canonical_eq_self
  · rintro (hfamily | hfamily)
    · simp [hfamily] at h
    · simp [hfamily] at h
  · rintro ⟨hfamily, -⟩
    simp [hfamily] at h

theorem canonical_digits (op : Opcode) :
    op.canonical.family = op.family ∧ op.canonical.x = op.x ∧
      op.canonical.y = (if op.IgnoresY then 0 else op.y) ∧
      op.canonical.n = (if op.IgnoresN then 0 else op.n) := by
  by_cases hN : op.IgnoresN
  · rw [canonical, if_pos hN, if_neg (not_ignoresY_of_ignoresN hN), if_pos hN]
    simp only [← UInt8.toNat_inj, toNat_family, toNat_x, toNat_y, toNat_n, toNat_clearN,
      UInt8.reduceToNat]
    omega
  · by_cases hY : op.IgnoresY
    · rw [canonical, if_neg hN, if_pos hY, if_pos hY, if_neg hN]
      simp only [← UInt8.toNat_inj, toNat_family, toNat_x, toNat_y, toNat_n, toNat_clearY,
        UInt8.reduceToNat]
      omega
    · rw [canonical_eq_self hN hY, if_neg hY, if_neg hN]
      exact ⟨rfl, rfl, rfl, rfl⟩

theorem ignoresN_iff (hfamily : op.family = op'.family) : op.IgnoresN ↔ op'.IgnoresN := by
  unfold IgnoresN
  rw [hfamily]

theorem ignoresY_iff (hfamily : op.family = op'.family) (hn : op.n = op'.n ∨ op.IgnoresN) :
    op.IgnoresY ↔ op'.IgnoresY := by
  rcases hn with hn | hN
  · unfold IgnoresY
    rw [hfamily, hn]
  · -- no family ignores both digits
    have hN' := (ignoresN_iff hfamily).1 hN
    exact iff_of_false (not_ignoresY_of_ignoresN hN) (not_ignoresY_of_ignoresN hN')

/-- Words have the same canonical word exactly if they differ at most in ignored digits. -/
theorem canonical_eq_iff : op.canonical = op'.canonical ↔ op.Alike op' := by
  rcases op.canonical_digits with ⟨hfamily, hx, hy, hn⟩
  rcases op'.canonical_digits with ⟨hfamily', hx', hy', hn'⟩
  constructor
  · intro h
    rw [h] at hfamily hx hy hn
    have hf : op.family = op'.family := hfamily.symm.trans hfamily'
    have hlast : op.n = op'.n ∨ op.IgnoresN := by
      by_cases hN : op.IgnoresN
      · exact .inr hN
      · rw [if_neg hN] at hn
        rw [if_neg (mt (ignoresN_iff hf).2 hN)] at hn'
        exact .inl (hn.symm.trans hn')
    refine ⟨hf, hx.symm.trans hx', ?_, hlast⟩
    by_cases hY : op.IgnoresY
    · exact .inr hY
    · rw [if_neg hY] at hy
      rw [if_neg (mt (ignoresY_iff hf hlast).2 hY)] at hy'
      exact .inl (hy.symm.trans hy')
  · intro h
    have hiffN := ignoresN_iff h.family
    have hiffY := ignoresY_iff h.family h.n
    apply ext_digits
    · rw [hfamily, hfamily', h.family]
    · rw [hx, hx', h.x]
    · by_cases hY : op.IgnoresY
      · rw [hy, hy', if_pos hY, if_pos (hiffY.1 hY)]
      · rw [hy, hy', if_neg hY, if_neg (mt hiffY.2 hY)]
        exact h.y.resolve_right hY
    · by_cases hN : op.IgnoresN
      · rw [hn, hn', if_pos hN, if_pos (hiffN.1 hN)]
      · rw [hn, hn', if_neg hN, if_neg (mt hiffN.2 hN)]
        exact h.n.resolve_right hN

end Opcode

namespace Instruction

variable {op op' : Opcode} {ins : Instruction}

/-! ## Words and their fields -/

section Words

variable {family addr : UInt16} {x y n kk : UInt8}

theorem toNat_wordOfAddr (hfamily : family.toNat < 16) (haddr : addr.toNat < 4096) :
    (wordOfAddr family addr).toNat = 4096 * family.toNat + addr.toNat := by
  simp only [wordOfAddr, UInt16.toNat_add, UInt16.toNat_mul, UInt16.reduceToNat]
  omega

theorem toNat_wordOfByte (hfamily : family.toNat < 16) (hx : x.toNat < 16) :
    (wordOfByte family x kk).toNat = 4096 * family.toNat + 256 * x.toNat + kk.toNat := by
  have hkk := kk.toNat_lt
  simp only [wordOfByte, UInt16.toNat_add, UInt16.toNat_mul, UInt16.reduceToNat,
    UInt8.toNat_toUInt16]
  omega

theorem toNat_wordOfDigits (hfamily : family.toNat < 16) (hx : x.toNat < 16)
    (hy : y.toNat < 16) (hn : n.toNat < 16) : (wordOfDigits family x y n).toNat =
      4096 * family.toNat + 256 * x.toNat + 16 * y.toNat + n.toNat := by
  simp only [wordOfDigits, UInt16.toNat_add, UInt16.toNat_mul, UInt16.reduceToNat,
    UInt8.toNat_toUInt16]
  omega

theorem fields_wordOfAddr (hfamily : family.toNat < 16) (haddr : addr.toNat < 4096)
    (hop : op.word = wordOfAddr family addr) : op.family = family.toUInt8 ∧ addr = op.addr := by
  have hword := toNat_wordOfAddr hfamily haddr
  rw [← hop] at hword
  rw [← UInt8.toNat_inj, ← UInt16.toNat_inj, Opcode.toNat_family, Opcode.toNat_addr,
    UInt16.toNat_toUInt8]
  omega

theorem fields_wordOfByte (hfamily : family.toNat < 16) (hx : x.toNat < 16)
    (hop : op.word = wordOfByte family x kk) :
    op.family = family.toUInt8 ∧ x = op.x ∧ kk = op.kk := by
  have hword : (wordOfByte family x kk).toNat = _ := toNat_wordOfByte hfamily hx
  have hkk := kk.toNat_lt
  rw [← hop] at hword
  simp only [← UInt8.toNat_inj, Opcode.toNat_family, Opcode.toNat_x, Opcode.toNat_kk,
    UInt16.toNat_toUInt8]
  omega

theorem fields_wordOfDigits (hfamily : family.toNat < 16) (hx : x.toNat < 16)
    (hy : y.toNat < 16) (hn : n.toNat < 16) (hop : op.word = wordOfDigits family x y n) :
    op.family = family.toUInt8 ∧ op.n = n ∧ x = op.x ∧ y = op.y := by
  have hword := toNat_wordOfDigits hfamily hx hy hn
  rw [← hop] at hword
  simp only [← UInt8.toNat_inj, Opcode.toNat_family, Opcode.toNat_x, Opcode.toNat_y,
    Opcode.toNat_n, UInt16.toNat_toUInt8]
  omega

end Words

theorem mk_wordOfAddr (op : Opcode) : (⟨wordOfAddr op.family.toUInt16 op.addr⟩ : Opcode) = op := by
  have hfamily : op.family.toUInt16.toNat < 16 := by simpa using op.family_lt
  have hword : wordOfAddr op.family.toUInt16 op.addr = op.word := by
    rw [← UInt16.toNat_inj, toNat_wordOfAddr hfamily op.addr_lt, UInt8.toNat_toUInt16,
      Opcode.toNat_family, Opcode.toNat_addr]
    omega
  rw [hword]

theorem mk_wordOfByte (op : Opcode) :
    (⟨wordOfByte op.family.toUInt16 op.x op.kk⟩ : Opcode) = op := by
  have hfamily : op.family.toUInt16.toNat < 16 := by simpa using op.family_lt
  have hword : wordOfByte op.family.toUInt16 op.x op.kk = op.word := by
    rw [← UInt16.toNat_inj, toNat_wordOfByte hfamily op.x_lt, UInt8.toNat_toUInt16,
      Opcode.toNat_family, Opcode.toNat_x, Opcode.toNat_kk]
    omega
  rw [hword]

theorem mk_wordOfDigits (op : Opcode) :
    (⟨wordOfDigits op.family.toUInt16 op.x op.y op.n⟩ : Opcode) = op := by
  have hfamily : op.family.toUInt16.toNat < 16 := by simpa using op.family_lt
  have hword : wordOfDigits op.family.toUInt16 op.x op.y op.n = op.word := by
    rw [← UInt16.toNat_inj, toNat_wordOfDigits hfamily op.x_lt op.y_lt op.n_lt,
      UInt8.toNat_toUInt16, Opcode.toNat_word_eq]
  rw [hword]

/-! ## From instructions to words -/

/-- An instruction has an opcode of its own: its operands fit, and it is not a call of a machine
routine whose word has another meaning. -/
structure Encodable (ins : Instruction) : Prop extends InRange ins where
  ne_cls : ins ≠ .sys 0x0E0
  ne_ret : ins ≠ .sys 0x0EE

/-- The encoding of an instruction has its digits. -/
theorem hasFormat_encode (h : ins.Encodable) : ins.HasFormat ins.encode := by
  have hregisters := h.registers
  have haddress := h.address
  generalize hop : ins.encode = op
  replace hop := congrArg Opcode.word hop.symm
  cases ins
  case cls | ret => exact hop
  case sys addr =>
    -- the words with a meaning of their own are excluded
    rcases fields_wordOfAddr (by decide) (haddress addr rfl) hop with ⟨hfamily, haddr⟩
    have hword : op.word = addr := by simpa [encode, wordOfAddr] using hop
    refine ⟨hfamily, ?_, ?_, haddr⟩
    · rw [hword]
      exact fun hcls => h.ne_cls (congrArg sys hcls)
    · rw [hword]
      exact fun hret => h.ne_ret (congrArg sys hret)
  case jump addr | call addr | loadIndex addr | jumpOffset addr =>
    exact fields_wordOfAddr (by decide) (haddress addr rfl) hop
  case skipEqByte x kk | skipNeByte x kk | loadByte x kk | addByte x kk | random x kk =>
    exact fields_wordOfByte (by decide) (hregisters x (by simp [registers])) hop
  case skipKeyDown x | skipKeyUp x | readDelay x | awaitKey x | setDelay x | setSound x |
      addIndex x | loadGlyph x | storeBcd x | storeRegisters x | loadRegisters x =>
    have hx : x.toNat < 16 := hregisters x (by simp [registers])
    rcases fields_wordOfByte (by decide) hx hop with ⟨hfamily, hx, hkk⟩
    exact ⟨hfamily, hkk.symm, hx⟩
  case move x y | or x y | and x y | xor x y | addReg x y | sub x y | subN x y =>
    have hx : x.toNat < 16 := hregisters x (by simp [registers])
    have hy : y.toNat < 16 := hregisters y (by simp [registers])
    exact fields_wordOfDigits (by decide) hx hy (by decide) hop
  case skipEqReg x y | skipNeReg x y =>
    have hx : x.toNat < 16 := hregisters x (by simp [registers])
    have hy : y.toNat < 16 := hregisters y (by simp [registers])
    rcases fields_wordOfDigits (by decide) hx hy (by decide) hop with ⟨hfamily, -, hxy⟩
    exact ⟨hfamily, hxy⟩
  case shiftRight x | shiftLeft x =>
    have hx : x.toNat < 16 := hregisters x (by simp [registers])
    rcases fields_wordOfDigits (by decide) hx (by decide) (by decide) hop with
      ⟨hfamily, hn, hx, -⟩
    exact ⟨hfamily, hn, hx⟩
  case draw x y n =>
    have hx : x.toNat < 16 := hregisters x (by simp [registers])
    have hy : y.toNat < 16 := hregisters y (by simp [registers])
    rcases fields_wordOfDigits (by decide) hx hy (h.height n rfl) hop with ⟨hfamily, hn, hx, hy⟩
    exact ⟨hfamily, hx, hy, hn.symm⟩

/-- An instruction is read back from its encoding. -/
theorem decode_encode (h : ins.Encodable) : decode ins.encode = some ins :=
  decode_of_hasFormat (hasFormat_encode h)

/-! ## From words to instructions -/

theorem encodable_of_hasFormat (h : ins.HasFormat op) : ins.Encodable := by
  have haddr : op.family = 0x0 → op.word = op.addr := by
    intro hfamily
    have hword := congrArg Opcode.word (mk_wordOfAddr op)
    rw [hfamily] at hword
    simpa [wordOfAddr] using hword.symm
  refine ⟨decode_inRange (decode_of_hasFormat h), ?_, ?_⟩
  · rintro rfl
    rcases h with ⟨hfamily, hcls, -, heq⟩
    exact hcls ((haddr hfamily).trans heq.symm)
  · rintro rfl
    rcases h with ⟨hfamily, -, hret, heq⟩
    exact hret ((haddr hfamily).trans heq.symm)

/-- The encoding of an instruction is any word with its digits, those that play no part cleared. -/
theorem encode_of_hasFormat (h : ins.HasFormat op) : ins.encode = op.canonical := by
  cases ins
  case cls | ret =>
    rcases op with ⟨word⟩
    cases h
    rfl
  case sys =>
    rcases h with ⟨hfamily, -, -, rfl⟩
    have hword := mk_wordOfAddr op
    rw [hfamily] at hword
    rw [Opcode.canonical_eq_self_of_family (by simp [hfamily])]
    exact hword
  case jump | call | loadIndex | jumpOffset =>
    rcases h with ⟨hfamily, rfl⟩
    have hword := mk_wordOfAddr op
    rw [hfamily] at hword
    rw [Opcode.canonical_eq_self_of_family (by simp [hfamily])]
    exact hword
  case skipEqByte | skipNeByte | loadByte | addByte | random =>
    rcases h with ⟨hfamily, rfl, rfl⟩
    have hword := mk_wordOfByte op
    rw [hfamily] at hword
    rw [Opcode.canonical_eq_self_of_family (by simp [hfamily])]
    exact hword
  case skipKeyDown | skipKeyUp | readDelay | awaitKey | setDelay | setSound | addIndex |
      loadGlyph | storeBcd | storeRegisters | loadRegisters =>
    rcases h with ⟨hfamily, hkk, rfl⟩
    have hword := mk_wordOfByte op
    rw [hfamily, hkk] at hword
    rw [Opcode.canonical_eq_self_of_family (by simp [hfamily])]
    exact hword
  case draw =>
    rcases h with ⟨hfamily, rfl, rfl, rfl⟩
    have hword := mk_wordOfDigits op
    rw [hfamily] at hword
    rw [Opcode.canonical_eq_self_of_family (by simp [hfamily])]
    exact hword
  case move | or | and | xor | addReg | sub | subN =>
    rcases h with ⟨hfamily, hn, rfl, rfl⟩
    have hword := mk_wordOfDigits op
    rw [hfamily, hn] at hword
    rw [Opcode.canonical_eq_self (by simp [Opcode.IgnoresN, hfamily])
      (by simp [Opcode.IgnoresY, hn])]
    exact hword
  -- these ignore a digit, which the canonical word has as zero
  case skipEqReg | skipNeReg =>
    rcases h with ⟨hfamily, rfl, rfl⟩
    have hN : op.IgnoresN := by simp [Opcode.IgnoresN, hfamily]
    rcases op.canonical_digits with ⟨hf, hx, hy, hn⟩
    have hword := mk_wordOfDigits op.canonical
    rw [hf, hfamily, hx, hy, hn, if_neg (Opcode.not_ignoresY_of_ignoresN hN), if_pos hN] at hword
    exact hword
  case shiftRight | shiftLeft =>
    rcases h with ⟨hfamily, hlast, rfl⟩
    have hY : op.IgnoresY := by simp [Opcode.IgnoresY, hfamily, hlast]
    have hN : ¬ op.IgnoresN := fun hN => Opcode.not_ignoresY_of_ignoresN hN hY
    rcases op.canonical_digits with ⟨hf, hx, hy, hn⟩
    have hword := mk_wordOfDigits op.canonical
    rw [hf, hfamily, hx, hy, hn, if_pos hY, if_neg hN, hlast] at hword
    exact hword

/-! ## Words that decode alike -/

/-- Clearing the digits that play no part does not change what a word encodes. -/
theorem decode_canonical (op : Opcode) : decode op.canonical = decode op := by
  rcases op.canonical_digits with ⟨hfamily, hx, hy, hn⟩
  by_cases hN : op.IgnoresN
  · rw [if_neg (Opcode.not_ignoresY_of_ignoresN hN)] at hy
    rcases hN with h | h
    · simp [decode, hfamily, hx, hy, h]
    · simp [decode, hfamily, hx, hy, h]
  · rw [if_neg hN] at hn
    by_cases hY : op.IgnoresY
    · obtain ⟨h8, h | h⟩ := hY
      · simp [decode, decodeArithmetic, hfamily, hx, hn, h8, h]
      · simp [decode, decodeArithmetic, hfamily, hx, hn, h8, h]
    · rw [Opcode.canonical_eq_self hN hY]

/-- Words that encode something decode alike exactly if they differ in ignored digits only. -/
theorem decode_eq_decode_iff :
    decode op = decode op' ↔ op.Alike op' ∨ decode op = none ∧ decode op' = none := by
  constructor
  · intro h
    cases hdecode : decode op with
    | none => exact .inr ⟨rfl, h ▸ hdecode⟩
    | some ins =>
      have hencode := encode_of_hasFormat (hasFormat_of_decode hdecode)
      have hencode' := encode_of_hasFormat (hasFormat_of_decode (h ▸ hdecode))
      exact .inl (Opcode.canonical_eq_iff.1 (hencode.symm.trans hencode'))
  · rintro (halike | ⟨hnone, hnone'⟩)
    · rw [← decode_canonical op, Opcode.canonical_eq_iff.2 halike, decode_canonical]
    · rw [hnone, hnone']

end Instruction

end Chip8VM
