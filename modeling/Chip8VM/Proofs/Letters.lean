/-!
# Letters

Characters by their code points: digits, capital letters, and what becomes of a character in upper
and in lower case. Only the 26 letters of the alphabet have another case.

* `toUpper_eq_iff`: characters that differ from a capital letter in case only.
* `toUpper_eq_iff_of_self`: characters whose upper case is a given one.
-/

namespace Chip8VM

theorem isDigit_iff (c : Char) : c.isDigit = true ↔ 48 ≤ c.toNat ∧ c.toNat ≤ 57 := by
  simp only [Char.isDigit, Bool.and_eq_true, decide_eq_true_eq, ge_iff_le, UInt32.le_iff_toNat_le]
  exact Iff.rfl

theorem isUpper_iff (c : Char) : c.isUpper = true ↔ 65 ≤ c.toNat ∧ c.toNat ≤ 90 := by
  have hletter : c.isUpper = decide (c.val ≥ 'A'.val ∧ c.val ≤ 'Z'.val) := rfl
  rw [hletter, decide_eq_true_iff, ge_iff_le, UInt32.le_iff_toNat_le, UInt32.le_iff_toNat_le]
  exact Iff.rfl

theorem toNat_toUpper (c : Char) :
    c.toUpper.toNat = if 97 ≤ c.toNat ∧ c.toNat ≤ 122 then c.toNat - 32 else c.toNat := by
  have hletter : ('a'.val ≤ c.val ∧ c.val ≤ 'z'.val) ↔ (97 ≤ c.toNat ∧ c.toNat ≤ 122) := by
    rw [UInt32.le_iff_toNat_le, UInt32.le_iff_toNat_le]
    exact Iff.rfl
  -- the distance of the two alphabets wraps around in 32 bits
  have hshift : ('A'.val - 'a'.val).toNat = 4294967264 := by decide
  unfold Char.toUpper
  by_cases h : 'a'.val ≤ c.val ∧ c.val ≤ 'z'.val
  · have hrange := hletter.1 h
    have hc : c.toNat = c.val.toNat := rfl
    rw [dif_pos h, if_pos hrange]
    show (c.val + ('A'.val - 'a'.val)).toNat = c.val.toNat - 32
    rw [UInt32.toNat_add, hshift]
    omega
  · rw [dif_neg h, if_neg (mt hletter.2 h)]

theorem toNat_toLower (c : Char) :
    c.toLower.toNat = if 65 ≤ c.toNat ∧ c.toNat ≤ 90 then c.toNat + 32 else c.toNat := by
  have hletter : (c.val ≥ 'A'.val ∧ c.val ≤ 'Z'.val) ↔ (65 ≤ c.toNat ∧ c.toNat ≤ 90) := by
    rw [ge_iff_le, UInt32.le_iff_toNat_le, UInt32.le_iff_toNat_le]
    exact Iff.rfl
  have hshift : ('a'.val - 'A'.val).toNat = 32 := by decide
  unfold Char.toLower
  by_cases h : c.val ≥ 'A'.val ∧ c.val ≤ 'Z'.val
  · have hrange := hletter.1 h
    have hc : c.toNat = c.val.toNat := rfl
    rw [dif_pos h, if_pos hrange]
    show (c.val + ('a'.val - 'A'.val)).toNat = c.val.toNat + 32
    rw [UInt32.toNat_add, hshift]
    omega
  · rw [dif_neg h, if_neg (mt hletter.2 h)]

/-- A character is an upper-case letter in some case if it is that letter in lower case. -/
theorem toUpper_eq_iff {c u : Char} (hu : u.isUpper = true) :
    c.toUpper = u ↔ c.toLower = u.toLower := by
  have hrange := (isUpper_iff u).1 hu
  rw [← Char.toNat_inj, ← Char.toNat_inj, toNat_toUpper, toNat_toLower, toNat_toLower,
    if_pos hrange]
  split <;> split <;> omega

theorem map_toUpper_eq_iff {cs us : List Char} (hus : ∀ u ∈ us, u.isUpper = true) :
    cs.map Char.toUpper = us ↔ cs.map Char.toLower = us.map Char.toLower := by
  induction cs generalizing us with
  | nil => cases us <;> simp
  | cons c cs ih =>
    cases us with
    | nil => simp
    | cons u us =>
      rcases List.forall_mem_cons.1 hus with ⟨hu, hrest⟩
      simp only [List.map_cons, List.cons.injEq, toUpper_eq_iff hu, ih hrest]

/-- A character that is its own upper case is the upper case of itself and of its lower case, and of
nothing else. -/
theorem toUpper_eq_iff_of_self {c u : Char} (hu : u.toUpper = u) :
    c.toUpper = u ↔ c = u ∨ c = u.toLower := by
  have hcode := congrArg Char.toNat hu
  rw [toNat_toUpper] at hcode
  rw [← Char.toNat_inj, ← Char.toNat_inj, ← Char.toNat_inj, toNat_toUpper, toNat_toLower]
  split at hcode <;> split <;> split <;> omega

end Chip8VM
