import Chip8VM.CommandLine.Options
import Chip8VM.Proofs.Letters

/-!
# Spellings

How the values of settings are written: numbers with decimal digits, perhaps after a plus sign, and
levels by their names in upper or lower case. The readers of values accept exactly these spellings.

* `hzOf?_eq_some_iff`, `scaleOf?_eq_some_iff`, `seedOf?_eq_some_iff`, `ofName?_eq_some_iff`: the
  values that the readers find.
-/

namespace Chip8VM

/-! ## Numbers -/

namespace CommandLine

/-- The number that decimal digits stand for. -/
def decimalValue (digits : List Char) : Nat :=
  digits.foldl (fun n c => 10 * n + (c.toNat - '0'.toNat)) 0

/-- A text spells a number: decimal digits, at least one, perhaps after a plus sign. -/
def SpellsNumber (text : String) (n : Nat) : Prop :=
  ∃ digits : List Char, digits ≠ [] ∧ (∀ c ∈ digits, c.isDigit = true) ∧
    (text.toList = digits ∨ text.toList = '+' :: digits) ∧ decimalValue digits = n

theorem digit?_ten (c : Char) :
    Numeral.digit? 10 c = if c.isDigit then some (c.toNat - '0'.toNat) else none := by
  by_cases h : c.isDigit = true
  · -- one of ten characters
    have hrange := (isDigit_iff c).1 h
    have hchars : ∀ d : Fin 10, Numeral.digitChar d.val = Char.ofNat (48 + d.val) := by decide
    have hc : Numeral.digitChar (c.toNat - 48) = c := by
      rw [hchars ⟨c.toNat - 48, by omega⟩]
      show Char.ofNat (48 + (c.toNat - 48)) = c
      rw [Nat.add_sub_cancel' hrange.1, Char.ofNat_toNat]
    have hdigit := Numeral.digit?_digitChar (b := 10) (by omega) (show c.toNat - 48 < 10 by omega)
    rw [hc] at hdigit
    rw [if_pos h, hdigit]
    rfl
  · rw [if_neg h]
    cases hdigit : Numeral.digit? 10 c with
    | none => rfl
    | some d =>
      unfold Numeral.digit? at hdigit
      rcases Option.filter_eq_some_iff.1 hdigit with ⟨hindex, hd⟩
      rcases List.idxOf?_eq_some_iff.1 hindex with ⟨hlt, hget, -⟩
      have hdigits : ∀ e : Fin 10, (Numeral.digitChar e.val).isDigit = true := by decide
      have hc : Numeral.digitChar d = c := by
        rw [← hget]
        simp [Numeral.digitChar, List.getD_eq_getElem?_getD, hlt]
      exact absurd (hc ▸ hdigits ⟨d, by simpa using hd⟩) h

theorem mapM_digit?_ten (cs : List Char) : cs.mapM (Numeral.digit? 10) =
    if cs.all Char.isDigit then some (cs.map fun c => c.toNat - '0'.toNat) else none := by
  induction cs with
  | nil => rfl
  | cons c cs ih =>
    rw [List.mapM_cons, digit?_ten, ih, List.all_cons]
    cases c.isDigit <;> cases cs.all Char.isDigit <;> rfl

theorem read?_ten_eq_some_iff {cs : List Char} {n : Nat} :
    Numeral.read? 10 cs = some n ↔
      cs ≠ [] ∧ (∀ c ∈ cs, c.isDigit = true) ∧ decimalValue cs = n := by
  have hvalue : Numeral.value 10 (cs.map fun c => c.toNat - '0'.toNat) = decimalValue cs := by
    simp [Numeral.value, decimalValue, List.foldl_map]
  unfold Numeral.read?
  rw [mapM_digit?_ten, ← List.all_eq_true]
  cases cs with
  | nil => simp
  | cons c cs =>
    rw [← hvalue]
    cases (c :: cs).all Char.isDigit <;> simp

/-- A text without the plus sign that it may begin with. -/
def unsigned : List Char → List Char
  | '+' :: rest => rest
  | cs => cs

theorem spellsNumber_iff {text : String} {n : Nat} :
    SpellsNumber text n ↔ Numeral.read? 10 (unsigned text.toList) = some n := by
  have hplus : '+'.isDigit = false := by decide
  rw [read?_ten_eq_some_iff]
  unfold SpellsNumber
  constructor
  · rintro ⟨digits, hne, hdigits, htext | htext, hvalue⟩
    · -- a digit is no plus sign
      have hunsigned : unsigned digits = digits := by
        unfold unsigned
        split
        · exact absurd (hdigits '+' (by simp)) (by simp [hplus])
        · rfl
      rw [htext, hunsigned]
      exact ⟨hne, hdigits, hvalue⟩
    · rw [htext]
      exact ⟨hne, hdigits, hvalue⟩
  · rintro ⟨hne, hdigits, hvalue⟩
    refine ⟨_, hne, hdigits, ?_, hvalue⟩
    unfold unsigned
    split
    · exact .inr ‹_›
    · exact .inl rfl

theorem numberIn?_eq_some_iff {low high : Nat} {text : String} {n : Nat} :
    numberIn? low high text = some n ↔ SpellsNumber text n ∧ low ≤ n ∧ n ≤ high := by
  have hread : numberIn? low high text = (Numeral.read? 10 (unsigned text.toList)).bind fun n =>
      if low ≤ n ∧ n ≤ high then some n else none := rfl
  rw [hread, spellsNumber_iff, Option.bind_eq_some_iff]
  constructor
  · rintro ⟨m, hm, hbounds⟩
    split at hbounds
    · cases hbounds
      exact ⟨hm, ‹_›⟩
    · cases hbounds
  · rintro ⟨hn, hbounds⟩
    exact ⟨n, hn, if_pos hbounds⟩

theorem number32_eq_some_iff {low high : Nat} (hhigh : high ≤ 4294967295) {text : String}
    {value : UInt32} : (numberIn? low high text).map Nat.toUInt32 = some value ↔
      SpellsNumber text value.toNat ∧ low ≤ value.toNat ∧ value.toNat ≤ high := by
  simp only [Option.map_eq_some_iff, numberIn?_eq_some_iff]
  constructor
  · rintro ⟨n, ⟨hspells, hbounds⟩, rfl⟩
    have hn : n.toUInt32.toNat = n := by
      rw [Nat.toUInt32_eq, UInt32.toNat_ofNat']
      omega
    rw [hn]
    exact ⟨hspells, hbounds⟩
  · intro h
    exact ⟨value.toNat, h, by simp⟩

theorem hzOf?_eq_some_iff {text : String} {hz : UInt32} :
    hzOf? text = some hz ↔ SpellsNumber text hz.toNat ∧ 1 ≤ hz.toNat ∧ hz.toNat ≤ 4294967295 :=
  number32_eq_some_iff (Nat.le_refl _)

theorem scaleOf?_eq_some_iff {text : String} {scale : UInt32} :
    scaleOf? text = some scale ↔
      SpellsNumber text scale.toNat ∧ 1 ≤ scale.toNat ∧ scale.toNat ≤ 40 :=
  number32_eq_some_iff (by omega)

/-- Every number that is spelled is a seed if it has 64 bits. -/
theorem seedOf?_eq_some_iff {text : String} {seed : UInt64} :
    seedOf? text = some seed ↔ SpellsNumber text seed.toNat := by
  unfold seedOf?
  simp only [Option.map_eq_some_iff, numberIn?_eq_some_iff]
  constructor
  · rintro ⟨n, ⟨hspells, -, hhigh⟩, rfl⟩
    have hn : n.toUInt64.toNat = n := by
      rw [Nat.toUInt64_eq, UInt64.toNat_ofNat']
      omega
    rw [hn]
    exact hspells
  · intro h
    have hlt := seed.toNat_lt
    exact ⟨seed.toNat, ⟨h, Nat.zero_le _, by omega⟩, by simp⟩

/-! ## Levels -/

/-- A text spells a level: its name, in any case. -/
def SpellsLevel (text : String) (level : Level) : Prop :=
  text.toList.map Char.toLower = level.name.toList.map Char.toLower

theorem ofName?_eq_some_iff {text : String} {level : Level} :
    Level.ofName? text = some level ↔ SpellsLevel text level := by
  have hupper : level.name.toList.all Char.isUpper = true := by
    cases level <;> decide
  unfold SpellsLevel Level.ofName?
  rw [← map_toUpper_eq_iff (List.all_eq_true.1 hupper)]
  constructor
  · intro h
    have hname := List.find?_some h
    exact (eq_of_beq hname).symm
  · intro h
    rw [h]
    cases level <;> decide

end CommandLine

end Chip8VM
