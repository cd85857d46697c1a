/-!
# Numerals

Positional numerals in any base from 2 to 16, written with the digits `0` to `9` and `A` to `F`.

- `digits b n` lists the digits of `n`, most significant first, and `value b` reads such a list.
- `value_digits`: the digits of a number denote that number.
- `read?_text`: a numeral is read back as the number it was written for, whatever the padding.
-/

namespace Chip8VM.Numeral

/-! ## Numbers and their digits -/

/-- The digits of `n` in base `b`, most significant first; zero has the one digit `0`. -/
def digits (b n : Nat) : List Nat :=
  if _h : 2 ≤ b ∧ b ≤ n then digits b (n / b) ++ [n % b] else [n]
termination_by n
decreasing_by exact Nat.div_lt_self (by omega) (by omega)

/-- The number that a list of digits denotes, most significant first. -/
def value (b : Nat) (ds : List Nat) : Nat :=
  ds.foldl (fun acc d => b * acc + d) 0

/-- A list of digits brought to at least `width` digits by zeros in front. -/
def padded (width : Nat) (ds : List Nat) : List Nat :=
  List.replicate (width - ds.length) 0 ++ ds

theorem value_append_singleton (b : Nat) (ds : List Nat) (d : Nat) :
    value b (ds ++ [d]) = b * value b ds + d := by
  simp [value]

theorem value_digits (b n : Nat) : value b (digits b n) = n := by
  fun_induction digits b n with
  | case1 n h ih => rw [value_append_singleton, ih, Nat.div_add_mod]
  | case2 n h => simp [value]

theorem value_zero_cons (b : Nat) (ds : List Nat) : value b (0 :: ds) = value b ds := by
  simp [value]

theorem value_padded (b width : Nat) (ds : List Nat) :
    value b (padded width ds) = value b ds := by
  unfold padded
  induction width - ds.length with
  | zero => rfl
  | succ k ih => rw [List.replicate_succ, List.cons_append, value_zero_cons, ih]

theorem lt_of_mem_digits {b n d : Nat} (hb : 2 ≤ b) (hd : d ∈ digits b n) : d < b := by
  fun_induction digits b n with
  | case1 n h ih =>
    rcases List.mem_append.1 hd with hd | hd
    · exact ih hd
    · rw [List.mem_singleton.1 hd]
      exact Nat.mod_lt n (by omega)
  | case2 n h =>
    rw [List.mem_singleton.1 hd]
    omega

theorem lt_of_mem_padded {b width d : Nat} {ds : List Nat} (hb : 2 ≤ b)
    (hds : ∀ e ∈ ds, e < b) (hd : d ∈ padded width ds) : d < b := by
  rcases List.mem_append.1 hd with hd | hd
  · rw [List.eq_of_mem_replicate hd]
    omega
  · exact hds d hd

theorem digits_ne_nil (b n : Nat) : digits b n ≠ [] := by
  fun_induction digits b n <;> simp

theorem padded_ne_nil {width : Nat} {ds : List Nat} (h : ds ≠ []) : padded width ds ≠ [] := by
  simp [padded, h]

theorem length_padded (width : Nat) (ds : List Nat) :
    (padded width ds).length = max width ds.length := by
  simp only [padded, List.length_append, List.length_replicate]
  omega

/-! ## Digits and their characters -/

/-- The characters of the digits, in order of value. -/
def digitChars : List Char :=
  ['0', '1', '2', '3', '4', '5', '6', '7', '8', '9', 'A', 'B', 'C', 'D', 'E', 'F']

/-- The character of a digit below sixteen. -/
def digitChar (d : Nat) : Char :=
  digitChars.getD d '0'

/-- The value of a character as a digit of base `b`. -/
def digit? (b : Nat) (c : Char) : Option Nat :=
  (digitChars.idxOf? c).filter (· < b)

theorem digit?_digitChar {b d : Nat} (hb : b ≤ 16) (hd : d < b) :
    digit? b (digitChar d) = some d := by
  have key : ∀ e : Fin 16, digitChars.idxOf? (digitChar e) = some e.val := by decide
  simp [digit?, key ⟨d, by omega⟩, hd]

/-! ## Writing and reading -/

/-- The numeral of `n` in base `b`, of at least `width` digits. -/
def text (b width n : Nat) : List Char :=
  (padded width (digits b n)).map digitChar

/-- Reads a numeral of one or more digits of base `b`. -/
def read? (b : Nat) (cs : List Char) : Option Nat :=
  if cs.isEmpty then none else (cs.mapM (digit? b)).map (value b)

theorem mapM_digit?_map_digitChar {b : Nat} {ds : List Nat} (hb : b ≤ 16)
    (hds : ∀ d ∈ ds, d < b) : (ds.map digitChar).mapM (digit? b) = some ds := by
  induction ds with
  | nil => rfl
  | cons d ds ih =>
    have hd := digit?_digitChar hb (hds d (by simp))
    have hrest := ih fun e he => hds e (by simp [he])
    simp [hd, hrest]

theorem text_ne_nil (b width n : Nat) : text b width n ≠ [] := by
  simpa [text] using padded_ne_nil (digits_ne_nil b n)

theorem length_text (b width n : Nat) :
    (text b width n).length = max width (digits b n).length := by
  rw [text, List.length_map, length_padded]

theorem exists_of_mem_text {b width n : Nat} {c : Char} (hb : 2 ≤ b) (hc : c ∈ text b width n) :
    ∃ d < b, c = digitChar d := by
  rcases List.mem_map.1 hc with ⟨d, hd, rfl⟩
  exact ⟨d, lt_of_mem_padded hb (fun e he => lt_of_mem_digits hb he) hd, rfl⟩

/-- Writing a number and reading it back gives the number, in every base and at every width. -/
theorem read?_text {b : Nat} (hb : 2 ≤ b) (hb' : b ≤ 16) (width n : Nat) :
    read? b (text b width n) = some n := by
  have hlt : ∀ d ∈ padded width (digits b n), d < b := fun d hd =>
    lt_of_mem_padded hb (fun e he => lt_of_mem_digits hb he) hd
  have hempty : (text b width n).isEmpty = false := by
    simpa using text_ne_nil b width n
  rw [read?, hempty]
  simp only [Bool.false_eq_true, if_false, text]
  rw [mapM_digit?_map_digitChar hb' hlt, Option.map_some, value_padded, value_digits]

end Chip8VM.Numeral
