import Chip8VM.Proofs.RegisterBlocks

/-!
# Decimal digits

The three decimal digits of a register are stored from the index register on. Each of them goes to
its own place, past the end of memory and past the last address if need be, and only those that
would land on the font are left out.

* `Machine.decimalDigits_spec`: the digits are digits, and make up the byte.
* `get_storeDecimal`, `get_storeDecimal_of_outside`: what is stored.
* `digits_land_outside_font`: the same for the instruction, and what is read back.
-/

namespace Chip8VM

namespace Machine

/-! ## Digits -/

/-- One of the three decimal digits of a byte, from the left. -/
def decimalDigit (value : UInt8) (k : Fin 3) : UInt8 :=
  (decimalDigits value).get k

/-- The digits of a byte are digits, and the byte is what they say. -/
theorem decimalDigits_spec (value : UInt8) :
    (∀ k, decimalDigit value k ≤ 9) ∧
      100 * (decimalDigit value 0).toNat + 10 * (decimalDigit value 1).toNat +
        (decimalDigit value 2).toNat = value.toNat := by
  have hvalue := value.toNat_lt
  have hhundreds : (decimalDigit value 0).toNat = value.toNat / 100 := UInt8.toNat_div _ _
  have htens : (decimalDigit value 1).toNat = value.toNat / 10 % 10 := by
    show (value / 10 % 10).toNat = _
    rw [UInt8.toNat_mod, UInt8.toNat_div]
    rfl
  have hones : (decimalDigit value 2).toNat = value.toNat % 10 := UInt8.toNat_mod _ _
  constructor
  · intro k
    simp only [UInt8.le_iff_toNat_le, UInt8.reduceToNat]
    match k with
    | 0 => omega
    | 1 => omega
    | 2 => omega
  · omega

/-! ## Storing -/

/-- A digit is stored at its place, unless the font is there. -/
theorem get_storeDecimal (m : Machine) (x : Register) (k : Fin 3) :
    (m.storeDecimal x).1.memory.bytes.get (Place.ofNat (m.i.toNat + k.val)) =
      if (Place.ofNat (m.i.toNat + k.val)).isFont then
        m.memory.bytes.get (Place.ofNat (m.i.toNat + k.val))
      else decimalDigit (m.getV x) k := by
  have hlength : (decimalDigits (m.getV x)).length ≤ 4096 := by
    show 3 ≤ 4096
    omega
  exact m.memory.get_storeAll hlength k.isLt

/-- No other place is stored at. -/
theorem get_storeDecimal_of_outside (m : Machine) (x : Register) {p : Place}
    (hp : ∀ k : Fin 3, p ≠ Place.ofNat (m.i.toNat + k.val)) :
    (m.storeDecimal x).1.memory.bytes.get p = m.memory.bytes.get p := by
  apply Memory.get_storeAll_of_outside
  intro k hk
  exact hp ⟨k, hk⟩

end Machine

/-! ## The instruction -/

namespace Console

variable {ρ : Type} [WordSource ρ]

theorem execute_storeBcd (c : Console ρ) (pad : Keypad) (x : Machine.Register) :
    c.execute pad (.storeBcd x.val.toUInt8) = .ok (c.becomeWith (c.machine.storeDecimal x)) := by
  simp only [execute, Machine.register_toUInt8]
  rfl

/-- Storing the decimal digits of a register, wherever the index register points. It changes nothing
but memory. There are three digits that make up the register; each is at its place afterwards, or
what was there before if the place is the font's, whatever becomes of the other two, and all other
places are left as they are. If none of the three places is the font's, loading the first three
registers from there gives the digits back. -/
theorem digits_land_outside_font (c : Console ρ) (pad pad' : Keypad) (x : Machine.Register) :
    ∃ d told, c.execute pad (.storeBcd x.val.toUInt8) = .ok (d, told) ∧
      d = { c with machine := { c.machine with memory := d.machine.memory } } ∧
      (∃ digit : Fin 3 → UInt8, (∀ k, digit k ≤ 9) ∧
        100 * (digit 0).toNat + 10 * (digit 1).toNat + (digit 2).toNat =
          (c.machine.getV x).toNat ∧
        ∀ k : Fin 3, d.machine.memory.bytes.get (Place.ofNat (c.machine.i.toNat + k.val)) =
          if 0x050 ≤ (Place.ofNat (c.machine.i.toNat + k.val)).val ∧
              (Place.ofNat (c.machine.i.toNat + k.val)).val ≤ 0x09F then
            c.machine.memory.bytes.get (Place.ofNat (c.machine.i.toNat + k.val))
          else digit k) ∧
      (∀ p, (∀ k : Fin 3, p ≠ Place.ofNat (c.machine.i.toNat + k.val)) →
        d.machine.memory.bytes.get p = c.machine.memory.bytes.get p) ∧
      ((∀ k : Fin 3, ¬ (0x050 ≤ (Place.ofNat (c.machine.i.toNat + k.val)).val ∧
          (Place.ofNat (c.machine.i.toNat + k.val)).val ≤ 0x09F)) →
        ∃ e, d.execute pad' (.loadRegisters 2) = .ok (e, []) ∧
          100 * (e.machine.getV 0).toNat + 10 * (e.machine.getV 1).toNat +
            (e.machine.getV 2).toNat = (c.machine.getV x).toNat) := by
  rcases Machine.decimalDigits_spec (c.machine.getV x) with ⟨hdigits, hsum⟩
  simp only [← Place.isFont_iff]
  refine ⟨_, _, c.execute_storeBcd pad x, rfl,
    ⟨Machine.decimalDigit (c.machine.getV x), hdigits, hsum, c.machine.get_storeDecimal x⟩, ?_, ?_⟩
  · intro p hp
    exact c.machine.get_storeDecimal_of_outside x hp
  · intro hfont
    refine ⟨_, execute_loadRegisters _ pad' 2, ?_⟩
    -- the place of each of the three registers is that of a digit
    have hloaded : ∀ k : Fin 3, ((c.machine.storeDecimal x).1.loadRegisters 2).getV
        ⟨k.val, by omega⟩ = Machine.decimalDigit (c.machine.getV x) k := by
      intro k
      have hle : (⟨k.val, by omega⟩ : Machine.Register) ≤ 2 := Nat.le_of_lt_succ k.isLt
      have hstored := c.machine.get_storeDecimal x k
      rw [if_neg (hfont k)] at hstored
      rw [Machine.getV_loadRegisters, if_pos hle]
      exact hstored
    have hhundreds := hloaded 0
    have htens := hloaded 1
    have hones := hloaded 2
    show 100 * (((c.machine.storeDecimal x).1.loadRegisters 2).getV 0).toNat +
      10 * (((c.machine.storeDecimal x).1.loadRegisters 2).getV 1).toNat +
      (((c.machine.storeDecimal x).1.loadRegisters 2).getV 2).toNat = _
    rw [← hsum, ← hhundreds, ← htens, ← hones]
    rfl

/-- A console that is about to store the digits of 207 from the last place of memory but one on. -/
def wrapping : Console CyclicWords where
  machine := { Machine.fresh with v := Vector.replicate 16 207, i := 0xFFFE }
  screen := .fresh
  random := ⟨#[], 0⟩

/-- The last digit goes to the first place of memory, and all three are read back from there. -/
theorem wrapping_reads_back : ∃ d told e,
    wrapping.execute .released (.storeBcd 4) = .ok (d, told) ∧
      d.execute .released (.loadRegisters 2) = .ok (e, []) ∧
      100 * (e.machine.getV 0).toNat + 10 * (e.machine.getV 1).toNat +
        (e.machine.getV 2).toNat = 207 := by
  rcases digits_land_outside_font wrapping .released .released 4 with
    ⟨d, told, hstore, -, -, -, hback⟩
  have hfont : ∀ k : Fin 3, ¬ (0x050 ≤ (Place.ofNat (wrapping.machine.i.toNat + k.val)).val ∧
      (Place.ofNat (wrapping.machine.i.toNat + k.val)).val ≤ 0x09F) := by
    decide
  rcases hback hfont with ⟨e, hload, hsum⟩
  exact ⟨d, told, e, hstore, hload, hsum⟩

end Console

end Chip8VM
