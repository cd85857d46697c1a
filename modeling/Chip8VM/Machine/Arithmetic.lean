import Chip8VM.Machine.Basic

/-!
# Arithmetic of the machine

The instructions that compute with registers alone. Both operands are read before anything is
written; where there is a flag it is written first, so that the result wins in the flag register.
-/

namespace Chip8VM.Machine

/-- A truth value as a flag. -/
def flagOf (b : Bool) : UInt8 :=
  if b then 1 else 0

theorem toNat_flagOf (p : Prop) [Decidable p] : (flagOf p).toNat = if p then 1 else 0 := by
  by_cases hp : p <;> simp [flagOf, hp]

/-- Adds a byte to a register, without a flag. -/
def addByte (m : Machine) (x : Register) (kk : UInt8) : Machine :=
  m.setV x (m.getV x + kk)

/-- Adds one register to another in 16 bits; the flag is the carry out of the low eight. -/
def addRegister (m : Machine) (x y : Register) : Except Fault Machine := do
  let sum ← Arithmetic.add.toWord ((m.getV x).toNat + (m.getV y).toNat)
  return m.setFlagged x sum.toUInt8 (flagOf (0xFF < sum))

/-- Subtracts one register from another; the flag tells whether the minuend was greater. -/
def subtract (m : Machine) (x y : Register) : Machine :=
  m.setFlagged x (m.getV x - m.getV y) (flagOf (m.getV y < m.getV x))

/-- Subtracts a register from another and keeps the result in the first; the flag tells whether the
minuend was greater. -/
def subtractFrom (m : Machine) (x y : Register) : Machine :=
  m.setFlagged x (m.getV y - m.getV x) (flagOf (m.getV x < m.getV y))

/-- Halves a register; the flag is the bit that falls out. -/
def halve (m : Machine) (x : Register) : Machine :=
  m.setFlagged x (m.getV x / 2) (m.getV x % 2)

/-- Doubles a register; the flag is the bit that falls out. -/
def double (m : Machine) (x : Register) : Machine :=
  m.setFlagged x (2 * m.getV x) (m.getV x / 128)

/-! ## Sums of registers -/

/-- The sum of two registers always fits in 16 bits. -/
theorem addRegister_eq (m : Machine) (x y : Register) : m.addRegister x y =
    .ok (m.setFlagged x (m.getV x + m.getV y)
      (flagOf (255 < (m.getV x).toNat + (m.getV y).toNat))) := by
  have hx := (m.getV x).toNat_lt
  have hy := (m.getV y).toNat_lt
  have hsum : ((m.getV x).toNat + (m.getV y).toNat).toUInt16.toNat =
      (m.getV x).toNat + (m.getV y).toNat := by
    rw [Nat.toUInt16_eq, UInt16.toNat_ofNat']
    omega
  have hbyte : ((m.getV x).toNat + (m.getV y).toNat).toUInt16.toUInt8 =
      m.getV x + m.getV y := by
    apply UInt8.toNat_inj.1
    rw [UInt16.toNat_toUInt8, hsum, UInt8.toNat_add]
  have hflag : 0xFF < ((m.getV x).toNat + (m.getV y).toNat).toUInt16 ↔
      255 < (m.getV x).toNat + (m.getV y).toNat := by
    rw [UInt16.lt_iff_toNat_lt, hsum]
    rfl
  unfold addRegister
  rw [Arithmetic.toWord_of_lt _ (by omega)]
  show Except.ok _ = _
  rw [hbyte, decide_eq_decide.2 hflag]

end Chip8VM.Machine
