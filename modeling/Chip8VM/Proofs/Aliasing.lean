import Chip8VM.Proofs.Encodings

/-!
# Arithmetic with aliases

What the words that compute with registers do if the two registers they name are the same, or if one
of them is the flag register. Both operands are read before anything is written, and the flag is
written before the result: so results are always those of the old values, and only where the result
goes to the flag register is the flag lost.

* `Computes`: a word sets one register to a number reduced to a byte, and the flag register to a
  flag, and does nothing else.
* `computes_of_setV`, `computes_of_setFlagged`: how instructions come to do so.
* `arithmetic_with_aliases`: the ten words, with the numbers they compute.
-/

namespace Chip8VM.Console

open Machine (Register flag)

variable {ρ : Type} [WordSource ρ]

/-- The word of an operation on two registers, which its last digit selects. -/
def arithmeticWord (x y : Register) (n : UInt8) : Opcode :=
  ⟨Instruction.wordOfDigits 0x8 x.val.toUInt8 y.val.toUInt8 n⟩

/-- The word that adds a byte to a register. -/
def addByteWord (x : Register) (kk : UInt8) : Opcode :=
  ⟨Instruction.wordOfByte 0x7 x.val.toUInt8 kk⟩

/-- A word sets `Vx` to a number reduced to a byte and, if it has one, the flag register to its
flag; where `Vx` is the flag register the number wins and the flag is lost. It changes nothing else
and tells nothing. -/
def Computes (c : Console ρ) (pad : Keypad) (op : Opcode) (x : Register) (result : Int)
    (flag? : Option Nat) : Prop :=
  ∃ ins d, Instruction.decode op = some ins ∧ c.execute pad ins = .ok (d, []) ∧
    d = { c with machine := { c.machine with v := d.machine.v } } ∧
    ((d.machine.getV x).toNat : Int) = result % 256 ∧
    (∀ f, flag? = some f → x ≠ flag → (d.machine.getV flag).toNat = f) ∧
    ∀ r, r ≠ x → (r = flag → flag? = none) → d.machine.getV r = c.machine.getV r

variable {c : Console ρ} {pad : Keypad} {op : Opcode} {ins : Instruction} {x y : Register}
  {value : UInt8} {result : Int}

/-! ## Words that compute -/

theorem decode_of_family_eq (h : op.family = 0x8) :
    Instruction.decode op = Instruction.decodeArithmetic op.x op.y op.n := by
  simp [Instruction.decode, h]

theorem decode_arithmeticWord {n : UInt8} (hn : n.toNat < 16) :
    Instruction.decode (arithmeticWord x y n) =
      Instruction.decodeArithmetic x.val.toUInt8 y.val.toUInt8 n := by
  have hxlt := Machine.toNat_register_lt x
  have hylt := Machine.toNat_register_lt y
  have hword : (arithmeticWord x y n).word =
      Instruction.wordOfDigits 0x8 x.val.toUInt8 y.val.toUInt8 n := rfl
  rcases Instruction.fields_wordOfDigits (by decide) hxlt hylt hn hword with
    ⟨hfamily, hlast, hx, hy⟩
  rw [decode_of_family_eq hfamily, hlast, ← hx, ← hy]

theorem decode_addByteWord (x : Register) (kk : UInt8) :
    Instruction.decode (addByteWord x kk) = some (.addByte x.val.toUInt8 kk) :=
  Instruction.decode_of_hasFormat
    (Instruction.fields_wordOfByte (by decide) (Machine.toNat_register_lt x) rfl)

theorem computes_of_setV (hdecode : Instruction.decode op = some ins)
    (hexec : c.execute pad ins = .ok (c.become (c.machine.setV x value)))
    (hvalue : (value.toNat : Int) = result % 256) : Computes c pad op x result none := by
  refine ⟨ins, _, hdecode, hexec, rfl, ?_, ?_, ?_⟩
  · show (((c.machine.setV x value).getV x).toNat : Int) = _
    rw [Machine.getV_setV, if_pos rfl]
    exact hvalue
  · intro f hf
    cases hf
  · intro r hr _
    show (c.machine.setV x value).getV r = _
    rw [Machine.getV_setV, if_neg (Ne.symm hr)]

theorem computes_of_setFlagged {flagValue : UInt8} {f : Nat}
    (hdecode : Instruction.decode op = some ins)
    (hexec : c.execute pad ins = .ok (c.become (c.machine.setFlagged x value flagValue)))
    (hvalue : (value.toNat : Int) = result % 256) (hflag : flagValue.toNat = f) :
    Computes c pad op x result (some f) := by
  refine ⟨ins, _, hdecode, hexec, rfl, ?_, ?_, ?_⟩
  · show (((c.machine.setFlagged x value flagValue).getV x).toNat : Int) = _
    rw [Machine.getV_setFlagged, if_pos rfl]
    exact hvalue
  · intro g hg hx
    cases hg
    show ((c.machine.setFlagged x value flagValue).getV flag).toNat = _
    rw [Machine.getV_setFlagged, if_neg hx, if_pos rfl]
    exact hflag
  · intro r hr hrflag
    have hne : flag ≠ r := fun he => nomatch hrflag he.symm
    show (c.machine.setFlagged x value flagValue).getV r = _
    rw [Machine.getV_setFlagged, if_neg (Ne.symm hr), if_neg hne]

/-! ## Operations with a flag -/

section Operations

variable (c : Console ρ) (pad : Keypad) (x y : Register)

theorem add_computes : Computes c pad (arithmeticWord x y 0x4) x
    ((c.machine.getV x).toNat + (c.machine.getV y).toNat)
    (some (if 255 < (c.machine.getV x).toNat + (c.machine.getV y).toNat then 1 else 0)) := by
  apply computes_of_setFlagged (decode_arithmeticWord (by decide))
  · simp only [execute, Machine.register_toUInt8, Machine.addRegister_eq]
    rfl
  · rw [UInt8.toNat_add]
    omega
  · exact Machine.toNat_flagOf _

theorem subtract_computes : Computes c pad (arithmeticWord x y 0x5) x
    ((c.machine.getV x).toNat - (c.machine.getV y).toNat)
    (some (if (c.machine.getV y).toNat < (c.machine.getV x).toNat then 1 else 0)) := by
  apply computes_of_setFlagged (decode_arithmeticWord (by decide))
  · simp only [execute, Machine.register_toUInt8]
    rfl
  · have hy := (c.machine.getV y).toNat_lt
    rw [UInt8.toNat_sub]
    omega
  · exact Machine.toNat_flagOf _

theorem subtractFrom_computes : Computes c pad (arithmeticWord x y 0x7) x
    ((c.machine.getV y).toNat - (c.machine.getV x).toNat)
    (some (if (c.machine.getV x).toNat < (c.machine.getV y).toNat then 1 else 0)) := by
  apply computes_of_setFlagged (decode_arithmeticWord (by decide))
  · simp only [execute, Machine.register_toUInt8]
    rfl
  · have hx := (c.machine.getV x).toNat_lt
    rw [UInt8.toNat_sub]
    omega
  · exact Machine.toNat_flagOf _

theorem halve_computes : Computes c pad (arithmeticWord x y 0x6) x
    ((c.machine.getV x).toNat / 2) (some ((c.machine.getV x).toNat % 2)) := by
  apply computes_of_setFlagged (decode_arithmeticWord (by decide))
  · simp only [execute, Machine.register_toUInt8]
    rfl
  · have hx := (c.machine.getV x).toNat_lt
    rw [UInt8.toNat_div]
    simp only [UInt8.reduceToNat]
    omega
  · rw [UInt8.toNat_mod]
    rfl

theorem double_computes : Computes c pad (arithmeticWord x y 0xE) x
    (2 * (c.machine.getV x).toNat) (some ((c.machine.getV x).toNat / 128)) := by
  apply computes_of_setFlagged (decode_arithmeticWord (by decide))
  · simp only [execute, Machine.register_toUInt8]
    rfl
  · rw [UInt8.toNat_mul]
    simp only [UInt8.reduceToNat]
    omega
  · rw [UInt8.toNat_div]
    rfl

/-! ## Operations without a flag -/

/-- A byte is itself reduced to a byte. -/
theorem toNat_emod (value : UInt8) : (value.toNat : Int) = (value.toNat : Int) % 256 := by
  have hvalue := value.toNat_lt
  omega

theorem move_computes :
    Computes c pad (arithmeticWord x y 0x0) x (c.machine.getV y).toNat none := by
  apply computes_of_setV (decode_arithmeticWord (by decide))
  · simp only [execute, Machine.register_toUInt8]
    rfl
  · exact toNat_emod _

theorem or_computes : Computes c pad (arithmeticWord x y 0x1) x
    ((c.machine.getV x).toNat ||| (c.machine.getV y).toNat : Nat) none := by
  apply computes_of_setV (decode_arithmeticWord (by decide))
  · simp only [execute, Machine.register_toUInt8]
    rfl
  · rw [← UInt8.toNat_or]
    exact toNat_emod _

theorem and_computes : Computes c pad (arithmeticWord x y 0x2) x
    ((c.machine.getV x).toNat &&& (c.machine.getV y).toNat : Nat) none := by
  apply computes_of_setV (decode_arithmeticWord (by decide))
  · simp only [execute, Machine.register_toUInt8]
    rfl
  · rw [← UInt8.toNat_and]
    exact toNat_emod _

theorem xor_computes : Computes c pad (arithmeticWord x y 0x3) x
    ((c.machine.getV x).toNat ^^^ (c.machine.getV y).toNat : Nat) none := by
  apply computes_of_setV (decode_arithmeticWord (by decide))
  · simp only [execute, Machine.register_toUInt8]
    rfl
  · rw [← UInt8.toNat_xor]
    exact toNat_emod _

theorem addByte_computes (kk : UInt8) :
    Computes c pad (addByteWord x kk) x ((c.machine.getV x).toNat + kk.toNat) none := by
  apply computes_of_setV (decode_addByteWord x kk)
  · simp only [execute, Machine.register_toUInt8]
    rfl
  · rw [UInt8.toNat_add]
    omega

end Operations

/-! ## All of them -/

/-- What the words of arithmetic compute from the old values of two registers, be these the same
register or one of them the flag register. -/
theorem arithmetic_with_aliases (c : Console ρ) (pad : Keypad) (x y : Register) (kk : UInt8) :
    let a := (c.machine.getV x).toNat
    let b := (c.machine.getV y).toNat
    Computes c pad (arithmeticWord x y 0x4) x (a + b) (some (if 255 < a + b then 1 else 0)) ∧
    Computes c pad (arithmeticWord x y 0x5) x (a - b) (some (if b < a then 1 else 0)) ∧
    Computes c pad (arithmeticWord x y 0x7) x (b - a) (some (if a < b then 1 else 0)) ∧
    Computes c pad (arithmeticWord x y 0x6) x (a / 2) (some (a % 2)) ∧
    Computes c pad (arithmeticWord x y 0xE) x (2 * a) (some (a / 128)) ∧
    Computes c pad (arithmeticWord x y 0x0) x b none ∧
    Computes c pad (arithmeticWord x y 0x1) x (a ||| b : Nat) none ∧
    Computes c pad (arithmeticWord x y 0x2) x (a &&& b : Nat) none ∧
    Computes c pad (arithmeticWord x y 0x3) x (a ^^^ b : Nat) none ∧
    Computes c pad (addByteWord x kk) x (a + kk.toNat) none := by
  intro a b
  exact ⟨add_computes c pad x y, subtract_computes c pad x y, subtractFrom_computes c pad x y,
    halve_computes c pad x y, double_computes c pad x y, move_computes c pad x y,
    or_computes c pad x y, and_computes c pad x y, xor_computes c pad x y,
    addByte_computes c pad x kk⟩

end Chip8VM.Console
