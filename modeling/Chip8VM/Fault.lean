/-!
# Faults

What stops the machine for good: an operand or a stack pointer that names a place which does not
exist, or a result that does not fit where it may not wrap around. Programs fetched from memory
cannot cause one from a sound state; instructions and states built by hand can.

- `Arithmetic.toByte`, `Arithmetic.toWord`: exact results, checked against the width they go to.
-/

namespace Chip8VM

/-- An operation whose result may not fit where it is needed. -/
inductive Arithmetic where
  | add | subtract | multiply
deriving DecidableEq, Repr

/-- The name of an operation. -/
def Arithmetic.name : Arithmetic → String
  | .add => "add"
  | .subtract => "subtract"
  | .multiply => "multiply"

/-- A reason for the machine to stop. -/
inductive Fault where
  /-- An instruction reached for a register beyond the sixteen. -/
  | noRegister (index : Nat)
  /-- A call or a return reached for a slot beyond the sixteen of the call stack. -/
  | noStackSlot (index : Nat)
  /-- A result that must not wrap around went beyond the bits that there are for it. -/
  | overflow (operation : Arithmetic)
deriving DecidableEq, Repr

/-- The text of a fault. -/
def Fault.message : Fault → String
  | .noRegister index | .noStackSlot index =>
    "index out of bounds: the len is 16 but the index is " ++ toString index
  | .overflow operation => "attempt to " ++ operation.name ++ " with overflow"

namespace Arithmetic

/-- The exact result of an operation as a byte; it is a fault if there is no such byte. -/
def toByte (operation : Arithmetic) (result : Int) : Except Fault UInt8 :=
  if 0 ≤ result ∧ result < 0x100 then .ok result.toNat.toUInt8 else .error (.overflow operation)

/-- The exact result of an operation as a 16-bit word; it is a fault if there is no such word. -/
def toWord (operation : Arithmetic) (result : Nat) : Except Fault UInt16 :=
  if result < 0x10000 then .ok result.toUInt16 else .error (.overflow operation)

theorem toByte_of_mem (operation : Arithmetic) {result : Int} (h : 0 ≤ result ∧ result < 0x100) :
    operation.toByte result = .ok result.toNat.toUInt8 :=
  if_pos h

theorem toWord_of_lt (operation : Arithmetic) {result : Nat} (h : result < 0x10000) :
    operation.toWord result = .ok result.toUInt16 :=
  if_pos h

end Arithmetic

end Chip8VM
