import Chip8VM.Machine.Basic
import Chip8VM.Journal
import Chip8VM.Program.Delivery

/-!
# Loading programs

A program is copied to memory as a whole or not at all: an image that cannot be read, is empty or
does not fit leaves the machine as it was.
-/

namespace Chip8VM

/-- Why a program was not loaded. -/
inductive LoadError where
  /-- There is nothing to load. -/
  | empty
  /-- The image of `size` bytes does not fit in memory. -/
  | tooLarge (size : Nat)
  /-- The image cannot be read. -/
  | unreadable (message : String)
deriving DecidableEq, Repr

/-- The text of a loading error. -/
def LoadError.message : LoadError → String
  | .empty => "program image is empty"
  | .tooLarge size =>
    "program image is " ++ toString size ++ " bytes but at most "
      ++ toString Memory.programCapacity ++ " fit in memory"
  | .unreadable message => "unable to read program image: " ++ message

/-- The text for a program that is too large, with the bound as a numeral. -/
theorem LoadError.message_tooLarge (size : Nat) : (LoadError.tooLarge size).message =
    "program image is " ++ toString size ++ " bytes but at most 3584 fit in memory" := by
  have hbound : " bytes but at most " ++ (toString Memory.programCapacity ++ " fit in memory") =
      " bytes but at most 3584 fit in memory" := by decide +kernel
  show "program image is " ++ toString size ++ " bytes but at most "
    ++ toString Memory.programCapacity ++ " fit in memory" = _
  rw [String.append_assoc, String.append_assoc, hbound]

namespace Machine

/-- Copies a program to memory. -/
def load (m : Machine) (image : List UInt8) : Except LoadError (Machine × List Event) :=
  if image.isEmpty then .error .empty
  else if Memory.programCapacity < image.length then .error (.tooLarge image.length)
  else .ok ({ m with memory := m.memory.install image.toArray }, [.programLoaded image.length])

/-- Reads a program to its end and copies it to memory. -/
def loadFrom (m : Machine) (reader : List Delivery) : Except LoadError (Machine × List Event) :=
  match Delivery.readAll reader with
  | .ok image => m.load image
  | .error message => .error (.unreadable message)

end Machine

end Chip8VM
