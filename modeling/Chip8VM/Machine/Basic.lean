import Chip8VM.Fault
import Chip8VM.Memory.Basic
import Chip8VM.Opcode

/-!
# The machine

The registers, timers, call stack and memory that programs work on. The operations here are those
that every step makes: counting the timers down, fetching, and finding the register that an operand
names.
-/

namespace Chip8VM

/-- What the next step does. -/
inductive Mode where
  /-- It fetches and executes an instruction. -/
  | running
  /-- It looks for a key to store in a register. -/
  | awaitingKey (register : UInt8)
deriving DecidableEq, Repr

/-- The state of the machine. -/
structure Machine where
  /-- The registers `V0` to `VF`; the last one receives the flags. -/
  v : Vector UInt8 16
  /-- The index register, an address. -/
  i : UInt16
  /-- The program counter, the address of the next instruction. -/
  pc : UInt16
  /-- The number of return addresses on the call stack. -/
  sp : UInt8
  /-- The delay timer. -/
  delay : UInt8
  /-- The sound timer. -/
  sound : UInt8
  /-- The slots of the call stack. -/
  stack : Vector UInt16 16
  /-- The memory. -/
  memory : Memory
  /-- The opcode fetched last. -/
  opcode : Opcode
  /-- What the next step does. -/
  mode : Mode
deriving DecidableEq, Repr

namespace Machine

/-- The machine before a program is loaded. -/
def fresh : Machine where
  v := Vector.replicate 16 0
  i := 0
  pc := Memory.programStart.toUInt16
  sp := 0
  delay := 0
  sound := 0
  stack := Vector.replicate 16 0
  memory := .fresh
  opcode := ⟨0⟩
  mode := .running

/-! ## What every step does -/

/-- Counts both timers down, as far as zero. -/
def tick (m : Machine) : Machine :=
  { m with
    delay := if m.delay = 0 then 0 else m.delay - 1
    sound := if m.sound = 0 then 0 else m.sound - 1 }

/-- The opcode at the program counter. -/
def peek (m : Machine) : Opcode :=
  .ofBytes (m.memory.read m.pc) (m.memory.read (m.pc + 1))

/-- Takes the opcode at the program counter and moves past it. -/
def fetch (m : Machine) : Machine :=
  { m with opcode := m.peek, pc := m.pc + 2 }

/-- The register whose wait for a key the next step continues. -/
def awaitedRegister (m : Machine) : Option UInt8 :=
  match m.mode with
  | .running => none
  | .awaitingKey register => some register

/-- Whether the sound timer is still counting. -/
def isSounding (m : Machine) : Bool :=
  0 < m.sound

/-! ## Registers and slots -/

/-- The number of a register. -/
abbrev Register := Fin 16

/-- The first register. -/
def first : Register :=
  ⟨0, Nat.succ_pos 15⟩

/-- The last register, which receives the flags. -/
def flag : Register :=
  Fin.last 15

/-- The register that an operand names. -/
def register (x : UInt8) : Except Fault Register :=
  if h : x.toNat < 16 then .ok ⟨x.toNat, h⟩ else .error (.noRegister x.toNat)

/-- The last of the registers from `V0` on that an operand names as a range; a range that is too
long fails at the first register that does not exist. -/
def rangeEnd (x : UInt8) : Except Fault Register :=
  if h : x.toNat < 16 then .ok ⟨x.toNat, h⟩ else .error (.noRegister 16)

/-- The number of a slot of the call stack. -/
abbrev Slot := Fin 16

/-- The slot of the call stack with a given number. -/
def stackSlot (index : Nat) : Except Fault Slot :=
  if h : index < 16 then .ok ⟨index, h⟩ else .error (.noStackSlot index)

/-- The value of a register. -/
def getV (m : Machine) (x : Register) : UInt8 :=
  m.v.get x

/-- Sets a register. -/
def setV (m : Machine) (x : Register) (value : UInt8) : Machine :=
  { m with v := m.v.set x value }

/-- Sets the flag and then a register, which keeps its value if it is the flag itself. -/
def setFlagged (m : Machine) (x : Register) (value flagValue : UInt8) : Machine :=
  (m.setV flag flagValue).setV x value

theorem register_of_lt {x : UInt8} (h : x.toNat < 16) : register x = .ok ⟨x.toNat, h⟩ :=
  dif_pos h

theorem rangeEnd_of_lt {x : UInt8} (h : x.toNat < 16) : rangeEnd x = .ok ⟨x.toNat, h⟩ :=
  dif_pos h

theorem stackSlot_of_lt {index : Nat} (h : index < 16) : stackSlot index = .ok ⟨index, h⟩ :=
  dif_pos h

theorem getV_setV (m : Machine) (x r : Register) (value : UInt8) :
    (m.setV x value).getV r = if x = r then value else m.getV r := by
  show (m.v.set x value)[r.val] = if x = r then value else m.v[r.val]
  simp [Vector.getElem_set, Fin.ext_iff]

theorem getV_setFlagged (m : Machine) (x r : Register) (value flagValue : UInt8) :
    (m.setFlagged x value flagValue).getV r =
      if x = r then value else if flag = r then flagValue else m.getV r := by
  rw [setFlagged, getV_setV, getV_setV]

end Machine

end Chip8VM
