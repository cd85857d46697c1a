import Chip8VM.Journal
import Chip8VM.Machine.Basic

/-!
# Memory access of the machine

The instructions that set the index register or move bytes between registers and memory at the
place it points at. Stores that fall on the font are dropped byte by byte and told.
-/

namespace Chip8VM

/-- The events of storing bytes at successive addresses: one for each that falls on the font. -/
def Event.dropped (addr : UInt16) : List UInt8 → List Event
  | [] => []
  | value :: rest =>
    if (Place.ofAddress addr).isFont then
      .writeDropped value (Place.ofAddress addr) :: dropped (addr + 1) rest
    else dropped (addr + 1) rest

namespace Machine

/-! ## The index register -/

/-- Points the index register at an address. -/
def setIndex (m : Machine) (addr : UInt16) : Machine :=
  { m with i := addr }

/-- Moves the index register on by a register. -/
def addIndex (m : Machine) (x : Register) : Machine :=
  { m with i := m.i + (m.getV x).toUInt16 }

/-- Points the index register at the glyph of a digit. -/
def pointAtGlyph (m : Machine) (x : Register) : Except Fault Machine := do
  let offset ← Arithmetic.multiply.toWord ((m.getV x).toNat * Font.glyphSize)
  let i ← Arithmetic.add.toWord (Font.start + offset.toNat)
  return { m with i }

/-- The glyph of any byte lies within 16 bits, even if there is no such digit. -/
theorem pointAtGlyph_eq (m : Machine) (x : Register) : m.pointAtGlyph x =
    .ok { m with i := (Font.start + Font.glyphSize * (m.getV x).toNat).toUInt16 } := by
  have hx := (m.getV x).toNat_lt
  have hoffset : ((m.getV x).toNat * Font.glyphSize).toUInt16.toNat =
      Font.glyphSize * (m.getV x).toNat := by
    rw [Nat.toUInt16_eq, UInt16.toNat_ofNat']
    simp only [Font.glyphSize]
    omega
  unfold pointAtGlyph
  rw [Arithmetic.toWord_of_lt _ (by simp only [Font.glyphSize]; omega)]
  show (Arithmetic.add.toWord _ >>= _) = _
  rw [hoffset, Arithmetic.toWord_of_lt _ (by simp only [Font.start, Font.glyphSize]; omega)]
  rfl

/-! ## Bytes -/

/-- Stores bytes at successive addresses. -/
def store (m : Machine) (addr : UInt16) (values : List UInt8) : Machine × List Event :=
  ({ m with memory := m.memory.storeAll addr values }, Event.dropped addr values)

/-- The three decimal digits of a byte. -/
def decimalDigits (value : UInt8) : List UInt8 :=
  [value / 100, value / 10 % 10, value % 10]

/-- Stores the decimal digits of a register. -/
def storeDecimal (m : Machine) (x : Register) : Machine × List Event :=
  m.store m.i (decimalDigits (m.getV x))

/-- Stores the registers from the first to a given one. -/
def storeRegisters (m : Machine) (last : Register) : Machine × List Event :=
  m.store m.i (m.v.toList.take (last.val + 1))

/-- Loads the registers from the first to a given one. -/
def loadRegisters (m : Machine) (last : Register) : Machine :=
  { m with v := .ofFn fun r : Register =>
      if r ≤ last then m.memory.read (m.i + r.val.toUInt16) else m.getV r }

end Machine

end Chip8VM
