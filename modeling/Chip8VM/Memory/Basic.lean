import Chip8VM.Memory.Font

/-!
# Memory

4096 bytes, of which the font's are read-only to programs. Addresses are 16-bit words of which only
the low twelve bits matter.

- `Memory.read`, `Memory.store` are what programs do; `Memory.put` writes without the guard.
- `read_put`, `read_install`: what a read sees after a write.
-/

namespace Chip8VM

/-- A place in memory. -/
abbrev Place := Fin 4096

/-- The place that an address names: the bits above the twelfth are ignored. -/
def Place.ofAddress (addr : UInt16) : Place :=
  Fin.ofNat 4096 addr.toNat

/-- The place that a number counts to; after the last place comes the first again. -/
def Place.ofNat (n : Nat) : Place :=
  Fin.ofNat 4096 n

/-- Whether a place belongs to the font. -/
def Place.isFont (p : Place) : Bool :=
  Font.start ≤ p.val && p.val < Font.start + 80

/-- The contents of memory. -/
structure Memory where
  /-- The bytes by place. -/
  bytes : Vector UInt8 4096
deriving DecidableEq, Repr

namespace Memory

/-- The number of bytes. -/
abbrev size : Nat := 4096

/-- The address at which programs are loaded and started. -/
abbrev programStart : Nat := 0x200

/-- The size of the largest program. -/
abbrev programCapacity : Nat := size - programStart

/-- Memory that holds nothing but the font. -/
def fresh : Memory :=
  ⟨.ofFn fun p : Place =>
    if h : Font.start ≤ p.val ∧ p.val < Font.start + 80 then Font.bytes[p.val - Font.start]
    else 0⟩

/-- The byte at an address. -/
def read (m : Memory) (addr : UInt16) : UInt8 :=
  m.bytes[Place.ofAddress addr]

/-- Puts a byte at an address, whatever is there. -/
def put (m : Memory) (addr : UInt16) (value : UInt8) : Memory :=
  ⟨m.bytes.set (Place.ofAddress addr) value⟩

/-- Stores a byte at an address, unless the font is there. -/
def store (m : Memory) (addr : UInt16) (value : UInt8) : Memory :=
  if (Place.ofAddress addr).isFont then m else m.put addr value

/-- Puts bytes at successive addresses, whatever is there. -/
def putAll (m : Memory) (addr : UInt16) : List UInt8 → Memory
  | [] => m
  | value :: rest => (m.put addr value).putAll (addr + 1) rest

/-- Stores bytes at successive addresses, leaving out those that fall on the font. -/
def storeAll (m : Memory) (addr : UInt16) : List UInt8 → Memory
  | [] => m
  | value :: rest => (m.store addr value).storeAll (addr + 1) rest

/-- The bytes at `count` successive addresses. -/
def readAll (m : Memory) (addr : UInt16) (count : Nat) : List UInt8 :=
  (List.range count).map fun k => m.read (addr + k.toUInt16)

/-- Copies a program image to where programs start; what the image does not cover stays. -/
def install (m : Memory) (image : Array UInt8) : Memory :=
  ⟨.ofFn fun p : Place =>
    if p.val < programStart then m.bytes[p] else image.getD (p.val - programStart) m.bytes[p]⟩

/-! ## Reading after writing -/

theorem read_put (m : Memory) (a b : UInt16) (value : UInt8) :
    (m.put a value).read b =
      if Place.ofAddress a = Place.ofAddress b then value else m.read b := by
  simp [read, put, Vector.getElem_set, Fin.ext_iff]

theorem read_install (m : Memory) (image : Array UInt8) (addr : UInt16) :
    (m.install image).read addr =
      if (Place.ofAddress addr).val < programStart then m.read addr
      else image.getD ((Place.ofAddress addr).val - programStart) (m.read addr) := by
  simp [read, install]

end Memory

end Chip8VM
