import Chip8VM.Proofs.Footprint
import Chip8VM.Proofs.Operands

/-!
# Spans of memory

What is read and stored at successive addresses. The addresses are counted on in sixteen bits and
name places in twelve, so a span that reaches the end of memory goes on at its beginning.

* `Memory.read_add`, `Memory.getD_readAll`: what is read.
* `Memory.storeAll_change`: stores change nothing but the places of their span, and of these none of
  the font's.
* `Memory.get_storeAll`: at the others of their span the bytes are what was stored.
* `Memory.get_install_ofNat`, `Memory.get_install_of_outside`: what an image installs.
* `execute_memory_change`: so every instruction changes memory only in the span that it stores to.
-/

namespace Chip8VM

/-- Addresses beyond the end of memory name places from its beginning on. -/
theorem Place.ofAddress_add (addr : UInt16) (k : Nat) :
    Place.ofAddress (addr + k.toUInt16) = Place.ofNat (addr.toNat + k) := by
  simp only [ofAddress, ofNat, Fin.ext_iff, Fin.ofNat, UInt16.toNat_add, Nat.toUInt16_eq,
    UInt16.toNat_ofNat']
  omega

/-- A span goes on at the next address. -/
theorem Place.ofNat_next (addr : UInt16) (k : Nat) :
    Place.ofNat ((addr + 1).toNat + k) = Place.ofNat (addr.toNat + (k + 1)) := by
  simp only [ofNat, Fin.ext_iff, Fin.ofNat, UInt16.toNat_add, UInt16.reduceToNat]
  omega

/-- A span that is no longer than memory does not come back to a place. -/
theorem Place.ofNat_add_inj {n j k : Nat} (hj : j < 4096) (hk : k < 4096)
    (h : Place.ofNat (n + j) = Place.ofNat (n + k)) : j = k := by
  have hval := congrArg Fin.val h
  simp only [ofNat, Fin.ofNat] at hval
  omega

theorem Place.isFont_iff {p : Place} : p.isFont = true ↔ 0x050 ≤ p.val ∧ p.val ≤ 0x09F := by
  simp only [isFont, Font.start, Bool.and_eq_true, decide_eq_true_eq]
  omega

namespace Memory

theorem ext_get {m n : Memory} (h : ∀ p, m.bytes.get p = n.bytes.get p) : m = n := by
  have hbytes : m.bytes = n.bytes := Vector.ext fun k hk => h ⟨k, hk⟩
  cases m
  cases hbytes
  rfl

/-! ## Reading -/

theorem read_add (m : Memory) (addr : UInt16) (k : Nat) :
    m.read (addr + k.toUInt16) = m.bytes.get (Place.ofNat (addr.toNat + k)) := by
  show m.bytes.get (Place.ofAddress (addr + k.toUInt16)) = _
  rw [Place.ofAddress_add]

theorem length_readAll (m : Memory) (addr : UInt16) (count : Nat) :
    (m.readAll addr count).length = count := by
  simp [readAll]

theorem getD_readAll (m : Memory) (addr : UInt16) {count j : Nat} (h : j < count) :
    (m.readAll addr count).getD j 0 = m.bytes.get (Place.ofNat (addr.toNat + j)) := by
  rw [← read_add]
  simp [readAll, h]

/-! ## Storing -/

/-- A byte after a store: the one that was stored if that was here and not on the font. -/
theorem get_store (m : Memory) (addr : UInt16) (value : UInt8) (p : Place) :
    (m.store addr value).bytes.get p =
      if Place.ofAddress addr = p ∧ p.isFont = false then value else m.bytes.get p := by
  unfold store
  by_cases hplace : Place.ofAddress addr = p
  · subst hplace
    by_cases hfont : (Place.ofAddress addr).isFont = true
    · simp [hfont]
    · rw [if_neg hfont, if_pos ⟨rfl, by simpa using hfont⟩]
      show (m.bytes.set (Place.ofAddress addr).val value)[(Place.ofAddress addr).val] = value
      rw [Vector.getElem_set_self]
  · have hval : (Place.ofAddress addr).val ≠ p.val := fun he => hplace (Fin.ext he)
    have hother : ¬ (Place.ofAddress addr = p ∧ p.isFont = false) := fun h => hplace h.1
    rw [if_neg hother]
    split
    · rfl
    · show (m.bytes.set (Place.ofAddress addr).val value)[p.val] = m.bytes[p.val]
      rw [Vector.getElem_set, if_neg hval]

/-- A store changes at most the place of its address, and that only if the font is elsewhere. -/
theorem store_change {m : Memory} {addr : UInt16} {value : UInt8} {p : Place}
    (h : (m.store addr value).bytes.get p ≠ m.bytes.get p) :
    p = Place.ofAddress addr ∧ p.isFont = false := by
  rw [get_store] at h
  split at h
  · rename_i hp
    exact ⟨hp.1.symm, hp.2⟩
  · exact absurd rfl h

/-- Stores at successive addresses change at most the places of their span, and of these only places
outside the font. -/
theorem storeAll_change {m : Memory} {addr : UInt16} {values : List UInt8} {p : Place}
    (h : (m.storeAll addr values).bytes.get p ≠ m.bytes.get p) :
    p.isFont = false ∧ ∃ k < values.length, p = Place.ofNat (addr.toNat + k) := by
  induction values generalizing m addr with
  | nil => exact absurd rfl h
  | cons value rest ih =>
    unfold storeAll at h
    by_cases hrest : ((m.store addr value).storeAll (addr + 1) rest).bytes.get p =
        (m.store addr value).bytes.get p
    · -- the first store makes the difference
      rw [hrest] at h
      rcases store_change h with ⟨hp, hfont⟩
      refine ⟨hfont, 0, by simp, ?_⟩
      rw [hp]
      rfl
    · rcases ih hrest with ⟨hfont, k, hk, hp⟩
      refine ⟨hfont, k + 1, by simpa using hk, ?_⟩
      rw [hp, Place.ofNat_next]

/-- Stores leave the places outside their span alone. -/
theorem get_storeAll_of_outside (m : Memory) {addr : UInt16} {values : List UInt8} {p : Place}
    (hp : ∀ k < values.length, p ≠ Place.ofNat (addr.toNat + k)) :
    (m.storeAll addr values).bytes.get p = m.bytes.get p := by
  apply Decidable.byContradiction
  intro hne
  rcases storeAll_change hne with ⟨-, k, hk, hpk⟩
  exact hp k hk hpk

/-- A byte in the span of stores: the one that was stored there, unless the font is there. -/
theorem get_storeAll (m : Memory) {addr : UInt16} {values : List UInt8}
    (hlength : values.length ≤ 4096) {k : Nat} (hk : k < values.length) :
    (m.storeAll addr values).bytes.get (Place.ofNat (addr.toNat + k)) =
      if (Place.ofNat (addr.toNat + k)).isFont then m.bytes.get (Place.ofNat (addr.toNat + k))
      else values[k] := by
  induction values generalizing m addr k with
  | nil => cases hk
  | cons value rest ih =>
    rw [List.length_cons] at hlength hk
    unfold storeAll
    cases k with
    | zero =>
      -- the later stores do not come back to the first place
      have hlater : ∀ j < rest.length,
          Place.ofNat (addr.toNat + 0) ≠ Place.ofNat ((addr + 1).toNat + j) := by
        intro j hj hplace
        rw [Place.ofNat_next] at hplace
        have hzero := Place.ofNat_add_inj (by omega) (by omega) hplace
        omega
      have haddr : Place.ofAddress addr = Place.ofNat (addr.toNat + 0) := rfl
      rw [get_storeAll_of_outside _ hlater, get_store, haddr]
      cases (Place.ofNat (addr.toNat + 0)).isFont <;> simp
    | succ k =>
      -- nor does the first store touch the later places
      have hfirst : Place.ofAddress addr ≠ Place.ofNat (addr.toNat + (k + 1)) := by
        intro hplace
        have hzero := Place.ofNat_add_inj (n := addr.toNat) (j := 0) (by omega) (by omega) hplace
        omega
      have hrest : ((m.store addr value).storeAll (addr + 1) rest).bytes.get
          (Place.ofNat ((addr + 1).toNat + k)) = _ :=
        ih (m.store addr value) (by omega) (Nat.lt_of_succ_lt_succ hk)
      have hkept : (m.store addr value).bytes.get (Place.ofNat (addr.toNat + (k + 1))) =
          m.bytes.get (Place.ofNat (addr.toNat + (k + 1))) := by
        rw [get_store, if_neg fun h => hfirst h.1]
      rw [Place.ofNat_next, hkept] at hrest
      exact hrest

/-- Stores of the bytes that are there change nothing. -/
theorem storeAll_eq_self (m : Memory) {addr : UInt16} {values : List UInt8}
    (hlength : values.length ≤ 4096)
    (hvalues : ∀ k (hk : k < values.length),
      values[k] = m.bytes.get (Place.ofNat (addr.toNat + k))) :
    m.storeAll addr values = m := by
  apply ext_get
  intro p
  apply Decidable.byContradiction
  intro hne
  rcases storeAll_change hne with ⟨-, k, hk, rfl⟩
  rw [get_storeAll m hlength hk, hvalues k hk, ite_self] at hne
  exact hne rfl

/-! ## Installing -/

/-- The bytes of an image that fits are in memory from the start of programs on. -/
theorem get_install_ofNat (m : Memory) {image : List UInt8} (hsize : image.length ≤ 3584) {k : Nat}
    (hk : k < image.length) :
    (m.install image.toArray).bytes.get (Place.ofNat (0x200 + k)) = image[k] := by
  have hval : (Place.ofNat (0x200 + k)).val = 0x200 + k := Nat.mod_eq_of_lt (by omega)
  have hlt : ¬ (Place.ofNat (0x200 + k)).val < programStart := by
    rw [hval]
    simp only [programStart]
    omega
  have hoffset : (Place.ofNat (0x200 + k)).val - programStart = k := by
    rw [hval]
    simp only [programStart]
    omega
  show (m.install image.toArray).bytes[Place.ofNat (0x200 + k)] = _
  simp [install, hlt, hoffset, hk]

/-- What an image does not cover stays, below it and above it. -/
theorem get_install_of_outside (m : Memory) {image : Array UInt8} {p : Place}
    (hp : p.val < 0x200 ∨ 0x200 + image.size ≤ p.val) :
    (m.install image).bytes.get p = m.bytes.get p := by
  show (m.install image).bytes[p] = m.bytes[p]
  rcases hp with hbelow | habove
  · simp [install, hbelow]
  · have hover : image.size ≤ p.val - programStart := by
      simp only [programStart]
      omega
    simp [install, hover]

end Memory

/-! ## Instructions -/

/-- The number of bytes that an instruction stores at the index register. -/
def Instruction.storeCount : Instruction → Nat
  | .storeBcd _ => 3
  | .storeRegisters x => x.toNat + 1
  | _ => 0

/-- Only stores touch the memory. -/
theorem Instruction.of_touches_memory {ins : Instruction} (h : ins.touches = some .memory) :
    (∃ x, ins = .storeBcd x) ∨ ∃ x, ins = .storeRegisters x := by
  cases ins <;> cases h
  · exact .inl ⟨_, rfl⟩
  · exact .inr ⟨_, rfl⟩

namespace Console

variable {ρ : Type} [WordSource ρ]

/-- What an instruction stores, it stores at the index register, and it tells what it drops. -/
theorem execute_storeAll {c d : Console ρ} {pad : Keypad} {ins : Instruction} {events : List Event}
    (h : c.execute pad ins = .ok (d, events)) (hins : ins.touches = some .memory) :
    ∃ values, values.length = ins.storeCount ∧
      d.machine.memory = c.machine.memory.storeAll c.machine.i values ∧
      events = Event.dropped c.machine.i values := by
  rcases Instruction.of_touches_memory hins with ⟨x, rfl⟩ | ⟨x, rfl⟩
  · simp only [execute, bind_eq_ok, pure_eq_ok, becomeWith, Prod.mk.injEq] at h
    obtain ⟨r, -, rfl, rfl⟩ := h
    exact ⟨_, rfl, rfl, rfl⟩
  · simp only [execute, bind_eq_ok, pure_eq_ok, becomeWith, Prod.mk.injEq] at h
    obtain ⟨last, hlast, rfl, rfl⟩ := h
    refine ⟨_, ?_, rfl, rfl⟩
    have hlt := last.isLt
    have hval := Machine.val_of_rangeEnd hlast
    simp only [Instruction.storeCount, List.length_take, Vector.length_toList]
    omega

/-- An instruction changes memory only in the span that it stores to, and there only outside the
font. -/
theorem execute_memory_change {c d : Console ρ} {pad : Keypad} {ins : Instruction}
    {events : List Event} (h : c.execute pad ins = .ok (d, events)) {p : Place}
    (hp : d.machine.memory.bytes.get p ≠ c.machine.memory.bytes.get p) :
    p.isFont = false ∧
      ∃ k < ins.storeCount, p = Place.ofNat (c.machine.i.toNat + k) := by
  by_cases hins : ins.touches = some .memory
  · rcases execute_storeAll h hins with ⟨values, hlength, hmemory, -⟩
    rw [hmemory] at hp
    rw [← hlength]
    exact Memory.storeAll_change hp
  · rw [(execute_footprint h).memory hins] at hp
    exact absurd rfl hp

end Console

end Chip8VM
