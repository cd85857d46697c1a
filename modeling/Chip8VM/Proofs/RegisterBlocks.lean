import Chip8VM.Proofs.Spans

/-!
# Blocks of registers

The registers up to a given one are stored in memory from the index register on, and loaded from
there. Each of them has its place. The places are counted on past the end of memory and past the
last address, and some may be the font's, where nothing is stored. Storing and loading undo each
other at all other places.

* `Machine.slot`: the place of a register.
* `getV_loadRegisters`, `get_storeRegisters`: what is loaded and what is stored.
* `loadRegisters_storeRegisters`: a store of what has just been loaded changes nothing.
* `blocks_undo_each_other`: both orders, for the instructions.
-/

namespace Chip8VM

namespace Machine

/-- The place in memory that a register is stored at and loaded from. -/
def slot (m : Machine) (r : Register) : Place :=
  Place.ofNat (m.i.toNat + r.val)

/-! ## Loading -/

theorem memory_loadRegisters (m : Machine) (last : Register) :
    (m.loadRegisters last).memory = m.memory := by
  simp only [loadRegisters]

theorem slot_loadRegisters (m : Machine) (last r : Register) :
    (m.loadRegisters last).slot r = m.slot r := by
  simp only [slot, loadRegisters]

theorem getV_loadRegisters (m : Machine) (last r : Register) :
    (m.loadRegisters last).getV r =
      if r ≤ last then m.memory.bytes.get (m.slot r) else m.getV r := by
  show (Vector.ofFn fun r : Register =>
    if r ≤ last then m.memory.read (m.i + r.val.toUInt16) else m.getV r)[r.val] = _
  rw [Vector.getElem_ofFn]
  by_cases h : r ≤ last
  · rw [if_pos h, if_pos h, Memory.read_add]
    rfl
  · rw [if_neg h, if_neg h]

/-! ## Storing -/

theorem length_take_v (m : Machine) (last : Register) :
    (m.v.toList.take (last.val + 1)).length = last.val + 1 := by
  have hlast := last.isLt
  rw [List.length_take, Vector.length_toList]
  omega

theorem getElem_take_v (m : Machine) (last : Register) {r : Register}
    (hr : r.val < (m.v.toList.take (last.val + 1)).length) :
    (m.v.toList.take (last.val + 1))[r.val] = m.getV r := by
  rw [List.getElem_take, Vector.getElem_toList]
  rfl

/-- A register is stored at its place, unless the font is there. -/
theorem get_storeRegisters (m : Machine) {last r : Register} (hr : r ≤ last) :
    (m.storeRegisters last).1.memory.bytes.get (m.slot r) =
      if (m.slot r).isFont then m.memory.bytes.get (m.slot r) else m.getV r := by
  have hlength := m.length_take_v last
  have hlast := last.isLt
  have hlt : r.val < (m.v.toList.take (last.val + 1)).length := by
    rw [hlength]
    exact Nat.lt_succ_of_le hr
  rw [← m.getElem_take_v last hlt]
  exact m.memory.get_storeAll (by omega) hlt

/-- No other place is stored at. -/
theorem get_storeRegisters_of_outside (m : Machine) {last : Register} {p : Place}
    (hp : ∀ r ≤ last, p ≠ m.slot r) :
    (m.storeRegisters last).1.memory.bytes.get p = m.memory.bytes.get p := by
  apply Memory.get_storeAll_of_outside
  rw [length_take_v]
  intro k hk
  have hlast := last.isLt
  exact hp ⟨k, by omega⟩ (Nat.le_of_lt_succ hk)

/-- What is loaded after a store are the registers themselves, except where the font is. -/
theorem getV_storeRegisters_loadRegisters (m : Machine) {last r : Register} (hr : r ≤ last) :
    ((m.storeRegisters last).1.loadRegisters last).getV r =
      if (m.slot r).isFont then m.memory.bytes.get (m.slot r) else m.getV r := by
  rw [getV_loadRegisters, if_pos hr]
  exact m.get_storeRegisters hr

/-- A store of registers that are the bytes at their places changes nothing. -/
theorem storeRegisters_eq_self (m : Machine) {last : Register}
    (h : ∀ r ≤ last, m.getV r = m.memory.bytes.get (m.slot r)) :
    (m.storeRegisters last).1 = m := by
  have hlength := m.length_take_v last
  have hlast := last.isLt
  have hmemory : m.memory.storeAll m.i (m.v.toList.take (last.val + 1)) = m.memory := by
    apply Memory.storeAll_eq_self _ (by omega)
    intro k hk
    have hle : (⟨k, by omega⟩ : Register) ≤ last := by
      show k ≤ last.val
      omega
    exact (m.getElem_take_v last hk).trans (h _ hle)
  show { m with memory := m.memory.storeAll m.i (m.v.toList.take (last.val + 1)) } = m
  rw [hmemory]

/-- A store of what has just been loaded changes nothing. -/
theorem loadRegisters_storeRegisters (m : Machine) (last : Register) :
    ((m.loadRegisters last).storeRegisters last).1 = m.loadRegisters last := by
  apply storeRegisters_eq_self
  intro r hr
  rw [getV_loadRegisters, if_pos hr, memory_loadRegisters, slot_loadRegisters]

end Machine

/-! ## The instructions -/

namespace Console

variable {ρ : Type} [WordSource ρ]

theorem execute_storeRegisters (c : Console ρ) (pad : Keypad) (x : Machine.Register) :
    c.execute pad (.storeRegisters x.val.toUInt8) =
      .ok (c.becomeWith (c.machine.storeRegisters x)) := by
  simp only [execute, Machine.rangeEnd_toUInt8]
  rfl

theorem execute_loadRegisters (c : Console ρ) (pad : Keypad) (x : Machine.Register) :
    c.execute pad (.loadRegisters x.val.toUInt8) = .ok (c.become (c.machine.loadRegisters x)) := by
  simp only [execute, Machine.rangeEnd_toUInt8]
  rfl

/-- Storing and loading the registers up to `Vx` undo each other, wherever the index register
points. The store changes nothing but memory: at the place of each of these registers it leaves the
register, or what was there if the place is the font's, and all other places it leaves as they are.
A load after it gives each register back, or the byte of the font, and changes no other register.
And a store after a load changes nothing at all. -/
theorem blocks_undo_each_other (c : Console ρ) (pad pad' : Keypad) (x : Machine.Register) :
    (∃ d told, c.execute pad (.storeRegisters x.val.toUInt8) = .ok (d, told) ∧
      d = { c with machine := { c.machine with memory := d.machine.memory } } ∧
      (∀ r ≤ x, d.machine.memory.bytes.get (c.machine.slot r) =
        if 0x050 ≤ (c.machine.slot r).val ∧ (c.machine.slot r).val ≤ 0x09F then
          c.machine.memory.bytes.get (c.machine.slot r)
        else c.machine.getV r) ∧
      (∀ p, (∀ r ≤ x, p ≠ c.machine.slot r) →
        d.machine.memory.bytes.get p = c.machine.memory.bytes.get p) ∧
      ∃ e, d.execute pad' (.loadRegisters x.val.toUInt8) = .ok (e, []) ∧
        e = { d with machine := { d.machine with v := e.machine.v } } ∧
        (∀ r ≤ x, e.machine.getV r =
          if 0x050 ≤ (c.machine.slot r).val ∧ (c.machine.slot r).val ≤ 0x09F then
            c.machine.memory.bytes.get (c.machine.slot r)
          else c.machine.getV r) ∧
        ∀ r, x < r → e.machine.getV r = c.machine.getV r) ∧
    ∃ d, c.execute pad (.loadRegisters x.val.toUInt8) = .ok (d, []) ∧
      d = { c with machine := { c.machine with v := d.machine.v } } ∧
      (∀ r, d.machine.getV r =
        if r ≤ x then c.machine.memory.bytes.get (c.machine.slot r) else c.machine.getV r) ∧
      ∃ told, d.execute pad' (.storeRegisters x.val.toUInt8) = .ok (d, told) := by
  simp only [← Place.isFont_iff]
  constructor
  · refine ⟨_, _, c.execute_storeRegisters pad x, rfl,
      fun r hr => c.machine.get_storeRegisters hr,
      fun p hp => c.machine.get_storeRegisters_of_outside hp, ?_⟩
    refine ⟨_, execute_loadRegisters _ pad' x, rfl,
      fun r hr => c.machine.getV_storeRegisters_loadRegisters hr, ?_⟩
    intro r hr
    show ((c.machine.storeRegisters x).1.loadRegisters x).getV r = _
    rw [Machine.getV_loadRegisters, if_neg (Fin.not_le.2 hr)]
    rfl
  · refine ⟨_, c.execute_loadRegisters pad x, rfl,
      fun r => c.machine.getV_loadRegisters x r,
      ((c.machine.loadRegisters x).storeRegisters x).2, ?_⟩
    rw [execute_storeRegisters]
    show Except.ok ({ c with machine := ((c.machine.loadRegisters x).storeRegisters x).1 }, _) = _
    rw [Machine.loadRegisters_storeRegisters]

/-- A console whose index register points at the last two places before the font. -/
def astride : Console CyclicWords where
  machine := { Machine.fresh with v := Vector.replicate 16 7, i := 0xF04E }
  screen := .fresh
  random := ⟨#[], 0⟩

/-- Of four registers two are stored, and the other two get the first bytes of the font. -/
theorem astride_loads_font : ∃ d told e,
    astride.execute .released (.storeRegisters 3) = .ok (d, told) ∧
      d.machine.memory.bytes.get (Place.ofNat 0x04F) = 7 ∧
      d.execute .released (.loadRegisters 3) = .ok (e, []) ∧
      e.machine.getV 1 = 7 ∧ e.machine.getV 2 = 0xF0 := by
  rcases (blocks_undo_each_other astride .released .released 3).1 with
    ⟨d, told, hstore, -, hstored, -, e, hload, -, hloaded, -⟩
  have hregister : astride.machine.getV 1 = 7 := by decide
  have hbefore : astride.machine.slot 1 = Place.ofNat 0x04F := by decide
  have hfont : astride.machine.slot 2 = ⟨0x050, by omega⟩ := by decide
  have hstored1 := hstored 1 (by decide)
  have hloaded1 := hloaded 1 (by decide)
  have hloaded2 := hloaded 2 (by decide)
  rw [if_neg (by decide), hregister] at hstored1 hloaded1
  rw [if_pos (by decide), hfont] at hloaded2
  rw [hbefore] at hstored1
  refine ⟨d, told, e, hstore, hstored1, hload, hloaded1, hloaded2.trans ?_⟩
  show Memory.fresh.bytes[80] = 0xF0
  simp only [Memory.fresh, Vector.getElem_ofFn]
  rfl

end Console

end Chip8VM
