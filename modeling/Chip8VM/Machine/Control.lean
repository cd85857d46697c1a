import Chip8VM.Journal
import Chip8VM.Machine.Basic

/-!
# Control flow of the machine

Jumps, skips, calls and returns. All of them run after the program counter has moved past the
instruction. A return without a call and a call beyond the sixteenth are ignored and told.
-/

namespace Chip8VM.Machine

/-- Goes to an address. -/
def jump (m : Machine) (addr : UInt16) : Machine :=
  { m with pc := addr }

/-- Goes to an address and the first register beyond it. -/
def jumpOffset (m : Machine) (addr : UInt16) : Except Fault Machine := do
  let target ← Arithmetic.add.toWord ((m.getV first).toNat + addr.toNat)
  return m.jump target

/-- Passes over one instruction if a condition holds. -/
def skipIf (m : Machine) (condition : Bool) : Machine :=
  if condition then { m with pc := m.pc + 2 } else m

theorem skipIf_eq (m : Machine) (condition : Bool) :
    m.skipIf condition = { m with pc := if condition then m.pc + 2 else m.pc } := by
  cases condition <;> rfl

/-- Goes to an address and pushes the place to return to. -/
def call (m : Machine) (addr : UInt16) : Except Fault (Machine × List Event) :=
  if m.sp = 16 then return (m, [.callIgnored addr (m.pc - 2)])
  else do
    let slot ← stackSlot m.sp.toNat
    let sp ← Arithmetic.add.toByte (m.sp.toNat + 1)
    return ({ m with stack := m.stack.set slot m.pc, sp, pc := addr }, [])

/-- Pops the place to return to and goes there. -/
def ret (m : Machine) : Except Fault (Machine × List Event) :=
  if m.sp = 0 then return (m, [.returnIgnored (m.pc - 2)])
  else do
    let sp ← Arithmetic.subtract.toByte (m.sp.toNat - 1)
    let slot ← stackSlot sp.toNat
    return ({ m with sp, pc := m.stack.get slot }, [])

/-! ## Jumps, calls and returns that are possible -/

theorem jumpOffset_of_lt {m : Machine} {addr : UInt16}
    (h : (m.getV first).toNat + addr.toNat < 65536) :
    m.jumpOffset addr = .ok (m.jump ((m.getV first).toNat + addr.toNat).toUInt16) := by
  unfold jumpOffset
  rw [Arithmetic.toWord_of_lt _ h]
  rfl

theorem depth_add_one {sp : UInt8} (h : sp.toNat < 16) : (sp + 1).toNat = sp.toNat + 1 := by
  rw [UInt8.toNat_add]
  simp only [UInt8.reduceToNat]
  omega

theorem depth_sub_one {sp : UInt8} (h : sp ≠ 0) : (sp - 1).toNat + 1 = sp.toNat := by
  have hpos : sp.toNat ≠ 0 := fun hz => h (UInt8.toNat_inj.1 hz)
  have hlt := sp.toNat_lt
  rw [UInt8.toNat_sub]
  simp only [UInt8.reduceToNat]
  omega

theorem call_of_full {m : Machine} (h : m.sp = 16) (addr : UInt16) :
    m.call addr = .ok (m, [.callIgnored addr (m.pc - 2)]) :=
  if_pos h

theorem call_of_lt {m : Machine} (h : m.sp.toNat < 16) (addr : UInt16) :
    m.call addr = .ok
      ({ m with stack := m.stack.set m.sp.toNat m.pc, sp := m.sp + 1, pc := addr }, []) := by
  have hne : m.sp ≠ 16 := by
    intro he
    rw [he] at h
    exact absurd h (by decide)
  have hsp : ((m.sp.toNat + 1 : Int)).toNat.toUInt8 = m.sp + 1 := by
    apply UInt8.toNat_inj.1
    rw [Nat.toUInt8_eq, UInt8.toNat_ofNat', depth_add_one h]
    omega
  unfold call
  rw [if_neg hne, stackSlot_of_lt h, Arithmetic.toByte_of_mem _ (by omega), hsp]
  rfl

theorem ret_of_empty {m : Machine} (h : m.sp = 0) :
    m.ret = .ok (m, [.returnIgnored (m.pc - 2)]) :=
  if_pos h

theorem ret_of_le {m : Machine} (hne : m.sp ≠ 0) (h : m.sp.toNat - 1 < 16) :
    m.ret = .ok ({ m with sp := m.sp - 1, pc := m.stack[m.sp.toNat - 1] }, []) := by
  have hone := depth_sub_one hne
  have hlt := m.sp.toNat_lt
  have hsp : ((m.sp.toNat - 1 : Int)).toNat.toUInt8 = m.sp - 1 := by
    apply UInt8.toNat_inj.1
    rw [Nat.toUInt8_eq, UInt8.toNat_ofNat']
    omega
  have hpred : (m.sp - 1).toNat = m.sp.toNat - 1 := by omega
  unfold ret
  rw [if_neg hne, Arithmetic.toByte_of_mem _ (by omega), hsp]
  show (stackSlot (m.sp - 1).toNat >>= _) = _
  rw [hpred, stackSlot_of_lt h]
  rfl

/-! ## What calls and returns do -/

variable {m n : Machine} {addr : UInt16} {events : List Event}

/-- A call at a possible depth is refused if the call stack is full, and otherwise pushes. -/
theorem call_cases (h : m.call addr = .ok (n, events)) (hsp : m.sp.toNat ≤ 16) :
    (m.sp = 16 ∧ n = m ∧ events = [.callIgnored addr (m.pc - 2)]) ∨
      ∃ hlt : m.sp.toNat < 16, events = [] ∧
        n = { m with stack := m.stack.set m.sp.toNat m.pc, sp := m.sp + 1, pc := addr } := by
  by_cases hfull : m.sp = 16
  · rw [call_of_full hfull] at h
    cases h
    exact .inl ⟨hfull, rfl, rfl⟩
  · have hne : m.sp.toNat ≠ 16 := fun he => hfull (UInt8.toNat_inj.1 he)
    have hlt : m.sp.toNat < 16 := by omega
    rw [call_of_lt hlt] at h
    cases h
    exact .inr ⟨hlt, rfl, rfl⟩

/-- A return at a possible depth is refused if the call stack is empty, and otherwise pops. -/
theorem ret_cases (h : m.ret = .ok (n, events)) (hsp : m.sp.toNat ≤ 16) :
    (m.sp = 0 ∧ n = m ∧ events = [.returnIgnored (m.pc - 2)]) ∨
      m.sp ≠ 0 ∧ ∃ hslot : m.sp.toNat - 1 < 16, events = [] ∧
        n = { m with sp := m.sp - 1, pc := m.stack[m.sp.toNat - 1] } := by
  by_cases hempty : m.sp = 0
  · rw [ret_of_empty hempty] at h
    cases h
    exact .inl ⟨hempty, rfl, rfl⟩
  · have hslot : m.sp.toNat - 1 < 16 := by omega
    rw [ret_of_le hempty hslot] at h
    cases h
    exact .inr ⟨hempty, hslot, rfl, rfl⟩

end Chip8VM.Machine
