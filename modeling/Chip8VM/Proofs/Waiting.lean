import Chip8VM.Proofs.Formats
import Chip8VM.Proofs.Operands
import Chip8VM.Proofs.Stepping

/-!
# Waiting

A wait for a key takes time and does nothing else. It begins with an instruction that finds no key
down, every step without a key counts the timers down once more, and the step that finds a key
leaves the console as the instruction would have left it with the key down at once.

* `step_awaitKey_none`, `step_awaitKey_some`: the instruction without and with a key down.
* `run_awaiting`: any number of steps of a wait.
* `wait_costs_time`: waiting and then taking a key is taking it at once, only later.
-/

namespace Chip8VM

/-! ## Time -/

namespace Machine

/-- The machine with its timers counted down so many times, as far as zero. -/
def later (m : Machine) (k : Nat) : Machine :=
  { m with delay := (m.delay.toNat - k).toUInt8, sound := (m.sound.toNat - k).toUInt8 }

theorem later_zero (m : Machine) : m.later 0 = m := by
  simp [later]

theorem toUInt8_sub_sub (t : UInt8) (j k : Nat) :
    ((t.toNat - j).toUInt8.toNat - k).toUInt8 = (t.toNat - (j + k)).toUInt8 := by
  have ht := t.toNat_lt
  apply UInt8.toNat_inj.1
  simp only [Nat.toUInt8_eq, UInt8.toNat_ofNat']
  omega

theorem later_later (m : Machine) (j k : Nat) : (m.later j).later k = m.later (j + k) := by
  simp only [later, toUInt8_sub_sub]

theorem countDown_eq (t : UInt8) : (if t = 0 then 0 else t - 1) = (t.toNat - 1).toUInt8 := by
  have ht := t.toNat_lt
  apply UInt8.toNat_inj.1
  rw [toNat_countDown, Nat.toUInt8_eq, UInt8.toNat_ofNat']
  omega

/-- A step counts the timers down once. -/
theorem tick_eq_later (m : Machine) : m.tick = m.later 1 := by
  simp only [tick, later, countDown_eq]

end Machine

namespace Console

variable {ρ : Type}

/-- The console at a later time. -/
def later (c : Console ρ) (k : Nat) : Console ρ :=
  { c with machine := c.machine.later k }

theorem later_later (c : Console ρ) (j k : Nat) : (c.later j).later k = c.later (j + k) := by
  simp only [later, Machine.later_later]

/-- The console past its next opcode, waiting for a key to store in a register. -/
def awaiting (c : Console ρ) (x : Machine.Register) : Console ρ :=
  { c with machine := { c.machine.tick.fetch with mode := .awaitingKey x.val.toUInt8 } }

/-- The console past its next opcode, with a key stored in a register. -/
def taking (c : Console ρ) (x : Machine.Register) (key : Key) : Console ρ :=
  { c with machine := c.machine.tick.fetch.setV x key.val.toUInt8 }

variable [WordSource ρ]

/-! ## The beginning of a wait -/

/-- The instruction begins a wait if no key is down. -/
theorem step_awaitKey_none {c : Console ρ} {x : Machine.Register}
    (hnext : c.machine.upcoming? = some (.awaitKey x.val.toUInt8)) {pad : Keypad}
    (hpad : pad.firstPressed = none) :
    c.step pad = .ok (c.awaiting x,
      [.executing c.machine.pc c.machine.peek (.awaitKey x.val.toUInt8)]) := by
  rcases Machine.upcoming?_eq_some_iff.1 hnext with ⟨hmode, hdecode⟩
  rw [step_of_decoded hmode hdecode]
  simp only [execute, awaitKey, hpad]
  rfl

/-- The instruction takes the lowest key that is down. -/
theorem step_awaitKey_some {c : Console ρ} {x : Machine.Register}
    (hnext : c.machine.upcoming? = some (.awaitKey x.val.toUInt8)) {pad : Keypad} {key : Key}
    (hpad : pad.firstPressed = some key) :
    c.step pad = .ok (c.taking x key,
      [.executing c.machine.pc c.machine.peek (.awaitKey x.val.toUInt8)]) := by
  rcases Machine.upcoming?_eq_some_iff.1 hnext with ⟨hmode, hdecode⟩
  rw [step_of_decoded hmode hdecode]
  simp only [execute, awaitKey, hpad, Machine.register_toUInt8]
  rfl

/-! ## The steps of a wait -/

theorem step_waiting {c : Console ρ} {x : UInt8} (hmode : c.machine.mode = .awaitingKey x)
    {pad : Keypad} (hpad : pad.firstPressed = none) : c.step pad = .ok (c.later 1, []) := by
  rw [step_eq_ok_iff.2 (.waiting hmode hpad), ticked, Machine.tick_eq_later]
  rfl

/-- A wait goes on for as long as no key is down, and nothing is told of it. -/
theorem run_waiting {c : Console ρ} {x : UInt8} (hmode : c.machine.mode = .awaitingKey x)
    {pads : List Keypad} (hpads : ∀ pad ∈ pads, pad.firstPressed = none) :
    c.run pads = .ok (c.later pads.length, #[]) := by
  induction pads generalizing c with
  | nil =>
    rw [run_nil, later, List.length_nil, Machine.later_zero]
  | cons pad rest ih =>
    have hfirst := step_waiting hmode (hpads pad List.mem_cons_self)
    have hlater : (c.later 1).machine.mode = .awaitingKey x := hmode
    have hrest := ih hlater fun p hp => hpads p (List.mem_cons_of_mem pad hp)
    rw [run_cons, hfirst]
    simp only [Except.bind, hrest, later_later, ok_map, List.length_cons, Nat.add_comm 1]
    rfl

/-- A wait, from the instruction with which it begins. -/
theorem run_awaiting {c : Console ρ} {x : Machine.Register}
    (hnext : c.machine.upcoming? = some (.awaitKey x.val.toUInt8)) {pad : Keypad}
    {pads : List Keypad} (hpads : ∀ p ∈ pad :: pads, p.firstPressed = none) :
    c.run (pad :: pads) = .ok ((c.awaiting x).later pads.length,
      #[.executing c.machine.pc c.machine.peek (.awaitKey x.val.toUInt8)]) := by
  have hfirst := step_awaitKey_none hnext (hpads pad List.mem_cons_self)
  have hrest := run_waiting (c := c.awaiting x) rfl
    fun p hp => hpads p (List.mem_cons_of_mem pad hp)
  rw [run_cons, hfirst]
  simp only [Except.bind, hrest, ok_map]
  rfl

/-! ## The end of a wait -/

/-- The key that ends a wait leaves the console as if it had been taken at once, but later. -/
theorem step_awaiting_later {c : Console ρ} {x : Machine.Register}
    (hmode : c.machine.mode = .running) (k : Nat) {pad : Keypad} {key : Key}
    (hpad : pad.firstPressed = some key) :
    ((c.awaiting x).later k).step pad =
      .ok ((c.taking x key).later (k + 1), [.keyStored key x.val.toUInt8]) := by
  have hawaits : ((c.awaiting x).later k).machine.mode = .awaitingKey x.val.toUInt8 := rfl
  have htick : ((c.awaiting x).later k).machine.tick = ((c.awaiting x).later (k + 1)).machine := by
    rw [Machine.tick_eq_later]
    exact Machine.later_later _ k 1
  rw [step_eq_ok_iff.2 (.resumed hawaits hpad (Machine.register_toUInt8 x)), htick]
  -- the mode is all that remains of the wait
  simp only [taking, later, awaiting, Machine.later, Machine.setV, Machine.fetch, Machine.tick,
    hmode]

/-- The word that waits for a key to store in the register `x`. -/
theorem upcoming?_of_word {m : Machine} {x : Machine.Register} (hmode : m.mode = .running)
    (hword : m.peek.word.toNat = 0xF00A + 0x100 * x.val) :
    m.upcoming? = some (.awaitKey x.val.toUInt8) := by
  have hx := x.isLt
  have hfamily : m.peek.family = 0xF := by
    apply UInt8.toNat_inj.1
    rw [Opcode.toNat_family]
    show m.peek.word.toNat / 4096 = 15
    omega
  have hkk : m.peek.kk = 0x0A := by
    apply UInt8.toNat_inj.1
    rw [Opcode.toNat_kk]
    show m.peek.word.toNat % 256 = 10
    omega
  have hregister : x.val.toUInt8 = m.peek.x := by
    apply UInt8.toNat_inj.1
    rw [Opcode.toNat_x, Machine.toNat_register]
    omega
  exact Machine.upcoming?_eq_some_iff.2
    ⟨hmode, Instruction.decode_of_hasFormat ⟨hfamily, hkk, hregister⟩⟩

/-- Waiting for a key costs time and nothing else. Let the next opcode of a running console wait for
a key to store in the register `x`. If a key is down at once, then the lowest one is stored and the
console goes on past the opcode. If none is down for `n + 1` steps, then throughout them the
register is awaited and nothing but the timers changes; and the key that is down at the step after
them leaves the console as it would have been left at once but for the timers, which have counted
down `n + 1` times more. That step executes no instruction: it tells of the key alone. -/
theorem wait_costs_time {c : Console ρ} {x : Machine.Register} {n : Nat} {pads : List Keypad}
    {pad : Keypad} (hmode : c.machine.mode = .running)
    (hword : c.machine.peek.word.toNat = 0xF00A + 0x100 * x.val) (hlength : pads.length = n + 1)
    (hup : ∀ p ∈ pads, ∀ key, p.isDown key = false) (hdown : ∃ key, pad.isDown key = true) :
    ∃ (key : Key) (told : List Event),
      (pad.isDown key.val.toUInt8 = true ∧
        ∀ lower : UInt8, lower.toNat < key.val → pad.isDown lower = false) ∧
      (c.step pad = .ok (c.taking x key, told) ∧
        (c.taking x key).machine.getV x = key.val.toUInt8 ∧
        (c.taking x key).machine.mode = .running ∧
        (c.taking x key).machine.pc = c.machine.pc + 2) ∧
      (∀ k ≤ n, (∃ events, c.run (pads.take (k + 1)) = .ok ((c.awaiting x).later k, events)) ∧
        ((c.awaiting x).later k).machine.awaitedRegister = some x.val.toUInt8) ∧
      ((c.awaiting x).later n).step pad =
        .ok ((c.taking x key).later (n + 1), [.keyStored key x.val.toUInt8]) := by
  have hnext := upcoming?_of_word hmode hword
  have hnone : ∀ p ∈ pads, p.firstPressed = none :=
    fun p hp => Keypad.firstPressed_eq_none_iff.2 (hup p hp)
  cases hkey : pad.firstPressed with
  | none =>
    rcases hdown with ⟨key, hkeyDown⟩
    rw [Keypad.firstPressed_eq_none_iff.1 hkey key] at hkeyDown
    cases hkeyDown
  | some key =>
    have hgetV : (c.taking x key).machine.getV x = key.val.toUInt8 := by
      rw [taking, Machine.getV_setV, if_pos rfl]
    refine ⟨key, _, Keypad.firstPressed_eq_some_iff.1 hkey,
      ⟨step_awaitKey_some hnext hkey, hgetV, hmode, rfl⟩, ?_, step_awaiting_later hmode n hkey⟩
    intro k hk
    refine ⟨?_, rfl⟩
    cases pads with
    | nil => cases hlength
    | cons first rest =>
      have hidle : ∀ p ∈ first :: rest.take k, p.firstPressed = none := by
        intro p hp
        rw [← List.take_succ_cons] at hp
        exact hnone p (List.mem_of_mem_take hp)
      have hrun := run_awaiting hnext hidle
      rw [List.length_cons] at hlength
      rw [List.length_take_of_le (by omega)] at hrun
      exact ⟨_, hrun⟩

/-- A console at an odd address at the end of memory, about to wait for a key to store in the flag
register. -/
def listening : Console CyclicWords where
  machine := { Machine.fresh with
    pc := 0xFFFF
    delay := 9
    sound := 1
    memory := ((⟨.replicate 4096 0⟩ : Memory).put 0xFFF 0xFF).put 0x000 0x0A }
  screen := .fresh
  random := ⟨#[], 0⟩

/-- After two steps without a key the lower of two keys is stored, the delay timer shows what the
wait has cost, and the sound timer has stopped. -/
theorem listening_takes_key :
    listening.machine.mode = .running ∧
      listening.machine.peek.word.toNat = 0xF00A + 0x100 * (15 : Machine.Register).val ∧
      (∀ p ∈ [Keypad.released, .released], ∀ key, p.isDown key = false) ∧
      (∃ key, ((Keypad.released.press 12).press 7).isDown key = true) ∧
      (∃ told, listening.step ((Keypad.released.press 12).press 7) =
        .ok (listening.taking 15 7, told)) ∧
      (∃ events, listening.run [.released, .released] =
        .ok ((listening.awaiting 15).later 1, events)) ∧
      ((listening.awaiting 15).later 1).step ((Keypad.released.press 12).press 7) =
        .ok ((listening.taking 15 7).later 2, [.keyStored 7 15]) ∧
      (listening.taking 15 7).machine.delay = 8 ∧
      ((listening.taking 15 7).later 2).machine.delay = 6 ∧
      ((listening.taking 15 7).later 2).machine.sound = 0 ∧
      ((listening.taking 15 7).later 2).machine.pc = 1 := by
  have hword :
      listening.machine.peek.word.toNat = 0xF00A + 0x100 * (15 : Machine.Register).val := by
    decide +kernel
  have hup : ∀ p ∈ [Keypad.released, .released], ∀ key, p.isDown key = false := by
    intro p hp
    have hreleased : p = .released := by simpa using hp
    rw [hreleased]
    exact Keypad.firstPressed_eq_none_iff.1 (by decide)
  have hdown : ∃ key, ((Keypad.released.press 12).press 7).isDown key = true := ⟨7, by decide⟩
  rcases wait_costs_time (n := 1) rfl hword rfl hup hdown with
    ⟨key, told, hlowest, ⟨hstep, -⟩, hwait, htake⟩
  have hkey : key = 7 := by
    have hpair : ∀ k : Key, ((Keypad.released.press 12).press 7).isDown k.val.toUInt8 = true →
        k = 7 ∨ k = 12 := by decide
    rcases hpair key hlowest.1 with rfl | rfl
    · rfl
    · exact absurd (hlowest.2 7 (by decide)) (by decide)
  subst hkey
  exact ⟨rfl, hword, hup, hdown, ⟨told, hstep⟩, (hwait 1 (Nat.le_refl 1)).1, htake,
    rfl, rfl, rfl, rfl⟩

end Console

end Chip8VM
