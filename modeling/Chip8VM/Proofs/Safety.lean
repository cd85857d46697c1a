import Chip8VM.Proofs.Footprint
import Chip8VM.Proofs.Operands
import Chip8VM.Proofs.Stepping

/-!
# Safety

No program can stop a machine. A machine is sound if its call stack is no deeper than sixteen and
the register it may be waiting for exists; soundness is the inductive invariant, and a sound console
always makes its next step, whatever bytes are in memory.

* `step_sound`: every step of a sound console leads to a sound one.
* `step_succeeds`: a sound console can make a step.
* `run_succeeds`, `exists_course`: so it comes through any number of steps, and runs for ever.
-/

namespace Chip8VM

/-- What holds of a machine whatever program it runs. -/
structure Machine.Sound (m : Machine) : Prop where
  /-- The call stack is no deeper than its slots. -/
  sp_le : m.sp.toNat ≤ 16
  /-- A register that waits for a key exists. -/
  awaited_lt : ∀ x, m.mode = .awaitingKey x → x.toNat < 16

theorem Machine.fresh_sound : Machine.fresh.Sound :=
  ⟨by decide, by intro x h; cases h⟩

namespace Console

variable {ρ : Type} [WordSource ρ]

/-! ## The invariant -/

theorem call_sp_le {m n : Machine} {addr : UInt16} {events : List Event}
    (h : m.call addr = .ok (n, events)) (hsp : m.sp.toNat ≤ 16) : n.sp.toNat ≤ 16 := by
  rcases Machine.call_cases h hsp with ⟨-, rfl, -⟩ | ⟨hlt, -, rfl⟩
  · exact hsp
  · show (m.sp + 1).toNat ≤ 16
    rw [Machine.depth_add_one hlt]
    omega

theorem ret_sp_le {m n : Machine} {events : List Event} (h : m.ret = .ok (n, events))
    (hsp : m.sp.toNat ≤ 16) : n.sp.toNat ≤ 16 := by
  rcases Machine.ret_cases h hsp with ⟨-, rfl, -⟩ | ⟨hne, hslot, -, rfl⟩
  · exact hsp
  · have hone := Machine.depth_sub_one hne
    show (m.sp - 1).toNat ≤ 16
    omega

/-- Instructions whose registers exist keep a console sound. -/
theorem execute_sound {c d : Console ρ} {pad : Keypad} {ins : Instruction} {events : List Event}
    (hreg : ∀ x ∈ ins.registers, x.toNat < 16) (h : c.execute pad ins = .ok (d, events))
    (hc : c.machine.Sound) : d.machine.Sound := by
  have hfoot := execute_footprint h
  constructor
  · -- only calls and returns move the stack pointer
    rcases Classical.em (ins.touches = some .callStack) with ht | ht
    · rcases Instruction.of_touches_callStack ht with rfl | ⟨addr, rfl⟩
      · rcases execute_ret h with ⟨m, hm, rfl⟩
        exact ret_sp_le hm hc.sp_le
      · rcases execute_call h with ⟨m, hm, rfl⟩
        exact call_sp_le hm hc.sp_le
    · rw [hfoot.sp ht]
      exact hc.sp_le
  · -- a wait begins for the operand of the instruction
    intro x hx
    rcases Classical.em (ins.touches = some .mode) with ht | ht
    · rcases Instruction.of_touches_mode ht with ⟨y, rfl⟩
      rcases execute_awaitKey h with hmode | hmode
      · rw [hmode] at hx
        exact hc.awaited_lt x hx
      · rw [hmode] at hx
        cases hx
        exact hreg x (by simp [Instruction.registers])
    · rw [hfoot.mode ht] at hx
      exact hc.awaited_lt x hx

/-- Every step keeps a console sound. -/
theorem step_sound {c d : Console ρ} {pad : Keypad} {events : List Event}
    (h : c.step pad = .ok (d, events)) (hc : c.machine.Sound) : d.machine.Sound := by
  cases step_eq_ok_iff.1 h with
  | waiting hmode hpad => exact ⟨hc.sp_le, hc.awaited_lt⟩
  | resumed hmode hpad hr => exact ⟨hc.sp_le, by intro x hx; cases hx⟩
  | unrecognised hmode hdecode => exact ⟨hc.sp_le, hc.awaited_lt⟩
  | executed hmode hdecode hexec =>
    -- what was fetched names registers that exist, so a wait that begins is for one of them
    have hins := Instruction.decode_inRange hdecode
    exact execute_sound hins.registers hexec ⟨hc.sp_le, hc.awaited_lt⟩

/-! ## Progress -/

/-- A sound console can make a step. -/
theorem step_succeeds {c : Console ρ} (hc : c.machine.Sound) (pad : Keypad) :
    Succeeds (c.step pad) := by
  cases hmode : c.machine.mode with
  | running =>
    cases hdecode : Instruction.decode c.machine.peek with
    | none => exact ⟨_, step_of_unrecognised hmode hdecode pad⟩
    | some ins =>
      have hsp : c.fetched.machine.sp.toNat ≤ 16 := hc.sp_le
      rcases execute_decoded_succeeds c.fetched pad hdecode hsp with ⟨r, hr⟩
      rw [step_of_decoded hmode hdecode, hr]
      exact ⟨_, rfl⟩
  | awaitingKey x =>
    rw [step_of_awaiting hmode]
    unfold continueWait
    cases pad.firstPressed with
    | none => exact ⟨_, rfl⟩
    | some key => exact succeeds_register (hc.awaited_lt x hmode) fun _ => ⟨_, rfl⟩

/-- A sound console comes through any number of steps, and is sound after them. -/
theorem run_succeeds {c : Console ρ} (hc : c.machine.Sound) (pads : List Keypad) :
    ∃ d events, c.run pads = .ok (d, events) ∧ d.machine.Sound := by
  induction pads generalizing c with
  | nil => exact ⟨c, #[], rfl, hc⟩
  | cons pad pads ih =>
    rcases step_succeeds hc pad with ⟨⟨e, told⟩, hstep⟩
    rcases ih (step_sound hstep hc) with ⟨d, events, hrun, hd⟩
    refine ⟨d, told.toArray ++ events, ?_, hd⟩
    rw [run_cons, hstep]
    simp [Except.bind, hrun, Except.map]

/-- A run from a sound console stays sound. -/
theorem IsCourse.sound {s : Nat → Console ρ} {pads : Nat → Keypad} (hs : IsCourse s pads)
    (h0 : (s 0).machine.Sound) (n : Nat) : (s n).machine.Sound := by
  induction n with
  | zero => exact h0
  | succ n ih =>
    rcases hs n with ⟨events, hstep⟩
    exact step_sound hstep ih

/-- A sound console runs for ever, whatever keys are pressed. -/
theorem exists_course {c : Console ρ} (hc : c.machine.Sound) (pads : Nat → Keypad) :
    ∃ s : Nat → Console ρ, s 0 = c ∧ IsCourse s pads := by
  -- every sound console has a sound successor: choose one after the other
  have next : ∀ (k : Nat) (d : { d : Console ρ // d.machine.Sound }),
      ∃ e : { e : Console ρ // e.machine.Sound }, ∃ events,
        d.1.step (pads k) = .ok (e.1, events) := by
    intro k d
    rcases step_succeeds d.2 (pads k) with ⟨⟨e, events⟩, hstep⟩
    exact ⟨⟨e, step_sound hstep d.2⟩, events, hstep⟩
  let s : Nat → { d : Console ρ // d.machine.Sound } := fun n =>
    Nat.rec ⟨c, hc⟩ (fun k d => (next k d).choose) n
  exact ⟨fun k => (s k).1, rfl, fun k => (next k (s k)).choose_spec⟩

end Console

end Chip8VM
