import Chip8VM.Console.Execution

/-!
# Steps

What a step can do, said once: a step waits for a key, ends a wait, passes over a word that encodes
nothing, or executes an instruction. An endless run makes one step after the other, each with the
keys that are down at that time.

* `step_eq_ok_iff`: these four cases are exactly the steps that come to an outcome.
* `IsCourse`: endless runs; `IsCourse.run_eq` gives their finite beginnings.
-/

namespace Chip8VM

namespace Machine

/-- The instruction that the next step executes, if it executes one. -/
def upcoming? (m : Machine) : Option Instruction :=
  match m.mode with
  | .running => Instruction.decode m.peek
  | .awaitingKey _ => none

theorem upcoming?_eq_some_iff {m : Machine} {ins : Instruction} :
    m.upcoming? = some ins ↔ m.mode = .running ∧ Instruction.decode m.peek = some ins := by
  unfold upcoming?
  cases m.mode <;> simp

@[simp] theorem peek_tick (m : Machine) : m.tick.peek = m.peek := rfl

/-- A timer that counts down by one stops at zero. -/
theorem toNat_countDown (t : UInt8) : (if t = 0 then 0 else t - 1).toNat = t.toNat - 1 := by
  by_cases h : t = 0
  · subst h
    rfl
  · have hone := depth_sub_one h
    rw [if_neg h]
    omega

end Machine

namespace Console

variable {ρ : Type}

/-- The console with its timers counted down. -/
def ticked (c : Console ρ) : Console ρ :=
  { c with machine := c.machine.tick }

/-- The console with its timers counted down and its program counter past the next opcode. -/
def fetched (c : Console ρ) : Console ρ :=
  { c with machine := c.machine.tick.fetch }

variable [WordSource ρ]

/-- What a step can do: `Step c pad d events` is a step from `c` to `d` with the keys of `pad` that
tells `events`. -/
inductive Step (c : Console ρ) (pad : Keypad) : Console ρ → List Event → Prop where
  /-- The awaited key is still missing. -/
  | waiting {x : UInt8} (hmode : c.machine.mode = .awaitingKey x)
      (hpad : pad.firstPressed = none) : Step c pad c.ticked []
  /-- The awaited key has come. -/
  | resumed {x : UInt8} {r : Machine.Register} {key : Key}
      (hmode : c.machine.mode = .awaitingKey x) (hpad : pad.firstPressed = some key)
      (hr : Machine.register x = .ok r) :
      Step c pad
        { c with
          machine := { c.machine.tick.setV r key.val.toUInt8 with mode := .running } }
        [.keyStored key x]
  /-- The word at the program counter encodes nothing. -/
  | unrecognised (hmode : c.machine.mode = .running)
      (hdecode : Instruction.decode c.machine.peek = none) :
      Step c pad c.fetched [.unrecognised c.machine.pc c.machine.peek]
  /-- The word at the program counter encodes an instruction. -/
  | executed {ins : Instruction} {d : Console ρ} {events : List Event}
      (hmode : c.machine.mode = .running)
      (hdecode : Instruction.decode c.machine.peek = some ins)
      (hexec : c.fetched.execute pad ins = .ok (d, events)) :
      Step c pad d (.executing c.machine.pc c.machine.peek ins :: events)

theorem step_of_unrecognised {c : Console ρ} (hmode : c.machine.mode = .running)
    (hdecode : Instruction.decode c.machine.peek = none) (pad : Keypad) :
    c.step pad = .ok (c.fetched, [.unrecognised c.machine.pc c.machine.peek]) := by
  have htick : c.machine.tick.mode = .running := hmode
  simp only [step, htick, cycle, Machine.peek_tick, hdecode]
  rfl

theorem step_of_decoded {c : Console ρ} {ins : Instruction} (hmode : c.machine.mode = .running)
    (hdecode : Instruction.decode c.machine.peek = some ins) (pad : Keypad) :
    c.step pad = (c.fetched.execute pad ins).map fun r =>
      (r.1, .executing c.machine.pc c.machine.peek ins :: r.2) := by
  have htick : c.machine.tick.mode = .running := hmode
  simp only [step, htick, cycle, Machine.peek_tick, hdecode]
  show (c.fetched.execute pad ins >>= fun r => .ok _) = _
  cases c.fetched.execute pad ins <;> rfl

theorem step_of_awaiting {c : Console ρ} {x : UInt8} (hmode : c.machine.mode = .awaitingKey x)
    (pad : Keypad) : c.step pad = c.ticked.continueWait pad x := by
  have htick : c.machine.tick.mode = .awaitingKey x := hmode
  simp only [step, htick]
  rfl

/-- The steps that come to an outcome are exactly those of the four cases. -/
theorem step_eq_ok_iff {c d : Console ρ} {pad : Keypad} {events : List Event} :
    c.step pad = .ok (d, events) ↔ Step c pad d events := by
  constructor
  · -- follow the step: its mode, then the word or the key that it finds
    intro h
    cases hmode : c.machine.mode with
    | running =>
      cases hdecode : Instruction.decode c.machine.peek with
      | none =>
        rw [step_of_unrecognised hmode hdecode] at h
        cases h
        exact .unrecognised hmode hdecode
      | some ins =>
        rw [step_of_decoded hmode hdecode] at h
        cases hexec : c.fetched.execute pad ins with
        | error fault => simp [hexec, Except.map] at h
        | ok r =>
          simp only [hexec, Except.map] at h
          cases h
          exact .executed hmode hdecode hexec
    | awaitingKey x =>
      rw [step_of_awaiting hmode] at h
      unfold continueWait at h
      cases hpad : pad.firstPressed with
      | none =>
        simp only [hpad] at h
        cases h
        exact .waiting hmode hpad
      | some key =>
        simp only [hpad] at h
        cases hr : Machine.register x with
        | error fault => simp [hr, bind, Except.bind] at h
        | ok r =>
          simp only [hr] at h
          cases h
          exact .resumed hmode hpad hr
  · intro h
    cases h with
    | waiting hmode hpad =>
      rw [step_of_awaiting hmode]
      simp only [continueWait, hpad]
      rfl
    | resumed hmode hpad hr =>
      rw [step_of_awaiting hmode]
      simp only [continueWait, hpad, hr]
      rfl
    | unrecognised hmode hdecode => exact step_of_unrecognised hmode hdecode pad
    | executed hmode hdecode hexec =>
      rw [step_of_decoded hmode hdecode, hexec]
      rfl

/-! ## Endless runs -/

/-- An endless run: the console is `s k` after `k` steps, and the keys of `pads k` are down at the
step that follows. -/
def IsCourse (s : Nat → Console ρ) (pads : Nat → Keypad) : Prop :=
  ∀ k, ∃ events, (s k).step (pads k) = .ok (s (k + 1), events)

/-- An endless run is at any time where the run of the steps made so far has come to. -/
theorem IsCourse.run_eq {s : Nat → Console ρ} {pads : Nat → Keypad} (hs : IsCourse s pads)
    (n : Nat) : ∃ told, (s 0).run ((List.range n).map pads) = .ok (s n, told) := by
  induction n with
  | zero => exact ⟨#[], rfl⟩
  | succ n ih =>
    rcases ih with ⟨past, hrun⟩
    rcases hs n with ⟨events, hstep⟩
    refine ⟨past ++ events.toArray, ?_⟩
    unfold run at hrun ⊢
    rw [List.range_succ, List.map_append, List.foldlM_append, hrun]
    show ((stepAfter (s n, past) (pads n)) >>= fun r => pure r) = _
    simp only [stepAfter, hstep]
    rfl

end Console

end Chip8VM
