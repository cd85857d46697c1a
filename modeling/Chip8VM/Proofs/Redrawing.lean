import Chip8VM.Proofs.Indifference

/-!
# Redrawing

When there is news on the screen. Steps raise the news exactly when they execute an instruction that
renders the frame, even if no pixel changes, and nothing else that they do depends on whether
earlier news was taken.

* `execute_withNews`, `step_withNews`: an instruction, or a step, does the same whether or not the
  news was taken before it.
* `step_tellRedrawing`: what a step tells shows whether its instruction renders the frame.
-/

namespace Chip8VM

/-- Whether an instruction renders the frame. -/
def Instruction.redraws : Instruction → Bool
  | .cls | .draw .. => true
  | _ => false

/-- Nothing renders the frame without touching the screen. -/
theorem Instruction.redraws_eq_false {ins : Instruction} (h : ins.touches ≠ some .screen) :
    ins.redraws = false := by
  cases ins with
  | cls | draw x y n => exact absurd rfl h
  | _ => rfl

/-- The instruction that an event tells of. -/
def Event.executed? : Event → Option Instruction
  | .executing _ _ ins => some ins
  | _ => none

/-- Whether a step that tells these events executed an instruction that renders the frame. -/
def Event.tellRedrawing (told : List Event) : Bool :=
  (told.findSome? Event.executed?).any Instruction.redraws

namespace Console

variable {ρ : Type}

/-- The console with or without news on its screen. -/
def withNews (c : Console ρ) (isNew : Bool) : Console ρ :=
  { c with screen := { c.screen with isNew } }

@[simp] theorem withNews_machine (c : Console ρ) (b : Bool) :
    (c.withNews b).machine = c.machine := rfl

@[simp] theorem withNews_withNews (c : Console ρ) (a b : Bool) :
    (c.withNews a).withNews b = c.withNews b := rfl

theorem continueWait_withNews (c : Console ρ) (b : Bool) (pad : Keypad) (x : UInt8) :
    (c.withNews b).continueWait pad x =
      (c.continueWait pad x).map fun r => (r.1.withNews b, r.2) := by
  unfold continueWait
  cases pad.firstPressed with
  | none => rfl
  | some key => cases Machine.register x <;> rfl

variable [WordSource ρ]

/-- An instruction does the same whether or not the news was taken before it. -/
theorem execute_withNews (c : Console ρ) (b : Bool) (pad : Keypad) (ins : Instruction) :
    (c.withNews b).execute pad ins =
      (c.execute pad ins).map fun r => (r.1.withNews (ins.redraws || b), r.2) := by
  by_cases hscreen : ins.touches = some .screen
  · -- what touches the screen raises the news on both sides
    rcases Instruction.of_touches_screen hscreen with rfl | ⟨x, y, n, rfl⟩
    · rfl
    · simp only [execute]
      cases Machine.register x <;> cases Machine.register y <;> rfl
  by_cases hrandom : ins.touches = some .random
  · rcases Instruction.of_touches_random hrandom with ⟨x, kk, rfl⟩
    rw [execute_random, execute_random]
    cases Machine.register x <;> rfl
  · rcases exists_execute_eq pad hscreen hrandom with ⟨f, hf⟩
    rw [hf, hf, withNews_machine, Instruction.redraws_eq_false hscreen]
    cases f c.machine <;> rfl

/-- A step does the same whether or not the news was taken before it, and raises the news exactly if
it executes an instruction that renders the frame. -/
theorem step_withNews (c : Console ρ) (b : Bool) (pad : Keypad) :
    (c.withNews b).step pad =
      (c.step pad).map fun r => (r.1.withNews (Event.tellRedrawing r.2 || b), r.2) := by
  cases hmode : c.machine.mode with
  | running =>
    cases hdecode : Instruction.decode c.machine.peek with
    | none =>
      rw [step_of_unrecognised hmode hdecode,
        step_of_unrecognised (c := c.withNews b) hmode hdecode]
      rfl
    | some ins =>
      have hexec := execute_withNews c.fetched b pad ins
      rw [step_of_decoded hmode hdecode, step_of_decoded (c := c.withNews b) hmode hdecode]
      show ((c.fetched.withNews b).execute pad ins).map _ = _
      rw [hexec]
      cases c.fetched.execute pad ins <;> rfl
  | awaitingKey x =>
    have hwait := continueWait_withNews c.ticked b pad x
    rw [step_of_awaiting hmode, step_of_awaiting (c := c.withNews b) hmode]
    show (c.ticked.withNews b).continueWait pad x = _
    rw [hwait]
    -- neither waiting nor the key that ends it renders anything
    unfold continueWait
    cases pad.firstPressed with
    | none => rfl
    | some key => cases Machine.register x <;> rfl

/-- What a step tells shows whether the instruction that it executes renders the frame. -/
theorem step_tellRedrawing {c d : Console ρ} {pad : Keypad} {told : List Event}
    (h : c.step pad = .ok (d, told)) :
    Event.tellRedrawing told = c.machine.upcoming?.any Instruction.redraws := by
  cases step_eq_ok_iff.1 h with
  | waiting hmode | resumed hmode => simp [Machine.upcoming?, hmode, Event.tellRedrawing,
      Event.executed?]
  | unrecognised hmode hdecode => simp [Machine.upcoming?, hmode, hdecode, Event.tellRedrawing,
      Event.executed?]
  | executed hmode hdecode hexec =>
    rw [Machine.upcoming?_eq_some_iff.2 ⟨hmode, hdecode⟩]
    rfl

end Console

end Chip8VM
