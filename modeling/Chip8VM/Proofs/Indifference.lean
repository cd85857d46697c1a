import Chip8VM.Proofs.Footprint
import Chip8VM.Proofs.Stepping

/-!
# Indifference

What a step does not look at. Few instructions ask for the keys that are down, only drawing asks for
the pixels, and only one instruction asks for a random word. All the others do the same to any two
consoles that have the same machine.

* `execute_transfer`, `exists_execute_eq`: an instruction that touches neither the screen nor the
  source of random words does the same to the machines of any two consoles.
* `step_congr_keypad`, `step_withScreen`, `step_withRandom`: a step with another keypad, another
  screen or another source of random words.
-/

namespace Chip8VM

/-- Whether an instruction asks which keys are down. -/
def Instruction.asksKeypad : Instruction → Bool
  | .skipKeyDown _ | .skipKeyUp _ | .awaitKey _ => true
  | _ => false

/-- Only one instruction touches the source of random words. -/
theorem Instruction.of_touches_random {ins : Instruction} (h : ins.touches = some .random) :
    ∃ x kk, ins = .random x kk := by
  cases ins <;> cases h
  exact ⟨_, _, rfl⟩

namespace Console

variable {ρ σ : Type}

/-- The console with another screen. -/
def withScreen (c : Console ρ) (screen : Screen) : Console ρ :=
  { c with screen }

/-- The console with another source of random words. -/
def withRandom (c : Console ρ) (random : σ) : Console σ :=
  ⟨c.machine, c.screen, random⟩

/-- What an outcome tells apart from the screen. -/
def Outcome.offScreen (r : Outcome ρ) : Machine × ρ × List Event :=
  (r.1.machine, r.1.random, r.2)

@[simp] theorem withScreen_machine (c : Console ρ) (screen : Screen) :
    (c.withScreen screen).machine = c.machine := rfl

@[simp] theorem withRandom_machine (c : Console ρ) (random : σ) :
    (c.withRandom random).machine = c.machine := rfl

/-! ## Instructions -/

variable [WordSource ρ] [WordSource σ]

theorem execute_congr_keypad (c : Console ρ) (pad pad' : Keypad) {ins : Instruction}
    (h : ins.asksKeypad = false) : c.execute pad ins = c.execute pad' ins := by
  cases ins with
  | skipKeyDown x | skipKeyUp x | awaitKey x => cases h
  | _ => rfl

/-- An instruction that touches neither the screen nor the source of random words looks at the
machine alone, so it does the same to the machine of every console. -/
theorem execute_transfer {c : Console ρ} {e : Console σ} (h : e.machine = c.machine)
    (pad : Keypad) {ins : Instruction} (hscreen : ins.touches ≠ some .screen)
    (hrandom : ins.touches ≠ some .random) :
    e.execute pad ins =
      (c.execute pad ins).map fun r => ({ e with machine := r.1.machine }, r.2) := by
  obtain ⟨m, screen, random⟩ := c
  obtain ⟨_, screen', random'⟩ := e
  subst h
  cases ins <;> simp only [execute]
  case cls | draw => exact absurd rfl hscreen
  case random => exact absurd rfl hrandom
  case sys | jump | loadIndex => rfl
  case ret => cases Machine.ret _ <;> rfl
  case call addr => cases Machine.call _ addr <;> rfl
  case jumpOffset addr => cases Machine.jumpOffset _ addr <;> rfl
  case awaitKey x =>
    unfold awaitKey
    cases pad.firstPressed with
    | none => rfl
    | some key => cases Machine.register x <;> rfl
  case storeRegisters x | loadRegisters x => cases Machine.rangeEnd x <;> rfl
  case addReg x y =>
    cases Machine.register x with
    | error fault => rfl
    | ok r =>
      cases Machine.register y with
      | error fault => rfl
      | ok s =>
        simp only [Machine.addRegister_eq]
        rfl
  case loadGlyph x =>
    cases Machine.register x with
    | error fault => rfl
    | ok r =>
      simp only [Machine.pointAtGlyph_eq]
      rfl
  -- the others name one register or two and then change the machine
  case skipEqReg x y | skipNeReg x y | move x y | or x y | and x y | xor x y | sub x y | subN x y =>
    cases Machine.register x <;> cases Machine.register y <;> rfl
  case skipEqByte x _ | skipNeByte x _ | loadByte x _ | addByte x _ | shiftRight x | shiftLeft x |
      skipKeyDown x | skipKeyUp x | readDelay x | setDelay x | setSound x | addIndex x |
      storeBcd x =>
    cases Machine.register x <;> rfl

/-- So such an instruction is a function of the machine, the same for every console. -/
theorem exists_execute_eq (pad : Keypad) {ins : Instruction} (hscreen : ins.touches ≠ some .screen)
    (hrandom : ins.touches ≠ some .random) :
    ∃ f : Machine → Except Fault (Machine × List Event),
      ∀ (τ : Type) [WordSource τ] (c : Console τ),
        c.execute pad ins = (f c.machine).map fun r => ({ c with machine := r.1 }, r.2) := by
  let bare (m : Machine) : Console CyclicWords := ⟨m, .fresh, ⟨#[], 0⟩⟩
  refine ⟨fun m => ((bare m).execute pad ins).map fun r => (r.1.machine, r.2), ?_⟩
  intro τ _ c
  have hbare : c.machine = (bare c.machine).machine := rfl
  rw [execute_transfer hbare pad hscreen hrandom]
  dsimp only
  cases (bare c.machine).execute pad ins <;> rfl

theorem execute_random (c : Console ρ) (pad : Keypad) (x kk : UInt8) :
    c.execute pad (.random x kk) =
      (Machine.register x).map fun r => (c.drawRandom r kk, []) := by
  simp only [execute]
  cases Machine.register x <;> rfl

/-- Only drawing looks at the screen. -/
theorem execute_withScreen (c : Console ρ) (screen : Screen) (pad : Keypad) {ins : Instruction}
    (h : ∀ x y n, ins ≠ .draw x y n) :
    ((c.withScreen screen).execute pad ins).map Outcome.offScreen =
      (c.execute pad ins).map Outcome.offScreen := by
  by_cases hscreen : ins.touches = some .screen
  · rcases Instruction.of_touches_screen hscreen with rfl | ⟨x, y, n, rfl⟩
    · rfl
    · exact absurd rfl (h x y n)
  by_cases hrandom : ins.touches = some .random
  · rcases Instruction.of_touches_random hrandom with ⟨x, kk, rfl⟩
    rw [execute_random, execute_random]
    cases Machine.register x <;> rfl
  · rcases exists_execute_eq pad hscreen hrandom with ⟨f, hf⟩
    rw [hf, hf, withScreen_machine]
    cases f c.machine <;> rfl

/-- Only one instruction looks at the source of random words. -/
theorem execute_withRandom (c : Console ρ) (random : σ) (pad : Keypad) {ins : Instruction}
    (h : ∀ x kk, ins ≠ .random x kk) :
    (c.withRandom random).execute pad ins =
      (c.execute pad ins).map fun r => (r.1.withRandom random, r.2) := by
  by_cases hscreen : ins.touches = some .screen
  · rcases Instruction.of_touches_screen hscreen with rfl | ⟨x, y, n, rfl⟩
    · rfl
    · simp only [execute]
      cases Machine.register x <;> cases Machine.register y <;> rfl
  by_cases hrandom : ins.touches = some .random
  · rcases Instruction.of_touches_random hrandom with ⟨x, kk, rfl⟩
    exact absurd rfl (h x kk)
  · rcases exists_execute_eq pad hscreen hrandom with ⟨f, hf⟩
    rw [hf, hf, withRandom_machine]
    cases f c.machine <;> rfl

/-! ## Steps -/

/-- A step that fetches an instruction which does not ask for the keys is the same with any keys. -/
theorem step_congr_keypad {c : Console ρ} (hmode : c.machine.mode = .running)
    (h : ∀ ins, Instruction.decode c.machine.peek = some ins → ins.asksKeypad = false)
    (pad pad' : Keypad) : c.step pad = c.step pad' := by
  cases hdecode : Instruction.decode c.machine.peek with
  | none => rw [step_of_unrecognised hmode hdecode, step_of_unrecognised hmode hdecode]
  | some ins =>
    rw [step_of_decoded hmode hdecode, step_of_decoded hmode hdecode,
      execute_congr_keypad _ pad pad' (h ins hdecode)]

/-- A step that fetches anything but a drawing instruction does the same with any screen. -/
theorem step_withScreen {c : Console ρ} (hmode : c.machine.mode = .running)
    (h : ∀ x y n, Instruction.decode c.machine.peek ≠ some (.draw x y n)) (screen : Screen)
    (pad : Keypad) :
    ((c.withScreen screen).step pad).map Outcome.offScreen =
      (c.step pad).map Outcome.offScreen := by
  cases hdecode : Instruction.decode c.machine.peek with
  | none =>
    rw [step_of_unrecognised hmode hdecode,
      step_of_unrecognised (c := c.withScreen screen) hmode hdecode]
    rfl
  | some ins =>
    have hins : ∀ x y n, ins ≠ .draw x y n := fun x y n he => h x y n (he ▸ hdecode)
    rw [step_of_decoded hmode hdecode, step_of_decoded (c := c.withScreen screen) hmode hdecode]
    refine map_map_congr (p := Outcome.offScreen)
      (execute_withScreen c.fetched screen pad hins) fun r s hrs => ?_
    simp only [Outcome.offScreen, Prod.mk.injEq] at hrs ⊢
    exact ⟨hrs.1, hrs.2.1, congrArg _ hrs.2.2⟩

/-- A step that asks for no random word does the same with any source of them, and leaves it
alone. -/
theorem step_withRandom {c : Console ρ}
    (h : ∀ x kk, c.machine.upcoming? ≠ some (.random x kk)) (random : σ) (pad : Keypad) :
    (c.withRandom random).step pad =
      (c.step pad).map fun r => (r.1.withRandom random, r.2) := by
  cases hmode : c.machine.mode with
  | running =>
    cases hdecode : Instruction.decode c.machine.peek with
    | none =>
      rw [step_of_unrecognised hmode hdecode,
        step_of_unrecognised (c := c.withRandom random) hmode hdecode]
      rfl
    | some ins =>
      have hins : ∀ x kk, ins ≠ .random x kk := by
        rintro x kk rfl
        exact h x kk (Machine.upcoming?_eq_some_iff.2 ⟨hmode, hdecode⟩)
      rw [step_of_decoded hmode hdecode, step_of_decoded (c := c.withRandom random) hmode hdecode]
      show ((c.fetched.withRandom random).execute pad ins).map _ = _
      rw [execute_withRandom c.fetched random pad hins]
      cases c.fetched.execute pad ins <;> rfl
  | awaitingKey x =>
    rw [step_of_awaiting hmode, step_of_awaiting (c := c.withRandom random) hmode]
    -- a wait looks at the keys alone
    unfold continueWait
    cases pad.firstPressed with
    | none => rfl
    | some key => cases Machine.register x <;> rfl

end Console

end Chip8VM
