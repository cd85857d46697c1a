import Chip8VM.Proofs.Bench
import Chip8VM.Proofs.Indifference

/-!
# The workshop

A bench on which single instructions may also be executed by hand, between the steps and without
being fetched. They act on the machine and the screen of the console, but take their random words
from another source.

* `Bench.carryOut`: a sequence of operations and of instructions executed by hand.
* `carryOut_succeeds`: it goes through if the instructions are such as opcodes encode.
-/

namespace Chip8VM.Bench

variable {σ : Type}

/-- What can be done in a workshop. -/
inductive Intervention (σ : Type) where
  /-- An operation on the bench. -/
  | operate (operation : Operation)
  /-- Executes an instruction, with a source of random words of its own. -/
  | execute (instruction : Instruction) (random : σ)
deriving Repr

/-- An intervention that executes nothing by hand but what opcodes encode. -/
def Intervention.IsEncoded : Intervention σ → Prop
  | .operate _ => True
  | .execute instruction _ => ∃ op, Instruction.decode op = some instruction

variable [WordSource σ]

/-- The bench after an intervention. -/
def intervene (b : Bench) : Intervention σ → Except Fault Bench
  | .operate operation => b.apply operation
  | .execute instruction random => do
    let (console, events) ← (b.console.withRandom random).execute b.keypad instruction
    return { b with
      console := console.withRandom b.console.random, journal := b.journal ++ events }

/-- The bench after a sequence of interventions. -/
def carryOut (b : Bench) (interventions : List (Intervention σ)) : Except Fault Bench :=
  interventions.foldlM intervene b

/-- A sequence is its first intervention followed by the others. -/
theorem carryOut_cons (b : Bench) (intervention : Intervention σ)
    (rest : List (Intervention σ)) :
    b.carryOut (intervention :: rest) = b.intervene intervention >>= fun b => b.carryOut rest :=
  rfl

theorem carryOut_append (b : Bench) (first rest : List (Intervention σ)) :
    b.carryOut (first ++ rest) = b.carryOut first >>= fun b => b.carryOut rest :=
  List.foldlM_append

/-! ## What an intervention does -/

/-- The bench after a load of an image that fits. -/
def installed (b : Bench) (image : List UInt8) : Bench :=
  { b with
    console := { b.console with
      machine := { b.console.machine with
        memory := b.console.machine.memory.install image.toArray } }
    journal := b.journal ++ [.programLoaded image.length] }

/-- A load installs its image or changes nothing. -/
theorem afterLoading_load (b : Bench) (image : List UInt8) :
    b.afterLoading (b.console.machine.load image) = b ∨
      b.afterLoading (b.console.machine.load image) = b.installed image := by
  unfold Machine.load
  split
  · exact .inl rfl
  · split
    · exact .inl rfl
    · exact .inr rfl

/-- A load from a reader installs an image or changes nothing. -/
theorem afterLoading_loadFrom (b : Bench) (reader : List Delivery) :
    b.afterLoading (b.console.machine.loadFrom reader) = b ∨
      ∃ image, b.afterLoading (b.console.machine.loadFrom reader) = b.installed image := by
  unfold Machine.loadFrom
  split
  · rename_i image _
    rcases b.afterLoading_load image with hsame | hinstalled
    · exact .inl hsame
    · exact .inr ⟨image, hinstalled⟩
  · exact .inl rfl

theorem apply_step_eq_ok {b b' : Bench} : b.apply .step = .ok b' ↔
    ∃ console events, b.console.step b.keypad = .ok (console, events) ∧
      b' = { b with console, journal := b.journal ++ events } := by
  simp only [apply, bind_eq_ok, pure_eq_ok, Prod.exists]
  constructor
  · rintro ⟨console, events, hstep, rfl⟩
    exact ⟨console, events, hstep, rfl⟩
  · rintro ⟨console, events, hstep, rfl⟩
    exact ⟨console, events, hstep, rfl⟩

theorem intervene_execute_eq_ok {b b' : Bench} {ins : Instruction} {random : σ} :
    b.intervene (.execute ins random) = .ok b' ↔
      ∃ console events, (b.console.withRandom random).execute b.keypad ins = .ok (console, events) ∧
        b' = { b with
          console := console.withRandom b.console.random, journal := b.journal ++ events } := by
  simp only [intervene, bind_eq_ok, pure_eq_ok, Prod.exists]
  constructor
  · rintro ⟨console, events, hexec, rfl⟩
    exact ⟨console, events, hexec, rfl⟩
  · rintro ⟨console, events, hexec, rfl⟩
    exact ⟨console, events, hexec, rfl⟩

/-- An intervention on a bench with a sound machine goes through and keeps the machine sound, unless
it executes what no opcode encodes. -/
theorem intervene_sound {b : Bench} (hb : b.console.machine.Sound)
    {intervention : Intervention σ} (h : intervention.IsEncoded) :
    ∃ b', b.intervene intervention = .ok b' ∧ b'.console.machine.Sound := by
  cases intervention with
  | operate operation => exact apply_sound hb operation
  | execute ins random =>
    rcases h with ⟨op, hdecode⟩
    have hsp : (b.console.withRandom random).machine.sp.toNat ≤ 16 := hb.sp_le
    rcases Console.execute_decoded_succeeds _ b.keypad hdecode hsp with ⟨⟨c, events⟩, hexec⟩
    have hsound : c.machine.Sound :=
      Console.execute_sound (Instruction.decode_inRange hdecode).registers hexec hb
    exact ⟨_, intervene_execute_eq_ok.2 ⟨c, events, hexec, rfl⟩, hsound⟩

/-- Every sequence of interventions on a bench with a sound machine goes through, unless it executes
what no opcode encodes. -/
theorem carryOut_succeeds {b : Bench} (hb : b.console.machine.Sound)
    {interventions : List (Intervention σ)} (h : ∀ i ∈ interventions, i.IsEncoded) :
    ∃ b', b.carryOut interventions = .ok b' ∧ b'.console.machine.Sound := by
  induction interventions generalizing b with
  | nil => exact ⟨b, rfl, hb⟩
  | cons intervention rest ih =>
    rcases intervene_sound hb (h intervention (by simp)) with ⟨b₁, hfirst, hb₁⟩
    rcases ih hb₁ fun i hi => h i (by simp [hi]) with ⟨b₂, hrest, hb₂⟩
    refine ⟨b₂, ?_, hb₂⟩
    rw [carryOut_cons, hfirst]
    exact hrest

end Chip8VM.Bench
