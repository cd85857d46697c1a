import Chip8VM.Proofs.Workshop

/-!
# Random words

The words of a seed are dealt out in their order, one to each random number that a step asks for.
Nothing else takes a word: no other instruction, no wait, no load and nothing that is executed by
hand.

* `Console.step_roll`: what a step does that asks for a random number.
* `Bench.rolls`: how many such steps there are in a sequence of interventions.
* `carryOut_random`: the sequence takes that many words.
* `words_dealt`: so the random number asked for in the `j`-th of these steps comes from the `j`-th
  word of the seed, and before the first of them the seed makes no difference.
-/

namespace Chip8VM

/-- The number of random words that the next step asks for: one or none. -/
def Machine.rolls (m : Machine) : Nat :=
  match m.upcoming? with
  | some (.random _ _) => 1
  | _ => 0

theorem Machine.rolls_of_roll {m : Machine} {x kk : UInt8}
    (h : m.upcoming? = some (.random x kk)) : m.rolls = 1 := by
  simp only [rolls, h]

theorem Machine.rolls_of_no_roll {m : Machine}
    (h : ∀ x kk, m.upcoming? ≠ some (.random x kk)) : m.rolls = 0 := by
  unfold rolls
  split
  · exact absurd ‹_› (h _ _)
  · rfl

namespace Console

variable {ρ : Type} [WordSource ρ]

/-- A step that asks for a random number gets one. -/
theorem step_roll {c : Console ρ} {x kk : UInt8}
    (h : c.machine.upcoming? = some (.random x kk)) (pad : Keypad) :
    ∃ r : Machine.Register, r.val = x.toNat ∧
      c.step pad = .ok (c.fetched.drawRandom r kk,
        [.executing c.machine.pc c.machine.peek (.random x kk)]) := by
  rcases Machine.upcoming?_eq_some_iff.1 h with ⟨hmode, hdecode⟩
  have hx : x.toNat < 16 :=
    (Instruction.decode_inRange hdecode).registers x (by simp [Instruction.registers])
  refine ⟨⟨x.toNat, hx⟩, rfl, ?_⟩
  rw [step_of_decoded hmode hdecode, execute_random, Machine.register_of_lt hx]
  rfl

theorem getV_drawRandom (c : Console ChaCha) (r : Machine.Register) (kk : UInt8) :
    (c.drawRandom r kk).machine.getV r =
      (ChaCha.wordAt c.random.key c.random.position).toUInt8 &&& kk := by
  show (c.machine.setV r _).getV r = _
  rw [Machine.getV_setV, if_pos rfl]

/-- A step that asks for no random number leaves the words alone. -/
theorem step_random {c d : Console ρ} {pad : Keypad} {events : List Event}
    (h : ∀ x kk, c.machine.upcoming? ≠ some (.random x kk))
    (hstep : c.step pad = .ok (d, events)) : d.random = c.random := by
  have hsame := step_withRandom h c.random pad
  change c.step pad = _ at hsame
  rw [hstep] at hsame
  have hd : d = d.withRandom c.random := congrArg Prod.fst (Except.ok.inj hsame)
  rw [hd]
  rfl

end Console

namespace Bench

variable {σ : Type}

/-- The number of random words that an intervention asks for in a step. -/
def rollsIn (b : Bench) : Intervention σ → Nat
  | .operate .step => b.console.machine.rolls
  | _ => 0

theorem rollsIn_step (b : Bench) :
    b.rollsIn (.operate .step : Intervention σ) = b.console.machine.rolls := rfl

/-- The bench with another source of random words. -/
def withRandom (b : Bench) (random : ChaCha) : Bench :=
  { b with console := { b.console with random } }

variable [WordSource σ]

/-- The number of steps that ask for a random number while a sequence of interventions is carried
out. -/
def rolls (b : Bench) : List (Intervention σ) → Nat
  | [] => 0
  | intervention :: rest =>
    b.rollsIn intervention +
      match b.intervene intervention with
      | .ok b' => b'.rolls rest
      | .error _ => 0

theorem rolls_singleton (b : Bench) (intervention : Intervention σ) :
    b.rolls [intervention] = b.rollsIn intervention := by
  unfold rolls
  cases b.intervene intervention <;> rfl

theorem rolls_append {b b' : Bench} {first : List (Intervention σ)}
    (h : b.carryOut first = .ok b') (rest : List (Intervention σ)) :
    b.rolls (first ++ rest) = b.rolls first + b'.rolls rest := by
  induction first generalizing b with
  | nil =>
    cases h
    simp [rolls]
  | cons intervention first ih =>
    rcases bind_eq_ok.1 h with ⟨b₁, hone, hfirst⟩
    simp only [List.cons_append, rolls, hone, ih hfirst, Nat.add_assoc]

/-! ## One intervention -/

/-- An intervention takes as many words as it has steps that ask for one. -/
theorem intervene_random {b b' : Bench} {intervention : Intervention σ}
    (h : b.intervene intervention = .ok b') :
    b'.console.random =
      ⟨b.console.random.key, b.console.random.position + b.rollsIn intervention⟩ := by
  cases intervention with
  | execute ins random =>
    -- the words of the bench are put aside while the instruction takes its own
    rcases intervene_execute_eq_ok.1 h with ⟨console, events, -, rfl⟩
    rfl
  | operate operation =>
    cases operation with
    | load image =>
      cases h
      cases b.console.machine.load image <;> rfl
    | loadFrom reader =>
      cases h
      cases b.console.machine.loadFrom reader <;> rfl
    | keypad operation | screen operation =>
      cases h
      rfl
    | step =>
      rcases apply_step_eq_ok.1 h with ⟨console, events, hstep, rfl⟩
      by_cases hroll : ∃ x kk, b.console.machine.upcoming? = some (.random x kk)
      · rcases hroll with ⟨x, kk, hroll⟩
        rcases Console.step_roll hroll b.keypad with ⟨r, -, hdraw⟩
        rw [hdraw] at hstep
        cases hstep
        rw [rollsIn_step, Machine.rolls_of_roll hroll]
        rfl
      · have hnone : ∀ x kk, b.console.machine.upcoming? ≠ some (.random x kk) :=
          fun x kk he => hroll ⟨x, kk, he⟩
        rw [rollsIn_step, Machine.rolls_of_no_roll hnone]
        exact Console.step_random hnone hstep

/-- An intervention without a step that asks for a random number does the same with any words. -/
theorem intervene_withRandom {b : Bench} {intervention : Intervention σ}
    (h : b.rollsIn intervention = 0) (random : ChaCha) :
    (b.withRandom random).intervene intervention =
      (b.intervene intervention).map fun b' => b'.withRandom random := by
  cases intervention with
  | execute ins own =>
    simp only [intervene]
    show ((b.console.withRandom own).execute b.keypad ins >>= _) = _
    cases (b.console.withRandom own).execute b.keypad ins <;> rfl
  | operate operation =>
    cases operation with
    | load image =>
      simp only [intervene, apply]
      show Except.ok ((b.withRandom random).afterLoading (b.console.machine.load image)) = _
      cases b.console.machine.load image <;> rfl
    | loadFrom reader =>
      simp only [intervene, apply]
      show Except.ok ((b.withRandom random).afterLoading (b.console.machine.loadFrom reader)) = _
      cases b.console.machine.loadFrom reader <;> rfl
    | keypad operation | screen operation => rfl
    | step =>
      have hnone : ∀ x kk, b.console.machine.upcoming? ≠ some (.random x kk) := by
        intro x kk hroll
        rw [rollsIn_step, Machine.rolls_of_roll hroll] at h
        cases h
      simp only [intervene, apply]
      show ((b.console.withRandom random).step b.keypad >>= _) = _
      rw [Console.step_withRandom hnone random b.keypad]
      cases b.console.step b.keypad <;> rfl

/-! ## Sequences of interventions -/

/-- A sequence of interventions takes as many words as there are steps in it that ask for one. -/
theorem carryOut_random {b b' : Bench} {interventions : List (Intervention σ)}
    (h : b.carryOut interventions = .ok b') :
    b'.console.random =
      ⟨b.console.random.key, b.console.random.position + b.rolls interventions⟩ := by
  induction interventions generalizing b with
  | nil =>
    cases h
    rfl
  | cons intervention rest ih =>
    rcases bind_eq_ok.1 h with ⟨b₁, hfirst, hrest⟩
    have hone := intervene_random hfirst
    rw [ih hrest, hone]
    simp only [rolls, hfirst, Nat.add_assoc]

/-- A sequence of interventions without a step that asks for a random number does the same with any
words. -/
theorem carryOut_withRandom {b : Bench} {interventions : List (Intervention σ)}
    (h : b.rolls interventions = 0) (random : ChaCha) :
    (b.withRandom random).carryOut interventions =
      (b.carryOut interventions).map fun b' => b'.withRandom random := by
  induction interventions generalizing b with
  | nil => rfl
  | cons intervention rest ih =>
    unfold rolls at h
    have hfirst : b.rollsIn intervention = 0 := by omega
    rw [carryOut_cons, carryOut_cons, intervene_withRandom hfirst]
    cases hintervene : b.intervene intervention with
    | error fault => rfl
    | ok b₁ =>
      have hrest : b₁.rolls rest = 0 := by
        rw [hintervene] at h
        simp only at h
        omega
      exact ih hrest

/-- Random words are dealt out one to each step that asks for a random number, and to nothing else.
After any sequence of interventions at power-on as many words have been taken as there were such
steps, say `j`; if the next step asks for a random number, it sets its register to the low byte of
word `j` of the seed, restricted to the bits it names. As long as there was no such step, the seed
makes no difference to anything but the words. -/
theorem words_dealt (seed : UInt64) (interventions : List (Intervention σ)) :
    ((∀ i ∈ interventions, i.IsEncoded) → ∃ b, (ofSeed seed).carryOut interventions = .ok b) ∧
    (∀ b j, (ofSeed seed).carryOut interventions = .ok b →
      (ofSeed seed).rolls interventions = j →
      b.console.random = ⟨ChaCha.keyOfSeed seed, j⟩ ∧
      ∀ x kk, b.console.machine.upcoming? = some (.random x kk) →
        ∃ (r : Machine.Register) (b' : Bench), r.val = x.toNat ∧ b.apply .step = .ok b' ∧
          b'.console.machine.getV r =
            ((ChaCha.block (ChaCha.keyOfSeed seed) (j / 16)).get (Fin.ofNat 16 j)).toUInt8 &&& kk) ∧
    ((ofSeed seed).rolls interventions = 0 → ∀ seed',
      (ofSeed seed').carryOut interventions =
        ((ofSeed seed).carryOut interventions).map fun b =>
          { b with console := { b.console with random := ChaCha.ofSeed seed' } }) := by
  refine ⟨?_, ?_, ?_⟩
  · intro hencoded
    have hsound : (ofSeed seed).console.machine.Sound := Machine.fresh_sound
    rcases carryOut_succeeds hsound hencoded with ⟨b, hcarry, -⟩
    exact ⟨b, hcarry⟩
  · intro b j hcarry hj
    have hrandom : b.console.random = ⟨ChaCha.keyOfSeed seed, j⟩ := by
      rw [carryOut_random hcarry, hj]
      simp [ofSeed, Console.ofSeed, ChaCha.ofSeed]
    refine ⟨hrandom, ?_⟩
    intro x kk hroll
    rcases Console.step_roll hroll b.keypad with ⟨r, hr, hstep⟩
    refine ⟨r, _, hr, apply_step_eq_ok.2 ⟨_, _, hstep, rfl⟩, ?_⟩
    show (b.console.fetched.drawRandom r kk).machine.getV r = _
    rw [Console.getV_drawRandom]
    show (ChaCha.wordAt b.console.random.key b.console.random.position).toUInt8 &&& kk = _
    rw [hrandom]
    rfl
  · intro hnone seed'
    exact carryOut_withRandom hnone (ChaCha.ofSeed seed')

/-- Loads a program of two random numbers and executes a third by hand. -/
def dealing : List (Intervention CyclicWords) :=
  [.operate (.load [0xC5, 0xFF, 0xCF, 0x0F]), .execute (.random 3 0xFF) ⟨#[9], 0⟩]

/-- The bench that is left by them. -/
def dealt : Bench where
  console :=
    { machine := { Machine.fresh with
        v := Machine.fresh.v.set 3 9
        memory := Memory.fresh.install #[0xC5, 0xFF, 0xCF, 0x0F] }
      screen := .fresh
      random := .ofSeed 7 }
  keypad := .released
  journal := [.programLoaded 4]

theorem carryOut_dealing : (ofSeed 7).carryOut dealing = .ok dealt := rfl

theorem rolls_dealing : (ofSeed 7).rolls dealing = 0 := rfl

theorem upcoming?_dealt : dealt.console.machine.upcoming? = some (.random 5 0xFF) := by
  have hpeek : dealt.console.machine.peek = ⟨0xC5FF⟩ := by
    simp only [Machine.peek, dealt, Memory.read_install]
    decide +kernel
  refine Machine.upcoming?_eq_some_iff.2 ⟨rfl, ?_⟩
  rw [hpeek]
  rfl

theorem apply_step_dealt :
    ∃ b, dealt.apply .step = .ok b ∧ b.console.machine.upcoming? = some (.random 15 0x0F) := by
  rcases Console.step_roll upcoming?_dealt dealt.keypad with ⟨r, -, hstep⟩
  have hpeek : (dealt.console.fetched.drawRandom r 0xFF).machine.peek = ⟨0xCF0F⟩ := by
    show Opcode.ofBytes (dealt.console.machine.memory.read 0x202)
      (dealt.console.machine.memory.read 0x203) = _
    simp only [dealt, Memory.read_install]
    decide +kernel
  refine ⟨_, apply_step_eq_ok.2 ⟨_, _, hstep, rfl⟩, Machine.upcoming?_eq_some_iff.2 ⟨rfl, ?_⟩⟩
  rw [hpeek]
  rfl

/-- The random number asked for by hand takes no word, so the two that the program asks for come
from the first two words of the seed, the second one in the flag register. -/
theorem dealing_deals :
    (∀ i ∈ dealing ++ [.operate .step], i.IsEncoded) ∧
    (∃ b b', (ofSeed 7).carryOut (dealing ++ [.operate .step]) = .ok b ∧
      (ofSeed 7).rolls (dealing ++ [.operate .step]) = 1 ∧
      b.console.machine.upcoming? = some (.random 15 0x0F) ∧ b.apply .step = .ok b' ∧
      b'.console.machine.getV 15 = 9) ∧
    (ofSeed 7).rolls dealing = 0 ∧
    (ofSeed 8).carryOut dealing = ((ofSeed 7).carryOut dealing).map fun b =>
      { b with console := { b.console with random := .ofSeed 8 } } := by
  have hencoded : ∀ i ∈ dealing ++ [.operate .step], i.IsEncoded := by
    intro i hi
    simp only [dealing, List.cons_append, List.nil_append, List.mem_cons, List.not_mem_nil,
      or_false] at hi
    rcases hi with rfl | rfl | rfl
    · trivial
    · exact ⟨⟨0xC3FF⟩, rfl⟩
    · trivial
  have hone : (ofSeed 7).rolls (dealing ++ [.operate .step]) = 1 := by
    rw [rolls_append carryOut_dealing, rolls_dealing, rolls_singleton, Nat.zero_add, rollsIn_step]
    exact Machine.rolls_of_roll upcoming?_dealt
  rcases words_dealt 7 (dealing ++ [.operate .step]) with ⟨hsucceeds, hdealt, -⟩
  rcases hsucceeds hencoded with ⟨b, hcarry⟩
  have hroll : b.console.machine.upcoming? = some (.random 15 0x0F) := by
    rcases apply_step_dealt with ⟨b₁, hstep, hroll⟩
    rw [carryOut_append, carryOut_dealing] at hcarry
    simp only [bind_eq_ok, Except.ok.injEq, carryOut_cons] at hcarry
    rcases hcarry with ⟨_, rfl, b₂, hthird, hend⟩
    have hsame : b₁ = b₂ := Except.ok.inj (hstep.symm.trans hthird)
    cases hend
    exact hsame ▸ hroll
  rcases (hdealt b 1 hcarry hone).2 15 0x0F hroll with ⟨r, b', hr, happly, hvalue⟩
  have hflag : b'.console.machine.getV 15 = 9 := by
    rw [show (15 : Machine.Register) = r from Fin.ext hr.symm, hvalue]
    decide +kernel
  exact ⟨hencoded, ⟨b, b', hcarry, hone, hroll, happly, hflag⟩, rolls_dealing,
    (words_dealt 7 dealing).2.2 rolls_dealing 8⟩

end Bench

end Chip8VM
