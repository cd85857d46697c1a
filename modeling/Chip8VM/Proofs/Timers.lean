import Chip8VM.Proofs.Safety

/-!
# Timers

Both timers count down by one at the beginning of every step, whatever the step goes on to do, and
stop at zero. For each of them there is one instruction that sets it to a register, behind the count
of its own step. So a timer shows what it was set to last, less the steps made since.

* `step_setter`, `step_timer`: a timer after a step that sets it and after one that does not.
* `course_timer`: steps that do not set a timer count it down.
* `Timer.Shows`: what a timer shows, told from the steps that set it.
* `timers_count_down`: the timers of a run show that, and so does a register that is set to one.
-/

namespace Chip8VM

/-- One of the two timers. -/
inductive Timer where
  | delay
  | sound
deriving DecidableEq, Repr

/-- The value of a timer. -/
def Machine.timer (m : Machine) : Timer → UInt8
  | .delay => m.delay
  | .sound => m.sound

namespace Timer

/-- The part of a console that a timer is. -/
def part : Timer → Part
  | .delay => .delay
  | .sound => .sound

/-- The instruction that sets a timer to the register with a given number. -/
def setter : Timer → UInt8 → Instruction
  | .delay => .setDelay
  | .sound => .setSound

variable {ρ : Type}

/-- What a timer shows after `n` steps of a run. It does not matter what is done to the other
one. -/
inductive Shows (t : Timer) (s : Nat → Console ρ) (n : Nat) : Nat → Prop where
  /-- No step has set the timer: it shows its first value less `n`. -/
  | unset (hunset : ∀ j < n, ∀ y, (s j).machine.upcoming? ≠ some (t.setter y)) :
      Shows t s n (((s 0).machine.timer t).toNat - n)
  /-- The last step that has set the timer set it to the register `x`, and `m` steps were made after
  it: the timer shows the value that the register had then, less `m`. -/
  | set {k m : Nat} {x : Machine.Register} (hn : k + 1 + m = n)
      (hset : (s k).machine.upcoming? = some (t.setter x.val.toUInt8))
      (hunset : ∀ j, k < j → j < n → ∀ y, (s j).machine.upcoming? ≠ some (t.setter y)) :
      Shows t s n (((s k).machine.getV x).toNat - m)

theorem toNat_timer_tick (t : Timer) (m : Machine) :
    (m.tick.timer t).toNat = (m.timer t).toNat - 1 := by
  cases t with
  | delay => exact Machine.toNat_countDown m.delay
  | sound => exact Machine.toNat_countDown m.sound

/-- Only its own instruction touches a timer. -/
theorem of_touches_part {t : Timer} {ins : Instruction} (h : ins.touches = some t.part) :
    ∃ y, ins = t.setter y := by
  cases t <;> cases ins <;> cases h <;> exact ⟨_, rfl⟩

/-- The register that an instruction sets a timer to exists. -/
theorem exists_register {m : Machine} {t : Timer} {y : UInt8}
    (h : m.upcoming? = some (t.setter y)) :
    ∃ x : Machine.Register, m.upcoming? = some (t.setter x.val.toUInt8) := by
  have hdecode := (Machine.upcoming?_eq_some_iff.1 h).2
  have hy : y.toNat < 16 := by
    apply (Instruction.decode_inRange hdecode).registers
    cases t <;> simp [setter, Instruction.registers]
  refine ⟨⟨y.toNat, hy⟩, ?_⟩
  rw [h]
  simp

/-- At any time either no step has set a timer or there is a last one that has. -/
theorem exists_shows (t : Timer) (s : Nat → Console ρ) (n : Nat) :
    ∃ value, t.Shows s n value := by
  induction n with
  | zero => exact ⟨_, .unset fun j hj => absurd hj (Nat.not_lt_zero j)⟩
  | succ n ih =>
    by_cases hset : ∃ y, (s n).machine.upcoming? = some (t.setter y)
    · rcases hset with ⟨y, hy⟩
      rcases exists_register hy with ⟨x, hx⟩
      exact ⟨_, .set (m := 0) rfl hx fun j hnj hjn => absurd hnj (by omega)⟩
    · -- the step that has set it last before is still the last one
      have hlast : ∀ y, (s n).machine.upcoming? ≠ some (t.setter y) := fun y hy => hset ⟨y, hy⟩
      rcases ih with ⟨_, hunset | @⟨k, m, x, hn, hset, hunset⟩⟩
      · refine ⟨_, .unset fun j hj => ?_⟩
        rcases Nat.lt_succ_iff_lt_or_eq.1 hj with hlt | rfl
        · exact hunset j hlt
        · exact hlast
      · refine ⟨_, .set (m := m + 1) (by omega) hset fun j hkj hj => ?_⟩
        rcases Nat.lt_succ_iff_lt_or_eq.1 hj with hlt | rfl
        · exact hunset j hkj hlt
        · exact hlast

end Timer

namespace Console

variable {ρ : Type} [WordSource ρ] {c d : Console ρ} {pad : Keypad} {events : List Event}

/-! ## One step -/

/-- An instruction keeps a timer that it does not set. -/
theorem execute_timer {ins : Instruction} (h : c.execute pad ins = .ok (d, events)) {t : Timer}
    (hins : ∀ y, ins ≠ t.setter y) : d.machine.timer t = c.machine.timer t := by
  have htouches : ins.touches ≠ some t.part := by
    intro ht
    rcases Timer.of_touches_part ht with ⟨y, rfl⟩
    exact hins y rfl
  have hfoot := execute_footprint h
  cases t with
  | delay => exact hfoot.delay htouches
  | sound => exact hfoot.sound htouches

/-- A step that does not set a timer counts it down. -/
theorem step_timer (h : c.step pad = .ok (d, events)) {t : Timer}
    (hunset : ∀ y, c.machine.upcoming? ≠ some (t.setter y)) :
    (d.machine.timer t).toNat = (c.machine.timer t).toNat - 1 := by
  rw [← Timer.toNat_timer_tick]
  cases step_eq_ok_iff.1 h with
  | waiting hmode hpad => rfl
  | unrecognised hmode hdecode => cases t <;> rfl
  | resumed hmode hpad hr => cases t <;> rfl
  | @executed ins _ _ hmode hdecode hexec =>
    have hins : ∀ y, ins ≠ t.setter y := by
      rintro y rfl
      exact hunset y (Machine.upcoming?_eq_some_iff.2 ⟨hmode, hdecode⟩)
    rw [execute_timer hexec hins]
    cases t <;> rfl

/-- A step that sets a timer leaves it at the value of the register, whatever it was before. -/
theorem step_setter (h : c.step pad = .ok (d, events)) {t : Timer} {x : Machine.Register}
    (hset : c.machine.upcoming? = some (t.setter x.val.toUInt8)) :
    d.machine.timer t = c.machine.getV x := by
  rcases Machine.upcoming?_eq_some_iff.1 hset with ⟨hmode, hdecode⟩
  rw [step_of_decoded hmode hdecode] at h
  cases t with
  | delay | sound =>
    simp only [Timer.setter, execute, Machine.register_toUInt8] at h
    cases h
    rfl

/-- A step that sets a register to the delay timer sets it to what the timer shows afterwards. -/
theorem step_readDelay (h : c.step pad = .ok (d, events)) {x : Machine.Register}
    (hread : c.machine.upcoming? = some (.readDelay x.val.toUInt8)) :
    d.machine.getV x = d.machine.timer .delay := by
  rcases Machine.upcoming?_eq_some_iff.1 hread with ⟨hmode, hdecode⟩
  rw [step_of_decoded hmode hdecode] at h
  simp only [execute, Machine.register_toUInt8] at h
  cases h
  show (c.fetched.machine.setV x c.fetched.machine.delay).getV x = _
  rw [Machine.getV_setV, if_pos rfl]
  rfl

/-! ## Runs -/

variable {s : Nat → Console ρ} {pads : Nat → Keypad}

/-- Steps that do not set a timer count it down. -/
theorem course_timer (hs : IsCourse s pads) {t : Timer} (k : Nat) {m : Nat}
    (hunset : ∀ j, k ≤ j → j < k + m → ∀ y, (s j).machine.upcoming? ≠ some (t.setter y)) :
    ((s (k + m)).machine.timer t).toNat = ((s k).machine.timer t).toNat - m := by
  induction m with
  | zero => rfl
  | succ m ih =>
    rcases hs (k + m) with ⟨events, hstep⟩
    have hlast := step_timer hstep (hunset (k + m) (by omega) (by omega))
    have hbefore := ih fun j hkj hjm => hunset j hkj (by omega)
    show ((s (k + m + 1)).machine.timer t).toNat = _
    omega

/-- The timers of a run show what the steps tell that set them. -/
theorem course_shows (hs : IsCourse s pads) (t : Timer) (n value : Nat) :
    t.Shows s n value ↔ ((s n).machine.timer t).toNat = value := by
  have hshown : ∀ value, t.Shows s n value → ((s n).machine.timer t).toNat = value := by
    rintro value (hunset | @⟨k, m, x, rfl, hset, hunset⟩)
    · have hcount := course_timer hs 0 (m := n) fun j _ hj => hunset j (by omega)
      rw [Nat.zero_add] at hcount
      exact hcount
    · rcases hs k with ⟨events, hstep⟩
      rw [course_timer hs (k + 1) fun j hkj hj => hunset j hkj hj, step_setter hstep hset]
  constructor
  · exact hshown value
  · rintro rfl
    rcases t.exists_shows s n with ⟨value, hvalue⟩
    rw [hshown value hvalue]
    exact hvalue

/-- The timers count down over whole runs. A sound console runs for ever, whatever keys are down,
and after any number of steps each timer shows its first value less the number of steps, or, if a
step has set it, the value that the last such step set it to less the number of steps after it. The
tone sounds exactly while the sound timer shows more than zero, and a step that reads the delay
timer gets what it shows after that step. -/
theorem timers_count_down {c : Console ρ} (hc : c.machine.Sound) (pads : Nat → Keypad) :
    ∃ s : Nat → Console ρ, s 0 = c ∧ IsCourse s pads ∧ ∀ n,
      (∃ told, c.run ((List.range n).map pads) = .ok (s n, told)) ∧
      (∀ t value, Timer.Shows t s n value ↔ ((s n).machine.timer t).toNat = value) ∧
      (∀ value, Timer.sound.Shows s n value → ((s n).machine.isSounding = true ↔ 0 < value)) ∧
      ∀ x : Machine.Register, (s n).machine.upcoming? = some (.readDelay x.val.toUInt8) →
        ∀ value, Timer.delay.Shows s (n + 1) value ↔
          ((s (n + 1)).machine.getV x).toNat = value := by
  rcases exists_course hc pads with ⟨s, h0, hs⟩
  subst h0
  refine ⟨s, rfl, hs, fun n => ⟨hs.run_eq n, fun t value => course_shows hs t n value, ?_, ?_⟩⟩
  · intro value hvalue
    rw [← (course_shows hs .sound n value).1 hvalue]
    simp [Machine.isSounding, Machine.timer, UInt8.lt_iff_toNat_lt]
  · intro x hread value
    rcases hs n with ⟨events, hstep⟩
    rw [step_readDelay hstep hread]
    exact course_shows hs .delay (n + 1) value

/-- A console that is about to set the delay timer to three, to pass over a word that encodes
nothing and to read the delay timer, while the sound timer runs out. -/
def counting : Console CyclicWords where
  machine := { Machine.fresh with
    v := Vector.replicate 16 3
    delay := 200
    sound := 2
    memory := ((((((⟨.replicate 4096 0⟩ : Memory).put 0x200 0xF5).put 0x201 0x15).put 0x202
      0xFF).put 0x203 0xFF).put 0x204 0xFE).put 0x205 0x07 }
  screen := .fresh
  random := ⟨#[], 0⟩

/-- The second step after the delay timer is set to three reads one from it; by then the tone is
over. -/
theorem counting_reads_one : counting.machine.Sound ∧
    ∃ s : Nat → Console CyclicWords, s 0 = counting ∧ IsCourse s (fun _ => .released) ∧
      (s 0).machine.upcoming? = some (.setDelay 5) ∧ (s 1).machine.upcoming? = none ∧
      (s 2).machine.upcoming? = some (.readDelay 14) ∧
      ((s 3).machine.getV 14).toNat = 1 ∧ ((s 3).machine.timer .delay).toNat = 1 ∧
      (s 2).machine.isSounding = false := by
  have hsound : counting.machine.Sound := ⟨by decide, by intro x hx; cases hx⟩
  rcases timers_count_down hsound (fun _ => .released) with ⟨s, h0, hs, hcount⟩
  have h1 : (s 1).machine.upcoming? = none := by
    have hrun : ((counting.run [.released]).toOption.map fun r => r.1.machine.upcoming?) =
        some none := by
      decide +kernel
    rcases (hcount 1).1 with ⟨told, hone⟩
    change counting.run [.released] = _ at hone
    rw [hone] at hrun
    exact Option.some.inj hrun
  have h2 : (s 2).machine.upcoming? = some (.readDelay 14) := by
    have hrun : ((counting.run [.released, .released]).toOption.map
        fun r => r.1.machine.upcoming?) = some (some (.readDelay 14)) := by
      decide +kernel
    rcases (hcount 2).1 with ⟨told, htwo⟩
    change counting.run [.released, .released] = _ at htwo
    rw [htwo] at hrun
    exact Option.some.inj hrun
  have hset : (s 0).machine.upcoming? = some (.setDelay (5 : Machine.Register).val.toUInt8) := by
    rw [h0]
    decide +kernel
  have hthree : ((s 0).machine.getV 5).toNat = 3 := by
    rw [h0]
    rfl
  have hshown : Timer.delay.Shows s 3 1 := by
    have hlast := Timer.Shows.set (t := .delay) (s := s) (n := 3) (k := 0) (m := 2) rfl hset ?_
    · rwa [hthree] at hlast
    · intro j hj hj3 y
      have hj12 : j = 1 ∨ j = 2 := by omega
      rcases hj12 with rfl | rfl
      · simp [h1]
      · simp [h2, Timer.setter]
  have hover : Timer.sound.Shows s 2 0 := by
    have hfirst := Timer.Shows.unset (t := .sound) (s := s) (n := 2) ?_
    · rwa [h0] at hfirst
    · intro j hj y
      have hj01 : j = 0 ∨ j = 1 := by omega
      rcases hj01 with rfl | rfl
      · simp [hset, Timer.setter]
      · simp [h1]
  have hsilent := (hcount 2).2.2.1 0 hover
  refine ⟨hsound, s, h0, hs, hset, h1, h2, ((hcount 2).2.2.2 14 h2 1).1 hshown,
    ((hcount 3).2.1 .delay 1).1 hshown, ?_⟩
  simpa using hsilent

end Console

end Chip8VM
