import Chip8VM.Proofs.Endings

/-!
# Tones

What a session tells of the tone. The lines on the tone are the edges of the sound timer: right
after a step the tone is told to be on if the timer has left zero, and to be off if it has come back
to it, and nowhere else is anything told of it. So the lines alternate, beginning with "on", and the
last one says whether the timer is running.

* `toneLine`: the line on the tone after a step, by what the sound timer shows before and after it.
* `turnLines`: what is told in a number of turns, each with its line on the tone.
* `play_tells`, `run_tells`: these lines are what a session tells between opening and closing.
* `tones_turnLines`: they alternate, and their number tells whether the timer is running.
* `run_tones`: the lines of a whole session.
-/

namespace Chip8VM

/-! ## Definitions -/

/-- What an event tells of the tone, if it tells of it. -/
def Event.tone? : Event → Option Bool
  | .tone isOn => some isOn
  | _ => none

namespace Desktop

/-- What events tell of the tone, in order. -/
def tones (events : List Event) : List Bool :=
  events.filterMap Event.tone?

/-- The line on the tone after a step, by what the sound timer showed before and after it. -/
def toneLine (before after : UInt8) : List Event :=
  if before = 0 ∧ 0 < after then [.tone true]
  else if 0 < before ∧ after = 0 then [.tone false]
  else []

namespace Headless

/-- What the sound timer shows. -/
def sound (h : Headless) : UInt8 :=
  h.console.machine.sound

/-- Hands the keys of a poll to the keypad and makes a step. What happens is told in this order. -/
def turn (h : Headless) (inputs : List Input) : Except Fault (Headless × List Event) := do
  let keypad := feed h.keypad inputs
  let (console, told) ← h.console.step keypad
  return (⟨console, keypad⟩, (listen h.keypad inputs).events ++ told)

end Headless

/-- What is told in the first `n` turns from `s 0` on: in each turn what happens up to the end of
its step, and then the line on the tone. -/
def turnLines (s : Nat → Headless) (told : Nat → List Event) (n : Nat) : List Event :=
  (List.range n).flatMap fun k => told k ++ toneLine (s k).sound (s (k + 1)).sound

/-- A report of a session that goes from `s 0` to `s 1` and so on, one turn for each step, and tells
`told k` in the turn from `s k`. Before the turns it tells `opening` and after them `closing`, and
only the lines on the tone tell of the tone. -/
structure Report.Tells (report : Report) (polls : List (List Input)) (s : Nat → Headless)
    (told : Nat → List Event) (opening closing : List Event) : Prop where
  turns : ∀ k < report.steps, ∃ inputs, polls[k]? = some inputs ∧
    (s k).turn inputs = .ok (s (k + 1), told k)
  events : report.events = opening ++ turnLines s told report.steps ++ closing
  opening : tones opening = []
  closing : tones closing = []

/-- A sequence with one more element at its beginning. -/
def ahead {α : Type} (first : α) (s : Nat → α) : Nat → α
  | 0 => first
  | k + 1 => s k

/-! ## Lines on the tone -/

theorem tones_append (events events' : List Event) :
    tones (events ++ events') = tones events ++ tones events' :=
  List.filterMap_append

theorem tones_eq_nil {events : List Event} (h : ∀ event ∈ events, event.tone? = none) :
    tones events = [] :=
  List.filterMap_eq_nil_iff.2 h

/-- The tone is told when it is not as it was. -/
theorem toneLine_eq (m n : Machine) : toneLine m.sound n.sound =
    if n.isSounding == m.isSounding then [] else [.tone n.isSounding] := by
  simp only [toneLine, Machine.isSounding, UInt8.pos_iff_ne_zero]
  by_cases hm : m.sound = 0 <;> by_cases hn : n.sound = 0 <;> simp [hm, hn]

theorem tones_toneLine (m n : Machine) : tones (toneLine m.sound n.sound) =
    if n.isSounding = m.isSounding then [] else [n.isSounding] := by
  rw [toneLine_eq]
  by_cases hsame : n.isSounding = m.isSounding
  · simp [hsame, tones]
  · simp [hsame, tones, Event.tone?]

theorem turnLines_succ (s : Nat → Headless) (told : Nat → List Event) (n : Nat) :
    turnLines s told (n + 1) =
      turnLines s told n ++ (told n ++ toneLine (s n).sound (s (n + 1)).sound) := by
  simp [turnLines, List.range_succ]

theorem turnLines_ahead (first : Headless) (s : Nat → Headless) (now : List Event)
    (told : Nat → List Event) (n : Nat) :
    turnLines (ahead first s) (ahead now told) (n + 1) =
      now ++ toneLine first.sound (s 0).sound ++ turnLines s told n := by
  simp only [turnLines, List.range_succ_eq_map, List.flatMap_cons, List.flatMap_map]
  rfl

theorem tones_listen (pad : Keypad) (inputs : List Input) :
    tones (listen pad inputs).events = [] := by
  apply tones_eq_nil
  intro event hevent
  have hname := isKeyUnmapped_of_mem_listen hevent
  cases event <;> cases hname
  rfl

/-- A turn makes the step of its console with the keys of the poll. -/
theorem turn_eq_ok_iff {h next : Headless} {inputs : List Input} {told : List Event} :
    h.turn inputs = .ok (next, told) ↔ next.keypad = Headless.feed h.keypad inputs ∧
      ∃ events, h.console.step (Headless.feed h.keypad inputs) = .ok (next.console, events) ∧
        told = (listen h.keypad inputs).events ++ events := by
  simp only [Headless.turn, bind_eq_ok, pure_eq_ok, Prod.exists, Prod.mk.injEq]
  constructor
  · rintro ⟨console, events, hstep, rfl, rfl⟩
    exact ⟨rfl, events, hstep, rfl⟩
  · rintro ⟨hkeypad, events, hstep, rfl⟩
    rcases next with ⟨console, keypad⟩
    cases hkeypad
    exact ⟨console, events, hstep, rfl, rfl⟩

/-- A turn tells nothing of the tone before its line on it. -/
theorem turn_tones {h next : Headless} {inputs : List Input} {told : List Event}
    (hturn : h.turn inputs = .ok (next, told)) : tones told = [] := by
  have hmachine : ∀ event : Event, event.isOfSession = false → event.tone? = none := by
    intro event hevent
    cases event with
    | tone => cases hevent
    | _ => rfl
  rcases turn_eq_ok_iff.1 hturn with ⟨-, events, hstep, rfl⟩
  rw [tones_append, tones_listen, List.nil_append]
  apply tones_eq_nil
  intro event hevent
  exact hmachine event (Console.step_told_of_machine hstep event hevent)

/-- The lines on the tone alternate, and their number tells whether the sound timer is running. -/
theorem tones_turnLines {s : Nat → Headless} {told : Nat → List Event} (h0 : (s 0).sound = 0)
    {n : Nat} (htold : ∀ k < n, tones (told k) = []) :
    ∃ count, tones (turnLines s told n) = (List.range count).map (fun j => j % 2 == 0) ∧
      (s n).console.machine.isSounding = (count % 2 == 1) := by
  induction n with
  | zero =>
    refine ⟨0, rfl, ?_⟩
    show decide (0 < (s 0).sound) = false
    rw [h0]
    rfl
  | succ n ih =>
    rcases ih fun k hk => htold k (Nat.lt_succ_of_lt hk) with ⟨count, hlines, hsounding⟩
    have hnext := tones_toneLine (s n).console.machine (s (n + 1)).console.machine
    rw [turnLines_succ, tones_append, tones_append, htold n (Nat.lt_succ_self n), hlines,
      List.nil_append]
    by_cases hsame : (s (n + 1)).console.machine.isSounding = (s n).console.machine.isSounding
    · rw [if_pos hsame] at hnext
      refine ⟨count, ?_, hsame.trans hsounding⟩
      rw [Headless.sound, Headless.sound, hnext, List.append_nil]
    · -- one more line, for the other state of the timer
      rw [if_neg hsame] at hnext
      have hturned : (s (n + 1)).console.machine.isSounding = (count % 2 == 0) := by
        rw [hsounding] at hsame
        rcases Nat.mod_two_eq_zero_or_one count with hcount | hcount <;>
          simpa [hcount] using hsame
      refine ⟨count + 1, ?_, ?_⟩
      · rw [Headless.sound, Headless.sound, hnext, hturned, List.range_succ, List.map_append]
        rfl
      · rw [hturned, Bool.eq_iff_iff, beq_iff_eq, beq_iff_eq]
        omega

/-! ## Reports -/

/-- A report without a step, which tells nothing of the tone. -/
theorem tells_of_no_step {report : Report} (hsteps : report.steps = 0)
    (hevents : tones report.events = []) (polls : List (List Input)) (h : Headless) :
    report.Tells polls (fun _ => h) (fun _ => []) [] report.events where
  turns := by simp [hsteps]
  events := by simp [hsteps, turnLines]
  opening := rfl
  closing := hevents

/-- One more turn comes first. -/
theorem Report.Tells.turn {rest : Report} {polls : List (List Input)} {s : Nat → Headless}
    {told : Nat → List Event} {closing : List Event} (h : rest.Tells polls s told [] closing)
    {first : Headless} {inputs : List Input} {now : List Event}
    (hturn : first.turn inputs = .ok (s 0, now)) (frames : List Presented) :
    (rest.afterStep.after frames (now ++ toneLine first.sound (s 0).sound)).Tells (inputs :: polls)
      (ahead first s) (ahead now told) [] closing where
  turns := by
    intro k hk
    cases k with
    | zero => exact ⟨inputs, rfl, hturn⟩
    | succ k => exact h.turns k (Nat.lt_of_succ_lt_succ hk)
  events := by
    show now ++ toneLine first.sound (s 0).sound ++ rest.events =
      [] ++ turnLines (ahead first s) (ahead now told) (rest.steps + 1) ++ closing
    rw [turnLines_ahead, h.events]
    simp
  opening := rfl
  closing := h.closing

/-- Something else was told before. -/
theorem Report.Tells.after {report : Report} {polls : List (List Input)} {s : Nat → Headless}
    {told : Nat → List Event} {opening closing : List Event}
    (h : report.Tells polls s told opening closing) {events : List Event}
    (hevents : tones events = []) :
    (report.after [] events).Tells polls s told (events ++ opening) closing where
  turns := h.turns
  events := by
    show events ++ report.events = _
    rw [h.events]
    simp [Report.after]
  opening := by rw [tones_append, hevents, h.opening, List.append_nil]
  closing := h.closing

/-! ## Sessions -/

/-- From any turn on, a session tells the tone at the edges of the sound timer, if the tone is as
the timer says by then. -/
theorem play_tells (refused : Option (Service × String)) {h : Headless}
    (hh : h.console.machine.Sound) (polls : List (List Input)) (made : Nat) (isNew : Bool) :
    ∃ s told closing, s 0 = h ∧
      (Session.play refused made
        ⟨h.console.withNews isNew, h.keypad, h.console.machine.isSounding⟩ polls).Tells
          polls s told [] closing := by
  induction polls generalizing h made isNew with
  | nil =>
    rcases Session.present_cases refused made h.console isNew h.keypad
      h.console.machine.isSounding with ⟨frames, hpresent⟩ | ⟨report, hpresent, hsteps, hevents⟩
    · rw [Session.play_nil hpresent]
      exact ⟨_, _, _, rfl, tells_of_no_step rfl rfl _ h⟩
    · rw [Session.play_of_refused hpresent]
      exact ⟨_, _, _, rfl, tells_of_no_step hsteps (hevents ▸ rfl) _ h⟩
  | cons inputs rest ih =>
    rcases Session.present_cases refused made h.console isNew h.keypad
      h.console.machine.isSounding with ⟨frames, hpresent⟩ | ⟨report, hpresent, hsteps, hevents⟩
    · cases hcloses : inputs.any Input.closes with
      | true =>
        -- only names are told before the session is closed
        have hnames : tones (listen h.keypad inputs).events = [] := tones_listen h.keypad inputs
        rw [Session.play_of_closing hpresent hcloses]
        refine ⟨_, _, _, rfl, tells_of_no_step rfl ?_ _ h⟩
        show tones ((listen h.keypad inputs).events ++ [.quit] ++ []) = []
        rw [tones_append, tones_append, hnames]
        rfl
      | false =>
        let keypad := Headless.feed h.keypad inputs
        rcases Console.step_succeeds hh keypad with ⟨⟨d, events⟩, hstep⟩
        rcases ih (h := ⟨d, keypad⟩) (Console.step_sound hstep hh) (made + 1)
          (Event.tellRedrawing events) with ⟨s, told, closing, h0, hlater⟩
        have hturn : h.turn inputs = .ok (s 0, (listen h.keypad inputs).events ++ events) := by
          rw [h0]
          exact turn_eq_ok_iff.2 ⟨rfl, events, hstep, rfl⟩
        have hline : toneLine h.sound (s 0).sound =
            if d.machine.isSounding == h.console.machine.isSounding then []
            else [.tone d.machine.isSounding] := by
          rw [h0]
          exact toneLine_eq h.console.machine d.machine
        rw [Session.play_of_step hpresent hcloses (Session.step_of_console hstep _ _),
          ← List.append_assoc, ← hline]
        exact ⟨_, _, _, rfl, hlater.turn hturn frames⟩
    · rw [Session.play_of_refused hpresent]
      exact ⟨_, _, _, rfl, tells_of_no_step hsteps (hevents ▸ rfl) _ h⟩

theorem serve_tells (desktop : Desktop) (scale : UInt32) {h : Headless}
    (hh : h.console.machine.Sound) (hfirst : h.Starts) (hquiet : h.sound = 0) :
    ∃ s told opening closing, s 0 = h ∧
      (desktop.serve scale h.console).Tells desktop.polls s told opening closing := by
  cases hstart : startObstacle? desktop.refused with
  | some text =>
    -- there is no turn
    rcases desktop with ⟨polls, _ | ⟨service, message⟩⟩
    · cases hstart
    · cases service with
      | texture | update | copy => cases hstart
      | _ => exact ⟨_, _, _, _, rfl, tells_of_no_step rfl rfl _ h⟩
  | none =>
    rcases play_tells desktop.refused hh desktop.polls 0 false with
      ⟨s, told, closing, h0, hturns⟩
    have hsilent : h.console.machine.isSounding = false := by
      show decide (0 < h.sound) = false
      rw [hquiet]
      rfl
    rw [hsilent, ← hfirst] at hturns
    rw [serve_eq_play hstart]
    have hopening : tones [.windowOpened scale] = [] := rfl
    have hopened := hturns.after hopening
    exact ⟨s, told, _, closing, h0, { hopened with }⟩

theorem run_tells (desktop : Desktop) (options : Options) {program : List UInt8}
    (entropy : UInt64) (hne : program ≠ []) (hfit : program.length ≤ Memory.programCapacity) :
    ∃ s told opening closing, Headless.load (options.seed.getD entropy) program = .ok (s 0) ∧
      (s 0).sound = 0 ∧
      (desktop.run options (.file program) entropy).Tells desktop.polls s told opening closing := by
  rcases run_eq_serve desktop options entropy hne hfit with
    ⟨h, hload, hsound, hfirst, hquiet, hrun⟩
  rcases serve_tells desktop options.scale hsound hfirst hquiet with
    ⟨s, told, opening, closing, rfl, htells⟩
  rw [hrun]
  exact ⟨s, told, _, closing, hload, hquiet, htells.after rfl⟩

/-- The last line on the tone, if lines alternate and begin with "on". -/
theorem getLast?_alternating (count : Nat) :
    ((List.range count).map fun j => j % 2 == 0).getLast? = some true ↔ count % 2 = 1 := by
  cases count with
  | zero => simp
  | succ j =>
    rw [List.range_succ, List.map_append, List.map_singleton, List.getLast?_concat]
    simp only [Option.some.injEq, beq_iff_eq]
    omega

/-- A session tells the tone exactly at the edges of its sound timer, whatever the program, the
options, the input and the service that is refused are. What it tells is an opening, then turn by
turn what happens up to the end of the step and the line on the tone after it, and a closing; the
line says that the tone is on if the sound timer is running after the step and was not before it,
and off if it was running before the step and is not after it, and nothing else is told of the tone.
The timer is not running before the first step. So the lines on the tone alternate, beginning with
"on", and after any number of turns the last one so far says "on" exactly if the timer is
running. -/
theorem run_tones (desktop : Desktop) (options : Options) (program : List UInt8)
    (entropy : UInt64) (hne : program ≠ []) (hfit : program.length ≤ Memory.programCapacity) :
    ∃ (s : Nat → Headless) (told : Nat → List Event) (opening closing : List Event),
      Headless.load (options.seed.getD entropy) program = .ok (s 0) ∧ (s 0).sound = 0 ∧
      (∀ k < (desktop.run options (.file program) entropy).steps, ∃ inputs,
        desktop.polls[k]? = some inputs ∧ (s k).turn inputs = .ok (s (k + 1), told k)) ∧
      (desktop.run options (.file program) entropy).events = opening ++
        turnLines s told (desktop.run options (.file program) entropy).steps ++ closing ∧
      tones opening = [] ∧ tones closing = [] ∧
      (∀ k < (desktop.run options (.file program) entropy).steps, tones (told k) = []) ∧
      (∀ j isOn, (tones (desktop.run options (.file program) entropy).events)[j]? = some isOn →
        (isOn = true ↔ j % 2 = 0)) ∧
      ∀ k ≤ (desktop.run options (.file program) entropy).steps,
        ((tones (opening ++ turnLines s told k)).getLast? = some true ↔
          (s k).console.machine.isSounding = true) := by
  rcases run_tells desktop options entropy hne hfit with
    ⟨s, told, opening, closing, hload, h0, htells⟩
  have htold : ∀ k < (desktop.run options (.file program) entropy).steps, tones (told k) = [] := by
    intro k hk
    rcases htells.turns k hk with ⟨inputs, -, hturn⟩
    exact turn_tones hturn
  refine ⟨s, told, opening, closing, hload, h0, htells.turns, htells.events, htells.opening,
    htells.closing, htold, ?_, ?_⟩
  · intro j isOn hline
    rcases tones_turnLines h0 htold with ⟨count, hlines, -⟩
    rw [htells.events, tones_append, tones_append, htells.opening, htells.closing, hlines,
      List.nil_append, List.append_nil, List.getElem?_map, Option.map_eq_some_iff] at hline
    rcases hline with ⟨i, hi, rfl⟩
    rcases List.getElem?_eq_some_iff.1 hi with ⟨hlt, rfl⟩
    rw [List.getElem_range, beq_iff_eq]
  · intro k hk
    rcases tones_turnLines h0 fun i hi => htold i (Nat.lt_of_lt_of_le hi hk) with
      ⟨count, hlines, hsounding⟩
    rw [tones_append, htells.opening, List.nil_append, hlines, getLast?_alternating, hsounding,
      beq_iff_eq]

/-- Sets the sound timer to one, and then jumps on the spot for ever. -/
def beeping : List UInt8 :=
  [0x60, 0x01, 0xF0, 0x18, 0x12, 0x04]

/-- The console in which this program is loaded. -/
def beeper : Console ChaCha :=
  { Console.ofSeed 7 with
    machine := { Machine.fresh with memory := Memory.fresh.install beeping.toArray } }

/-- A desktop on which nothing is pressed, and the fourth poll closes the session. -/
def idle : Desktop where
  polls := [[], [.other], [.keyUp none], [.quit], []]

/-- The sound timer after each of the first three steps, whatever keys are down. -/
theorem beeper_sounds {s : Nat → Console ChaCha} {pads : Nat → Keypad} (hstart : s 0 = beeper)
    (hstep : ∀ k < 3, ∃ events, (s k).step (pads k) = .ok (s (k + 1), events)) :
    (s 1).machine.sound = 0 ∧ (s 2).machine.sound = 1 ∧ (s 3).machine.sound = 0 := by
  let memory := Memory.fresh.install beeping.toArray
  have hread : ∀ addr : UInt16, memory.read addr = _ :=
    fun addr => Memory.fresh.read_install beeping.toArray addr
  let c : Console ChaCha :=
    { beeper.fetched with machine := beeper.fetched.machine.setV 0 1 }
  let d : Console ChaCha :=
    { c.fetched with machine := { c.fetched.machine with sound := 1 } }
  let e : Console ChaCha :=
    { d.fetched with machine := d.fetched.machine.jump 0x204 }
  have hfirst : Instruction.decode beeper.machine.peek = some (.loadByte 0 1) := by
    show Instruction.decode (.ofBytes (memory.read 0x200) (memory.read 0x201)) = _
    simp only [hread]
    decide +kernel
  have hsecond : Instruction.decode c.machine.peek = some (.setSound 0) := by
    show Instruction.decode (.ofBytes (memory.read 0x202) (memory.read 0x203)) = _
    simp only [hread]
    decide +kernel
  have hthird : Instruction.decode d.machine.peek = some (.jump 0x204) := by
    show Instruction.decode (.ofBytes (memory.read 0x204) (memory.read 0x205)) = _
    simp only [hread]
    decide +kernel
  have hloaded : s 1 = c := by
    rcases hstep 0 (by decide) with ⟨events, h⟩
    rw [hstart, Console.step_of_decoded rfl hfirst] at h
    exact (congrArg Prod.fst (Except.ok.inj h)).symm
  have hset : s 2 = d := by
    rcases hstep 1 (by decide) with ⟨events, h⟩
    rw [hloaded, Console.step_of_decoded rfl hsecond] at h
    exact (congrArg Prod.fst (Except.ok.inj h)).symm
  have hjumped : s 3 = e := by
    rcases hstep 2 (by decide) with ⟨events, h⟩
    rw [hset, Console.step_of_decoded rfl hthird] at h
    exact (congrArg Prod.fst (Except.ok.inj h)).symm
  rw [hloaded, hset, hjumped]
  refine ⟨rfl, rfl, ?_⟩
  -- the timer ticks when the third instruction is fetched
  show (if (1 : UInt8) = 0 then 0 else 1 - 1) = (0 : UInt8)
  decide

/-- The session makes the step of each poll before the one that closes it. -/
theorem idle_steps :
    (idle.run { rom := "beeping", seed := some 7 } (.file beeping) 0).steps = 3 := by
  have hopen : openPolls idle.polls = 3 := by decide
  have hne : beeping ≠ [] := by decide
  rcases run_eq_serve idle { rom := "beeping", seed := some 7 } 0 hne (by decide) with
    ⟨h, -, hsound, hfirst, -, hrun⟩
  rcases play_matches hsound idle.polls 0 false false with ⟨shots, -, hlength, hplay⟩
  rw [← hfirst] at hplay
  rw [hrun]
  show (idle.serve 10 h.console).steps = 3
  rw [(serve_matches rfl 10 hplay).steps, hlength, hopen]

theorem beeping_tones : beeping ≠ [] ∧ beeping.length ≤ 3584 ∧
    ∃ (told : Nat → List Event) (opening closing : List Event),
      (idle.run { rom := "beeping", seed := some 7 } (.file beeping) 0).events = opening ++
        (told 0 ++ (told 1 ++ ([.tone true] ++ (told 2 ++ [.tone false])))) ++ closing ∧
      tones opening = [] ∧ tones closing = [] ∧ ∀ k < 3, tones (told k) = [] := by
  rcases run_tones idle { rom := "beeping", seed := some 7 } beeping 0 (by decide) (by decide) with
    ⟨s, told, opening, closing, hload, hquiet, hturns, hevents, hopening, hclosing, htold, -, -⟩
  rw [idle_steps] at hturns hevents htold
  have hstart : s 0 = ⟨beeper, .released⟩ := by
    have hloads : (Console.ofSeed 7).machine.load beeping =
        .ok (beeper.machine, [.programLoaded 6]) :=
      Machine.fresh.load_of_fits (by decide) (by decide)
    have hbeeper : Headless.load 7 beeping = .ok ⟨beeper, .released⟩ := by
      simp only [Headless.load, hloads, bind, Except.bind]
      rfl
    exact Except.ok.inj (hload.symm.trans hbeeper)
  have hstep : ∀ k < 3, ∃ events,
      (s k).console.step (Headless.feed (s k).keypad ((idle.polls[k]?).getD [])) =
        .ok ((s (k + 1)).console, events) := by
    intro k hk
    rcases hturns k hk with ⟨inputs, hinputs, hturn⟩
    rcases turn_eq_ok_iff.1 hturn with ⟨-, events, hstep, -⟩
    rw [hinputs]
    exact ⟨events, hstep⟩
  rcases beeper_sounds (s := fun k => (s k).console) (congrArg Headless.console hstart) hstep with
    ⟨hloaded, hset, hjumped⟩
  rw [Headless.sound] at hquiet
  have hlines : turnLines s told 3 =
      told 0 ++ (told 1 ++ ([.tone true] ++ (told 2 ++ [.tone false]))) := by
    simp [turnLines, List.range_succ, toneLine, Headless.sound, hquiet, hloaded, hset, hjumped]
  rw [hlines] at hevents
  exact ⟨by decide, by decide, told, opening, closing, hevents, hopening, hclosing, htold⟩

end Desktop

end Chip8VM
