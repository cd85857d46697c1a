import Chip8VM.Desktop.Session
import Chip8VM.Proofs.Loads
import Chip8VM.Proofs.Redrawing

/-!
# Headless runs

A session on a desktop that serves is a run without one: the keys of each poll before the closing
one are handed to the keypad, the console makes a step, and the frame is shown exactly after the
steps that render it. The news flag of the screen, which the session lowers and a headless run does
not, makes no difference.

* `Headless.play`: a console and a keypad that go through polls without a desktop.
* `play_matches`: what a session does from any turn on, in terms of the headless run from there.
* `run_matches`: a whole session shows exactly what its headless run draws.
-/

namespace Chip8VM.Desktop

/-! ## Definitions -/

/-- The change of a key that an event asks for: the name of the key and whether it is down. The
space bar is no key of the keypad. -/
def Input.keyChange? : Input → Option (String × Bool)
  | .keyDown (some name) => if name = "Space" then none else some (name, true)
  | .keyUp (some name) => if name = "Space" then none else some (name, false)
  | _ => none

/-- The number of polls before the first that closes the session; without one these are all. -/
def openPolls (polls : List (List Input)) : Nat :=
  polls.findIdx fun inputs => inputs.any Input.closes

/-- A console and a keypad without a desktop. -/
structure Headless where
  console : Console ChaCha
  keypad : Keypad
deriving DecidableEq, Repr

/-- A step of a headless run, as far as it can be seen. -/
structure Shot where
  /-- Whether the step executed an instruction that renders the frame. -/
  isDrawn : Bool
  /-- The frame after the step. -/
  frame : Frame
deriving DecidableEq, Repr

namespace Headless

/-- A console with a loaded program and a seed for its random numbers, and a keypad with no key
down. -/
def load (seed : UInt64) (program : List UInt8) : Except LoadError Headless := do
  let console := Console.ofSeed seed
  let (machine, _) ← console.machine.load program
  return ⟨{ console with machine }, .released⟩

/-- Hands the keys of a poll to the keypad, in order. -/
def feed (pad : Keypad) (inputs : List Input) : Keypad :=
  (inputs.filterMap Input.keyChange?).foldl
    (fun pad (name, isDown) => (pad.setNamed name isDown).1) pad

/-- Makes a step after the keys of each poll. Whether it draws is read from the machine before it:
from the instruction at its program counter, if it awaits no key. -/
def play (h : Headless) : List (List Input) → Except Fault (List Shot)
  | [] => return []
  | inputs :: rest => do
    let isDrawn := h.console.machine.upcoming?.any Instruction.redraws
    let keypad := feed h.keypad inputs
    let (console, _) ← h.console.step keypad
    let shots ← play ⟨console, keypad⟩ rest
    return ⟨isDrawn, console.screen.frame⟩ :: shots

end Headless

/-- The drawn frames among the shots, each after as many polls as steps; so many have been made
before. -/
def drawnFrames (polls : Nat) : List Shot → List Presented
  | [] => []
  | shot :: rest =>
    if shot.isDrawn then ⟨polls + 1, shot.frame⟩ :: drawnFrames (polls + 1) rest
    else drawnFrames (polls + 1) rest

/-! ## Polls -/

theorem listen_isClosing (pad : Keypad) (inputs : List Input) :
    (listen pad inputs).isClosing = inputs.any Input.closes := by
  induction inputs generalizing pad with
  | nil => rfl
  | cons input rest ih =>
    unfold listen
    cases hcloses : input.closes with
    | true => simp [hcloses]
    | false => simp [hcloses, ih]

theorem feed_cons (pad : Keypad) (input : Input) (rest : List Input) :
    Headless.feed pad (input :: rest) = Headless.feed (input.apply pad).1 rest := by
  unfold Headless.feed
  cases input with
  | quit | other => rfl
  | keyDown name | keyUp name =>
    cases name with
    | none => rfl
    | some name =>
      by_cases hspace : name = "Space" <;> simp [Input.keyChange?, Input.apply, hspace]

/-- Listening to a poll that does not close the session hands its keys to the keypad. -/
theorem listen_keypad (pad : Keypad) {inputs : List Input}
    (hopen : inputs.any Input.closes = false) :
    (listen pad inputs).keypad = Headless.feed pad inputs := by
  induction inputs generalizing pad with
  | nil => rfl
  | cons input rest ih =>
    simp only [List.any_cons, Bool.or_eq_false_iff] at hopen
    unfold listen
    rw [feed_cons]
    simp only [hopen.1]
    exact ih _ hopen.2

theorem openPolls_of_closing {inputs : List Input} (rest : List (List Input))
    (hclosing : inputs.any Input.closes = true) : openPolls (inputs :: rest) = 0 := by
  simp [openPolls, List.findIdx_cons, hclosing]

theorem openPolls_of_open {inputs : List Input} (rest : List (List Input))
    (hopen : inputs.any Input.closes = false) :
    openPolls (inputs :: rest) = openPolls rest + 1 := by
  simp [openPolls, List.findIdx_cons, hopen]

/-! ## Turns -/

/-- The frame that is presented at a turn, if it is news. -/
def Session.shown (polls : Nat) (s : Session) : List Presented :=
  if s.console.screen.isNew then [⟨polls, s.console.screen.frame⟩] else []

/-- Presenting shows the frame if it is news, and takes the news away. -/
theorem present_eq (polls : Nat) (s : Session) : s.present none polls =
    .ok ({ s with console := s.console.withNews false }, s.shown polls) := by
  -- without news the flag is down already
  obtain ⟨⟨machine, ⟨frame, isNew⟩, random⟩, keypad, isSounding⟩ := s
  cases isNew <;> rfl

/-- A headless run is its first step followed by the run from there. What the step tells shows
whether it draws. -/
theorem Headless.play_cons_eq_ok {h : Headless} {inputs : List Input} {rest : List (List Input)}
    {shots : List Shot} : h.play (inputs :: rest) = .ok shots ↔
      ∃ d told later, h.console.step (feed h.keypad inputs) = .ok (d, told) ∧
        play ⟨d, feed h.keypad inputs⟩ rest = .ok later ∧
        shots = ⟨Event.tellRedrawing told, d.screen.frame⟩ :: later := by
  simp only [Headless.play, bind_eq_ok, pure_eq_ok, Prod.exists]
  constructor
  · rintro ⟨d, told, hstep, later, hrest, rfl⟩
    rw [← Console.step_tellRedrawing hstep]
    exact ⟨d, told, later, hstep, hrest, rfl⟩
  · rintro ⟨d, told, later, hstep, hrest, rfl⟩
    rw [Console.step_tellRedrawing hstep]
    exact ⟨d, told, hstep, later, hrest, rfl⟩

/-- A report of a session that was closed after a number of steps. So many polls had been made
before, and `shown` is presented before the frames that the steps draw. -/
structure Report.Matches (report : Report) (made : Nat) (shown : List Presented)
    (shots : List Shot) : Prop where
  failure : report.failure = none
  polls : report.polls = made + shots.length + 1
  steps : report.steps = shots.length
  frames : report.frames = shown ++ drawnFrames made shots

/-- A turn in which the session is closed. -/
theorem closing_matches (made : Nat) (shown : List Presented) (events : List Event) :
    (Report.after { polls := made + 1 } shown events).Matches made shown [] := by
  constructor <;> simp [Report.after, drawnFrames]

/-- A turn with a step, after which the session goes on. -/
theorem turn_matches {rest : Report} {made : Nat} {shot : Shot} {shots : List Shot}
    (hrest : rest.Matches (made + 1) (if shot.isDrawn then [⟨made + 1, shot.frame⟩] else []) shots)
    (shown : List Presented) (events : List Event) :
    (rest.afterStep.after shown events).Matches made shown (shot :: shots) := by
  constructor
  · exact hrest.failure
  · have hpolls := hrest.polls
    simp only [Report.after, Report.afterStep, List.length_cons]
    omega
  · have hsteps := hrest.steps
    simp only [Report.after, Report.afterStep, List.length_cons]
    omega
  · simp only [Report.after, Report.afterStep, hrest.frames, drawnFrames]
    cases shot.isDrawn <;> simp

/-- From any turn on a session does what the headless run does from there. If its frame is news at
the turn, this is shown first. -/
theorem play_matches {h : Headless} (hh : h.console.machine.Sound) (polls : List (List Input))
    (made : Nat) (isNew isSounding : Bool) :
    ∃ shots, h.play (polls.take (openPolls polls)) = .ok shots ∧ shots.length = openPolls polls ∧
      (Session.play none made ⟨h.console.withNews isNew, h.keypad, isSounding⟩ polls).Matches made
        (if isNew then [⟨made, h.console.screen.frame⟩] else []) shots := by
  induction polls generalizing h made isNew isSounding with
  | nil =>
    refine ⟨[], rfl, rfl, ?_⟩
    unfold Session.play
    rw [present_eq]
    exact closing_matches _ _ _
  | cons inputs rest ih =>
    unfold Session.play
    rw [present_eq]
    cases hclosing : inputs.any Input.closes with
    | true =>
      -- the closing poll is made, and no step follows it
      refine ⟨[], ?_, ?_, ?_⟩
      · rw [openPolls_of_closing rest hclosing]
        rfl
      · rw [openPolls_of_closing rest hclosing]
        rfl
      · simp only [listen_isClosing, hclosing]
        exact closing_matches _ _ _
    | false =>
      let keypad := Headless.feed h.keypad inputs
      rcases Console.step_succeeds hh keypad with ⟨⟨d, told⟩, hstep⟩
      have hd : d.machine.Sound := Console.step_sound hstep hh
      rcases ih (h := ⟨d, keypad⟩) hd (made + 1) (Event.tellRedrawing told) d.machine.isSounding
        with ⟨shots, hplay, hlength, hmatches⟩
      -- the session makes the same step without the news, and goes on with the news of the step
      have hsession : (h.console.withNews false).step keypad =
          .ok (d.withNews (Event.tellRedrawing told), told) := by
        rw [Console.step_withNews, hstep]
        simp [Except.map]
      refine ⟨⟨Event.tellRedrawing told, d.screen.frame⟩ :: shots, ?_, ?_, ?_⟩
      · rw [openPolls_of_open rest hclosing, List.take_succ_cons]
        exact Headless.play_cons_eq_ok.2 ⟨d, told, shots, hstep, hplay, rfl⟩
      · rw [openPolls_of_open rest hclosing, List.length_cons, hlength]
      · simp only [listen_isClosing, hclosing, listen_keypad _ hclosing, Session.step,
          Console.withNews_withNews]
        simp only [keypad] at hsession
        simp only [hsession, bind, Except.bind, pure, Except.pure]
        exact turn_matches hmatches _ _

/-! ## Sessions -/

/-- A file is loaded as its contents are. -/
theorem load_file {m n : Machine} {program : List UInt8} {events : List Event}
    (h : m.load program = .ok (n, events)) :
    (RomFile.file program).load m = .ok (n, events) := by
  rw [RomFile.load_contents, h]
  rfl

/-- Opening a window adds nothing to what is seen of the turns. -/
theorem serve_matches {desktop : Desktop} (hserves : desktop.refused = none) (scale : UInt32)
    {console : Console ChaCha} {shown : List Presented} {shots : List Shot}
    (h : ((Session.start console).play none 0 desktop.polls).Matches 0 shown shots) :
    (desktop.serve scale console).Matches 0 shown shots := by
  simp only [serve, hserves]
  exact ⟨h.failure, h.polls, h.steps, h.frames⟩

/-- A session on a desktop that serves shows exactly what its headless run draws, whatever the
program, the options and the input are. If `q` is the number of the first poll that closes the
session, it makes `q` polls and `q - 1` steps, and it shows the frame after the `k`-th step, when
`k` polls have been made, exactly for the steps that execute an instruction which renders the
frame. -/
theorem run_matches (desktop : Desktop) (options : Options) (program : List UInt8)
    (entropy : UInt64) (hserves : desktop.refused = none) (hne : program ≠ [])
    (hfit : program.length ≤ Memory.programCapacity) :
    ∃ h shots, Headless.load (options.seed.getD entropy) program = .ok h ∧
      h.play (desktop.polls.take (openPolls desktop.polls)) = .ok shots ∧
      shots.length = openPolls desktop.polls ∧
      (desktop.run options (.file program) entropy).failure = none ∧
      (desktop.run options (.file program) entropy).polls = openPolls desktop.polls + 1 ∧
      (desktop.run options (.file program) entropy).steps = openPolls desktop.polls ∧
      (desktop.run options (.file program) entropy).frames = drawnFrames 0 shots := by
  obtain ⟨machine, events, hload⟩ : ∃ n events, Machine.fresh.load program = .ok (n, events) :=
    ⟨_, _, Machine.fresh.load_of_fits hne hfit⟩
  have hsound : machine.Sound := Bench.load_sound hload Machine.fresh_sound
  let h : Headless :=
    ⟨{ Console.ofSeed (options.seed.getD entropy) with machine }, .released⟩
  -- a console that is fresh but for its program has no news, so nothing is shown before a step
  rcases play_matches (h := h) hsound desktop.polls 0 false false with
    ⟨shots, hplay, hlength, hturns⟩
  have hmatches := serve_matches hserves options.scale hturns
  have hrun : desktop.run options (.file program) entropy =
      (desktop.serve options.scale h.console).after [] (events ++ [.romLoaded options.rom]) := by
    have hfile : (RomFile.file program).load
        (Console.ofSeed (options.seed.getD entropy)).machine = .ok (machine, events) :=
      load_file hload
    unfold Desktop.run
    simp only [hfile]
    rfl
  refine ⟨h, shots, ?_, hplay, hlength, ?_⟩
  · have hseeded : (Console.ofSeed (options.seed.getD entropy)).machine.load program =
        .ok (machine, events) := hload
    unfold Headless.load
    simp only [hseeded]
    rfl
  · rw [hrun, ← hlength]
    have hpolls := hmatches.polls
    rw [Nat.zero_add] at hpolls
    exact ⟨hmatches.failure, hpolls, hmatches.steps, hmatches.frames⟩

/-- A desktop on which the fourth poll closes the session, after an event that is not looked at any
more. -/
def threeTurns : Desktop where
  polls := [[.keyDown (some "Q")], [.keyDown (some "Space"), .other], [.keyUp none],
    [.keyUp (some "Q"), .keyDown (some "Escape")], [.quit]]

/-- Clears the screen, and then draws a sprite without rows for ever. -/
def drawing : List UInt8 :=
  [0x00, 0xE0, 0xD0, 0x10, 0x12, 0x02]

theorem threeTurns_matches : threeTurns.refused = none ∧ drawing ≠ [] ∧ drawing.length ≤ 3584 ∧
    ∃ h shots, Headless.load 7 drawing = .ok h ∧ h.play (threeTurns.polls.take 3) = .ok shots ∧
      (threeTurns.run { rom := "drawing", seed := some 7 } (.file drawing) 0).polls = 4 ∧
      (threeTurns.run { rom := "drawing", seed := some 7 } (.file drawing) 0).steps = 3 ∧
      (threeTurns.run { rom := "drawing", seed := some 7 } (.file drawing) 0).frames =
        drawnFrames 0 shots := by
  have hopen : openPolls threeTurns.polls = 3 := by decide
  rcases run_matches threeTurns { rom := "drawing", seed := some 7 } drawing 0 rfl (by decide)
    (by decide) with ⟨h, shots, hload, hplay, -, -, hpolls, hsteps, hframes⟩
  rw [hopen] at hplay hpolls hsteps
  exact ⟨rfl, by decide, by decide, h, shots, hload, hplay, hpolls, hsteps, hframes⟩

end Chip8VM.Desktop
