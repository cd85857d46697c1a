import Chip8VM.Proofs.HeldKeys

/-!
# Endings

How a session ends. It ends with the first obstacle that it meets: the program may not be loaded,
a service may be refused before the first turn, or a frame may be refused when the first is to be
shown. A session without an obstacle goes on until a poll closes it, and no step ends it.

* `execute_told`, `step_told`: what a step tells is never that the session was closed.
* `play_closes`: from any turn on, a session that shows what it draws is closed by its input.
* `play_stops`: from any turn on, a session that cannot show a frame ends with the first drawn one.
* `run_ends`: the end of a whole session, by the first obstacle.
-/

namespace Chip8VM

/-! ## What a step tells -/

/-- Whether an event is about the session that a machine runs in, and not about the machine or its
keys. -/
def Event.isOfSession : Event → Bool
  | .romLoaded _ | .windowOpened _ | .tone _ | .quit => true
  | _ => false

/-- Warnings are about the machine. -/
theorem Event.isOfSession_of_warn {event : Event} (h : event.level = .warn) :
    event.isOfSession = false := by
  cases event with
  | romLoaded | windowOpened | tone | quit => cases h
  | _ => rfl

theorem Event.dropped_told (addr : UInt16) (values : List UInt8) :
    ∀ event ∈ Event.dropped addr values, event.level = .warn := by
  induction values generalizing addr with
  | nil =>
    intro event h
    cases h
  | cons value rest ih =>
    unfold Event.dropped
    split
    · intro event h
      rcases List.mem_cons.1 h with rfl | hrest
      · rfl
      · exact ih _ event hrest
    · exact ih _

theorem Machine.call_told {m n : Machine} {addr : UInt16} {events : List Event}
    (h : m.call addr = .ok (n, events)) : ∀ event ∈ events, event.level = .warn := by
  unfold Machine.call at h
  split at h
  · cases h
    simp [Event.level]
  · simp only [bind_eq_ok, pure_eq_ok, Prod.mk.injEq] at h
    obtain ⟨slot, -, sp, -, -, rfl⟩ := h
    simp

theorem Machine.ret_told {m n : Machine} {events : List Event} (h : m.ret = .ok (n, events)) :
    ∀ event ∈ events, event.level = .warn := by
  unfold Machine.ret at h
  split at h
  · cases h
    simp [Event.level]
  · simp only [bind_eq_ok, pure_eq_ok, Prod.mk.injEq] at h
    obtain ⟨sp, -, slot, -, -, rfl⟩ := h
    simp

namespace Console

variable {ρ : Type} [WordSource ρ]

/-- What an instruction tells are warnings. -/
theorem execute_told {c d : Console ρ} {pad : Keypad} {ins : Instruction} {events : List Event}
    (h : c.execute pad ins = .ok (d, events)) : ∀ event ∈ events, event.level = .warn := by
  by_cases hstack : ins.touches = some .callStack
  · rcases Instruction.of_touches_callStack hstack with rfl | ⟨addr, rfl⟩
    · rcases execute_ret h with ⟨m, hm, -⟩
      exact Machine.ret_told hm
    · rcases execute_call h with ⟨m, hm, -⟩
      exact Machine.call_told hm
  · by_cases hmemory : ins.touches = some .memory
    · rcases execute_storeAll h hmemory with ⟨values, -, -, rfl⟩
      exact Event.dropped_told _ _
    · rw [execute_silent h hstack hmemory]
      simp

/-- What a step tells is about the machine. -/
theorem step_told_of_machine {c d : Console ρ} {pad : Keypad} {events : List Event}
    (h : c.step pad = .ok (d, events)) : ∀ event ∈ events, event.isOfSession = false := by
  cases step_eq_ok_iff.1 h with
  | waiting =>
    intro event hevent
    cases hevent
  | resumed | unrecognised =>
    intro event hevent
    rcases List.mem_singleton.1 hevent with rfl
    rfl
  | executed hmode hdecode hexec =>
    intro event hevent
    rcases List.mem_cons.1 hevent with rfl | hwarning
    · rfl
    · exact Event.isOfSession_of_warn (execute_told hexec event hwarning)

/-- No step tells that the session was closed. -/
theorem step_told {c d : Console ρ} {pad : Keypad} {events : List Event}
    (h : c.step pad = .ok (d, events)) : Event.quit ∉ events := by
  intro hquit
  cases step_told_of_machine h _ hquit

end Console

namespace Desktop

/-! ## Definitions -/

/-- What keeps a program from being loaded, as it is told. -/
def RomFile.obstacle? : RomFile → Option String
  | .missing => some "No such file or directory (os error 2)"
  | .directory => some "unable to read program image: Is a directory (os error 21)"
  | .file contents =>
    if contents = [] then some "program image is empty"
    else if 3584 < contents.length then
      some ("program image is " ++ toString contents.length
        ++ " bytes but at most 3584 fit in memory")
    else none

/-- Whether a session on a desktop that refuses a service gets as far as to ask for a window. -/
def reachesWindow : Option (Service × String) → Bool
  | some (.desktop, _) | some (.video, _) => false
  | _ => true

/-- What keeps a session from its first turn, as it is told. -/
def startObstacle? : Option (Service × String) → Option String
  | some (.desktop, message) | some (.events, message) => some message
  | some (.video, message) | some (.window, message) | some (.canvas, message) =>
    some ("sdl2: " ++ message)
  | _ => none

/-- What keeps frames from being shown, as it is told. -/
def frameObstacle? : Option (Service × String) → Option String
  | some (.texture, message) | some (.update, message) | some (.copy, message) =>
    some ("sdl2: " ++ message)
  | _ => none

/-- The report of a session that asked for a window of a given size. -/
def Report.AsksFor (report : Report) (width height : Nat) : Prop :=
  ∃ window, report.window = some window ∧ window.width.toNat = width ∧
    window.height.toNat = height

/-- The report of a session that an obstacle ended before it showed a frame. -/
structure Report.Stops (report : Report) (text : String) (polls steps : Nat) : Prop where
  failure : report.failure.map Failure.message = some text
  polls : report.polls = polls
  steps : report.steps = steps
  frames : report.frames = []
  told : Event.quit ∉ report.events

/-- The report of a session that was closed. -/
structure Report.Closes (report : Report) (polls steps : Nat) : Prop where
  failure : report.failure = none
  polls : report.polls = polls
  steps : report.steps = steps
  told : report.events.getLast? = some .quit

/-! ## Reports with a past -/

theorem Report.Stops.afterStep {report : Report} {text : String} {polls steps : Nat}
    (h : report.Stops text polls steps) : report.afterStep.Stops text polls (steps + 1) :=
  { h with steps := congrArg (· + 1) h.steps }

theorem Report.Stops.after {report : Report} {text : String} {polls steps : Nat}
    (h : report.Stops text polls steps) {events : List Event} (hevents : Event.quit ∉ events) :
    (report.after [] events).Stops text polls steps :=
  { h with told := by simpa [Report.after] using ⟨hevents, h.told⟩ }

theorem Report.Closes.afterStep {report : Report} {polls steps : Nat}
    (h : report.Closes polls steps) : report.afterStep.Closes polls (steps + 1) :=
  { h with steps := congrArg (· + 1) h.steps }

theorem Report.Closes.after {report : Report} {polls steps : Nat} (h : report.Closes polls steps)
    (frames : List Presented) (events : List Event) :
    (report.after frames events).Closes polls steps :=
  { h with told := by simp [Report.after, List.getLast?_append, h.told] }

/-! ## Turns -/

/-- Listening does not tell that the session was closed. -/
theorem listen_told (pad : Keypad) (inputs : List Input) :
    Event.quit ∉ (listen pad inputs).events := by
  intro hquit
  cases isKeyUnmapped_of_mem_listen hquit

/-- The session of a headless run makes the same step, and raises the news of it. -/
theorem Session.step_of_headless {c d : Console ChaCha} {pad : Keypad} {told : List Event}
    (hstep : c.step pad = .ok (d, told)) (keypad : Keypad) (isSounding : Bool) :
    ∃ events, (⟨c.withNews false, keypad, isSounding⟩ : Session).step pad =
        .ok (⟨d.withNews (Event.tellRedrawing told), pad, d.machine.isSounding⟩, events) ∧
      Event.quit ∉ events := by
  refine ⟨_, Session.step_of_console hstep keypad isSounding, ?_⟩
  have htold := Console.step_told hstep
  split <;> simpa using htold

/-- A turn begins by taking the news away, if there is none or if the desktop shows frames. -/
theorem Session.present_of_shown {refused : Option (Service × String)} {isNew : Bool}
    (hshown : frameObstacle? refused = none ∨ isNew = false) (made : Nat) (c : Console ChaCha)
    (keypad : Keypad) (isSounding : Bool) :
    ∃ frames, (⟨c.withNews isNew, keypad, isSounding⟩ : Session).present refused made =
        .ok (⟨c.withNews false, keypad, isSounding⟩, frames) ∧ (isNew = false → frames = []) := by
  cases isNew with
  | false => exact ⟨[], rfl, fun _ => rfl⟩
  | true =>
    have hserves : frameObstacle? refused = none := by simpa using hshown
    refine ⟨[⟨made, c.screen.frame⟩], ?_, by simp⟩
    rcases refused with _ | ⟨service, message⟩
    · rfl
    · cases service with
      | texture | update | copy => cases hserves
      | _ => rfl

/-- News cannot be shown on a desktop that refuses to show frames. -/
theorem Session.present_of_refused {refused : Option (Service × String)} {text : String}
    (hrefused : frameObstacle? refused = some text) (made : Nat) (c : Console ChaCha)
    (keypad : Keypad) (isSounding : Bool) :
    ∃ report, (⟨c.withNews true, keypad, isSounding⟩ : Session).present refused made =
      .error report ∧ report.Stops text made 0 := by
  rcases refused with _ | ⟨service, message⟩
  · cases hrefused
  · cases service with
    | texture | update | copy => exact ⟨_, rfl, hrefused, rfl, rfl, rfl, by simp⟩
    | _ => cases hrefused

/-- The last turn of a session. -/
theorem closing_closes (polls : Nat) (frames : List Presented) (events : List Event) :
    (Report.after { polls } frames (events ++ [.quit])).Closes polls 0 := by
  constructor <;> simp [Report.after]

/-- From any turn on, a session is closed by its input if the desktop shows frames or nothing is
drawn. -/
theorem play_closes {refused : Option (Service × String)} {h : Headless}
    {polls : List (List Input)} {shots : List Shot}
    (hplay : h.play (polls.take (openPolls polls)) = .ok shots) (made : Nat)
    {isNew : Bool} (isSounding : Bool)
    (hshown : frameObstacle? refused = none ∨
      isNew = false ∧ ∀ shot ∈ shots, shot.isDrawn = false) :
    (Session.play refused made ⟨h.console.withNews isNew, h.keypad, isSounding⟩ polls).Closes
      (made + openPolls polls + 1) (openPolls polls) := by
  induction polls generalizing h shots made isNew isSounding with
  | nil =>
    rcases Session.present_of_shown (hshown.imp_right And.left) made h.console h.keypad isSounding
      with ⟨frames, hpresent, -⟩
    rw [Session.play_nil hpresent]
    exact closing_closes _ _ []
  | cons inputs rest ih =>
    rcases Session.present_of_shown (hshown.imp_right And.left) made h.console h.keypad isSounding
      with ⟨frames, hpresent, -⟩
    cases hcloses : inputs.any Input.closes with
    | true =>
      rw [Session.play_of_closing hpresent hcloses, openPolls_of_closing rest hcloses]
      exact closing_closes _ _ _
    | false =>
      rw [openPolls_of_open rest hcloses, List.take_succ_cons] at hplay
      rcases Headless.play_cons_eq_ok.1 hplay with ⟨d, told, later, hstep, hrest, rfl⟩
      rcases Session.step_of_headless hstep h.keypad isSounding with ⟨events, hturn, -⟩
      -- news that the step raises is shown, or the step raises none
      have hlater := ih hrest (made + 1) d.machine.isSounding
        (hshown.imp_right fun hquiet => List.forall_mem_cons.1 hquiet.2)
      have hpolls : made + openPolls (inputs :: rest) + 1 = made + 1 + openPolls rest + 1 := by
        rw [openPolls_of_open rest hcloses]
        omega
      rw [Session.play_of_step hpresent hcloses hturn, hpolls, openPolls_of_open rest hcloses]
      exact hlater.afterStep.after _ _

/-- From any turn on, a session on a desktop that refuses to show frames ends right after the first
step that draws one. -/
theorem play_stops {refused : Option (Service × String)} {text : String}
    (hrefused : frameObstacle? refused = some text) {h : Headless} {polls : List (List Input)}
    {shots : List Shot} (hplay : h.play (polls.take (openPolls polls)) = .ok shots) {k : Nat}
    (hdrawn : shots.findIdx? Shot.isDrawn = some k) (made : Nat) (isSounding : Bool) :
    (Session.play refused made ⟨h.console.withNews false, h.keypad, isSounding⟩ polls).Stops text
      (made + k + 1) (k + 1) := by
  induction polls generalizing h shots k made isSounding with
  | nil =>
    cases hplay
    cases hdrawn
  | cons inputs rest ih =>
    cases hcloses : inputs.any Input.closes with
    | true =>
      -- no step is made, so nothing is drawn
      rw [openPolls_of_closing rest hcloses] at hplay
      cases hplay
      cases hdrawn
    | false =>
      rw [openPolls_of_open rest hcloses, List.take_succ_cons] at hplay
      rcases Headless.play_cons_eq_ok.1 hplay with ⟨d, told, later, hstep, hrest, rfl⟩
      rcases Session.present_of_shown (.inr rfl) made h.console h.keypad isSounding with
        ⟨frames, hpresent, hframes⟩
      rcases Session.step_of_headless hstep h.keypad isSounding with ⟨events, hturn, hevents⟩
      have hquit : Event.quit ∉ (listen h.keypad inputs).events ++ events := by
        simpa using ⟨listen_told h.keypad inputs, hevents⟩
      rw [Session.play_of_step hpresent hcloses hturn, hframes rfl]
      rw [List.findIdx?_cons] at hdrawn
      cases hredraws : Event.tellRedrawing told with
      | true =>
        -- the next turn has news to show
        rw [if_pos hredraws] at hdrawn
        cases hdrawn
        rcases Session.present_of_refused hrefused (made + 1) d (Headless.feed h.keypad inputs)
          d.machine.isSounding with ⟨report, herror, hstops⟩
        rw [Session.play_of_refused herror]
        exact hstops.afterStep.after hquit
      | false =>
        rw [if_neg (by simp [hredraws]), Option.map_eq_some_iff] at hdrawn
        rcases hdrawn with ⟨j, hj, rfl⟩
        have hlater := ih hrest hj (made + 1) d.machine.isSounding
        have hpolls : made + (j + 1) + 1 = made + 1 + j + 1 := by omega
        rw [hpolls]
        exact hlater.afterStep.after hquit

/-! ## Sessions -/

theorem serve_window (desktop : Desktop) (scale : UInt32) (console : Console ChaCha) :
    (desktop.serve scale console).window =
      if reachesWindow desktop.refused then some (Window.ofScale scale) else none := by
  rcases desktop with ⟨polls, _ | ⟨service, message⟩⟩
  · rfl
  · cases service <;> rfl

theorem serve_stops {desktop : Desktop} {text : String}
    (h : startObstacle? desktop.refused = some text) (scale : UInt32) (console : Console ChaCha) :
    (desktop.serve scale console).Stops text 0 0 := by
  rcases desktop with ⟨polls, _ | ⟨service, message⟩⟩
  · cases h
  · cases service with
    | texture | update | copy => cases h
    | _ => exact ⟨h, rfl, rfl, rfl, by simp [serve]⟩

/-- A session that comes to its first turn does what its turns do, and has a window. -/
theorem serve_eq_play {desktop : Desktop} (h : startObstacle? desktop.refused = none)
    (scale : UInt32) (console : Console ChaCha) :
    desktop.serve scale console =
      { ((Session.start console).play desktop.refused 0 desktop.polls).after []
          [.windowOpened scale] with window := some (Window.ofScale scale) } := by
  rcases desktop with ⟨polls, _ | ⟨service, message⟩⟩
  · rfl
  · cases service with
    | texture | update | copy => rfl
    | _ => cases h

/-- The turns of a session begin without news, as its headless run does. -/
def Headless.Starts (h : Headless) : Prop :=
  Session.start h.console = ⟨h.console.withNews false, h.keypad, false⟩

theorem serve_closes {desktop : Desktop} (hstart : startObstacle? desktop.refused = none)
    (scale : UInt32) {h : Headless} (hfirst : h.Starts) {shots : List Shot}
    (hplay : h.play (desktop.polls.take (openPolls desktop.polls)) = .ok shots)
    (hshown : frameObstacle? desktop.refused = none ∨ ∀ shot ∈ shots, shot.isDrawn = false) :
    (desktop.serve scale h.console).Closes (openPolls desktop.polls + 1)
      (openPolls desktop.polls) := by
  have hturns := play_closes hplay 0 false (hshown.imp_right fun hquiet => ⟨rfl, hquiet⟩)
  rw [← hfirst, Nat.zero_add] at hturns
  rw [serve_eq_play hstart]
  exact { hturns.after [] [.windowOpened scale] with }

theorem serve_stops_drawing {desktop : Desktop} (hstart : startObstacle? desktop.refused = none)
    {text : String} (hrefused : frameObstacle? desktop.refused = some text) (scale : UInt32)
    {h : Headless} (hfirst : h.Starts) {shots : List Shot}
    (hplay : h.play (desktop.polls.take (openPolls desktop.polls)) = .ok shots) {k : Nat}
    (hdrawn : shots.findIdx? Shot.isDrawn = some k) :
    (desktop.serve scale h.console).Stops text (k + 1) (k + 1) := by
  have hturns := play_stops hrefused hplay hdrawn 0 false
  rw [← hfirst, Nat.zero_add] at hturns
  have hopened : Event.quit ∉ [Event.windowOpened scale] := by simp
  rw [serve_eq_play hstart]
  exact { hturns.after hopened with }

/-- A program with an obstacle is not loaded, and the obstacle is told. -/
theorem RomFile.load_of_obstacle {rom : RomFile} {text : String} (h : rom.obstacle? = some text)
    (m : Machine) : ∃ failure, rom.load m = .error failure ∧ failure.message = text := by
  have hcapacity : Memory.programCapacity = 3584 := rfl
  cases rom with
  | missing | directory =>
    cases h
    exact ⟨_, rfl, by decide⟩
  | file contents =>
    rw [load_contents]
    unfold Machine.load
    by_cases hempty : contents = []
    · subst hempty
      cases h
      exact ⟨_, rfl, rfl⟩
    · rw [if_neg (by simpa using hempty)]
      by_cases hlarge : Memory.programCapacity < contents.length
      · rw [if_pos hlarge]
        refine ⟨_, rfl, ?_⟩
        rw [hcapacity] at hlarge
        simp only [obstacle?, hempty, hlarge, if_true, if_false, Option.some.injEq] at h
        exact (LoadError.message_tooLarge contents.length).trans h
      · rw [hcapacity] at hlarge
        simp [obstacle?, hempty, hlarge] at h

/-- What is found without an obstacle is a file that fits. -/
theorem RomFile.exists_of_no_obstacle {rom : RomFile} (h : rom.obstacle? = none) :
    ∃ program, rom = .file program ∧ program ≠ [] ∧ program.length ≤ Memory.programCapacity := by
  have hcapacity : Memory.programCapacity = 3584 := rfl
  cases rom with
  | missing | directory => cases h
  | file contents =>
    by_cases hempty : contents = []
    · simp [obstacle?, hempty] at h
    · by_cases hlarge : 3584 < contents.length
      · simp [obstacle?, hempty, hlarge] at h
      · exact ⟨contents, rfl, hempty, by omega⟩

/-- A session with a program that fits tells of it and is served with the console of its headless
run, whose sound timer is not running. -/
theorem run_eq_serve (desktop : Desktop) (options : Options) {program : List UInt8}
    (entropy : UInt64) (hne : program ≠ []) (hfit : program.length ≤ Memory.programCapacity) :
    ∃ h, Headless.load (options.seed.getD entropy) program = .ok h ∧ h.console.machine.Sound ∧
      h.Starts ∧ h.console.machine.sound = 0 ∧
      desktop.run options (.file program) entropy = (desktop.serve options.scale h.console).after []
        [.programLoaded program.length, .romLoaded options.rom] := by
  let fresh := Console.ofSeed (options.seed.getD entropy)
  obtain ⟨machine, hload, hquiet⟩ : ∃ n,
      fresh.machine.load program = .ok (n, [.programLoaded program.length]) ∧ n.sound = 0 :=
    ⟨_, fresh.machine.load_of_fits hne hfit, rfl⟩
  refine ⟨⟨{ fresh with machine }, .released⟩, ?_, Bench.load_sound hload Machine.fresh_sound, rfl,
    hquiet, ?_⟩
  · simp only [fresh] at hload
    simp only [Headless.load, hload, bind, Except.bind]
    rfl
  · have hfile := load_file hload
    simp only [fresh] at hfile
    simp only [Desktop.run, hfile]
    rfl

/-- A session with a program that fits is served with the console of its headless run. -/
theorem run_of_fits (desktop : Desktop) (options : Options) {program : List UInt8}
    (entropy : UInt64) (hne : program ≠ []) (hfit : program.length ≤ Memory.programCapacity) :
    ∃ h events, Headless.load (options.seed.getD entropy) program = .ok h ∧
      h.console.machine.Sound ∧ h.Starts ∧ Event.quit ∉ events ∧
      desktop.run options (.file program) entropy =
        (desktop.serve options.scale h.console).after [] events := by
  rcases run_eq_serve desktop options entropy hne hfit with ⟨h, hload, hsound, hfirst, -, hrun⟩
  exact ⟨h, _, hload, hsound, hfirst, by simp, hrun⟩

/-- A session ends with the first obstacle that it meets, whatever the program, the options and the
input are. A program that cannot be loaded ends it before the desktop is asked for anything; then a
refused service may end it before the first turn, with a window if the desktop and its graphics were
granted. A session that comes to its first turn makes `q` polls and `q - 1` steps, if `q` is the
number of the first poll that closes it; but if frames cannot be shown and the `k`-th of these steps
is the first that renders the frame, it ends after `k` polls. -/
theorem run_ends (desktop : Desktop) (options : Options) (rom : RomFile) (entropy : UInt64)
    (hscale : 1 ≤ options.scale.toNat ∧ options.scale.toNat ≤ 40) :
    match rom.obstacle? with
    | some text =>
      (desktop.run options rom entropy).Stops text 0 0 ∧
        (desktop.run options rom entropy).window = none
    | none =>
      (if reachesWindow desktop.refused then
        (desktop.run options rom entropy).AsksFor (64 * options.scale.toNat)
          (32 * options.scale.toNat)
      else (desktop.run options rom entropy).window = none) ∧
      match startObstacle? desktop.refused with
      | some text => (desktop.run options rom entropy).Stops text 0 0
      | none =>
        ∃ program h shots, rom = .file program ∧
          Headless.load (options.seed.getD entropy) program = .ok h ∧
          h.play (desktop.polls.take (openPolls desktop.polls)) = .ok shots ∧
          shots.length = openPolls desktop.polls ∧
          match frameObstacle? desktop.refused, shots.findIdx? Shot.isDrawn with
          | some text, some k => (desktop.run options rom entropy).Stops text (k + 1) (k + 1)
          | _, _ =>
            (desktop.run options rom entropy).Closes (openPolls desktop.polls + 1)
              (openPolls desktop.polls) := by
  cases hrom : rom.obstacle? with
  | some text =>
    rcases rom.load_of_obstacle hrom (Console.ofSeed (options.seed.getD entropy)).machine with
      ⟨failure, hload, htext⟩
    have hrun : desktop.run options rom entropy = { failure := some failure } := by
      simp only [Desktop.run, hload]
    rw [hrun]
    exact ⟨⟨congrArg some htext, rfl, rfl, rfl, by simp⟩, rfl⟩
  | none =>
    rcases RomFile.exists_of_no_obstacle hrom with ⟨program, rfl, hne, hfit⟩
    rcases run_of_fits desktop options entropy hne hfit with
      ⟨h, events, hload, hsound, hfirst, hevents, hrun⟩
    rw [hrun]
    refine ⟨?_, ?_⟩
    · have hwindow := serve_window desktop options.scale h.console
      cases hreaches : reachesWindow desktop.refused with
      | true =>
        rw [hreaches] at hwindow
        rcases Window.size_ofScale hscale.2 with ⟨hwidth, hheight⟩
        exact ⟨_, hwindow, hwidth, hheight⟩
      | false =>
        rw [hreaches] at hwindow
        exact hwindow
    · cases hstart : startObstacle? desktop.refused with
      | some text => exact (serve_stops hstart options.scale h.console).after hevents
      | none =>
        rcases play_matches hsound desktop.polls 0 false false with ⟨shots, hplay, hlength, -⟩
        refine ⟨program, h, shots, rfl, hload, hplay, hlength, ?_⟩
        cases hrefused : frameObstacle? desktop.refused with
        | none => exact (serve_closes hstart options.scale hfirst hplay (.inl hrefused)).after _ _
        | some text =>
          cases hdrawn : shots.findIdx? Shot.isDrawn with
          | none =>
            rw [List.findIdx?_eq_none_iff] at hdrawn
            exact (serve_closes hstart options.scale hfirst hplay (.inr hdrawn)).after _ _
          | some k =>
            exact (serve_stops_drawing hstart hrefused options.scale hfirst hplay hdrawn).after
              hevents

/-- A desktop on which nothing can be copied to the canvas; the third poll closes the session. -/
def uncopied : Desktop where
  polls := [[.keyDown (some "Q")], [.other], [.keyDown (some "Escape")], [.quit]]
  refused := some (.copy, "surface is lost")

theorem upcoming?_drawing :
    ({ Machine.fresh with
        memory := Memory.fresh.install drawing.toArray } : Machine).upcoming? = some .cls := by
  refine Machine.upcoming?_eq_some_iff.2 ⟨rfl, ?_⟩
  have hpeek : ({ Machine.fresh with
      memory := Memory.fresh.install drawing.toArray } : Machine).peek = ⟨0x00E0⟩ := by
    simp only [Machine.peek, Memory.read_install]
    decide +kernel
  rw [hpeek]
  rfl

/-- The first step clears the screen, which cannot be shown. -/
theorem uncopied_ends : 1 ≤ (40 : UInt32).toNat ∧ (40 : UInt32).toNat ≤ 40 ∧
    (uncopied.run { rom := "drawing", scale := 40, seed := some 7 } (.file drawing) 0).AsksFor
      2560 1280 ∧
    (uncopied.run { rom := "drawing", scale := 40, seed := some 7 } (.file drawing) 0).Stops
      "sdl2: surface is lost" 1 1 := by
  have hscale : 1 ≤ (40 : UInt32).toNat ∧ (40 : UInt32).toNat ≤ 40 := by decide
  have hends := run_ends uncopied { rom := "drawing", scale := 40, seed := some 7 } (.file drawing)
    0 hscale
  have hrom : (RomFile.file drawing).obstacle? = none := by decide
  rw [hrom] at hends
  rcases hends with ⟨hwindow, program, h, shots, hprogram, hload, hplay, -, hstops⟩
  cases hprogram
  cases hload
  rcases Headless.play_cons_eq_ok.1 hplay with ⟨d, told, later, hstep, -, rfl⟩
  have hdrawn := Console.step_tellRedrawing hstep
  have hfirst : Event.tellRedrawing told = true := by
    rw [hdrawn]
    exact congrArg (Option.any Instruction.redraws) upcoming?_drawing
  rw [List.findIdx?_cons, if_pos hfirst] at hstops
  exact ⟨hscale.1, hscale.2, hwindow, hstops⟩

end Desktop

end Chip8VM
