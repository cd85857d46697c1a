import Chip8VM.CommandLine.Options
import Chip8VM.Console.Execution
import Chip8VM.Desktop.Service

/-!
# Sessions

A session loads a program, opens a window, and then takes turns until it is closed. In a turn the
frame is shown if it is news, the desktop is polled, and the console makes one step; the tone is on
while the sound timer counts.

- `Session.play` is the loop of turns, by recursion on the polls that are left.
- `Desktop.run` is a whole session, and its `Report` is all that can be seen of it.
-/

namespace Chip8VM.Desktop

/-- A frame that was shown. -/
structure Presented where
  /-- The number of polls made before it. -/
  polls : Nat
  /-- The frame. -/
  frame : Frame
deriving DecidableEq, Repr

/-- What is seen of a session, or of the part of one that begins at some turn. -/
structure Report where
  /-- Why it ended before it was closed. -/
  failure : Option Failure := none
  /-- The window that was asked for. -/
  window : Option Window := none
  /-- The layout of the texture that was filled last. -/
  texture : Option Texture.Layout := none
  /-- The number of polls made, since the beginning of the session. -/
  polls : Nat := 0
  /-- The number of steps made by the console. -/
  steps : Nat := 0
  /-- The frames that were shown, in order. -/
  frames : List Presented := []
  /-- What happened, in order. -/
  events : List Event := []
deriving DecidableEq, Repr

/-- The report of a part of a session before which frames were shown and events happened. -/
def Report.after (rest : Report) (frames : List Presented) (events : List Event) : Report :=
  { rest with
    texture := if frames.isEmpty then rest.texture else some Texture.frameLayout
    frames := frames ++ rest.frames
    events := events ++ rest.events }

/-- The report of a part of a session before which a step was made. -/
def Report.afterStep (rest : Report) : Report :=
  { rest with steps := rest.steps + 1 }

/-- A session between two turns. -/
structure Session where
  console : Console ChaCha
  keypad : Keypad
  /-- Whether the tone is on. -/
  isSounding : Bool
deriving DecidableEq, Repr

namespace Session

/-- The session at its first turn. -/
def start (console : Console ChaCha) : Session :=
  ⟨console, .released, false⟩

/-- Shows the frame if it is news. A service that is refused ends the session. -/
def present (refused : Option (Service × String)) (polls : Nat) (s : Session) :
    Except Report (Session × List Presented) :=
  match s.console.screen.takeFrame with
  | (none, _) => .ok (s, [])
  | (some frame, screen) =>
    let shown := { s with console := { s.console with screen } }
    match refused with
    | some (.texture, message) => .error { failure := some (.display message), polls }
    | some (.update, message) | some (.copy, message) =>
      .error { failure := some (.display message), texture := some Texture.frameLayout, polls }
    | _ => .ok (shown, [⟨polls, frame⟩])

/-- Makes a step with the given keys and follows the tone. -/
def step (s : Session) (keypad : Keypad) : Except Fault (Session × List Event) := do
  let (console, events) ← s.console.step keypad
  let isSounding := console.machine.isSounding
  let tone := if isSounding == s.isSounding then [] else [Event.tone isSounding]
  return (⟨console, keypad, isSounding⟩, events ++ tone)

/-- Takes turns until the session is closed; so many polls have been made before. -/
def play (refused : Option (Service × String)) (polls : Nat) (s : Session) :
    List (List Input) → Report
  | [] =>
    match s.present refused polls with
    | .error report => report
    | .ok (_, frames) => Report.after { polls := polls + 1 } frames [.quit]
  | inputs :: rest =>
    match s.present refused polls with
    | .error report => report
    | .ok (s, frames) =>
      let reaction := listen s.keypad inputs
      if reaction.isClosing then
        Report.after { polls := polls + 1 } frames (reaction.events ++ [.quit])
      else
        match s.step reaction.keypad with
        | .error fault =>
          Report.after { failure := some (.fault fault), polls := polls + 1 } frames
            reaction.events
        | .ok (s, events) =>
          (play refused (polls + 1) s rest).afterStep.after frames (reaction.events ++ events)

end Session

/-- A session with a loaded console. The services are asked for in order, and the first that is
refused ends the session. -/
def serve (desktop : Desktop) (scale : UInt32) (console : Console ChaCha) : Report :=
  let window := Window.ofScale scale
  match desktop.refused with
  | some (.desktop, message) => { failure := some (.desktop message) }
  | some (.video, message) => { failure := some (.display message) }
  | some (.window, message) | some (.canvas, message) =>
    { failure := some (.display message), window := some window }
  | some (.events, message) =>
    { failure := some (.desktop message), window := some window, events := [.windowOpened scale] }
  | refused =>
    let report := (Session.start console).play refused 0 desktop.polls
    { report.after [] [.windowOpened scale] with window := some window }

end Chip8VM.Desktop

namespace Chip8VM

/-- A whole session. Without a seed among the options the random numbers follow from `entropy`. This
has 64 bits, so the key of the stream is one that some seed expands to, where a key taken whole from
the system would be any 256 bits. -/
def Desktop.run (desktop : Desktop) (options : Options) (rom : Desktop.RomFile)
    (entropy : UInt64) : Desktop.Report :=
  let console := Console.ofSeed (options.seed.getD entropy)
  match rom.load console.machine with
  | .error failure => { failure := some failure }
  | .ok (machine, events) =>
    (desktop.serve options.scale { console with machine }).after []
      (events ++ [.romLoaded options.rom])

end Chip8VM
