import Chip8VM.Keypad.Basic

/-!
# Desktop input

The events that a desktop delivers, and what they mean to a session: some close it, some change the
keypad, the others have no meaning. Events after the one that closes the session are not looked at.
-/

namespace Chip8VM.Desktop

/-- An event that a desktop delivers; a key may have no name. -/
inductive Input where
  /-- The window was closed. -/
  | quit
  /-- A key went down. -/
  | keyDown (name : Option String)
  /-- A key went up. -/
  | keyUp (name : Option String)
  /-- Something else happened. -/
  | other
deriving DecidableEq, Repr

namespace Input

/-- Whether an event closes the session: closing the window does, and so does the escape key. -/
def closes : Input → Bool
  | .quit => true
  | .keyDown (some name) => name == "Escape"
  | _ => false

/-- What an event does to the keypad. The space bar only hurries the session on. -/
def apply (pad : Keypad) : Input → Keypad × List Event
  | .keyDown (some name) => if name = "Space" then (pad, []) else pad.setNamed name true
  | .keyUp (some name) => if name = "Space" then (pad, []) else pad.setNamed name false
  | _ => (pad, [])

end Input

/-- What a run of input events comes to. -/
structure Reaction where
  /-- The keypad after them. -/
  keypad : Keypad
  /-- What happened, in order. -/
  events : List Event
  /-- Whether one of them closed the session. -/
  isClosing : Bool
deriving DecidableEq, Repr

/-- Takes events in order, up to the first that closes the session. -/
def listen (pad : Keypad) : List Input → Reaction
  | [] => ⟨pad, [], false⟩
  | input :: rest =>
    if input.closes then ⟨pad, [], true⟩
    else
      let (pad, events) := input.apply pad
      let reaction := listen pad rest
      { reaction with events := events ++ reaction.events }

/-!
## Scripts

Input events as words, for driving a session by text. A line is what one poll delivers: `+Q` stands
for the key named Q going down, `-Q` for its going up, and `quit` for the window being closed.
-/

/-- The parts of a text between its blanks. -/
def words : List Char → List (List Char)
  | [] => [[]]
  | c :: rest =>
    if c.isWhitespace then [] :: words rest
    else match words rest with
      | [] => [[c]]
      | first :: others => (c :: first) :: others

/-- The event that a word stands for; the empty word stands for none. -/
def Input.ofWord? : List Char → Option Input
  | [] => none
  | '+' :: name => some (.keyDown (some (String.ofList name)))
  | '-' :: name => some (.keyUp (some (String.ofList name)))
  | word => if word = ['q', 'u', 'i', 't'] then some .quit else some .other

/-- The events of a poll, from a line of words. -/
def pollOfLine (line : String) : List Input :=
  (words line.toList).filterMap Input.ofWord?

end Chip8VM.Desktop
