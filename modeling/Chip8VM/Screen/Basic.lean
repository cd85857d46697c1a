import Chip8VM.Screen.Frame

/-!
# The screen

A frame that is drawn on, and the news whether it has been rendered since somebody last took it
away to show it. Drawing single pixels is silent; clearing and rendering raise the news.
-/

namespace Chip8VM

/-- What a machine draws on. -/
structure Screen where
  /-- The pixels as they are. -/
  frame : Frame
  /-- Whether the frame was rendered and has not been taken since. -/
  isNew : Bool
deriving DecidableEq, Repr

namespace Screen

/-- A dark screen with nothing to show. -/
def fresh : Screen :=
  ⟨.blank, false⟩

/-- Announces the pixels as they are. -/
def render (s : Screen) : Screen :=
  { s with isNew := true }

/-- Makes all pixels dark and announces it. -/
def clear (_ : Screen) : Screen :=
  ⟨.blank, true⟩

/-- The pixel that a pair of numbers names, as a number. -/
def pixel (s : Screen) (x y : Nat) : UInt8 :=
  if s.frame.isLit (Cell.wrap x y) then 1 else 0

/-- Flips the pixel that a pair of numbers names if `value` is odd. -/
def xorPixel (s : Screen) (x y : Nat) (value : UInt8) : Screen :=
  if value % 2 = 1 then { s with frame := s.frame.flip (Cell.wrap x y) } else s

/-- The frame, if it is news, and the screen on which it no longer is. -/
def takeFrame (s : Screen) : Option Frame × Screen :=
  if s.isNew then (some s.frame, { s with isNew := false }) else (none, s)

end Screen

end Chip8VM
