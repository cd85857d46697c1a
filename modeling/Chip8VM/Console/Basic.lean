import Chip8VM.Keypad.Basic
import Chip8VM.Machine.Arithmetic
import Chip8VM.Machine.Control
import Chip8VM.Machine.Storage
import Chip8VM.Random
import Chip8VM.Screen.Basic

/-!
# The console

A machine together with the screen it draws on and the source of its random numbers. The keypad is
not part of it: whoever drives the console passes the state of the keys to each operation.
-/

namespace Chip8VM

/-- A machine with a screen and a source of random words. -/
structure Console (ρ : Type) where
  machine : Machine
  screen : Screen
  random : ρ
deriving DecidableEq, Repr

namespace Console

variable {ρ : Type}

/-- The console before a program is loaded, whose random numbers follow from a seed. -/
def ofSeed (seed : UInt64) : Console ChaCha :=
  ⟨.fresh, .fresh, .ofSeed seed⟩

/-- What an operation comes to: the console after it and what happened, in order. -/
abbrev Outcome (ρ : Type) := Console ρ × List Event

/-- The silent outcome that leaves another machine behind. -/
def become (c : Console ρ) (m : Machine) : Outcome ρ :=
  ({ c with machine := m }, [])

/-- The outcome that leaves another machine behind and tells what happened to it. -/
def becomeWith (c : Console ρ) (r : Machine × List Event) : Outcome ρ :=
  ({ c with machine := r.1 }, r.2)

/-- Draws the sprite of `n` rows at the index register with its corner at `(Vx, Vy)`. The flag tells
whether a lit pixel was met, and the frame is rendered. -/
def draw (c : Console ρ) (x y : Machine.Register) (n : Nat) : Console ρ :=
  let m := c.machine
  let cells := Sprite.cells (m.getV x).toNat (m.getV y).toNat (m.memory.readAll m.i n)
  let (frame, met) := c.screen.frame.stamp cells
  { c with
    machine := m.setV Machine.flag (Machine.flagOf met)
    screen := { c.screen with frame }.render }

/-- Sets a register to the low byte of the next random word, restricted to the bits of `kk`. -/
def drawRandom [WordSource ρ] (c : Console ρ) (x : Machine.Register) (kk : UInt8) : Console ρ :=
  let (word, rest) := WordSource.next c.random
  { c with machine := c.machine.setV x (word.toUInt8 &&& kk), random := rest }

/-- Sets the register that `x` names to the lowest key that is down; with no key down the wait for
one begins, whatever `x` names. -/
def awaitKey (c : Console ρ) (pad : Keypad) (x : UInt8) : Except Fault (Console ρ) :=
  match pad.firstPressed with
  | some key => do
    let x ← Machine.register x
    return { c with machine := c.machine.setV x key.val.toUInt8 }
  | none => return { c with machine := { c.machine with mode := .awaitingKey x } }

end Console

end Chip8VM
