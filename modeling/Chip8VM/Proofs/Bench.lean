import Chip8VM.Program.Loading
import Chip8VM.Proofs.PixelBytes
import Chip8VM.Proofs.Safety

/-!
# The bench

A console and a keypad on a bench, where anything may be done to them between steps: programs are
loaded over one another, keys go down and up, and the screen is drawn on and read from outside.

* `Bench.replay`: a sequence of such operations, in any order.
* `replay_sound`, `replay_mirrors`: what every sequence keeps of the machine, and of the screen.
* `replay_safe`: after power-on every sequence goes through, and the step after it cannot fault.
-/

namespace Chip8VM

/-- An operation on a keypad. -/
inductive Keypad.Operation where
  | press (key : UInt8)
  | release (key : UInt8)
  | setNamed (name : String) (isDown : Bool)
deriving DecidableEq, Repr

/-- The keypad after an operation, and what happened. -/
def Keypad.apply (pad : Keypad) : Keypad.Operation → Keypad × List Event
  | .press key => (pad.press key, [])
  | .release key => (pad.release key, [])
  | .setNamed name isDown => pad.setNamed name isDown

/-- A console, a keypad and what has happened to them so far. -/
structure Bench where
  console : Console ChaCha
  keypad : Keypad
  journal : List Event
deriving DecidableEq, Repr

namespace Bench

/-- The bench at power-on, with random numbers that follow from a seed. -/
def ofSeed (seed : UInt64) : Bench :=
  ⟨.ofSeed seed, .released, []⟩

/-- What can be done on a bench. -/
inductive Operation where
  /-- Loads a program. -/
  | load (image : List UInt8)
  /-- Loads a program from a reader. -/
  | loadFrom (reader : List Delivery)
  /-- Makes a step with the keys that are down. -/
  | step
  /-- Changes the keypad. -/
  | keypad (operation : Keypad.Operation)
  /-- Draws on the screen or takes its frame away. -/
  | screen (operation : Screen.Operation)
deriving DecidableEq, Repr

/-- The bench after an attempt to load; one that fails changes nothing. -/
def afterLoading (b : Bench) : Except LoadError (Machine × List Event) → Bench
  | .ok (machine, events) =>
    { b with console := { b.console with machine }, journal := b.journal ++ events }
  | .error _ => b

/-- The bench after an operation. -/
def apply (b : Bench) : Operation → Except Fault Bench
  | .load image => return b.afterLoading (b.console.machine.load image)
  | .loadFrom reader => return b.afterLoading (b.console.machine.loadFrom reader)
  | .step => do
    let (console, events) ← b.console.step b.keypad
    return { b with console, journal := b.journal ++ events }
  | .keypad operation =>
    let (keypad, events) := b.keypad.apply operation
    return { b with keypad, journal := b.journal ++ events }
  | .screen operation =>
    return { b with console := { b.console with screen := b.console.screen.apply operation } }

/-- The bench after a sequence of operations. -/
def replay (b : Bench) (operations : List Operation) : Except Fault Bench :=
  operations.foldlM apply b

/-! ## Soundness on the bench -/

theorem load_sound {m n : Machine} {image : List UInt8} {events : List Event}
    (h : m.load image = .ok (n, events)) (hm : m.Sound) : n.Sound := by
  unfold Machine.load at h
  split at h
  · cases h
  · split at h
    · cases h
    · cases h
      exact ⟨hm.sp_le, hm.awaited_lt⟩

theorem loadFrom_sound {m n : Machine} {reader : List Delivery} {events : List Event}
    (h : m.loadFrom reader = .ok (n, events)) (hm : m.Sound) : n.Sound := by
  unfold Machine.loadFrom at h
  split at h
  · exact load_sound h hm
  · cases h

/-- Every operation on a bench with a sound machine goes through and keeps the machine sound. -/
theorem apply_sound {b : Bench} (hb : b.console.machine.Sound) (operation : Operation) :
    ∃ b', b.apply operation = .ok b' ∧ b'.console.machine.Sound := by
  cases operation with
  | load image =>
    -- a failed attempt changes nothing, and a successful one only the memory
    refine ⟨_, rfl, ?_⟩
    cases h : b.console.machine.load image with
    | error reason => exact hb
    | ok loaded => exact load_sound h hb
  | loadFrom reader =>
    refine ⟨_, rfl, ?_⟩
    cases h : b.console.machine.loadFrom reader with
    | error reason => exact hb
    | ok loaded => exact loadFrom_sound h hb
  | step =>
    rcases Console.step_succeeds hb b.keypad with ⟨⟨c, events⟩, hstep⟩
    refine ⟨{ b with console := c, journal := b.journal ++ events }, ?_,
      Console.step_sound hstep hb⟩
    show (b.console.step b.keypad >>= _) = _
    rw [hstep]
    rfl
  -- the keypad and the screen are no part of the machine
  | keypad operation => exact ⟨_, rfl, hb⟩
  | screen operation => exact ⟨_, rfl, hb⟩

/-- Every sequence of operations on a bench with a sound machine goes through and keeps the machine
sound. -/
theorem replay_sound {b : Bench} (hb : b.console.machine.Sound) (operations : List Operation) :
    ∃ b', b.replay operations = .ok b' ∧ b'.console.machine.Sound := by
  induction operations generalizing b with
  | nil => exact ⟨b, rfl, hb⟩
  | cons operation rest ih =>
    rcases apply_sound hb operation with ⟨b₁, happly, hb₁⟩
    rcases ih hb₁ with ⟨b₂, hreplay, hb₂⟩
    refine ⟨b₂, ?_, hb₂⟩
    rw [replay, List.foldlM_cons, happly]
    exact hreplay

/-! ## Pixels on the bench -/

theorem afterLoading_screen (b : Bench) (loaded : Except LoadError (Machine × List Event)) :
    (b.afterLoading loaded).console.screen = b.console.screen := by
  cases loaded <;> rfl

/-- An operation on a bench can be made on bytes beside its screen. -/
theorem apply_mirrors {b b' : Bench} {operation : Operation} (h : b.apply operation = .ok b')
    {bytes : ByteScreen} (hb : bytes.Mirrors b.console.screen) :
    ∃ bytes' : ByteScreen, bytes'.Mirrors b'.console.screen := by
  cases operation with
  | load image | loadFrom reader =>
    cases h
    refine ⟨bytes, ?_⟩
    rw [afterLoading_screen]
    exact hb
  | step =>
    simp only [apply, bind_eq_ok, pure_eq_ok, Prod.exists] at h
    rcases h with ⟨c, events, hstep, rfl⟩
    exact ⟨_, hb.step hstep⟩
  | keypad operation =>
    cases h
    exact ⟨bytes, hb⟩
  | screen operation =>
    cases h
    exact ⟨_, hb.operation operation⟩

theorem replay_mirrors {b b' : Bench} {operations : List Operation}
    (h : b.replay operations = .ok b') {bytes : ByteScreen}
    (hb : bytes.Mirrors b.console.screen) :
    ∃ bytes' : ByteScreen, bytes'.Mirrors b'.console.screen := by
  induction operations generalizing b bytes with
  | nil =>
    cases h
    exact ⟨bytes, hb⟩
  | cons operation rest ih =>
    rw [replay, List.foldlM_cons, bind_eq_ok] at h
    rcases h with ⟨b₁, happly, hrest⟩
    rcases apply_mirrors happly hb with ⟨bytes₁, hb₁⟩
    exact ih hrest hb₁

/-- After power-on every sequence of operations goes through. It leaves a call stack that is no
deeper than sixteen and no wait for a register beyond the fifteenth. A screen that keeps a byte for
each pixel can go through the same, and then its bytes are the pixels and each is zero or one. The
next step comes to an outcome whatever keys are down: it reaches for no register and no slot of the
call stack that does not exist, and none of its checked sums, differences and products overflows. -/
theorem replay_safe (seed : UInt64) (operations : List Operation) :
    ∃ b, (ofSeed seed).replay operations = .ok b ∧
      b.console.machine.sp.toNat ≤ 16 ∧
      (∀ x, b.console.machine.awaitedRegister = some x → x.toNat ≤ 15) ∧
      (∃ bytes : ByteScreen, bytes.Mirrors b.console.screen) ∧
      (∀ bytes : ByteScreen, bytes.Mirrors b.console.screen → ∀ x y,
        bytes.rows.get x y = b.console.screen.pixel x y ∧
          (bytes.rows.get x y = 0 ∨ bytes.rows.get x y = 1)) ∧
      ∀ pad, ∃ outcome, b.console.step pad = .ok outcome := by
  have hfresh : (ofSeed seed).console.machine.Sound := Machine.fresh_sound
  rcases replay_sound hfresh operations with ⟨b, hreplay, hb⟩
  refine ⟨b, hreplay, hb.sp_le, ?_, replay_mirrors hreplay .fresh, ?_, ?_⟩
  · intro x hx
    have hmode : b.console.machine.mode = .awaitingKey x := by
      unfold Machine.awaitedRegister at hx
      split at hx
      · cases hx
      · cases hx
        assumption
    have hlt := hb.awaited_lt x hmode
    omega
  · intro bytes hbytes x y
    exact ⟨hbytes.get_rows x y, hbytes.get_rows_eq x y⟩
  · intro pad
    exact Console.step_succeeds hb pad

end Bench

end Chip8VM
