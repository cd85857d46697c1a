import Chip8VM.Console.Basic
import Chip8VM.Instruction.Encoding

/-!
# Execution

What instructions do to a console, and the steps that fetch them.

- `Console.execute` applies one instruction, wherever it came from.
- `Console.step` is one step of a console: the timers count down, and then either an instruction is
  fetched and executed or the keypad is looked at for the key that is awaited.
- `Console.run` makes one step for each state of the keypad that it is given; `run_cons` splits off
  the first one.
-/

namespace Chip8VM.Console

open Machine (register rangeEnd)

variable {ρ : Type}

/-- Applies an instruction to a console. Operands that name no register are faults; where there are
two, the one that is needed first is the one reported. -/
def execute [WordSource ρ] (c : Console ρ) (pad : Keypad) (ins : Instruction) :
    Except Fault (Outcome ρ) :=
  let m := c.machine
  match ins with
  | .sys _ => return (c, [])
  | .cls => return ({ c with screen := c.screen.clear }, [])
  | .ret => return c.becomeWith (← m.ret)
  | .jump addr => return c.become (m.jump addr)
  | .call addr => return c.becomeWith (← m.call addr)
  | .skipEqByte x kk => do
    let x ← register x
    return c.become (m.skipIf (m.getV x == kk))
  | .skipNeByte x kk => do
    let x ← register x
    return c.become (m.skipIf (m.getV x != kk))
  | .skipEqReg x y => do
    let x ← register x
    let y ← register y
    return c.become (m.skipIf (m.getV x == m.getV y))
  | .loadByte x kk => do
    let x ← register x
    return c.become (m.setV x kk)
  | .addByte x kk => do
    let x ← register x
    return c.become (m.addByte x kk)
  | .move x y => do
    let y ← register y
    let x ← register x
    return c.become (m.setV x (m.getV y))
  | .or x y => do
    let y ← register y
    let x ← register x
    return c.become (m.setV x (m.getV x ||| m.getV y))
  | .and x y => do
    let y ← register y
    let x ← register x
    return c.become (m.setV x (m.getV x &&& m.getV y))
  | .xor x y => do
    let y ← register y
    let x ← register x
    return c.become (m.setV x (m.getV x ^^^ m.getV y))
  | .addReg x y => do
    let x ← register x
    let y ← register y
    return c.become (← m.addRegister x y)
  | .sub x y => do
    let x ← register x
    let y ← register y
    return c.become (m.subtract x y)
  | .shiftRight x => do
    let x ← register x
    return c.become (m.halve x)
  | .subN x y => do
    let x ← register x
    let y ← register y
    return c.become (m.subtractFrom x y)
  | .shiftLeft x => do
    let x ← register x
    return c.become (m.double x)
  | .skipNeReg x y => do
    let x ← register x
    let y ← register y
    return c.become (m.skipIf (m.getV x != m.getV y))
  | .loadIndex addr => return c.become (m.setIndex addr)
  | .jumpOffset addr => return c.become (← m.jumpOffset addr)
  | .random x kk => do
    let x ← register x
    return (c.drawRandom x kk, [])
  | .draw x y n => do
    let x ← register x
    let y ← register y
    return (c.draw x y n.toNat, [])
  | .skipKeyDown x => do
    let x ← register x
    return c.become (m.skipIf (pad.isDown (m.getV x)))
  | .skipKeyUp x => do
    let x ← register x
    return c.become (m.skipIf (!pad.isDown (m.getV x)))
  | .readDelay x => do
    let x ← register x
    return c.become (m.setV x m.delay)
  | .awaitKey x => return (← c.awaitKey pad x, [])
  | .setDelay x => do
    let x ← register x
    return c.become { m with delay := m.getV x }
  | .setSound x => do
    let x ← register x
    return c.become { m with sound := m.getV x }
  | .addIndex x => do
    let x ← register x
    return c.become (m.addIndex x)
  | .loadGlyph x => do
    let x ← register x
    return c.become (← m.pointAtGlyph x)
  | .storeBcd x => do
    let x ← register x
    return c.becomeWith (m.storeDecimal x)
  | .storeRegisters x => do
    let last ← rangeEnd x
    return c.becomeWith (m.storeRegisters last)
  | .loadRegisters x => do
    let last ← rangeEnd x
    return c.become (m.loadRegisters last)

/-- Continues the wait of a register for a key: the lowest key that is down ends it. -/
def continueWait (c : Console ρ) (pad : Keypad) (x : UInt8) : Except Fault (Outcome ρ) :=
  match pad.firstPressed with
  | none => return (c, [])
  | some key => do
    let r ← register x
    let m := c.machine.setV r key.val.toUInt8
    return ({ c with machine := { m with mode := .running } }, [.keyStored key x])

/-- Fetches the next instruction and executes it; a word that encodes none is passed over. -/
def cycle [WordSource ρ] (c : Console ρ) (pad : Keypad) : Except Fault (Outcome ρ) :=
  let pc := c.machine.pc
  let op := c.machine.peek
  let c := { c with machine := c.machine.fetch }
  match Instruction.decode op with
  | none => return (c, [.unrecognised pc op])
  | some ins => do
    let (c, events) ← c.execute pad ins
    return (c, .executing pc op ins :: events)

/-- Makes one step. -/
def step [WordSource ρ] (c : Console ρ) (pad : Keypad) : Except Fault (Outcome ρ) :=
  let c := { c with machine := c.machine.tick }
  match c.machine.mode with
  | .running => c.cycle pad
  | .awaitingKey x => c.continueWait pad x

/-! ## Runs -/

/-- Makes a step behind what happened so far. -/
def stepAfter [WordSource ρ] (past : Console ρ × Array Event) (pad : Keypad) :
    Except Fault (Console ρ × Array Event) := do
  let (c, events) ← past.1.step pad
  return (c, past.2 ++ events.toArray)

/-- Makes one step for each state of the keypad, up to the first fault. -/
def run [WordSource ρ] (c : Console ρ) (pads : List Keypad) :
    Except Fault (Console ρ × Array Event) :=
  pads.foldlM stepAfter (c, #[])

@[simp] theorem run_nil [WordSource ρ] (c : Console ρ) : c.run [] = .ok (c, #[]) := rfl

theorem foldlM_stepAfter [WordSource ρ] (c : Console ρ) (past : Array Event)
    (pads : List Keypad) :
    pads.foldlM stepAfter (c, past) = (c.run pads).map fun r => (r.1, past ++ r.2) := by
  induction pads generalizing c past with
  | nil => simp [Except.map, pure, Except.pure]
  | cons pad pads ih =>
    simp only [run, List.foldlM_cons, stepAfter, bind, Except.bind, pure, Except.pure]
    cases c.step pad with
    | error fault => rfl
    | ok r =>
      show pads.foldlM stepAfter (r.1, past ++ r.2.toArray) =
        (pads.foldlM stepAfter (r.1, #[] ++ r.2.toArray)).map fun s => (s.1, past ++ s.2)
      rw [ih r.1 (past ++ r.2.toArray), ih r.1 (#[] ++ r.2.toArray)]
      cases r.1.run pads <;> simp [Except.map]

/-- A run is its first step followed by the run from there. -/
theorem run_cons [WordSource ρ] (c : Console ρ) (pad : Keypad) (pads : List Keypad) :
    c.run (pad :: pads) =
      (c.step pad).bind fun r => (r.1.run pads).map fun s => (s.1, r.2.toArray ++ s.2) := by
  simp only [run, List.foldlM_cons, stepAfter, bind, Except.bind, pure, Except.pure]
  cases c.step pad with
  | error fault => rfl
  | ok r =>
    simp only
    rw [foldlM_stepAfter]
    simp [run]

end Chip8VM.Console
