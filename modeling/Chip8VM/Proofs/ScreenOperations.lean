import Chip8VM.Proofs.Masks
import Chip8VM.Proofs.Stepping

/-!
# Operations of a step on the screen

What a step does to the screen, it does by the operations that may also be made on the screen from
outside: it clears the screen, or it turns the cells of a sprite one after the other and renders
them, or it makes none.

* `Machine.screenOperations`: the operations of the next step.
* `step_screen`: they are all that the step does to the screen.
-/

namespace Chip8VM

/-- An operation on a screen. -/
inductive Screen.Operation where
  | clear
  | render
  | xorPixel (x y : Nat) (value : UInt8)
  | takeFrame
deriving DecidableEq, Repr

/-- The screen after an operation. -/
def Screen.apply (s : Screen) : Screen.Operation → Screen
  | .clear => s.clear
  | .render => s.render
  | .xorPixel x y value => s.xorPixel x y value
  | .takeFrame => s.takeFrame.2

theorem Cell.wrap_val (c : Cell) : Cell.wrap c.x.val c.y.val = c := by
  simp [Cell.wrap]

/-- What an instruction does to the screen: clearing it, or turning the cells that a sprite covers
one after the other and rendering them. -/
def Machine.draws (m : Machine) : Instruction → List Screen.Operation
  | .cls => [.clear]
  | .draw x y n =>
    (m.covered (operand x) (operand y) n.toNat).map (fun c => .xorPixel c.x.val c.y.val 1)
      ++ [.render]
  | _ => []

/-- What the next step does to the screen. -/
def Machine.screenOperations (m : Machine) : List Screen.Operation :=
  m.upcoming?.elim [] m.draws

namespace Console

variable {ρ : Type}

/-- Cells are turned one after the other by operations on the screen. -/
theorem foldl_xorPixel (s : Screen) (cells : List Cell) :
    (cells.map fun c => Screen.Operation.xorPixel c.x.val c.y.val 1).foldl Screen.apply s =
      { s with frame := (s.frame.stamp cells).1 } := by
  rw [Frame.stamp_eq_foldl]
  induction cells generalizing s with
  | nil => rfl
  | cons c cells ih =>
    have hturn : s.apply (.xorPixel c.x.val c.y.val 1) = { s with frame := s.frame.flip c } := by
      show { s with frame := s.frame.flip (Cell.wrap c.x.val c.y.val) } = _
      rw [Cell.wrap_val]
    rw [List.map_cons, List.foldl_cons, List.foldl_cons, hturn, ih]

variable [WordSource ρ]

/-- A step draws by the operations that its instruction makes on the screen. -/
theorem step_screen {c d : Console ρ} {pad : Keypad} {events : List Event}
    (h : c.step pad = .ok (d, events)) :
    d.screen = c.machine.screenOperations.foldl Screen.apply c.screen := by
  cases step_eq_ok_iff.1 h with
  | waiting hmode hpad | resumed hmode hpad hr =>
    simp [Machine.screenOperations, Machine.upcoming?, hmode, ticked]
  | unrecognised hmode hdecode =>
    simp [Machine.screenOperations, Machine.upcoming?, hmode, hdecode, fetched]
  | @executed ins _ _ hmode hdecode hexec =>
    have hup : c.machine.upcoming? = some ins := Machine.upcoming?_eq_some_iff.2 ⟨hmode, hdecode⟩
    have hins := Instruction.decode_inRange hdecode
    rw [Machine.screenOperations, hup, Option.elim_some]
    by_cases hscreen : ins.touches = some .screen
    · rcases Instruction.of_touches_screen hscreen with rfl | ⟨x, y, n, rfl⟩
      · cases hexec
        rfl
      · have hx := Machine.register_operand (hins.registers x (by simp [Instruction.registers]))
        have hy := Machine.register_operand (hins.registers y (by simp [Instruction.registers]))
        rw [execute_draw _ _ hx hy] at hexec
        cases hexec
        rw [Machine.draws, List.foldl_append, foldl_xorPixel]
        rfl
    · rw [(execute_footprint hexec).screen hscreen]
      cases ins with
      | cls | draw => exact absurd rfl hscreen
      | _ => rfl

end Console

end Chip8VM
