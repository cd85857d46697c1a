import Mathlib.Data.Fintype.Prod
import Mathlib.Data.List.DropRight
import Chip8VM.Proofs.LitCells
import Chip8VM.Proofs.PixelBytes

/-!
# The history of a screen

What a screen shows is told by the operations that were made on it. A pixel is lit if it was turned
an odd number of times since the screen was cleared last. The frame can be taken away if it was
announced, by clearing or by rendering, since it was taken away last; turning pixels announces
nothing, and what is taken away are the pixels as they are by then.

* `isLit_apply`, `isNew_apply`: what one operation does to a pixel and to the news.
* `isLit_history`, `isNew_history`: the same for all operations since the screen was fresh.
* `shows_history`: all that can be seen of a screen, told by its history.
-/

namespace Chip8VM

namespace Screen

/-! ## Definitions -/

namespace Operation

/-- Whether an operation turns the pixel that a pair of numbers names: it does so under all numbers
that wrap around to the same pixel, if its value is odd. -/
def turns (x y : Nat) : Operation → Bool
  | .xorPixel x' y' value => x' % 64 = x % 64 ∧ y' % 32 = y % 32 ∧ value % 2 = 1
  | _ => false

/-- Whether an operation announces the pixels. -/
def announces : Operation → Bool
  | .clear | .render => true
  | .xorPixel .. | .takeFrame => false

/-- The operations since the last clearing, or all if there is none. -/
def sinceClearing (operations : List Operation) : List Operation :=
  operations.rtakeWhile fun operation => operation ≠ .clear

/-- The operations since the frame was last asked for, or all if it never was. -/
def sinceTaking (operations : List Operation) : List Operation :=
  operations.rtakeWhile fun operation => operation ≠ .takeFrame

end Operation

/-- The screen after operations that began with a fresh one. -/
def replay (operations : List Operation) : Screen :=
  operations.foldl apply .fresh

theorem replay_append_singleton (operations : List Operation) (operation : Operation) :
    replay (operations ++ [operation]) = (replay operations).apply operation := by
  simp [replay]

/-! ## Pixels -/

/-- Only clearing and turning change a pixel. -/
theorem isLit_apply (s : Screen) {operation : Operation} (h : operation ≠ .clear) (x y : Nat) :
    (s.apply operation).frame.isLit (Cell.wrap x y) =
      (s.frame.isLit (Cell.wrap x y) ^^ operation.turns x y) := by
  cases operation with
  | clear => exact absurd rfl h
  | render => simp [apply, render, Operation.turns]
  | takeFrame => cases hnew : s.isNew <;> simp [apply, takeFrame, hnew, Operation.turns]
  | xorPixel x' y' value =>
    simp only [apply, xorPixel, Operation.turns]
    by_cases hodd : value % 2 = 1
    · simp only [hodd, if_true, Frame.isLit_flip, Cell.wrap_eq_iff, and_true]
      by_cases hcell : x' % 64 = x % 64 ∧ y' % 32 = y % 32 <;> simp [hcell]
    · simp [hodd]

/-- A pixel is lit if it was turned an odd number of times since the last clearing. -/
theorem isLit_history (operations : List Operation) (x y : Nat) :
    (replay operations).frame.isLit (Cell.wrap x y) =
      decide ((Operation.sinceClearing operations).countP (Operation.turns x y) % 2 = 1) := by
  induction operations using List.reverseRecOn with
  | nil => simp [replay, fresh, Operation.sinceClearing]
  | append_singleton operations operation ih =>
    rw [replay_append_singleton]
    by_cases hclear : operation = .clear
    · -- after a clearing nothing counts
      subst hclear
      simp [apply, clear, Operation.sinceClearing]
    · have hsince : Operation.sinceClearing (operations ++ [operation]) =
          Operation.sinceClearing operations ++ [operation] :=
        List.rtakeWhile_concat_pos _ _ _ (by simpa using hclear)
      rw [isLit_apply _ hclear, ih, hsince, List.countP_append, List.countP_singleton]
      cases operation.turns x y with
      | false => simp
      | true =>
        rw [Bool.xor_true, ← decide_not, if_pos rfl, decide_eq_decide]
        omega

/-! ## News -/

/-- Asking for the frame ends its being news, announcing it makes it news, and nothing else does
either. -/
theorem isNew_apply (s : Screen) {operation : Operation} (h : operation ≠ .takeFrame) :
    (s.apply operation).isNew = (s.isNew || operation.announces) := by
  cases operation with
  | takeFrame => exact absurd rfl h
  | clear | render => simp [apply, clear, render, Operation.announces]
  | xorPixel x y value =>
    simp only [apply, xorPixel, Operation.announces, Bool.or_false]
    split <;> rfl

/-- The frame is news if it was announced since it was last asked for. -/
theorem isNew_history (operations : List Operation) :
    (replay operations).isNew = (Operation.sinceTaking operations).any Operation.announces := by
  induction operations using List.reverseRecOn with
  | nil => rfl
  | append_singleton operations operation ih =>
    rw [replay_append_singleton]
    by_cases htake : operation = .takeFrame
    · subst htake
      cases hnew : (replay operations).isNew <;>
        simp [apply, takeFrame, hnew, Operation.sinceTaking]
    · have hsince : Operation.sinceTaking (operations ++ [operation]) =
          Operation.sinceTaking operations ++ [operation] :=
        List.rtakeWhile_concat_pos _ _ _ (by simpa using htake)
      rw [isNew_apply _ htake, ih, hsince, List.any_append]
      simp

/-- The frame can be taken away exactly if it is news. -/
theorem takeFrame_fst (s : Screen) : s.takeFrame.1 = if s.isNew then some s.frame else none := by
  unfold takeFrame
  split <;> rfl

/-- Turning pixels does not make the frame news. -/
theorem isNew_turned (operations turned : List Operation)
    (hturned : ∀ operation ∈ turned, ∃ x y value, operation = .xorPixel x y value) :
    (replay (operations ++ turned)).isNew = (replay operations).isNew := by
  induction turned using List.reverseRecOn with
  | nil => rw [List.append_nil]
  | append_singleton turned operation ih =>
    obtain ⟨x, y, value, rfl⟩ := hturned operation (by simp)
    rw [← List.append_assoc, replay_append_singleton, isNew_apply _ (by simp),
      ih fun operation hmem => hturned operation (by simp [hmem])]
    simp [Operation.announces]

/-! ## What can be seen -/

theorem toNat_pixel (s : Screen) (x y : Nat) :
    (s.pixel x y).toNat = if s.frame.isLit (Cell.wrap x y) then 1 else 0 := by
  unfold pixel
  split <;> rfl

/-- The number of lit pixels, by columns and rows. -/
theorem lit_eq_card_pixels (s : Screen) : s.frame.lit =
    (Finset.univ.filter fun p : Fin 64 × Fin 32 => s.pixel p.1 p.2 = 1).card := by
  rw [Frame.lit_eq_card]
  apply Finset.card_bij (fun (c : Cell) _ => (c.x, c.y))
  · intro c hc
    have hlit := Frame.mem_litCells.1 hc
    simp [pixel, Cell.wrap_val, hlit]
  · intro c _ d _ heq
    cases c
    cases d
    cases heq
    rfl
  · rintro ⟨x, y⟩
    rw [Finset.mem_filter]
    rintro ⟨-, hpixel⟩
    refine ⟨Cell.wrap x.val y.val, ?_, by simp [Cell.wrap]⟩
    rw [Frame.mem_litCells]
    by_contra hdark
    simp [pixel, hdark] at hpixel

/-- What can be seen of a screen is told by the operations that were made on it since it was fresh,
whatever they are. A pixel is the parity of the number of times that it was turned since the last
clearing, under any numbers that wrap around to it and with any odd value; a screen that keeps a
byte for each pixel shows the same. The frame can be taken away exactly if it was announced, by
clearing or by rendering, since it was last asked for, and then it is the frame as it is by now;
turning pixels announces nothing. The number of lit pixels is the number of those that are one. -/
theorem shows_history (operations : List Operation) :
    (∀ x y, ((replay operations).pixel x y).toNat =
      (Operation.sinceClearing operations).countP (Operation.turns x y) % 2) ∧
    (∀ x y, (operations.foldl ByteScreen.apply .fresh).rows.get x y =
      (replay operations).pixel x y) ∧
    ((replay operations).takeFrame.1.isSome = true ↔
      ∃ operation ∈ Operation.sinceTaking operations,
        operation = .clear ∨ operation = .render) ∧
    (∀ frame, (replay operations).takeFrame.1 = some frame →
      ∀ x y, frame.isLit (Cell.wrap x y) = true ↔ (replay operations).pixel x y = 1) ∧
    (∀ turned : List Operation,
      (∀ operation ∈ turned, ∃ x y value, operation = .xorPixel x y value) →
      (replay (operations ++ turned)).takeFrame.1.isSome =
        (replay operations).takeFrame.1.isSome) ∧
    (replay operations).frame.lit =
      (Finset.univ.filter fun p : Fin 64 × Fin 32 =>
        (replay operations).pixel p.1 p.2 = 1).card := by
  have hsome : ∀ s : Screen, s.takeFrame.1.isSome = s.isNew := by
    intro s
    rw [takeFrame_fst]
    cases s.isNew <;> rfl
  refine ⟨?_, ?_, ?_, ?_, ?_, lit_eq_card_pixels _⟩
  · intro x y
    rw [toNat_pixel, isLit_history]
    simp only [decide_eq_true_eq]
    split <;> omega
  · intro x y
    rw [← toBytes_fresh, ← toBytes_foldl]
    exact Frame.get_toBytes _ x y
  · rw [hsome, isNew_history, List.any_eq_true]
    refine exists_congr fun operation => and_congr_right fun _ => ?_
    cases operation <;> simp [Operation.announces]
  · intro frame htaken x y
    rw [takeFrame_fst] at htaken
    split at htaken
    · cases htaken
      cases hlit : (replay operations).frame.isLit (Cell.wrap x y) <;> simp [pixel, hlit]
    · cases htaken
  · intro turned hturned
    rw [hsome, hsome, isNew_turned operations turned hturned]

/-- A pixel turned under several names, before and after a clearing, and another one turned after
the frame was announced. -/
def flickering : List Operation :=
  [.xorPixel 3 4 1, .render, .clear, .xorPixel 67 36 255, .takeFrame, .xorPixel 3 4 2, .render,
    .xorPixel 18446744073709551615 31 5]

/-- Both pixels are lit, and the frame that can be taken away has the later one. -/
theorem flickering_shows : ((replay flickering).pixel 3 4).toNat = 1 ∧
    ((replay flickering).pixel 4 3).toNat = 0 ∧
    ∃ frame, (replay flickering).takeFrame.1 = some frame ∧
      frame.isLit (Cell.wrap 63 63) = true := by
  rcases shows_history flickering with ⟨hpixel, -, hsome, hframe, -, -⟩
  have hnews : (replay flickering).takeFrame.1.isSome = true :=
    hsome.2 ⟨.render, by decide, .inr rfl⟩
  rcases Option.isSome_iff_exists.1 hnews with ⟨frame, htaken⟩
  have hone : ((replay flickering).pixel 63 63).toNat = 1 := by
    rw [hpixel]
    decide
  rw [hpixel, hpixel]
  exact ⟨by decide, by decide, frame, htaken,
    (hframe frame htaken 63 63).2 (UInt8.toNat_inj.1 hone)⟩

end Screen

end Chip8VM
