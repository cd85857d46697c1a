import Mathlib.Data.List.DropRight
import Mathlib.Data.List.Perm.Basic
import Chip8VM.Proofs.Safety
import Chip8VM.Proofs.ScreenOperations

/-!
# Strokes

What a run draws. Only two instructions touch the picture: one wipes it, the other turns the cells
of a mask. The picture after any run is therefore the exclusive or of the masks drawn since the last
wipe, and neither the order in which they were drawn nor the pairs of equal ones among them matter.

* `Machine.stroke?`: what the next step does to the picture.
* `step_isLit`: a step applies its stroke and does nothing else to the picture.
* `course_isLit`: the picture after a run, in terms of its strokes.
* `picture_of_strokes`: the same for all runs of sound consoles, with what it says about two runs.
-/

namespace Chip8VM

/-- What an instruction does to the picture. -/
inductive Stroke where
  /-- All cells become dark. -/
  | wipe
  /-- The cells of a mask turn the other way round. -/
  | sprite (mask : Finset Cell)
deriving DecidableEq

namespace Stroke

/-- The mask of a stroke that draws one. -/
def mask? : Stroke → Option (Finset Cell)
  | .wipe => none
  | .sprite mask => some mask

/-- Whether a cell is lit after a stroke. -/
def lights (stroke : Stroke) (cell : Cell) (wasLit : Bool) : Bool :=
  match stroke with
  | .wipe => false
  | .sprite mask => wasLit ^^ decide (cell ∈ mask)

/-- The masks that are drawn after the last wipe, or from the beginning if there is none. -/
def masksSinceWipe (strokes : List Stroke) : List (Finset Cell) :=
  (strokes.rtakeWhile fun stroke => stroke ≠ .wipe).filterMap mask?

/-- Whether a cell is lit after strokes, from what it was if none of them is a wipe: it is turned
once for each mask since the last wipe that covers it. -/
def picture (strokes : List Stroke) (cell : Cell) (wasLit : Bool) : Bool :=
  (if .wipe ∈ strokes then false else wasLit) ^^
    decide (Odd ((masksSinceWipe strokes).countP fun mask => cell ∈ mask))

/-! ## Strokes one after the other -/

theorem picture_nil (cell : Cell) (wasLit : Bool) : picture [] cell wasLit = wasLit := by
  simp [picture, masksSinceWipe]

theorem masksSinceWipe_wipe (strokes : List Stroke) :
    masksSinceWipe (strokes ++ [.wipe]) = [] := by
  unfold masksSinceWipe
  rw [List.rtakeWhile_concat_neg _ _ _ (by simp)]
  rfl

theorem masksSinceWipe_sprite (strokes : List Stroke) (mask : Finset Cell) :
    masksSinceWipe (strokes ++ [.sprite mask]) = masksSinceWipe strokes ++ [mask] := by
  unfold masksSinceWipe
  rw [List.rtakeWhile_concat_pos _ _ _ (by simp), List.filterMap_append]
  rfl

/-- One more stroke changes the picture as it does. -/
theorem picture_append (strokes : List Stroke) (stroke : Stroke) (cell : Cell) (wasLit : Bool) :
    picture (strokes ++ [stroke]) cell wasLit =
      stroke.lights cell (picture strokes cell wasLit) := by
  cases stroke with
  | wipe => simp [picture, masksSinceWipe_wipe, lights]
  | sprite mask =>
    have hwipe : Stroke.wipe ∈ strokes ++ [.sprite mask] ↔ .wipe ∈ strokes := by simp
    simp only [picture, lights, masksSinceWipe_sprite, List.countP_append, hwipe, Bool.xor_assoc]
    congr 1
    by_cases hmem : cell ∈ mask
    · by_cases hodd : Odd ((masksSinceWipe strokes).countP fun mask => cell ∈ mask) <;>
        simp [hmem, hodd, Nat.odd_add_one]
    · simp [hmem]

/-- Without a wipe only the parity counts with which each cell is covered. -/
theorem picture_congr {strokes strokes' : List Stroke} (h : .wipe ∉ strokes)
    (h' : .wipe ∉ strokes') {cell : Cell}
    (hodd : Odd ((masksSinceWipe strokes).countP fun mask => cell ∈ mask) ↔
      Odd ((masksSinceWipe strokes').countP fun mask => cell ∈ mask)) (wasLit : Bool) :
    picture strokes cell wasLit = picture strokes' cell wasLit := by
  unfold picture
  rw [if_neg h, if_neg h', decide_eq_decide.2 hodd]

/-- Masks that are there in pairs cover each cell an even number of times. -/
theorem odd_countP_pairs {masks masks' : List (Finset Cell)} {mask : Finset Cell} {k : Nat}
    (h : masks.Perm (masks' ++ List.replicate (2 * k) mask)) (cell : Cell) :
    Odd (masks.countP fun mask => cell ∈ mask) ↔ Odd (masks'.countP fun mask => cell ∈ mask) := by
  rw [h.countP_eq, List.countP_append, List.countP_replicate]
  by_cases hmem : cell ∈ mask
  · rw [if_pos (by simpa using hmem), Nat.odd_add]
    simp
  · rw [if_neg (by simpa using hmem), Nat.add_zero]

end Stroke

/-- What the next step does to the picture, if it does anything to it. The mask is that of the
sprite as it is in memory before the step, at the position in the registers before it. -/
def Machine.stroke? (m : Machine) : Option Stroke :=
  match m.upcoming? with
  | some .cls => some .wipe
  | some (.draw x y n) => some (.sprite (m.mask (operand x) (operand y) n.toNat))
  | _ => none

namespace Console

variable {ρ : Type}

/-- The strokes of the first `n` steps of a run. -/
def strokes (s : Nat → Console ρ) (n : Nat) : List Stroke :=
  (List.range n).filterMap fun k => (s k).machine.stroke?

theorem strokes_succ (s : Nat → Console ρ) (n : Nat) :
    strokes s (n + 1) = strokes s n ++ ((s n).machine.stroke?).toList := by
  unfold strokes
  rw [List.range_succ, List.filterMap_append]
  cases h : (s n).machine.stroke? <;> simp [h]

variable [WordSource ρ]

/-! ## One step -/

/-- A step does to the picture what its stroke does, and without a stroke nothing. -/
theorem step_isLit {c d : Console ρ} {pad : Keypad} {events : List Event}
    (h : c.step pad = .ok (d, events)) (cell : Cell) :
    d.screen.frame.isLit cell =
      (c.machine.stroke?).elim (c.screen.frame.isLit cell)
        fun stroke => stroke.lights cell (c.screen.frame.isLit cell) := by
  rw [step_screen h, Machine.screenOperations, Machine.stroke?]
  cases hup : c.machine.upcoming? with
  | none => rfl
  | some ins =>
    have hins := Instruction.decode_inRange (Machine.upcoming?_eq_some_iff.1 hup).2
    rw [Option.elim_some]
    cases ins with
    | cls => exact Frame.isLit_blank cell
    | draw x y n =>
      have hn : n.toNat < 16 := hins.height n rfl
      rw [Machine.draws, List.foldl_append, foldl_xorPixel]
      exact c.isLit_draw (Machine.operand x) (Machine.operand y) (by omega) cell
    | _ => rfl

/-! ## Runs -/

/-- The picture after a run is that of its strokes. -/
theorem course_isLit {s : Nat → Console ρ} {pads : Nat → Keypad} (hs : IsCourse s pads) (n : Nat)
    (cell : Cell) :
    (s n).screen.frame.isLit cell =
      Stroke.picture (strokes s n) cell ((s 0).screen.frame.isLit cell) := by
  induction n with
  | zero => exact (Stroke.picture_nil cell _).symm
  | succ n ih =>
    rcases hs n with ⟨events, hstep⟩
    rw [step_isLit hstep, strokes_succ]
    cases (s n).machine.stroke? with
    | none => simpa using ih
    | some stroke =>
      rw [Option.toList_some, Stroke.picture_append, ← ih]
      rfl

/-- Runs without a wipe that start from the same picture end with the same picture if every cell is
covered as often, up to an even number. -/
theorem course_frame_congr {s t : Nat → Console ρ} {pads qads : Nat → Keypad}
    (hs : IsCourse s pads) (ht : IsCourse t qads)
    (hstart : (s 0).screen.frame = (t 0).screen.frame) {m n : Nat}
    (hwipe : .wipe ∉ strokes s m) (hwipe' : .wipe ∉ strokes t n)
    (hodd : ∀ cell : Cell,
      Odd ((Stroke.masksSinceWipe (strokes s m)).countP fun mask => cell ∈ mask) ↔
        Odd ((Stroke.masksSinceWipe (strokes t n)).countP fun mask => cell ∈ mask)) :
    (s m).screen.frame = (t n).screen.frame := by
  apply Frame.ext_isLit
  intro cell
  rw [course_isLit hs, course_isLit ht, hstart]
  exact Stroke.picture_congr hwipe hwipe' (hodd cell) _

/-- The picture is the exclusive or of the sprites drawn. A sound console runs for ever, whatever
keys are down, and after any number of steps a cell is lit if it was lit at the beginning and no
step has wiped the picture, the other way round once for each mask drawn since the last wipe that
covers it. So of two runs without a wipe that start from the same picture, those that draw the same
masks in any order end with the same picture, and so do those where one draws a mask some even
number of times more than the other. -/
theorem picture_of_strokes :
    (∀ (c : Console ρ) (pads : Nat → Keypad), c.machine.Sound →
      ∃ s : Nat → Console ρ, s 0 = c ∧ IsCourse s pads ∧
        ∀ n, (∃ told, c.run ((List.range n).map pads) = .ok (s n, told)) ∧
          ∀ cell, (s n).screen.frame.isLit cell =
            ((if .wipe ∈ strokes s n then false else c.screen.frame.isLit cell) ^^
              decide (Odd ((Stroke.masksSinceWipe (strokes s n)).countP
                fun mask => cell ∈ mask)))) ∧
    (∀ (s t : Nat → Console ρ) (pads qads : Nat → Keypad) (m n : Nat),
      IsCourse s pads → IsCourse t qads → (s 0).screen.frame = (t 0).screen.frame →
      .wipe ∉ strokes s m → .wipe ∉ strokes t n →
      ((Stroke.masksSinceWipe (strokes s m)).Perm (Stroke.masksSinceWipe (strokes t n)) →
        (s m).screen.frame = (t n).screen.frame) ∧
      ∀ (mask : Finset Cell) (k : Nat),
        (Stroke.masksSinceWipe (strokes s m)).Perm
          (Stroke.masksSinceWipe (strokes t n) ++ List.replicate (2 * k) mask) →
        (s m).screen.frame = (t n).screen.frame) := by
  constructor
  · intro c pads hc
    rcases exists_course hc pads with ⟨s, h0, hs⟩
    subst h0
    exact ⟨s, rfl, hs, fun n => ⟨hs.run_eq n, course_isLit hs n⟩⟩
  · intro s t pads qads m n hs ht hstart hwipe hwipe'
    constructor
    · intro hperm
      refine course_frame_congr hs ht hstart hwipe hwipe' fun cell => ?_
      rw [hperm.countP_eq]
    · intro mask k hperm
      exact course_frame_congr hs ht hstart hwipe hwipe' (Stroke.odd_countP_pairs hperm)

/-- A console that is about to draw the same sprite of one row twice, across the right edge and with
the flag as its position. -/
def twice : Console CyclicWords where
  machine := { Machine.fresh with
    v := Vector.replicate 16 61
    i := 0x200
    memory := ((((⟨.replicate 4096 0⟩ : Memory).put 0x200 0xD0).put 0x201 0xF1).put 0x202
      0xD0).put 0x203 0x01 }
  screen := .fresh
  random := ⟨#[], 0⟩

/-- The sprite is no longer there after the second time. -/
theorem twice_leaves_no_trace : twice.machine.Sound ∧
    ∃ s : Nat → Console CyclicWords, s 0 = twice ∧ IsCourse s (fun _ => .released) ∧
      strokes s 2 = [.sprite (twice.machine.mask 0 15 1), .sprite (twice.machine.mask 0 15 1)] ∧
      (s 2).screen.frame = twice.screen.frame ∧
      ∀ cell, (s 1).screen.frame.isLit cell = decide (cell ∈ twice.machine.mask 0 15 1) := by
  have hsound : twice.machine.Sound := ⟨by decide, by intro x hx; cases hx⟩
  have hup : twice.machine.upcoming? = some (.draw 0 15 1) := by decide +kernel
  rcases picture_of_strokes.1 twice (fun _ => .released) hsound with ⟨s, h0, hs, hpicture⟩
  have h1 : s 1 = twice.fetched.draw 0 15 1 := by
    rcases hs 0 with ⟨events, hstep⟩
    rw [h0, step_of_decoded rfl (Machine.upcoming?_eq_some_iff.1 hup).2,
      execute_draw _ _ (r := 0) (s := 15) rfl rfl] at hstep
    simp only [Except.map, Except.ok.injEq, Prod.mk.injEq] at hstep
    exact hstep.1.symm
  have hfirst : (s 0).machine.stroke? = some (.sprite (twice.machine.mask 0 15 1)) := by
    rw [h0]
    simp only [Machine.stroke?, hup]
    rfl
  have hsecond : (s 1).machine.stroke? = some (.sprite (twice.machine.mask 0 15 1)) := by
    have hup' : (s 1).machine.upcoming? = some (.draw 0 0 1) := by
      rw [h1]
      decide +kernel
    simp only [Machine.stroke?, hup']
    rw [h1]
    decide +kernel
  have hstrokes : strokes s 2 =
      [.sprite (twice.machine.mask 0 15 1), .sprite (twice.machine.mask 0 15 1)] := by
    simp [strokes, List.range_succ, hfirst, hsecond]
  refine ⟨hsound, s, h0, hs, hstrokes, ?_, ?_⟩
  · have hpairs : (Stroke.masksSinceWipe (strokes s 2)).Perm
        (Stroke.masksSinceWipe (strokes s 0) ++
          List.replicate (2 * 1) (twice.machine.mask 0 15 1)) := by
      rw [hstrokes]
      exact List.Perm.refl _
    rw [← h0]
    exact (picture_of_strokes.2 s s _ _ 2 0 hs hs rfl (by simp [hstrokes]) (by simp [strokes])).2
      _ 1 hpairs
  · intro cell
    have hone : strokes s 1 = [.sprite (twice.machine.mask 0 15 1)] := by
      simp [strokes, hfirst]
    have hdark : twice.screen.frame.isLit cell = false := Frame.isLit_blank cell
    rw [(hpicture 1).2 cell, hone, hdark]
    generalize twice.machine.mask 0 15 1 = mask
    by_cases hmem : cell ∈ mask <;>
      simp [Stroke.masksSinceWipe, List.rtakeWhile, Stroke.mask?, hmem]

end Console

end Chip8VM
