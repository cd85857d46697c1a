import Mathlib.Algebra.Ring.Parity
import Mathlib.Data.Finset.Image
import Mathlib.Data.Finset.Prod
import Chip8VM.Proofs.Spans

/-!
# Masks

The mask of a sprite is the set of the cells that it covers. No two bits of a sprite cover the same
cell as long as the sprite is no higher than the frame, so drawing it turns exactly the cells of its
mask the other way round.

* `Sprite.mask`: the mask, by the rows and the bits of the sprite.
* `isLit_stamp`: cells are turned once for each time that they occur in a list.
* `isLit_draw`: drawing a sprite is the exclusive or with its mask.
-/

namespace Chip8VM

/-! ## The cells that a sprite covers -/

/-- The cells under the set bits of the first `n` rows of a sprite with its corner at a point of the
wrapped grid. -/
def Sprite.mask (left top : Nat) (row : Nat → UInt8) (n : Nat) : Finset Cell :=
  ((Finset.range n ×ˢ Finset.range 8).filter fun p => (row p.1).toNat.testBit (7 - p.2)).image
    fun p => Cell.wrap (left + p.2) (top + p.1)

/-- The mask of the sprite of `n` rows at the index register with its corner at `(Vx, Vy)`. -/
def Machine.mask (m : Machine) (x y : Register) (n : Nat) : Finset Cell :=
  Sprite.mask (m.getV x).toNat (m.getV y).toNat
    (fun j => m.memory.bytes.get (Place.ofNat (m.i.toNat + j))) n

theorem Sprite.mem_mask {left top n : Nat} {row : Nat → UInt8} {cell : Cell} :
    cell ∈ Sprite.mask left top row n ↔
      ∃ j < n, ∃ b < 8, (row j).toNat.testBit (7 - b) ∧
        Cell.wrap (left + b) (top + j) = cell := by
  unfold Sprite.mask
  simp only [Finset.mem_image, Finset.mem_filter, Finset.mem_product, Finset.mem_range,
    Prod.exists]
  constructor
  · rintro ⟨j, b, ⟨⟨hj, hb⟩, hbit⟩, hcell⟩
    exact ⟨j, hj, b, hb, hbit, hcell⟩
  · rintro ⟨j, hj, b, hb, hbit, hcell⟩
    exact ⟨j, b, ⟨⟨hj, hb⟩, hbit⟩, hcell⟩

/-- A mask depends on nothing but the rows that are drawn. -/
theorem Sprite.mask_congr {left top n : Nat} {row row' : Nat → UInt8}
    (h : ∀ j < n, row j = row' j) : Sprite.mask left top row n = Sprite.mask left top row' n := by
  ext cell
  rw [Sprite.mem_mask, Sprite.mem_mask]
  constructor
  · rintro ⟨j, hj, b, hb, hbit, hcell⟩
    exact ⟨j, hj, b, hb, h j hj ▸ hbit, hcell⟩
  · rintro ⟨j, hj, b, hb, hbit, hcell⟩
    exact ⟨j, hj, b, hb, h j hj ▸ hbit, hcell⟩

/-- Bits of a sprite that is no larger than the frame cover different cells. -/
theorem Cell.wrap_inj {left top a b j k : Nat} (ha : a < 64) (hb : b < 64) (hj : j < 32)
    (hk : k < 32) (h : Cell.wrap (left + a) (top + j) = Cell.wrap (left + b) (top + k)) :
    a = b ∧ j = k := by
  simp only [Cell.wrap, Cell.mk.injEq, Fin.ofNat, Fin.ext_iff, Frame.width, Frame.height] at h
  omega

theorem Sprite.mem_rowCells {left top : Nat} {bits : UInt8} {cell : Cell} :
    cell ∈ Sprite.rowCells left top bits ↔
      ∃ b < 8, bits.toNat.testBit (7 - b) ∧ Cell.wrap (left + b) top = cell := by
  unfold Sprite.rowCells
  simp

theorem Sprite.mem_cells {left top : Nat} {rows : List UInt8} {cell : Cell} :
    cell ∈ Sprite.cells left top rows ↔
      cell ∈ Sprite.mask left top (fun j => rows.getD j 0) rows.length := by
  rw [Sprite.mem_mask]
  induction rows generalizing top with
  | nil => simp [Sprite.cells]
  | cons bits rest ih =>
    unfold Sprite.cells
    rw [List.mem_append, Sprite.mem_rowCells, ih]
    constructor
    · rintro (⟨b, hb, hbit, hcell⟩ | ⟨j, hj, b, hb, hbit, hcell⟩)
      · exact ⟨0, by simp, b, hb, hbit, hcell⟩
      · -- a row further down is one row further from this one
        refine ⟨j + 1, by simpa using hj, b, hb, hbit, ?_⟩
        rw [← hcell, Nat.add_assoc, Nat.add_comm j]
    · rintro ⟨j, hj, b, hb, hbit, hcell⟩
      cases j with
      | zero => exact .inl ⟨b, hb, hbit, hcell⟩
      | succ j =>
        refine .inr ⟨j, by simpa using hj, b, hb, hbit, ?_⟩
        rw [← hcell, Nat.add_assoc, Nat.add_comm 1]

theorem Sprite.nodup_rowCells (left top : Nat) (bits : UInt8) :
    (Sprite.rowCells left top bits).Nodup := by
  unfold Sprite.rowCells
  refine List.pairwise_filterMap.2 (List.nodup_range.imp_of_mem ?_)
  intro a b ha hb hab c hc d hd hcd
  simp only [Option.ite_none_right_eq_some, Option.some.injEq] at hc hd
  have hwrap : Cell.wrap (left + a) (top + 0) = Cell.wrap (left + b) (top + 0) := by
    rw [Nat.add_zero, hc.2, hd.2, hcd]
  have ha8 := List.mem_range.1 ha
  have hb8 := List.mem_range.1 hb
  exact hab (Cell.wrap_inj (by omega) (by omega) (by omega) (by omega) hwrap).1

/-- No cell is covered twice by a sprite that is no higher than the frame. -/
theorem Sprite.nodup_cells (left top : Nat) {rows : List UInt8} (h : rows.length ≤ 32) :
    (Sprite.cells left top rows).Nodup := by
  induction rows generalizing top with
  | nil => exact List.nodup_nil
  | cons bits rest ih =>
    have hlength : rest.length + 1 ≤ 32 := h
    unfold Sprite.cells
    refine List.nodup_append.2 ⟨Sprite.nodup_rowCells left top bits, ih (top + 1) (by omega), ?_⟩
    -- the rows below this one are fewer than it takes to come round to it again
    intro c hc d hd hcd
    subst hcd
    rcases Sprite.mem_rowCells.1 hc with ⟨a, ha, -, hca⟩
    rcases Sprite.mem_mask.1 (Sprite.mem_cells.1 hd) with ⟨j, hj, b, hb, -, hcb⟩
    have hwrap : Cell.wrap (left + a) (top + 0) = Cell.wrap (left + b) (top + (1 + j)) := by
      rw [Nat.add_zero, ← Nat.add_assoc, hca, hcb]
    have hrow := (Cell.wrap_inj (by omega) (by omega) (by omega) (by omega) hwrap).2
    omega

/-! ## Drawing -/

theorem Frame.stamp_eq_foldl (f : Frame) (cells : List Cell) :
    (f.stamp cells).1 = cells.foldl Frame.flip f := by
  suffices h : ∀ met, (cells.foldl
      (fun (r : Frame × Bool) c => (r.1.flip c, r.2 || r.1.isLit c)) (f, met)).1 =
        cells.foldl Frame.flip f from h false
  induction cells generalizing f with
  | nil => exact fun met => rfl
  | cons c cells ih => exact fun met => ih (f.flip c) _

/-- Cells are turned once for each time that they occur. -/
theorem Frame.isLit_stamp (f : Frame) (cells : List Cell) (cell : Cell) :
    (f.stamp cells).1.isLit cell = (f.isLit cell ^^ decide (Odd (cells.count cell))) := by
  rw [Frame.stamp_eq_foldl]
  induction cells generalizing f with
  | nil => simp
  | cons c cells ih =>
    rw [List.foldl_cons, ih, Frame.isLit_flip, List.count_cons]
    by_cases h : c = cell
    · by_cases hodd : Odd (cells.count cell) <;> simp [h, Nat.odd_add_one, hodd]
    · simp [h]

/-- Cells that occur once are turned. -/
theorem Frame.isLit_stamp_of_nodup (f : Frame) {cells : List Cell} (h : cells.Nodup)
    (cell : Cell) :
    (f.stamp cells).1.isLit cell = (f.isLit cell ^^ decide (cell ∈ cells)) := by
  rw [Frame.isLit_stamp, h.count]
  by_cases hmem : cell ∈ cells <;> simp [hmem]

/-- The cells that the sprite of `n` rows at the index register covers with its corner at
`(Vx, Vy)`, in the order in which drawing it turns them. -/
def Machine.covered (m : Machine) (x y : Register) (n : Nat) : List Cell :=
  Sprite.cells (m.getV x).toNat (m.getV y).toNat (m.memory.readAll m.i n)

theorem Machine.mem_covered {m : Machine} {x y : Register} {n : Nat} {cell : Cell} :
    cell ∈ m.covered x y n ↔ cell ∈ m.mask x y n := by
  unfold Machine.covered Machine.mask
  rw [Sprite.mem_cells, Memory.length_readAll,
    Sprite.mask_congr fun j hj => Memory.getD_readAll _ _ hj]

theorem Machine.nodup_covered (m : Machine) (x y : Register) {n : Nat} (hn : n ≤ 32) :
    (m.covered x y n).Nodup := by
  apply Sprite.nodup_cells
  rw [Memory.length_readAll]
  exact hn

/-- Drawing a sprite that is no higher than the frame turns the cells of its mask and no others. -/
theorem Console.isLit_draw {ρ : Type} (c : Console ρ) (x y : Machine.Register) {n : Nat}
    (hn : n ≤ 32) (cell : Cell) :
    (c.draw x y n).screen.frame.isLit cell =
      (c.screen.frame.isLit cell ^^ decide (cell ∈ c.machine.mask x y n)) := by
  have hstamp := c.screen.frame.isLit_stamp_of_nodup (c.machine.nodup_covered x y hn) cell
  rw [decide_eq_decide.2 Machine.mem_covered] at hstamp
  exact hstamp

end Chip8VM
