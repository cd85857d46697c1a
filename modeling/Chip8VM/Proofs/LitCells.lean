import Mathlib.Data.Fintype.Card
import Chip8VM.Screen.Frame

/-!
# Lit cells

The lit cells of a frame as a finite set, and how many there are.

* `Frame.lit_eq_card`: the number of lit pixels is the size of that set.
* `Frame.lit_add_of_turned`: the number of lit pixels after the cells of a set have been turned the
  other way round.
-/

namespace Chip8VM

/-- Cells are the positions that they have when rows follow one another. -/
def Cell.positions : Cell ≃ Fin (Frame.width * Frame.height) where
  toFun := Cell.index
  invFun := Cell.ofIndex
  left_inv c := Cell.index_inj.1 (Cell.index_ofIndex c.index)
  right_inv := Cell.index_ofIndex

instance : Fintype Cell :=
  Fintype.ofEquiv _ Cell.positions.symm

namespace Frame

/-- The lit cells of a frame. -/
def litCells (f : Frame) : Finset Cell :=
  Finset.univ.filter fun cell => f.isLit cell = true

theorem mem_litCells {f : Frame} {cell : Cell} : cell ∈ f.litCells ↔ f.isLit cell = true := by
  simp [litCells]

/-- The number of lit pixels is the number of lit cells. -/
theorem lit_eq_card (f : Frame) : f.lit = f.litCells.card := by
  have hpixels : f.pixels.toList = (List.finRange (width * height)).map fun i => f.pixels[i] := by
    rw [← List.ofFn_eq_map, ← Vector.toList_ofFn]
    simp
  have hpositions : (Finset.univ.filter fun i : Fin (width * height) => f.pixels[i] = true).card =
      f.litCells.card := by
    apply Finset.card_equiv Cell.positions.symm
    intro i
    have hindex : (Cell.positions.symm i).index = i := Cell.index_ofIndex i
    simp [mem_litCells, isLit, hindex]
  rw [← hpositions, lit, hpixels, List.countP_map, List.countP_eq_length_filter, Fin.univ_def]
  simp [Finset.filter, Finset.card]

/-- Turning the cells of a set darkens those of them that were lit and lights the others. -/
theorem lit_add_of_turned {f g : Frame} {mask : Finset Cell}
    (h : ∀ cell, g.isLit cell = (f.isLit cell ^^ decide (cell ∈ mask))) :
    g.lit + 2 * (mask ∩ f.litCells).card = f.lit + mask.card := by
  have hturned : g.litCells = (f.litCells \ mask) ∪ (mask \ f.litCells) := by
    ext cell
    rw [Finset.mem_union, Finset.mem_sdiff, Finset.mem_sdiff, mem_litCells, mem_litCells, h]
    by_cases hmem : cell ∈ mask <;> simp [hmem]
  have hdark := Finset.card_sdiff_add_card_inter f.litCells mask
  have hlight := Finset.card_sdiff_add_card_inter mask f.litCells
  rw [Finset.inter_comm] at hdark
  rw [lit_eq_card, lit_eq_card, hturned, Finset.card_union_of_disjoint disjoint_sdiff_sdiff]
  omega

end Frame

end Chip8VM
