/-!
# Frames

A frame is a grid of 64 by 32 pixels, each lit or dark. Its cells are named by column and row, and
any pair of numbers names a cell, since the grid wraps around at its edges. A sprite is a column of
bytes, each a row of eight pixels with the high bit at the left; placed with its corner at a point
of the grid it names the cells under its set bits.

- `isLit_flip`: flipping a cell changes that cell and no other.
- `Frame.ext_isLit`: a frame is determined by which cells are lit.
-/

namespace Chip8VM

/-- The number of columns of a frame. -/
abbrev Frame.width : Nat := 64

/-- The number of rows of a frame. -/
abbrev Frame.height : Nat := 32

/-- A cell of the grid. -/
structure Cell where
  /-- The column, from the left. -/
  x : Fin Frame.width
  /-- The row, from the top. -/
  y : Fin Frame.height
deriving DecidableEq, Repr

namespace Cell

/-- The cell that a pair of numbers names on the wrapped grid. -/
def wrap (x y : Nat) : Cell :=
  ⟨Fin.ofNat _ x, Fin.ofNat _ y⟩

/-- The position of a cell when rows follow one another. -/
def index (c : Cell) : Fin (Frame.width * Frame.height) :=
  ⟨Frame.width * c.y.val + c.x.val, by
    have hx := c.x.isLt
    have hy := c.y.isLt
    simp only [Frame.width, Frame.height] at *
    omega⟩

theorem index_inj {c d : Cell} : c.index = d.index ↔ c = d := by
  refine ⟨fun h => ?_, fun h => h ▸ rfl⟩
  obtain ⟨cx, cy⟩ := c
  obtain ⟨dx, dy⟩ := d
  simp only [index, Fin.mk.injEq, Frame.width, Frame.height] at h cx cy dx dy ⊢
  simp only [Cell.mk.injEq, Fin.ext_iff]
  omega

/-- The cell at a position. -/
def ofIndex (i : Fin (Frame.width * Frame.height)) : Cell :=
  wrap i.val (i.val / Frame.width)

theorem index_ofIndex (i : Fin (Frame.width * Frame.height)) : (ofIndex i).index = i := by
  have hi := i.isLt
  simp only [index, ofIndex, wrap, Fin.ofNat, Fin.ext_iff, Frame.width, Frame.height] at *
  omega

end Cell

/-- A grid of pixels. -/
structure Frame where
  /-- The pixels, row after row. -/
  pixels : Vector Bool (Frame.width * Frame.height)
deriving DecidableEq, Repr

namespace Frame

/-- The frame without a lit pixel. -/
def blank : Frame :=
  ⟨Vector.replicate _ false⟩

/-- Whether a cell is lit. -/
def isLit (f : Frame) (c : Cell) : Bool :=
  f.pixels[c.index]

/-- The frame in which one cell is the other way round. -/
def flip (f : Frame) (c : Cell) : Frame :=
  ⟨f.pixels.set c.index (!f.pixels[c.index])⟩

/-- The pixels of one row, from the left. -/
def row (f : Frame) (y : Fin height) : List Bool :=
  (List.finRange width).map fun x => f.isLit ⟨x, y⟩

/-- All rows, from the top. -/
def rows (f : Frame) : List (List Bool) :=
  (List.finRange height).map f.row

/-- The character of a pixel. -/
def pixelChar (isLit : Bool) : Char :=
  if isLit then '#' else '.'

/-- The rows as lines of text, for places where there is nothing to draw on. -/
def picture (f : Frame) : List String :=
  f.rows.map fun row => String.ofList (row.map pixelChar)

/-- The number of lit pixels. -/
def lit (f : Frame) : Nat :=
  f.pixels.toList.countP id

/-- The cells are flipped one after the other; the answer tells whether a lit one was met. -/
def stamp (f : Frame) (cells : List Cell) : Frame × Bool :=
  cells.foldl (fun (g, met) c => (g.flip c, met || g.isLit c)) (f, false)

@[simp] theorem isLit_blank (c : Cell) : blank.isLit c = false := by
  simp [isLit, blank]

theorem isLit_flip (f : Frame) (c d : Cell) :
    (f.flip c).isLit d = if c = d then !f.isLit d else f.isLit d := by
  by_cases h : c = d
  · subst h
    simp [isLit, flip]
  · have hne : (c.index : Nat) ≠ d.index := fun he => h (Cell.index_inj.1 (Fin.ext he))
    simp [isLit, flip, hne, h]

/-- Frames that agree in every cell are equal. -/
theorem ext_isLit {f g : Frame} (h : ∀ c, f.isLit c = g.isLit c) : f = g := by
  obtain ⟨p⟩ := f
  obtain ⟨q⟩ := g
  congr 1
  ext i hi
  have := h (Cell.ofIndex ⟨i, hi⟩)
  simpa [isLit, Cell.index_ofIndex] using this

end Frame

/-! ## Sprites -/

namespace Sprite

/-- The cells under the set bits of one row, from the left. -/
def rowCells (left top : Nat) (bits : UInt8) : List Cell :=
  (List.range 8).filterMap fun b =>
    if bits.toNat.testBit (7 - b) then some (Cell.wrap (left + b) top) else none

/-- The cells under the set bits of a sprite, row by row from the top. -/
def cells (left top : Nat) : List UInt8 → List Cell
  | [] => []
  | bits :: rest => rowCells left top bits ++ cells left (top + 1) rest

end Sprite

end Chip8VM
