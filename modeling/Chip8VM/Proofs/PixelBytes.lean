import Chip8VM.Proofs.ScreenOperations

/-!
# Pixels as bytes

A screen may keep a byte for each pixel, row by row, and turn a pixel by the exclusive or with the
low bit of any byte. Whatever is done to it, its bytes are zero and one and say which cells of the
frame are lit.

* `PixelRows.get_xor`, `PixelRows.ext_get`: bytes are read and written by wrapped coordinates.
* `Screen.toBytes_apply`: an operation does to the bytes what it does to the frame.
* `ByteScreen.Mirrors`, `eq_toBytes_of_mirrors`: so bytes that have been through the same as a
  screen are those of its frame.
* `ByteScreen.Mirrors.get_rows`, `get_rows_eq`: they are the pixels, and zeros and ones.
-/

namespace Chip8VM

/-- Pairs of numbers name the same cell if they wrap around to the same column and row. -/
theorem Cell.wrap_eq_iff {x y x' y' : Nat} :
    Cell.wrap x y = Cell.wrap x' y' ↔ x % 64 = x' % 64 ∧ y % 32 = y' % 32 := by
  simp [Cell.wrap, Fin.ext_iff, Fin.ofNat]

/-! ## Rows of bytes -/

/-- A byte for each pixel of a frame, by rows from the top. -/
abbrev PixelRows := Vector (Vector UInt8 64) 32

namespace PixelRows

/-- Zero for each pixel. -/
def blank : PixelRows :=
  .replicate 32 (.replicate 64 0)

/-- The byte that a pair of numbers names. -/
def get (rows : PixelRows) (x y : Nat) : UInt8 :=
  rows[y % 32][x % 64]

/-- Combines a byte with the low bit of another by exclusive or. -/
def xor (rows : PixelRows) (x y : Nat) (value : UInt8) : PixelRows :=
  rows.set (y % 32) (rows[y % 32].set (x % 64) (rows[y % 32][x % 64] ^^^ (value &&& 1)))

theorem get_xor (rows : PixelRows) (x y : Nat) (value : UInt8) (x' y' : Nat) :
    (rows.xor x y value).get x' y' =
      if Cell.wrap x y = Cell.wrap x' y' then rows.get x' y' ^^^ (value &&& 1)
      else rows.get x' y' := by
  simp only [get, xor, Cell.wrap_eq_iff, Vector.getElem_set]
  by_cases hy : y % 32 = y' % 32
  · by_cases hx : x % 64 = x' % 64
    · simp [hx, hy]
    · simp [hx, hy]
  · simp [hy]

/-- Rows with the same bytes are the same. -/
theorem ext_get {rows rows' : PixelRows} (h : ∀ x y, rows.get x y = rows'.get x y) :
    rows = rows' := by
  ext y hy x hx
  have hbyte := h x y
  simp only [get, Nat.mod_eq_of_lt hx, Nat.mod_eq_of_lt hy] at hbyte
  rw [hbyte]

end PixelRows

/-- The byte of a pixel. -/
def Frame.pixelByte (isLit : Bool) : UInt8 :=
  if isLit then 1 else 0

/-- The bytes of a frame. -/
def Frame.toBytes (f : Frame) : PixelRows :=
  .ofFn fun y => .ofFn fun x => pixelByte (f.isLit ⟨x, y⟩)

theorem Frame.get_toBytes (f : Frame) (x y : Nat) :
    f.toBytes.get x y = pixelByte (f.isLit (Cell.wrap x y)) := by
  simp only [toBytes, PixelRows.get, Vector.getElem_ofFn]
  rfl

theorem Frame.toBytes_blank : blank.toBytes = PixelRows.blank := by
  apply PixelRows.ext_get
  intro x y
  rw [get_toBytes, isLit_blank]
  simp [PixelRows.get, PixelRows.blank, pixelByte]

/-- Only the low bit of a byte counts, and it turns the pixel. -/
theorem Frame.pixelByte_xor (isLit : Bool) (value : UInt8) :
    pixelByte isLit ^^^ (value &&& 1) =
      if value % 2 = 1 then pixelByte (!isLit) else pixelByte isLit := by
  have hlow : value &&& 1 = value % 2 := by
    apply UInt8.toNat_inj.1
    rw [UInt8.toNat_and, UInt8.toNat_mod]
    exact Nat.and_one_is_mod _
  have hbit : value % 2 = 0 ∨ value % 2 = 1 := by
    simp only [← UInt8.toNat_inj, UInt8.toNat_mod, UInt8.reduceToNat]
    omega
  rw [hlow]
  rcases hbit with hzero | hone
  · rw [hzero]
    cases isLit <;> decide
  · rw [hone]
    cases isLit <;> decide

theorem Frame.toBytes_flip (f : Frame) (x y : Nat) {value : UInt8} (h : value % 2 = 1) :
    (f.flip (Cell.wrap x y)).toBytes = f.toBytes.xor x y value := by
  apply PixelRows.ext_get
  intro x' y'
  rw [PixelRows.get_xor, get_toBytes, get_toBytes, isLit_flip, pixelByte_xor, if_pos h]
  split <;> rfl

theorem Frame.toBytes_xor_of_even (f : Frame) (x y : Nat) {value : UInt8} (h : ¬ value % 2 = 1) :
    f.toBytes.xor x y value = f.toBytes := by
  apply PixelRows.ext_get
  intro x' y'
  rw [PixelRows.get_xor, get_toBytes, pixelByte_xor, if_neg h, ite_self]

/-! ## Screens of bytes -/

/-- A screen that keeps a byte for each pixel. -/
structure ByteScreen where
  /-- The bytes as they are. -/
  rows : PixelRows
  /-- Whether the bytes were rendered and have not been taken since. -/
  isNew : Bool
deriving DecidableEq, Repr

namespace ByteScreen

/-- A dark screen with nothing to show. -/
def fresh : ByteScreen :=
  ⟨.blank, false⟩

/-- Announces the bytes as they are. -/
def render (b : ByteScreen) : ByteScreen :=
  { b with isNew := true }

/-- Makes all pixels dark and announces it. -/
def clear (b : ByteScreen) : ByteScreen :=
  { b with rows := .blank }.render

/-- Combines the byte of a pixel with the low bit of another by exclusive or. -/
def xorPixel (b : ByteScreen) (x y : Nat) (value : UInt8) : ByteScreen :=
  { b with rows := b.rows.xor x y value }

/-- The bytes, if they are news, and the screen on which they no longer are. -/
def takeFrame (b : ByteScreen) : Option PixelRows × ByteScreen :=
  if b.isNew then (some b.rows, { b with isNew := false }) else (none, b)

/-- The screen after an operation. -/
def apply (b : ByteScreen) : Screen.Operation → ByteScreen
  | .clear => b.clear
  | .render => b.render
  | .xorPixel x y value => b.xorPixel x y value
  | .takeFrame => b.takeFrame.2

end ByteScreen

/-- A screen with its pixels as bytes. -/
def Screen.toBytes (s : Screen) : ByteScreen :=
  ⟨s.frame.toBytes, s.isNew⟩

theorem Screen.toBytes_fresh : fresh.toBytes = .fresh := by
  simp only [toBytes, fresh, Frame.toBytes_blank]
  rfl

/-- An operation does to the bytes of a frame what it does to the frame. -/
theorem Screen.toBytes_apply (s : Screen) (operation : Operation) :
    (s.apply operation).toBytes = s.toBytes.apply operation := by
  cases operation with
  | clear =>
    simp only [apply, toBytes, clear, Frame.toBytes_blank]
    rfl
  | render => rfl
  | xorPixel x y value =>
    by_cases h : value % 2 = 1
    · simp only [apply, xorPixel, if_pos h, toBytes, Frame.toBytes_flip _ _ _ h]
      rfl
    · have heven := s.frame.toBytes_xor_of_even x y h
      simp only [apply, xorPixel, if_neg h, toBytes, ByteScreen.apply, ByteScreen.xorPixel, heven]
  | takeFrame =>
    cases hnew : s.isNew with
    | false => simp [apply, takeFrame, toBytes, ByteScreen.apply, ByteScreen.takeFrame, hnew]
    | true => simp [apply, takeFrame, toBytes, ByteScreen.apply, ByteScreen.takeFrame, hnew]

theorem Screen.toBytes_foldl (s : Screen) (operations : List Operation) :
    (operations.foldl apply s).toBytes = operations.foldl ByteScreen.apply s.toBytes := by
  induction operations generalizing s with
  | nil => rfl
  | cons operation rest ih =>
    rw [List.foldl_cons, List.foldl_cons, ih, toBytes_apply]

/-! ## Histories -/

/-- Bytes that have been through the same as a screen since both were fresh: the same operations,
and the operations of the same steps. -/
inductive ByteScreen.Mirrors : ByteScreen → Screen → Prop where
  /-- Nothing has been done yet. -/
  | fresh : Mirrors .fresh .fresh
  /-- An operation is made on both. -/
  | operation {b : ByteScreen} {s : Screen} (h : Mirrors b s) (operation : Screen.Operation) :
      Mirrors (b.apply operation) (s.apply operation)
  /-- A machine makes a step. -/
  | step {ρ : Type} [WordSource ρ] {b : ByteScreen} {c d : Console ρ} {pad : Keypad}
      {events : List Event} (h : Mirrors b c.screen) (hstep : c.step pad = .ok (d, events)) :
      Mirrors (c.machine.screenOperations.foldl apply b) d.screen

/-- Bytes that have been through the same as a screen are those of its frame. -/
theorem ByteScreen.eq_toBytes_of_mirrors {b : ByteScreen} {s : Screen} (h : b.Mirrors s) :
    b = s.toBytes := by
  induction h with
  | fresh => exact Screen.toBytes_fresh.symm
  | operation h operation ih => rw [Screen.toBytes_apply, ih]
  | step h hstep ih => rw [Console.step_screen hstep, Screen.toBytes_foldl, ih]

theorem ByteScreen.rows_of_mirrors {b : ByteScreen} {s : Screen} (h : b.Mirrors s) :
    b.rows = s.frame.toBytes := by
  rw [eq_toBytes_of_mirrors h]
  rfl

theorem ByteScreen.Mirrors.get_rows {b : ByteScreen} {s : Screen} (h : b.Mirrors s) (x y : Nat) :
    b.rows.get x y = s.pixel x y := by
  rw [rows_of_mirrors h, Frame.get_toBytes]
  rfl

/-- The bytes that have been through the same as a screen are zeros and ones. -/
theorem ByteScreen.Mirrors.get_rows_eq {b : ByteScreen} {s : Screen} (h : b.Mirrors s)
    (x y : Nat) : b.rows.get x y = 0 ∨ b.rows.get x y = 1 := by
  rw [h.get_rows, Screen.pixel]
  split
  · exact .inr rfl
  · exact .inl rfl

end Chip8VM
