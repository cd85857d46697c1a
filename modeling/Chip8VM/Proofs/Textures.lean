import Chip8VM.Proofs.PixelBytes
import Chip8VM.Screen.Texture

/-!
# Textures

The texture of a frame has three bytes for each pixel, row after row. They are products of the
pixel's own byte, and as this is zero or one, none of the products is too large for a byte.

* `getElem?_flatMap_of_length`: where an element is when lists of one length follow one another.
* `Frame.getElem?_rgb`: where the bytes of a pixel are.
* `PixelRows.texture?`: the texture by products that are checked; `texture?_toBytes` says that the
  check succeeds.
* `texture_is_frame`: what has become of any screen is what its texture shows.
-/

namespace Chip8VM

/-- If a list is put together from lists of one length, the elements of each are counted on from a
multiple of this length. -/
theorem getElem?_flatMap_of_length {α β : Type} {f : α → List β} {n : Nat}
    (hlength : ∀ a, (f a).length = n) (l : List α) (k : Nat) {i : Nat} (hi : i < n) :
    (l.flatMap f)[n * k + i]? = l[k]?.bind fun a => (f a)[i]? := by
  induction l generalizing k with
  | nil => simp
  | cons a l ih =>
    have hfirst := hlength a
    rw [List.flatMap_cons]
    cases k with
    | zero =>
      rw [Nat.mul_zero, Nat.zero_add, List.getElem?_append_left (by omega)]
      rfl
    | succ k =>
      have hindex : n * (k + 1) + i - n = n * k + i := by
        rw [Nat.mul_succ]
        omega
      rw [List.getElem?_append_right (by rw [Nat.mul_succ]; omega), hfirst, hindex, ih]
      rfl

theorem length_flatMap_of_length {α β : Type} {f : α → List β} {n : Nat}
    (hlength : ∀ a, (f a).length = n) (l : List α) : (l.flatMap f).length = n * l.length := by
  induction l with
  | nil => rfl
  | cons a l ih =>
    rw [List.flatMap_cons, List.length_append, hlength, ih, List.length_cons, Nat.mul_succ,
      Nat.add_comm]

/-! ## The texture of a frame -/

namespace Frame

theorem length_rgb (f : Frame) : f.rgb.length = 6144 := by
  rw [rgb, length_flatMap_of_length fun _ => List.length_replicate, Vector.length_toList]
  rfl

theorem getElem?_pixels (f : Frame) (cell : Cell) :
    f.pixels.toList[64 * cell.y.val + cell.x.val]? = some (f.isLit cell) := by
  have hlt : 64 * cell.y.val + cell.x.val < f.pixels.toList.length := by
    rw [Vector.length_toList]
    exact cell.index.isLt
  rw [List.getElem?_eq_getElem hlt, Vector.getElem_toList]
  rfl

/-- The three bytes of a pixel are its brightness. -/
theorem getElem?_rgb (f : Frame) (cell : Cell) {k : Nat} (hk : k < 3) :
    f.rgb[3 * (64 * cell.y.val + cell.x.val) + k]? = some (intensity (f.isLit cell)) := by
  rw [rgb, getElem?_flatMap_of_length (fun _ => List.length_replicate) _ _ hk, getElem?_pixels,
    Option.bind_some, List.getElem?_replicate, if_pos hk]

end Frame

/-! ## The texture of bytes -/

namespace PixelRows

/-- The bytes of all pixels, row after row. -/
def flat (rows : PixelRows) : List UInt8 :=
  rows.toList.flatMap Vector.toList

/-- The texture: each byte times 255, three times. A product that is too large is a fault. -/
def texture? (rows : PixelRows) : Except Fault (List UInt8) := do
  let colours ← rows.flat.mapM fun pixel => do
    let brightness ← Arithmetic.multiply.toByte (pixel.toNat * 255)
    return List.replicate 3 brightness
  return colours.flatten

/-- The bytes that a texture was made from, told from the first byte of each pixel. -/
def ofTexture (bytes : List UInt8) : PixelRows :=
  .ofFn fun y => .ofFn fun x => bytes.getD (3 * (64 * y.val + x.val)) 0 / 255

theorem length_flat (rows : PixelRows) : rows.flat.length = 2048 := by
  rw [flat, length_flatMap_of_length fun _ => Vector.length_toList, Vector.length_toList]

theorem getElem?_flat (rows : PixelRows) {x y : Nat} (hx : x < 64) (hy : y < 32) :
    rows.flat[64 * y + x]? = some (rows.get x y) := by
  rw [flat, getElem?_flatMap_of_length (fun _ => Vector.length_toList) _ _ hx]
  simp [get, hx, hy, Nat.mod_eq_of_lt]

end PixelRows

namespace Frame

/-- The rows of bytes follow one another as the rows of a frame do. -/
theorem flat_toBytes (f : Frame) : f.toBytes.flat = f.pixels.toList.map pixelByte := by
  apply List.ext_getElem?
  intro n
  by_cases hn : n < width * height
  · -- the number is that of a cell
    obtain ⟨cell, rfl⟩ : ∃ cell : Cell, n = 64 * cell.y.val + cell.x.val :=
      ⟨Cell.ofIndex ⟨n, hn⟩, (congrArg Fin.val (Cell.index_ofIndex ⟨n, hn⟩)).symm⟩
    rw [PixelRows.getElem?_flat _ cell.x.isLt cell.y.isLt, get_toBytes, Cell.wrap_val,
      List.getElem?_map, getElem?_pixels, Option.map_some]
  · have hflat := f.toBytes.length_flat
    have hpixels : (f.pixels.toList.map pixelByte).length = width * height := by
      rw [List.length_map, Vector.length_toList]
    have hsize : width * height = 2048 := rfl
    rw [List.getElem?_eq_none (by omega), List.getElem?_eq_none (by omega)]

/-- No product is too large, and the texture of the bytes is that of the frame. -/
theorem texture?_toBytes (f : Frame) : f.toBytes.texture? = .ok f.rgb := by
  have hproduct : ∀ isLit, Arithmetic.multiply.toByte ((pixelByte isLit).toNat * 255) =
      .ok (intensity isLit) := by
    intro isLit
    cases isLit <;> simp [pixelByte, intensity, Arithmetic.toByte]
  have hcolours : (f.pixels.toList.map pixelByte).mapM (fun pixel => do
      let brightness ← Arithmetic.multiply.toByte (pixel.toNat * 255)
      return List.replicate 3 brightness) =
        (.ok (f.pixels.toList.map fun isLit => List.replicate 3 (intensity isLit)) :
          Except Fault (List (List UInt8))) := by
    simp only [List.mapM_map, Function.comp_def, hproduct]
    exact List.mapM_pure
  rw [PixelRows.texture?, flat_toBytes, hcolours, rgb, List.flatMap_def]
  rfl

/-- A texture tells the bytes that it was made from. -/
theorem ofTexture_rgb (f : Frame) : PixelRows.ofTexture f.rgb = f.toBytes := by
  have hbyte : ∀ isLit, intensity isLit / 255 = pixelByte isLit := by decide
  apply PixelRows.ext_get
  intro x y
  have hcell := f.getElem?_rgb (Cell.wrap x y) (k := 0) (by decide)
  have hfirst : (PixelRows.ofTexture f.rgb).get x y =
      f.rgb.getD (3 * (64 * (Cell.wrap x y).y.val + (Cell.wrap x y).x.val)) 0 / 255 := by
    simp only [PixelRows.ofTexture, PixelRows.get, Vector.getElem_ofFn]
    rfl
  rw [hfirst, List.getD_eq_getElem?_getD, ← Nat.add_zero (3 * _), hcell, get_toBytes]
  exact hbyte _

end Frame

/-! ## Whatever has been done to a screen -/

/-- The texture of a screen is its frame, whatever operations have been made on the screen and
whatever machines have drawn on it. Let bytes have been through the same as the screen. Then they
are the pixels of the screen; none of the products for the texture is too large, and they give the
texture of the frame. This has 6144 bytes, three for each pixel by columns and rows, and each of
them is 255 times the pixel. The bytes of the pixels can be told from it, so that different ones
give different textures. -/
theorem texture_is_frame {b : ByteScreen} {s : Screen} (h : b.Mirrors s) :
    (∀ x y, b.rows.get x y = s.pixel x y) ∧
    ∃ texture, b.rows.texture? = .ok texture ∧ texture = s.frame.rgb ∧ texture.length = 6144 ∧
      (∀ x y k, x < 64 → y < 32 → k < 3 → ∃ byte, texture[3 * (64 * y + x) + k]? = some byte ∧
        byte.toNat = 255 * (b.rows.get x y).toNat) ∧
      PixelRows.ofTexture texture = b.rows ∧
      ∀ b' s', ByteScreen.Mirrors b' s' → b'.rows ≠ b.rows →
        ∃ other, b'.rows.texture? = .ok other ∧ other ≠ texture := by
  have hbrightness : ∀ isLit, (Frame.intensity isLit).toNat =
      255 * (Frame.pixelByte isLit).toNat := by decide
  rw [ByteScreen.rows_of_mirrors h]
  refine ⟨?_, s.frame.rgb, s.frame.texture?_toBytes, rfl, s.frame.length_rgb, ?_,
    s.frame.ofTexture_rgb, ?_⟩
  · intro x y
    rw [Frame.get_toBytes]
    rfl
  · intro x y k hx hy hk
    refine ⟨_, s.frame.getElem?_rgb ⟨⟨x, hx⟩, ⟨y, hy⟩⟩ hk, ?_⟩
    rw [hbrightness, Frame.get_toBytes]
    have hcell : Cell.wrap x y = ⟨⟨x, hx⟩, ⟨y, hy⟩⟩ := Cell.wrap_val ⟨⟨x, hx⟩, ⟨y, hy⟩⟩
    rw [hcell]
  · intro b' s' h' hne
    have hrows := ByteScreen.rows_of_mirrors h'
    refine ⟨s'.frame.rgb, ?_, ?_⟩
    · rw [hrows, Frame.texture?_toBytes]
    · -- equal textures would have been made from the same bytes
      intro hrgb
      apply hne
      rw [hrows, ← Frame.ofTexture_rgb, hrgb, Frame.ofTexture_rgb]

/-- A console that is about to draw a row of three pixels across the right edge, on a screen where
one pixel has been turned from outside. -/
def etching : Console CyclicWords where
  machine := { Machine.fresh with
    v := .replicate 16 63
    i := 0x200
    memory := ((⟨.replicate 4096 0⟩ : Memory).put 0x200 0xD0).put 0x201 0x11 }
  screen := Screen.fresh.apply (.xorPixel 70 33 3)
  random := ⟨#[], 0⟩

/-- The bytes of the turned pixel and of the row are in the texture after the step. -/
theorem etching_is_shown : ∃ b d told texture, etching.step .released = .ok (d, told) ∧
    ByteScreen.Mirrors b d.screen ∧ b.rows.texture? = .ok texture ∧ texture.length = 6144 ∧
    texture[3 * (64 * 1 + 6) + 2]? = some 255 ∧ texture[3 * (64 * 31 + 0) + 1]? = some 255 ∧
    texture[3 * (64 * 31 + 1) + 0]? = some 0 := by
  have hup : etching.machine.upcoming? = some (.draw 0 1 1) := by decide +kernel
  have hstep : etching.step .released = .ok (etching.fetched.draw 0 1 1,
      [.executing etching.machine.pc etching.machine.peek (.draw 0 1 1)]) := by
    rw [Console.step_of_decoded rfl (Machine.upcoming?_eq_some_iff.1 hup).2,
      Console.execute_draw _ _ (r := 0) (s := 1) rfl rfl]
    rfl
  have hmirrors := (ByteScreen.Mirrors.fresh.operation (.xorPixel 70 33 3)).step
    (c := etching) hstep
  rcases texture_is_frame hmirrors with
    ⟨hpixels, texture, htexture, -, hlength, hbytes, -, -⟩
  -- each byte in question is told from the pixel after the step
  have hshown : ∀ x y k byte, x < 64 → y < 32 → k < 3 →
      byte.toNat = 255 * ((etching.fetched.draw 0 1 1).screen.pixel x y).toNat →
      texture[3 * (64 * y + x) + k]? = some byte := by
    intro x y k byte hx hy hk hbyte
    rcases hbytes x y k hx hy hk with ⟨shown, hat, hshown⟩
    rw [hat, UInt8.toNat_inj.1 (hshown.trans ((hpixels x y).symm ▸ hbyte.symm))]
  exact ⟨_, _, _, texture, hstep, hmirrors, htexture, hlength,
    hshown 6 1 2 255 (by decide) (by decide) (by decide) (by decide +kernel),
    hshown 0 31 1 255 (by decide) (by decide) (by decide) (by decide +kernel),
    hshown 1 31 0 0 (by decide) (by decide) (by decide) (by decide +kernel)⟩

end Chip8VM
