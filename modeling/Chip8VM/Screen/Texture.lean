import Chip8VM.Screen.Frame

/-!
# Textures

The form in which a frame goes to a graphics system: one byte each of red, green and blue for every
pixel, row after row, white for lit and black for dark.
-/

namespace Chip8VM

/-- The brightness of a pixel, from 0 to 255. -/
def Frame.intensity (isLit : Bool) : UInt8 :=
  if isLit then 255 else 0

/-- The red, green and blue bytes of all pixels. -/
def Frame.rgb (f : Frame) : List UInt8 :=
  f.pixels.toList.flatMap fun isLit => List.replicate 3 (intensity isLit)

namespace Texture

/-- The size of a texture: columns, rows and bytes in a row. -/
structure Layout where
  width : Nat
  height : Nat
  pitch : Nat
deriving DecidableEq, Repr

/-- The layout of the texture of a frame. -/
def frameLayout : Layout :=
  ⟨Frame.width, Frame.height, 3 * Frame.width⟩

end Texture

end Chip8VM
