/-!
# The font

The glyphs of the sixteen hexadecimal digits. Each is five rows of eight pixels; together they
occupy a fixed stretch of memory.
-/

namespace Chip8VM.Font

/-- The address of the first glyph. -/
abbrev start : Nat := 0x50

/-- The number of rows, and so of bytes, of a glyph. -/
abbrev glyphSize : Nat := 5

/-- The bytes of all glyphs. -/
def bytes : Vector UInt8 80 :=
  #v[
    0xF0, 0x90, 0x90, 0x90, 0xF0,
    0x20, 0x60, 0x20, 0x20, 0x70,
    0xF0, 0x10, 0xF0, 0x80, 0xF0,
    0xF0, 0x10, 0xF0, 0x10, 0xF0,
    0x90, 0x90, 0xF0, 0x10, 0x10,
    0xF0, 0x80, 0xF0, 0x10, 0xF0,
    0xF0, 0x80, 0xF0, 0x90, 0xF0,
    0xF0, 0x10, 0x20, 0x40, 0x40,
    0xF0, 0x90, 0xF0, 0x90, 0xF0,
    0xF0, 0x90, 0xF0, 0x10, 0xF0,
    0xF0, 0x90, 0xF0, 0x90, 0x90,
    0xE0, 0x90, 0xE0, 0x90, 0xE0,
    0xF0, 0x80, 0x80, 0x80, 0xF0,
    0xE0, 0x90, 0x90, 0x90, 0xE0,
    0xF0, 0x80, 0xF0, 0x80, 0xF0,
    0xF0, 0x80, 0xF0, 0x80, 0x80]

end Chip8VM.Font
