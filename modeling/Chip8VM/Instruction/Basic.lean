/-!
# Instructions

The instruction set as data. Registers `x` and `y`, immediate bytes `kk` and sprite heights `n` are
bytes, addresses are 16-bit words: an instruction built by hand may carry operands that no opcode
has, such as a register above fifteen.
-/

namespace Chip8VM

/-- An instruction with its operands. Each constructor says what it does in terms of the registers
`V0` to `VF`, the index register `I`, the program counter and the two timers. -/
inductive Instruction where
  /-- Calls a machine routine; there is none, so it does nothing. -/
  | sys (addr : UInt16)
  /-- Clears the screen. -/
  | cls
  /-- Returns to the address on top of the call stack. -/
  | ret
  /-- Goes to `addr`. -/
  | jump (addr : UInt16)
  /-- Goes to `addr` and remembers where it came from on the call stack. -/
  | call (addr : UInt16)
  /-- Skips the next instruction if `Vx = kk`. -/
  | skipEqByte (x kk : UInt8)
  /-- Skips the next instruction if `Vx ≠ kk`. -/
  | skipNeByte (x kk : UInt8)
  /-- Skips the next instruction if `Vx = Vy`. -/
  | skipEqReg (x y : UInt8)
  /-- Sets `Vx` to `kk`. -/
  | loadByte (x kk : UInt8)
  /-- Adds `kk` to `Vx` without a flag. -/
  | addByte (x kk : UInt8)
  /-- Copies `Vy` to `Vx`. -/
  | move (x y : UInt8)
  /-- Joins the bits of `Vy` to those of `Vx`. -/
  | or (x y : UInt8)
  /-- Keeps the bits of `Vx` that are also in `Vy`. -/
  | and (x y : UInt8)
  /-- Flips the bits of `Vx` that are in `Vy`. -/
  | xor (x y : UInt8)
  /-- Adds `Vy` to `Vx`; the flag is the carry. -/
  | addReg (x y : UInt8)
  /-- Subtracts `Vy` from `Vx`; the flag tells whether `Vx` was the greater. -/
  | sub (x y : UInt8)
  /-- Halves `Vx`; the flag is the bit that falls out. -/
  | shiftRight (x : UInt8)
  /-- Sets `Vx` to `Vy - Vx`; the flag tells whether `Vy` was the greater. -/
  | subN (x y : UInt8)
  /-- Doubles `Vx`; the flag is the bit that falls out. -/
  | shiftLeft (x : UInt8)
  /-- Skips the next instruction if `Vx ≠ Vy`. -/
  | skipNeReg (x y : UInt8)
  /-- Sets `I` to `addr`. -/
  | loadIndex (addr : UInt16)
  /-- Goes to `addr + V0`. -/
  | jumpOffset (addr : UInt16)
  /-- Sets `Vx` to a random byte restricted to the bits of `kk`. -/
  | random (x kk : UInt8)
  /-- Draws the sprite of `n` rows at `I` with its corner at `(Vx, Vy)`; the flag tells whether it
  met a lit pixel. -/
  | draw (x y n : UInt8)
  /-- Skips the next instruction if the key `Vx` is down. -/
  | skipKeyDown (x : UInt8)
  /-- Skips the next instruction if the key `Vx` is up. -/
  | skipKeyUp (x : UInt8)
  /-- Sets `Vx` to the delay timer. -/
  | readDelay (x : UInt8)
  /-- Sets `Vx` to the lowest key that is down, waiting for one if need be. -/
  | awaitKey (x : UInt8)
  /-- Sets the delay timer to `Vx`. -/
  | setDelay (x : UInt8)
  /-- Sets the sound timer to `Vx`. -/
  | setSound (x : UInt8)
  /-- Adds `Vx` to `I`. -/
  | addIndex (x : UInt8)
  /-- Points `I` at the glyph of the digit `Vx`. -/
  | loadGlyph (x : UInt8)
  /-- Stores the three decimal digits of `Vx` at `I`. -/
  | storeBcd (x : UInt8)
  /-- Stores `V0` to `Vx` at `I`. -/
  | storeRegisters (x : UInt8)
  /-- Loads `V0` to `Vx` from `I`. -/
  | loadRegisters (x : UInt8)
deriving DecidableEq, Repr, Inhabited

end Chip8VM
