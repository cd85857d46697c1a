import Chip8VM.Instruction.Assembly.Reader
import Chip8VM.Instruction.Listing
import Chip8VM.Main
import Chip8VM.Proofs.Operands
import Chip8VM.Proofs.Footprint
import Chip8VM.Proofs.Safety
import Chip8VM.Proofs.Bench
import Chip8VM.Proofs.CallNesting
import Chip8VM.Proofs.AddressSpace
import Chip8VM.Proofs.Headless
import Chip8VM.Proofs.Strokes
import Chip8VM.Proofs.Workshop
import Chip8VM.Proofs.Glyphs
import Chip8VM.Proofs.Formats
import Chip8VM.Proofs.Reach
import Chip8VM.Proofs.Randomness
import Chip8VM.Proofs.Waiting
import Chip8VM.Proofs.HeldKeys
import Chip8VM.Proofs.Endings
import Chip8VM.Proofs.Grammar
import Chip8VM.Proofs.Timers
import Chip8VM.Proofs.Drawing
import Chip8VM.Proofs.Loads
import Chip8VM.Proofs.Destinations
import Chip8VM.Proofs.Encodings
import Chip8VM.Proofs.Aliasing
import Chip8VM.Proofs.Disassembly
import Chip8VM.Proofs.StepJournal
import Chip8VM.Proofs.Faults
import Chip8VM.Proofs.Decimals
import Chip8VM.Proofs.Textures
import Chip8VM.Proofs.ScreenHistory
import Chip8VM.Proofs.KeypadHistory
import Chip8VM.Proofs.Tones
