import Chip8VM.CommandLine.Options

/-!
# Help

What is told to somebody whose command line gives no options.
-/

namespace Chip8VM.CommandLine

/-- The name and the version of the program. -/
def versionText : String :=
  "chip8 0.1.0"

/-- How the program is used. -/
def helpText : String :=
  "Usage: chip8 [OPTIONS] <ROM>\n\n" ++
  "Runs a program without a window. Each line of standard input is one poll of the keyboard:\n" ++
  "+Q presses a key, -Q releases it, quit ends the run. Frames are printed as text.\n\n" ++
  "Options:\n" ++
  "  --hz <HZ>                instructions per second, for programs that pace themselves\n" ++
  "  --scale <SCALE>          size of a pixel, from 1 to 40\n" ++
  "  --seed <SEED>            seed of the random numbers\n" ++
  "  --log-level <LEVEL>      off, error, warn, info, debug or trace\n" ++
  "  -h, --help               this text\n" ++
  "  -V, --version            the version"

/-- Why a command line was refused. -/
def Refusal.message : Refusal → String
  | .helpRequested => helpText
  | .versionRequested => versionText
  | .unknownArgument => "error: there is an argument that is not known"
  | .missingValue => "error: a value is missing or empty"
  | .malformedValue => "error: a value is malformed or out of range"
  | .repeatedSetting => "error: an option is given twice"
  | .unexpectedValue => "error: an option is given a value that it does not take"
  | .missingRom => "error: the path of a program is missing"

/-- Whether a command line was refused because something is wrong with it. -/
def Refusal.isError : Refusal → Bool
  | .helpRequested | .versionRequested => false
  | _ => true

end Chip8VM.CommandLine
