import Chip8VM.Journal

/-!
# Options

What a command line can say: the program to run, and four settings that have defaults. A command
line that says anything else is refused, for one of a few reasons.
-/

namespace Chip8VM

/-- What a command line says. -/
structure Options where
  /-- The path of the program. -/
  rom : String
  /-- Steps per second. -/
  hz : UInt32 := 500
  /-- The size of a pixel on the desktop. -/
  scale : UInt32 := 10
  /-- The seed of the random numbers. -/
  seed : Option UInt64 := none
  /-- The threshold of the journal. -/
  logLevel : Level := .info
deriving DecidableEq, Repr

namespace CommandLine

/-- A setting that takes a value. -/
inductive Setting where
  | hz | scale | seed | logLevel
deriving DecidableEq, Repr

namespace Setting

/-- All settings. -/
def all : List Setting :=
  [.hz, .scale, .seed, .logLevel]

/-- The name of a setting, without the dashes before it. -/
def name : Setting → String
  | .hz => "hz"
  | .scale => "scale"
  | .seed => "seed"
  | .logLevel => "log-level"

/-- The setting with a given name. -/
def ofName? (cs : List Char) : Option Setting :=
  all.find? fun s => s.name.toList == cs

end Setting

/-- Why a command line gives no options. -/
inductive Refusal where
  /-- Help was asked for. -/
  | helpRequested
  /-- The version was asked for. -/
  | versionRequested
  /-- An argument is neither a known option nor the one path. -/
  | unknownArgument
  /-- A setting has no value, or the path is empty. -/
  | missingValue
  /-- The value of a setting is not one it can have. -/
  | malformedValue
  /-- A setting is given twice. -/
  | repeatedSetting
  /-- An option that takes no value is given one. -/
  | unexpectedValue
  /-- There is no path. -/
  | missingRom
deriving DecidableEq, Repr

/-! ## Values -/

/-- A decimal number within bounds, perhaps with a plus sign. -/
def numberIn? (low high : Nat) (text : String) : Option Nat := do
  let digits := match text.toList with
    | '+' :: rest => rest
    | cs => cs
  let n ← Numeral.read? 10 digits
  if low ≤ n ∧ n ≤ high then some n else none

/-- A number of steps per second: any positive one of 32 bits. -/
def hzOf? (text : String) : Option UInt32 :=
  (numberIn? 1 0xFFFFFFFF text).map Nat.toUInt32

/-- A pixel size: from 1 to 40. -/
def scaleOf? (text : String) : Option UInt32 :=
  (numberIn? 1 40 text).map Nat.toUInt32

/-- A seed: any number of 64 bits. -/
def seedOf? (text : String) : Option UInt64 :=
  (numberIn? 0 0xFFFFFFFFFFFFFFFF text).map Nat.toUInt64

end CommandLine

end Chip8VM
