import Chip8VM.CommandLine.Help
import Chip8VM.CommandLine.Reading
import Chip8VM.Desktop.Session

/-!
# The program

Runs a session on a desktop made of text: polls are lines of standard input, frames are printed as
pictures and the journal goes to standard error. There is nothing here but input and output.
-/

namespace Chip8VM.Main

/-- The lines of a stream, each as the events of a poll. -/
partial def readPolls (input : IO.FS.Stream) (polls : Array (List Desktop.Input)) :
    IO (List (List Desktop.Input)) := do
  let line ← input.getLine
  if line.isEmpty then return polls.toList
  readPolls input (polls.push (Desktop.pollOfLine line))

/-- What there is at a path. -/
def readRom (path : String) : IO Desktop.RomFile := do
  try
    return .file (← IO.FS.readBinFile path).toList
  catch
    | .noFileOrDirectory .. => return .missing
    | .inappropriateType .. => return .directory
    | error => throw error

/-- A seed that nobody chose. -/
def entropy : IO UInt64 := do
  let bytes ← IO.getRandomBytes 8
  return bytes.toList.foldl (fun seed byte => 256 * seed + byte.toUInt64) 0

/-- Prints a frame below the number of polls made before it. -/
def printFrame (shown : Desktop.Presented) : IO Unit := do
  IO.println ("frame after " ++ toString shown.polls ++ " polls")
  shown.frame.picture.forM IO.println

/-- Prints what was seen of a session; the result is its exit code. -/
def printReport (options : Options) (report : Desktop.Report) : IO UInt32 := do
  for event in report.events do
    if options.logLevel.passes event.level then
      IO.eprintln (event.level.name ++ " " ++ event.text)
  report.frames.forM printFrame
  match report.failure with
  | none => return 0
  | some failure =>
    IO.eprintln ("Error: " ++ failure.message)
    return 1

/-- Runs a session with the given options. -/
def runSession (options : Options) : IO UInt32 := do
  let rom ← readRom options.rom
  let desktop : Desktop := ⟨← readPolls (← IO.getStdin) #[], none⟩
  printReport options (desktop.run options rom (← entropy))

end Chip8VM.Main

def main (arguments : List String) : IO UInt32 := do
  match Chip8VM.CommandLine.read arguments with
  | .ok options => Chip8VM.Main.runSession options
  | .error refusal =>
    if refusal.isError then
      IO.eprintln refusal.message
      return 2
    else
      IO.println refusal.message
      return 0
