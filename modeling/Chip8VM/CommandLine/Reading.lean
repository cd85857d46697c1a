import Chip8VM.CommandLine.Argument

/-!
# Reading a command line

Arguments are taken from left to right. A path, and a value that stands apart from its setting, are
looked into only when the next recognised argument or the end of the line settles them; an argument
that is not recognised is refused before that. A value attached to its setting is looked into at
once.
-/

namespace Chip8VM.CommandLine

/-- What was taken last and not yet looked into. -/
inductive Pending where
  /-- Nothing. -/
  | nothing
  /-- A setting whose value is still to come. -/
  | unfinished (s : Setting)
  /-- A setting and the value that followed it. -/
  | value (s : Setting) (text : String)
  /-- The path. -/
  | rom (path : String)
deriving DecidableEq, Repr

/-- What the arguments so far have said. -/
structure Draft where
  rom : Option String := none
  hz : Option UInt32 := none
  scale : Option UInt32 := none
  seed : Option UInt64 := none
  logLevel : Option Level := none
  /-- What is not yet looked into. -/
  pending : Pending := .nothing
  /-- Whether two dashes have made all further arguments plain. -/
  isLiteral : Bool := false
deriving DecidableEq, Repr

namespace Draft

/-- The value of a setting that must not have one already. -/
def once {α : Type} (current value : Option α) : Except Refusal (Option α) :=
  if current.isSome then .error .repeatedSetting
  else if value.isSome then .ok value
  else .error .malformedValue

/-- Gives a setting its value. -/
def accept (d : Draft) (s : Setting) (text : String) : Except Refusal Draft := do
  match s with
  | .hz => return { d with hz := ← once d.hz (hzOf? text) }
  | .scale => return { d with scale := ← once d.scale (scaleOf? text) }
  | .seed => return { d with seed := ← once d.seed (seedOf? text) }
  | .logLevel => return { d with logLevel := ← once d.logLevel (Level.ofName? text) }

/-- Looks into what is pending. -/
def settle (d : Draft) : Except Refusal Draft :=
  let settled := { d with pending := .nothing }
  match d.pending with
  | .nothing => .ok settled
  | .unfinished _ => .error .missingValue
  | .value s text => settled.accept s text
  | .rom path =>
    if path.isEmpty then .error .missingValue else .ok { settled with rom := some path }

/-- Whether there is a path already, looked into or not. -/
def hasRom (d : Draft) : Bool :=
  d.rom.isSome || match d.pending with
    | .rom _ => true
    | _ => false

/-- Takes a path, of which there can be only one. -/
def takePath (d : Draft) (path : String) : Except Refusal Draft :=
  if d.hasRom then .error .unknownArgument
  else do
    let d ← d.settle
    return { d with pending := .rom path }

/-- Settles what is pending and then refuses for a reason of its own. -/
def refuse (d : Draft) (reason : Refusal) : Except Refusal Draft := do
  let _ ← d.settle
  throw reason

/-- Takes one more argument. -/
def take (d : Draft) (text : String) : Except Refusal Draft :=
  if d.isLiteral then d.takePath text
  else match Argument.ofString text with
    | .separator => .ok { d with isLiteral := true }
    | .unknown => .error .unknownArgument
    | .requestWithValue => .error .unexpectedValue
    | .help => d.refuse .helpRequested
    | .version => d.refuse .versionRequested
    | .setting s none => do
      let d ← d.settle
      return { d with pending := .unfinished s }
    | .setting s (some value) => do
      let d ← d.settle
      d.accept s value
    | .plain text =>
      match d.pending with
      | .unfinished s => .ok { d with pending := .value s text }
      | _ => d.takePath text

/-- The options that a complete line gives; settings that it leaves out have their defaults. -/
def finish (d : Draft) : Except Refusal Options := do
  let d ← d.settle
  match d.rom with
  | none => throw .missingRom
  | some rom =>
    let defaults : Options := { rom }
    return { defaults with
      hz := d.hz.getD defaults.hz
      scale := d.scale.getD defaults.scale
      seed := d.seed
      logLevel := d.logLevel.getD defaults.logLevel }

end Draft

/-- Reads the arguments after the name of the program. -/
def read (arguments : List String) : Except Refusal Options := do
  let draft ← arguments.foldlM Draft.take {}
  draft.finish

end Chip8VM.CommandLine
