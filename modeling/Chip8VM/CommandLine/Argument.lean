import Chip8VM.CommandLine.Options

/-!
# Arguments

What a single argument looks like, before it is known where it stands. An argument with a dash in
front is an option, two dashes by themselves make the arguments after them plain, and everything
else, a single dash included, is plain.
-/

namespace Chip8VM.CommandLine

/-- The looks of an argument. -/
inductive Argument where
  /-- The request for help. -/
  | help
  /-- The request for the version. -/
  | version
  /-- One of the two requests with a value attached. -/
  | requestWithValue
  /-- A setting, perhaps with its value attached. -/
  | setting (s : Setting) (attached : Option String)
  /-- Two dashes. -/
  | separator
  /-- Another option. -/
  | unknown
  /-- A path or the value of the setting before it. -/
  | plain (text : String)
deriving DecidableEq, Repr

namespace Argument

/-- An option with a long name, to which a value may be attached by an equals sign. -/
def ofLong (body : List Char) : Argument :=
  let name := body.takeWhile (· ≠ '=')
  let attached := match body.dropWhile (· ≠ '=') with
    | [] => none
    | _ :: value => some (String.ofList value)
  match Setting.ofName? name with
  | some s => .setting s attached
  | none =>
    if name = ['h', 'e', 'l', 'p'] then
      if attached.isNone then .help else .requestWithValue
    else if name = ['v', 'e', 'r', 's', 'i', 'o', 'n'] then
      if attached.isNone then .version else .requestWithValue
    else .unknown

/-- An option of single letters, of which the first one decides. -/
def ofShort (letter : Char) : Argument :=
  if letter = 'h' then .help else if letter = 'V' then .version else .unknown

/-- The looks of an argument. -/
def ofString (text : String) : Argument :=
  match text.toList with
  | ['-', '-'] => .separator
  | '-' :: '-' :: body => ofLong body
  | '-' :: letter :: _ => ofShort letter
  | _ => .plain text

end Argument

end Chip8VM.CommandLine
