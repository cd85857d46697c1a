import Chip8VM.Text.CharacterSets
import Chip8VM.Text.Hex

/-!
# Quoted text

A name inside a message stands between double quotes. What would end the quotation or could not be
seen in it is written as an escape; every other character stands for itself.
-/

namespace Chip8VM.Quoted

open Extending (isExtending)
open Invisible (isInvisible)
open Unassigned (isUnassigned)

/-- Whether a character can be seen as it is: it has a sign and does not join the one before it. -/
def isPlain (c : Char) : Bool :=
  !(isExtending c || isInvisible c || isUnassigned c)

/-- A character as its code point in lower-case hexadecimal, between braces. -/
def codeEscape (c : Char) : List Char :=
  ['\\', 'u', '\x7b'] ++ (Hex.chars 1 c.toNat).map Char.toLower ++ ['\x7d']

/-- How one character is written inside the quotes: the quote and the backslash behind a backslash,
the common controls by their letter, and others that are not plain by their code. -/
def escape (c : Char) : List Char :=
  match c with
  | '"' => ['\\', '"']
  | '\\' => ['\\', '\\']
  | '\n' => ['\\', 'n']
  | '\t' => ['\\', 't']
  | '\r' => ['\\', 'r']
  | '\x00' => ['\\', '0']
  | c => if isPlain c then [c] else codeEscape c

/-- A string between double quotes. -/
def text (s : String) : String :=
  String.ofList ('"' :: s.toList.flatMap escape ++ ['"'])

end Chip8VM.Quoted
