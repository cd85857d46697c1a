/-!
# Delivery of program images

A program image arrives in pieces from a reader that may be interrupted or fail. What counts is
what was delivered before the end: how it was cut up and how often the reader was interrupted makes
no difference.
-/

namespace Chip8VM

/-- What one attempt to read gives. -/
inductive Delivery where
  /-- Some bytes; no bytes at all mean that the end is reached. -/
  | data (bytes : List UInt8)
  /-- Nothing yet: the attempt is to be repeated. -/
  | interrupted
  /-- Nothing ever: reading has failed, with the reader's message. -/
  | failed (message : String)
deriving DecidableEq, Repr

namespace Delivery

/-- All bytes up to the end, or the message of the failure that came before it. A reader that has
nothing more to give is at its end. -/
def readAll : List Delivery → Except String (List UInt8)
  | [] => .ok []
  | .data [] :: _ => .ok []
  | .data bytes :: rest => (readAll rest).map (bytes ++ ·)
  | .interrupted :: rest => readAll rest
  | .failed message :: _ => .error message

/-- What is delivered in one piece is read as it is. -/
theorem readAll_singleton (bytes : List UInt8) : readAll [.data bytes] = .ok bytes := by
  cases bytes with
  | nil => rfl
  | cons byte rest => simp [readAll, Except.map]

end Delivery

end Chip8VM
