/-!
# Random words

Whatever hands out 32-bit words one by one. A source is a value: taking a word gives the word and
the source that remains.

- `CyclicWords`: a list of words that starts over when it ends.
- `ChaCha`: a stream of words that is a function of a key and a position. The words come in blocks
  of sixteen, and each block is a scrambling of the key and the number of the block by twelve rounds.
- `ChaCha.ofSeed`: the stream whose key a seed expands to.
-/

namespace Chip8VM

/-- A state from which words are taken one by one. -/
class WordSource (ρ : Type) where
  /-- The next word, and what remains. -/
  next : ρ → UInt32 × ρ

/-- A list of words that starts over when it ends; without words every word is zero. -/
structure CyclicWords where
  /-- The words of one round. -/
  words : Array UInt32
  /-- How many words have been taken. -/
  taken : Nat
deriving DecidableEq, Repr

instance : WordSource CyclicWords where
  next c := (c.words.getD (c.taken % c.words.size) 0, { c with taken := c.taken + 1 })

/-! ## The ChaCha stream -/

/-- A key and the number of words already taken from its stream. -/
structure ChaCha where
  /-- The key that fixes the stream. -/
  key : Vector UInt32 8
  /-- How many words have been taken. -/
  position : Nat
deriving DecidableEq, Repr

namespace ChaCha

/-- Sixteen words, thought of as four rows of four. -/
abbrev Block := Vector UInt32 16

/-- Rotates a word to the left by `k` bits, for `k` from 1 to 31. -/
def rotateLeft (w k : UInt32) : UInt32 :=
  (w <<< k) ||| (w >>> (32 - k))

/-- Mixes four words of a block. -/
def quarterRound (s : Block) (a b c d : Fin 16) : Block :=
  let s := s.set a (s[a] + s[b])
  let s := s.set d (rotateLeft (s[d] ^^^ s[a]) 16)
  let s := s.set c (s[c] + s[d])
  let s := s.set b (rotateLeft (s[b] ^^^ s[c]) 12)
  let s := s.set a (s[a] + s[b])
  let s := s.set d (rotateLeft (s[d] ^^^ s[a]) 8)
  let s := s.set c (s[c] + s[d])
  s.set b (rotateLeft (s[b] ^^^ s[c]) 7)

/-- Mixes the four columns and then the four diagonals. -/
def doubleRound (s : Block) : Block :=
  let s := quarterRound s 0 4 8 12
  let s := quarterRound s 1 5 9 13
  let s := quarterRound s 2 6 10 14
  let s := quarterRound s 3 7 11 15
  let s := quarterRound s 0 5 10 15
  let s := quarterRound s 1 6 11 12
  let s := quarterRound s 2 7 8 13
  quarterRound s 3 4 9 14

/-- The block before the rounds: four constants, the key, the number of the block in two words, and
two zeros. -/
def initialBlock (key : Vector UInt32 8) (number : Nat) : Block :=
  #v[0x61707865, 0x3320646e, 0x79622d32, 0x6b206574,
    key[0], key[1], key[2], key[3], key[4], key[5], key[6], key[7],
    number.toUInt32, (number / 0x100000000).toUInt32, 0, 0]

/-- A block of the stream: the initial block plus what twelve rounds make of it. -/
def block (key : Vector UInt32 8) (number : Nat) : Block :=
  let start := initialBlock key number
  start.zipWith (· + ·) (Nat.repeat doubleRound 6 start)

/-- The word at a position of the stream of a key. -/
def wordAt (key : Vector UInt32 8) (position : Nat) : UInt32 :=
  (block key (position / 16))[Fin.ofNat 16 position]

instance : WordSource ChaCha where
  next s := (wordAt s.key s.position, { s with position := s.position + 1 })

/-! ## Seeds -/

/-- The linear congruential step that drives the expansion of a seed. -/
def advance (s : UInt64) : UInt64 :=
  s * 6364136223846793005 + 11634580027462260723

/-- The word that a state of the expansion yields: its high bits, rotated by the topmost five. -/
def permute (s : UInt64) : UInt32 :=
  let w := (((s >>> 18) ^^^ s) >>> 27).toUInt32
  let r := (s >>> 59).toUInt32
  (w >>> r) ||| (w <<< (32 - r))

/-- The key that a seed expands to. -/
def keyOfSeed (seed : UInt64) : Vector UInt32 8 :=
  .ofFn fun i => permute (Nat.repeat advance (i.val + 1) seed)

/-- The stream of a seed, from its beginning. -/
def ofSeed (seed : UInt64) : ChaCha :=
  ⟨keyOfSeed seed, 0⟩

end ChaCha

end Chip8VM
