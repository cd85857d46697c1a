import Chip8VM.Text.Numeral

/-!
# Hexadecimal text

Upper-case hexadecimal, for single numbers of a least width and for runs of bytes with two digits
each.

- `decode_encode`: a run of bytes is read back from its digits.
- `length_of_decode`: only two digits make one byte.
-/

namespace Chip8VM.Hex

/-- The hexadecimal numeral of `n`, of at least `width` digits. -/
def chars (width n : Nat) : List Char :=
  Numeral.text 16 width n

/-- The hexadecimal numeral of `n`, of at least `width` digits, as a string. -/
def text (width n : Nat) : String :=
  String.ofList (chars width n)

/-- The two digits of a byte. -/
def byteChars (b : UInt8) : List Char :=
  [Numeral.digitChar (b.toNat / 16), Numeral.digitChar (b.toNat % 16)]

/-- A run of bytes, two digits each. -/
def encode (bytes : List UInt8) : List Char :=
  bytes.flatMap byteChars

/-- Reads a run of bytes; the digits come in pairs and none may be left over. -/
def decode : List Char → Option (List UInt8)
  | [] => some []
  | [_] => none
  | high :: low :: rest => do
    let high ← Numeral.digit? 16 high
    let low ← Numeral.digit? 16 low
    let bytes ← decode rest
    return (16 * high + low).toUInt8 :: bytes

theorem decode_encode (bytes : List UInt8) : decode (encode bytes) = some bytes := by
  induction bytes with
  | nil => rfl
  | cons b bytes ih =>
    have hb := b.toNat_lt
    have hhigh := Numeral.digit?_digitChar (b := 16) (d := b.toNat / 16) (by omega) (by omega)
    have hlow := Numeral.digit?_digitChar (b := 16) (d := b.toNat % 16) (by omega) (by omega)
    have hdiv : 16 * (b.toNat / 16) + b.toNat % 16 = b.toNat := Nat.div_add_mod b.toNat 16
    have hstep : encode (b :: bytes) = Numeral.digitChar (b.toNat / 16) ::
        Numeral.digitChar (b.toNat % 16) :: encode bytes := rfl
    simp only [hstep, decode, hhigh, hlow, ih, Option.bind_eq_bind, Option.bind_some, hdiv]
    simp

theorem length_of_decode {cs : List Char} {bytes : List UInt8} (h : decode cs = some bytes) :
    cs.length = 2 * bytes.length := by
  fun_induction decode cs generalizing bytes with
  | case1 =>
    cases h
    rfl
  | case2 => cases h
  | case3 high low rest ih =>
    simp only [Option.bind_eq_bind, Option.bind_eq_some_iff, Option.pure_def,
      Option.some.injEq] at h
    rcases h with ⟨_, -, _, -, later, hlater, rfl⟩
    rw [List.length_cons, List.length_cons, List.length_cons, ih hlater]
    omega

end Chip8VM.Hex
