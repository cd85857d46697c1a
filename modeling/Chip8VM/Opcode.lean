import Chip8VM.Text.Hex

/-!
# Opcodes

An opcode is the 16-bit word that encodes one instruction. Its four hexadecimal digits are a family
and three operand digits, which instructions read singly (`x`, `y`, `n`), as a byte (`kk`) or as
an address (`addr`).

- `toNat_x`, `toNat_y`, …: each field as a quotient and a remainder of the word.
- `toNat_word_eq`, `ext_digits`: the word is determined by its four digits.
-/

namespace Chip8VM

/-- The word that encodes an instruction. -/
structure Opcode where
  /-- The 16 bits, the first byte in memory being the high one. -/
  word : UInt16
deriving DecidableEq, Repr, Inhabited

namespace Opcode

/-- The opcode stored as two successive bytes. -/
def ofBytes (high low : UInt8) : Opcode :=
  ⟨high.toUInt16 * 0x100 + low.toUInt16⟩

/-- The first digit, which selects the family of instructions. -/
def family (op : Opcode) : UInt8 :=
  (op.word / 0x1000).toUInt8

/-- The second digit. -/
def x (op : Opcode) : UInt8 :=
  (op.word / 0x100 % 0x10).toUInt8

/-- The third digit. -/
def y (op : Opcode) : UInt8 :=
  (op.word / 0x10 % 0x10).toUInt8

/-- The last digit. -/
def n (op : Opcode) : UInt8 :=
  (op.word % 0x10).toUInt8

/-- The low byte. -/
def kk (op : Opcode) : UInt8 :=
  (op.word % 0x100).toUInt8

/-- The low twelve bits. -/
def addr (op : Opcode) : UInt16 :=
  op.word % 0x1000

/-- The four digits in order. -/
def nibbles (op : Opcode) : List UInt8 :=
  [op.family, op.x, op.y, op.n]

/-- The four hexadecimal digits of the word. -/
def text (op : Opcode) : String :=
  Hex.text 4 op.word.toNat

/-! ## The fields as numbers -/

theorem toNat_ofBytes (high low : UInt8) :
    (ofBytes high low).word.toNat = 256 * high.toNat + low.toNat := by
  have hh := high.toNat_lt
  have hl := low.toNat_lt
  simp only [ofBytes, UInt16.toNat_add, UInt16.toNat_mul, UInt8.toNat_toUInt16, UInt16.reduceToNat]
  omega

theorem toNat_family (op : Opcode) : op.family.toNat = op.word.toNat / 4096 := by
  have hw := op.word.toNat_lt
  simp only [family, UInt16.toNat_toUInt8, UInt16.toNat_div, UInt16.reduceToNat]
  omega

theorem toNat_x (op : Opcode) : op.x.toNat = op.word.toNat / 256 % 16 := by
  simp only [x, UInt16.toNat_toUInt8, UInt16.toNat_div, UInt16.toNat_mod, UInt16.reduceToNat]
  omega

theorem toNat_y (op : Opcode) : op.y.toNat = op.word.toNat / 16 % 16 := by
  simp only [y, UInt16.toNat_toUInt8, UInt16.toNat_div, UInt16.toNat_mod, UInt16.reduceToNat]
  omega

theorem toNat_n (op : Opcode) : op.n.toNat = op.word.toNat % 16 := by
  simp only [n, UInt16.toNat_toUInt8, UInt16.toNat_mod, UInt16.reduceToNat]
  omega

theorem toNat_kk (op : Opcode) : op.kk.toNat = op.word.toNat % 256 := by
  simp only [kk, UInt16.toNat_toUInt8, UInt16.toNat_mod, UInt16.reduceToNat]
  omega

theorem toNat_addr (op : Opcode) : op.addr.toNat = op.word.toNat % 4096 := by
  simp only [addr, UInt16.toNat_mod, UInt16.reduceToNat]

theorem family_lt (op : Opcode) : op.family.toNat < 16 := by
  have hw := op.word.toNat_lt
  rw [toNat_family]
  omega

theorem x_lt (op : Opcode) : op.x.toNat < 16 := by
  rw [toNat_x]
  omega

theorem y_lt (op : Opcode) : op.y.toNat < 16 := by
  rw [toNat_y]
  omega

theorem n_lt (op : Opcode) : op.n.toNat < 16 := by
  rw [toNat_n]
  omega

theorem addr_lt (op : Opcode) : op.addr.toNat < 4096 := by
  rw [toNat_addr]
  omega

/-- A word is determined by its four digits. -/
theorem toNat_word_eq (op : Opcode) : op.word.toNat =
    4096 * op.family.toNat + 256 * op.x.toNat + 16 * op.y.toNat + op.n.toNat := by
  rw [toNat_family, toNat_x, toNat_y, toNat_n]
  omega

theorem ext_digits {op op' : Opcode} (hfamily : op.family = op'.family) (hx : op.x = op'.x)
    (hy : op.y = op'.y) (hn : op.n = op'.n) : op = op' := by
  have hword : op.word = op'.word := by
    rw [← UInt16.toNat_inj, toNat_word_eq, toNat_word_eq, hfamily, hx, hy, hn]
  obtain ⟨word⟩ := op
  exact congrArg Opcode.mk hword

end Opcode

end Chip8VM
