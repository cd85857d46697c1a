import Chip8VM.Instruction.Assembly.Reader

/-!
# Disassembly

Disassembly loses nothing: every instruction is read back from its text, whatever its operands. The
number printers write digits only, so no operand holds a comma and no mnemonic a blank, and lines
fall apart where they were joined; bytes have two digits and addresses at least three, so the two are
told apart although both are hexadecimal.

* `Assembly.Operand.read?_chars`, `Assembly.Operand.notMem_chars`: operands.
* `Assembly.fields_operandChars`: operands are parted at the commas that join them.
* `Assembly.Line.read?_chars`: lines.
* `Instruction.disassembly_lossless`: instructions, of which no two have the same text.
-/

namespace Chip8VM

namespace Assembly

/-! ## Operands -/

theorem byteOf?_toNat (x : UInt8) : byteOf? x.toNat = some x := by
  rw [byteOf?, if_pos x.toNat_lt]
  simp

theorem addressOf?_toNat (addr : UInt16) : addressOf? addr.toNat = some addr := by
  rw [addressOf?, if_pos addr.toNat_lt]
  simp

theorem read?_hexChars (width n : Nat) : Numeral.read? 16 (Hex.chars width n) = some n :=
  Numeral.read?_text (by decide) (by decide) width n

/-- An address has more digits than a byte. -/
theorem decode_addressChars (addr : UInt16) (kk : UInt8) :
    Hex.decode (Hex.chars 3 addr.toNat) ≠ some [kk] := by
  intro hdecode
  have hlength := Hex.length_of_decode hdecode
  rw [Hex.chars, Numeral.length_text, List.length_singleton] at hlength
  omega

/-- Decimal digits open none of the other forms of an operand. -/
theorem mem_decimal {n : Nat} {c : Char} (hc : c ∈ Numeral.text 10 1 n) :
    c ∈ Numeral.digitChars.take 10 := by
  rcases Numeral.exists_of_mem_text (by decide) hc with ⟨d, hd, rfl⟩
  have hall : ∀ e : Fin 10, Numeral.digitChar e ∈ Numeral.digitChars.take 10 := by decide
  exact hall ⟨d, hd⟩

/-- An operand is read back from its spelling. -/
theorem Operand.read?_chars (o : Operand) : Operand.read? o.chars = some o := by
  cases o
  case register x => simp [chars, read?, read?_hexChars, byteOf?_toNat]
  case byte kk => simp [chars, read?, Hex.decode_encode]
  case address addr =>
    -- its digits are not taken for those of a byte
    have hbyte := decode_addressChars addr
    simp [chars, read?, read?_hexChars, addressOf?_toNat]
  case height n =>
    have hdigit : ∀ c ∈ Numeral.text 10 1 n.toNat, c ∈ Numeral.digitChars.take 10 :=
      fun c hc => mem_decimal hc
    rw [chars, read?.eq_def]
    split
    case h_10 =>
      rw [Numeral.read?_text (by decide) (by decide)]
      simp [byteOf?_toNat]
    all_goals
      rename_i heq
      simp [heq, Numeral.digitChars] at hdigit
  all_goals rfl

theorem comma_ne_digitChar {d : Nat} (hd : d < 16) : ',' ≠ Numeral.digitChar d := by
  have hall : ∀ e : Fin 16, ',' ≠ Numeral.digitChar e := by decide
  exact hall ⟨d, hd⟩

/-- No number is written with a comma. -/
theorem notMem_numeral {b width n : Nat} (hb : 2 ≤ b) (hb' : b ≤ 16) :
    ',' ∉ Numeral.text b width n := by
  intro hc
  rcases Numeral.exists_of_mem_text hb hc with ⟨d, hd, hchar⟩
  exact comma_ne_digitChar (by omega) hchar

theorem notMem_byteChars (kk : UInt8) : ',' ∉ Hex.byteChars kk := by
  have hkk := kk.toNat_lt
  have hhigh : ',' ≠ Numeral.digitChar (kk.toNat / 16) := comma_ne_digitChar (by omega)
  have hlow : ',' ≠ Numeral.digitChar (kk.toNat % 16) := comma_ne_digitChar (by omega)
  simp [Hex.byteChars, hhigh, hlow]

/-- The spelling of an operand holds no comma. -/
theorem Operand.notMem_chars (o : Operand) : ',' ∉ o.chars := by
  have hhex : ∀ width n, ',' ∉ Hex.chars width n := fun width n =>
    notMem_numeral (by decide) (by decide)
  cases o
  case register x => simp [chars, hhex]
  case byte kk => simp [chars, Hex.encode, notMem_byteChars]
  case address addr => simp [chars, hhex]
  case height n => exact notMem_numeral (by decide) (by decide)
  all_goals decide

/-! ## Fields -/

/-- What stands before the first comma of a text is part of its first field. -/
theorem fields_append {cs rest first : List Char} {others : List (List Char)} (h : ',' ∉ cs)
    (hrest : fields rest = first :: others) : fields (cs ++ rest) = (cs ++ first) :: others := by
  induction cs with
  | nil => exact hrest
  | cons c cs ih =>
    have hc : c ≠ ',' := fun he => h (by simp [he])
    have hcs : ',' ∉ cs := fun hmem => h (by simp [hmem])
    simp [fields, hc, ih hcs]

/-- Operands that are joined by commas are parted at them. -/
theorem fields_operandChars {os : List Operand} (h : os ≠ []) :
    fields (operandChars os) = os.map Operand.chars := by
  induction os with
  | nil => exact absurd rfl h
  | cons o os ih =>
    cases os with
    | nil =>
      have hlast := fields_append o.notMem_chars (rfl : fields [] = [[]])
      simpa [operandChars] using hlast
    | cons o' os =>
      have hcomma : fields (',' :: ' ' :: operandChars (o' :: os)) =
          [] :: fields (operandChars (o' :: os)) := rfl
      show fields (o.chars ++ ',' :: ' ' :: operandChars (o' :: os)) = _
      rw [fields_append o.notMem_chars hcomma, List.append_nil, ih (by simp)]
      rfl

theorem mapM_read?_chars (os : List Operand) :
    (os.map Operand.chars).mapM Operand.read? = some os := by
  induction os with
  | nil => rfl
  | cons o os ih => simp [o.read?_chars, ih]

/-! ## Lines -/

theorem Mnemonic.read?_text (m : Mnemonic) : Mnemonic.read? m.text.toList = some m := by
  cases m <;> decide

/-- A mnemonic is written without blanks. -/
theorem Mnemonic.ne_blank (m : Mnemonic) : ∀ c ∈ m.text.toList, decide (c ≠ ' ') = true := by
  rw [← List.all_eq_true]
  cases m <;> rfl

/-- A line is read back from its spelling. -/
theorem Line.read?_chars (l : Line) : Line.read? l.chars = some l := by
  rcases l with ⟨m, os⟩
  have hsplit : ∀ rest, (m.text.toList ++ rest).takeWhile (· ≠ ' ') =
        m.text.toList ++ rest.takeWhile (· ≠ ' ') ∧
      (m.text.toList ++ rest).dropWhile (· ≠ ' ') = rest.dropWhile (· ≠ ' ') := fun rest =>
    ⟨List.takeWhile_append_of_pos m.ne_blank, List.dropWhile_append_of_pos m.ne_blank⟩
  cases os with
  | nil =>
    have hchars : Line.chars ⟨m, []⟩ = m.text.toList ++ [] := by simp [Line.chars]
    rw [hchars, Line.read?, (hsplit []).1, (hsplit []).2, List.takeWhile_nil, List.append_nil,
      m.read?_text]
    rfl
  | cons o os =>
    have hchars : Line.chars ⟨m, o :: os⟩ = m.text.toList ++ ' ' :: operandChars (o :: os) := by
      simp [Line.chars]
    rw [hchars, Line.read?, (hsplit _).1, (hsplit _).2, List.takeWhile_cons_of_neg (by simp),
      List.append_nil, m.read?_text, List.dropWhile_cons_of_neg (by simp)]
    show ((fields (operandChars (o :: os))).mapM Operand.read? >>=
      fun operands => some (⟨m, operands⟩ : Line)) = _
    rw [fields_operandChars (by simp), mapM_read?_chars]
    rfl

end Assembly

namespace Instruction

/-! ## Instructions -/

theorem read?_text (ins : Instruction) : Instruction.read? ins.text = some ins := by
  rw [read?, text, String.toList_ofList, Assembly.Line.read?_chars]
  exact Assembly.Line.instruction?_line ins

/-- Every instruction is read back from its text, also one with operands that no opcode has, and so
no two instructions have the same text. -/
theorem disassembly_lossless :
    (∀ ins : Instruction, Instruction.read? ins.text = some ins) ∧
    ∀ ins ins' : Instruction, ins.text = ins'.text ↔ ins = ins' := by
  constructor
  · intro ins
    exact read?_text ins
  · intro ins ins'
    constructor
    · intro h
      have hread := congrArg Instruction.read? h
      rw [read?_text, read?_text] at hread
      exact Option.some.inj hread
    · intro h
      rw [h]

end Instruction

end Chip8VM
