import Chip8VM.Proofs.Formats
import Chip8VM.Proofs.Safety
import Chip8VM.Proofs.Spans

/-!
# Destinations

Where a step goes. Every word but jumps, calls, returns and skips leads on to the next one, whether
or not it encodes an instruction. Addresses are counted on beyond the end of memory up to sixteen
bits; that they name places in twelve shows only when the next word is fetched.

* `Machine.destination`: where the word at the program counter leads, told from its digits.
* `execute_pc_of_isLinear`: most instructions leave the program counter behind their word.
* `execute_of_skips?`, `Machine.call_pc`, `Machine.ret_pc`, `Machine.jumpOffset_pc`: the others.
* `steps_to_destination`: a running machine goes there, one that awaits a key stays where it is.
-/

namespace Chip8VM

/-! ## Where a word leads -/

namespace Machine

/-- The address on top of the call stack, if there is one. -/
def returnAddress (m : Machine) : UInt16 :=
  m.stack[m.sp.toNat - 1]?.getD 0

/-- Where a running machine goes from a word at its program counter. The number is not wrapped to
the sixteen bits of an address. -/
def destination (m : Machine) (pad : Keypad) (op : Opcode) : Nat :=
  let vx := m.getV (operand op.x)
  let vy := m.getV (operand op.y)
  let next := m.pc.toNat + 2
  let afterNext := m.pc.toNat + 4
  match op.family with
  | 0x0 => if op.word = 0x00EE ∧ 0 < m.sp.toNat then m.returnAddress.toNat else next
  | 0x1 => op.addr.toNat
  | 0x2 => if m.sp.toNat < 16 then op.addr.toNat else next
  | 0x3 => if vx = op.kk then afterNext else next
  | 0x4 => if vx ≠ op.kk then afterNext else next
  | 0x5 => if vx = vy then afterNext else next
  | 0x9 => if vx ≠ vy then afterNext else next
  | 0xB => (m.getV first).toNat + op.addr.toNat
  | 0xE =>
    if op.kk = 0x9E ∧ vx.toNat < 16 ∧ pad.isDown vx = true ∨
        op.kk = 0xA1 ∧ (16 ≤ vx.toNat ∨ pad.isDown vx = false) then afterNext
    else next
  | _ => next

theorem toNat_pc_fetch (m : Machine) : m.fetch.pc.toNat = (m.pc.toNat + 2) % 65536 := by
  show (m.pc + 2).toNat = _
  rw [UInt16.toNat_add]
  rfl

theorem destination_of_decode_eq_none (m : Machine) (pad : Keypad) {op : Opcode}
    (h : Instruction.decode op = none) : m.destination pad op = m.pc.toNat + 2 := by
  rcases Instruction.decode_eq_none_iff.1 h with ⟨hfamily, -⟩ | ⟨hfamily, hdown, hup⟩ | ⟨hfamily, -⟩
  · simp [destination, hfamily]
  · simp [destination, hfamily, hdown, hup]
  · simp [destination, hfamily]

end Machine

/-! ## Instructions that lead on -/

/-- An instruction always leads on to the word behind it. -/
def Instruction.IsLinear : Instruction → Prop
  | .ret | .jump _ | .call _ | .jumpOffset _ | .skipEqByte .. | .skipNeByte .. | .skipEqReg ..
  | .skipNeReg .. | .skipKeyDown _ | .skipKeyUp _ => False
  | _ => True

theorem Machine.destination_of_isLinear (m : Machine) (pad : Keypad) {op : Opcode}
    {ins : Instruction} (hins : ins.IsLinear) (h : ins.HasFormat op) :
    m.destination pad op = m.pc.toNat + 2 := by
  cases ins <;> simp only [Instruction.IsLinear] at hins <;>
    simp only [Instruction.HasFormat] at h
  case cls =>
    have hfamily := Instruction.family_eq_zero (.inl h)
    simp [destination, hfamily, h]
  all_goals simp [destination, h]

namespace Console

variable {ρ : Type}

theorem awaitKey_pc {c d : Console ρ} {pad : Keypad} {x : UInt8}
    (h : c.awaitKey pad x = .ok d) : d.machine.pc = c.machine.pc := by
  unfold awaitKey at h
  split at h
  · simp only [bind_eq_ok, pure_eq_ok] at h
    rcases h with ⟨r, -, rfl⟩
    rfl
  · simp only [pure_eq_ok] at h
    subst h
    rfl

variable [WordSource ρ]

/-- An instruction that leads on leaves the program counter where the fetch has put it. -/
theorem execute_pc_of_isLinear {c d : Console ρ} {pad : Keypad} {ins : Instruction}
    {events : List Event} (hins : ins.IsLinear) (h : c.execute pad ins = .ok (d, events)) :
    d.machine.pc = c.machine.pc := by
  cases ins <;> simp only [Instruction.IsLinear] at hins <;>
    simp only [execute, bind_eq_ok, pure_eq_ok, become, becomeWith, Machine.addRegister_eq,
      Machine.pointAtGlyph_eq, Except.ok.injEq, Prod.mk.injEq] at h
  case sys | cls | loadIndex =>
    rcases h with ⟨rfl, -⟩
    rfl
  case awaitKey =>
    rcases h with ⟨e, he, rfl, -⟩
    exact awaitKey_pc he
  case loadGlyph =>
    rcases h with ⟨r, -, m, rfl, rfl, -⟩
    rfl
  case addReg =>
    rcases h with ⟨r, -, s, -, m, rfl, rfl, -⟩
    rfl
  case move | or | and | xor | sub | subN | draw =>
    rcases h with ⟨r, -, s, -, rfl, -⟩
    rfl
  case loadByte | addByte | shiftRight | shiftLeft | random | readDelay | setDelay | setSound |
      addIndex | storeBcd | storeRegisters =>
    rcases h with ⟨r, -, rfl, -⟩
    rfl
  case loadRegisters =>
    rcases h with ⟨r, -, rfl, -⟩
    simp only [Machine.loadRegisters]

end Console

/-! ## Skips -/

/-- Whether an instruction that may pass over the word behind it does so. -/
def Instruction.skips? (m : Machine) (pad : Keypad) : Instruction → Option Bool
  | .skipEqByte x kk => some (m.getV (Machine.operand x) == kk)
  | .skipNeByte x kk => some (m.getV (Machine.operand x) != kk)
  | .skipEqReg x y => some (m.getV (Machine.operand x) == m.getV (Machine.operand y))
  | .skipNeReg x y => some (m.getV (Machine.operand x) != m.getV (Machine.operand y))
  | .skipKeyDown x => some (pad.isDown (m.getV (Machine.operand x)))
  | .skipKeyUp x => some (!pad.isDown (m.getV (Machine.operand x)))
  | _ => none

theorem Machine.toNat_pc_skipIf (m : Machine) (condition : Bool) :
    (m.fetch.skipIf condition).pc.toNat =
      (if condition then m.pc.toNat + 4 else m.pc.toNat + 2) % 65536 := by
  have hfetch := m.toNat_pc_fetch
  cases condition with
  | false => exact hfetch
  | true =>
    show (m.fetch.pc + 2).toNat = (m.pc.toNat + 4) % 65536
    rw [UInt16.toNat_add, hfetch]
    simp only [UInt16.reduceToNat]
    omega

theorem Machine.destination_of_skips? {m : Machine} {pad : Keypad} {op : Opcode}
    {ins : Instruction} {b : Bool} (hformat : ins.HasFormat op) (hb : ins.skips? m pad = some b) :
    m.destination pad op = if b then m.pc.toNat + 4 else m.pc.toNat + 2 := by
  cases ins <;> cases hb
  case skipEqByte x kk | skipNeByte x kk =>
    rcases hformat with ⟨hfamily, rfl, rfl⟩
    simp [destination, hfamily]
  case skipEqReg x y | skipNeReg x y =>
    rcases hformat with ⟨hfamily, rfl, rfl⟩
    simp [destination, hfamily]
  -- a key that is down has one of the sixteen numbers
  case skipKeyDown x =>
    rcases hformat with ⟨hfamily, hkk, rfl⟩
    cases hdown : pad.isDown (m.getV (operand op.x)) with
    | false => simp [destination, hfamily, hkk, hdown]
    | true =>
      have hlt := Keypad.toNat_lt_of_isDown hdown
      simp [destination, hfamily, hkk, hdown, hlt]
  case skipKeyUp x =>
    rcases hformat with ⟨hfamily, hkk, rfl⟩
    cases hdown : pad.isDown (m.getV (operand op.x)) with
    | false => simp [destination, hfamily, hkk, hdown]
    | true =>
      have hlt := Keypad.toNat_lt_of_isDown hdown
      simp [destination, hfamily, hkk, hdown, Nat.not_le.2 hlt]

theorem Console.execute_of_skips? {ρ : Type} [WordSource ρ] {c : Console ρ} {pad : Keypad}
    {ins : Instruction} {b : Bool} (hreg : ∀ x ∈ ins.registers, x.toNat < 16)
    (hb : ins.skips? c.machine pad = some b) :
    c.execute pad ins = .ok (c.become (c.machine.skipIf b)) := by
  cases ins <;> cases hb
  case skipEqByte x kk | skipNeByte x kk | skipKeyDown x | skipKeyUp x =>
    have hx := Machine.register_operand (hreg x (by simp [Instruction.registers]))
    simp only [execute, hx]
    rfl
  case skipEqReg x y | skipNeReg x y =>
    have hx := Machine.register_operand (hreg x (by simp [Instruction.registers]))
    have hy := Machine.register_operand (hreg y (by simp [Instruction.registers]))
    simp only [execute, hx, hy]
    rfl

/-! ## Jumps, calls and returns -/

namespace Machine

variable {m n : Machine} {addr : UInt16} {events : List Event}

/-- A call leads to its address, unless the call stack is full. -/
theorem call_pc (h : m.call addr = .ok (n, events)) (hsp : m.sp.toNat ≤ 16) :
    n.pc = if m.sp.toNat < 16 then addr else m.pc := by
  rcases call_cases h hsp with ⟨hfull, rfl, -⟩ | ⟨hlt, -, rfl⟩
  · rw [hfull]
    rfl
  · rw [if_pos hlt]

/-- A return leads to the address on top of the call stack, unless that is empty. -/
theorem ret_pc (h : m.ret = .ok (n, events)) (hsp : m.sp.toNat ≤ 16) :
    n.pc = if 0 < m.sp.toNat then m.returnAddress else m.pc := by
  rcases ret_cases h hsp with ⟨hempty, rfl, -⟩ | ⟨hne, hslot, -, rfl⟩
  · rw [hempty]
    rfl
  · have hone := depth_sub_one hne
    have htop : m.returnAddress = m.stack[m.sp.toNat - 1] := by simp [returnAddress, hslot]
    rw [if_pos (by omega), htop]

/-- A jump from an address of twelve bits goes as far beyond it as the first register says. -/
theorem jumpOffset_pc (h : m.jumpOffset addr = .ok n) (haddr : addr.toNat < 4096) :
    n.pc.toNat = (m.getV first).toNat + addr.toNat := by
  have hv := (m.getV first).toNat_lt
  have hlt : (m.getV first).toNat + addr.toNat < 65536 := by omega
  rw [jumpOffset_of_lt hlt] at h
  cases h
  show ((m.getV first).toNat + addr.toNat).toUInt16.toNat = _
  rw [Nat.toUInt16_eq, UInt16.toNat_ofNat']
  exact Nat.mod_eq_of_lt hlt

end Machine

/-! ## Steps -/

namespace Console

variable {ρ : Type} [WordSource ρ]

/-- An instruction leads where its word does. -/
theorem executed_pc {c d : Console ρ} {pad : Keypad} {op : Opcode} {ins : Instruction}
    {events : List Event} (hdecode : Instruction.decode op = some ins)
    (hsp : c.machine.sp.toNat ≤ 16) (hexec : c.fetched.execute pad ins = .ok (d, events)) :
    d.machine.pc.toNat = c.machine.destination pad op % 65536 := by
  have hformat := Instruction.hasFormat_of_decode hdecode
  have hrange := Instruction.decode_inRange hdecode
  have hnext : c.fetched.machine.pc.toNat = (c.machine.pc.toNat + 2) % 65536 :=
    c.machine.tick.toNat_pc_fetch
  by_cases hins : ins.IsLinear
  · rw [execute_pc_of_isLinear hins hexec, c.machine.destination_of_isLinear pad hins hformat]
    exact hnext
  · cases ins <;> simp only [Instruction.IsLinear, not_true, not_false_eq_true] at hins
    case jump addr =>
      rcases hformat with ⟨hfamily, rfl⟩
      cases hexec
      simp only [Machine.destination, hfamily]
      exact (Nat.mod_eq_of_lt op.addr.toNat_lt).symm
    case call addr =>
      rcases hformat with ⟨hfamily, rfl⟩
      rcases execute_call hexec with ⟨m, hm, rfl⟩
      have hpc : m.pc = if c.machine.sp.toNat < 16 then op.addr else c.fetched.machine.pc :=
        Machine.call_pc hm hsp
      simp only [Machine.destination, hfamily]
      rw [hpc]
      split
      · exact (Nat.mod_eq_of_lt op.addr.toNat_lt).symm
      · exact hnext
    case ret =>
      have hword : op.word = 0x00EE := hformat
      rcases execute_ret hexec with ⟨m, hm, rfl⟩
      have hpc : m.pc =
          if 0 < c.machine.sp.toNat then c.machine.returnAddress else c.fetched.machine.pc :=
        Machine.ret_pc hm hsp
      simp only [Machine.destination, Instruction.family_eq_zero (.inr hword), hword, true_and]
      rw [hpc]
      split
      · exact (Nat.mod_eq_of_lt (UInt16.toNat_lt _)).symm
      · exact hnext
    case jumpOffset addr =>
      have haddr := hrange.address addr rfl
      rcases hformat with ⟨hfamily, rfl⟩
      rcases bind_eq_ok.1 hexec with ⟨m, hm, hd⟩
      cases hd
      have hpc := Machine.jumpOffset_pc hm haddr
      simp only [Machine.destination, hfamily]
      show m.pc.toNat = ((c.fetched.machine.getV Machine.first).toNat + op.addr.toNat) % 65536
      rw [← hpc]
      exact (Nat.mod_eq_of_lt m.pc.toNat_lt).symm
    -- the remaining instructions are skips
    all_goals
      rw [Machine.destination_of_skips? hformat rfl]
      rw [execute_of_skips? hrange.registers rfl] at hexec
      cases hexec
      exact c.machine.tick.toNat_pc_skipIf _

/-- The word at the program counter is made of the bytes at two places, of which the second is the
first of memory if the other is the last. -/
theorem eq_peek {m : Machine} {op : Opcode} (h : op.word.toNat =
    256 * (m.memory.bytes.get (Place.ofNat m.pc.toNat)).toNat +
      (m.memory.bytes.get (Place.ofNat (m.pc.toNat + 1))).toNat) : op = m.peek := by
  have hlow := m.memory.read_add m.pc 1
  have hhigh : m.memory.read m.pc = m.memory.bytes.get (Place.ofNat m.pc.toNat) := rfl
  have hword : op.word = m.peek.word := by
    rw [← UInt16.toNat_inj, h, ← hlow, ← hhigh]
    exact (Opcode.toNat_ofBytes _ _).symm
  rcases op with ⟨word⟩
  exact congrArg Opcode.mk hword

theorem step_pc_of_running {c : Console ρ} {pad : Keypad} (hmode : c.machine.mode = .running)
    (hsp : c.machine.sp.toNat ≤ 16) : ∃ d told, c.step pad = .ok (d, told) ∧
      d.machine.pc.toNat = c.machine.destination pad c.machine.peek % 65536 := by
  have hsound : c.machine.Sound := ⟨hsp, by simp [hmode]⟩
  rcases step_succeeds hsound pad with ⟨⟨d, told⟩, hstep⟩
  refine ⟨d, told, hstep, ?_⟩
  cases step_eq_ok_iff.1 hstep with
  | waiting hawaits hpad => simp [hmode] at hawaits
  | resumed hawaits hpad hr => simp [hmode] at hawaits
  | unrecognised _ hdecode =>
    rw [Machine.destination_of_decode_eq_none _ _ hdecode]
    exact c.machine.tick.toNat_pc_fetch
  | executed _ hdecode hexec => exact executed_pc hdecode hsp hexec

theorem step_pc_of_awaiting {c : Console ρ} {x : UInt8} {pad : Keypad}
    (hmode : c.machine.mode = .awaitingKey x) (hx : x.toNat ≤ 15) :
    ∃ d told, c.step pad = .ok (d, told) ∧ d.machine.pc = c.machine.pc := by
  rw [step_of_awaiting hmode]
  unfold continueWait
  split
  · exact ⟨_, _, rfl, rfl⟩
  · rw [Machine.register_of_lt (Nat.lt_succ_of_le hx)]
    exact ⟨_, _, rfl, rfl⟩

/-- A running machine goes where the word at its program counter leads, its two bytes being those at
the program counter and behind it, counted in twelve bits; a machine that awaits a key for a
register stays where it is. -/
theorem steps_to_destination :
    (∀ (c : Console ρ) (pad : Keypad) (op : Opcode),
      c.machine.mode = .running → c.machine.sp.toNat ≤ 16 →
      op.word.toNat =
        256 * (c.machine.memory.bytes.get (Place.ofNat c.machine.pc.toNat)).toNat +
          (c.machine.memory.bytes.get (Place.ofNat (c.machine.pc.toNat + 1))).toNat →
      ∃ d told, c.step pad = .ok (d, told) ∧
        d.machine.pc.toNat = c.machine.destination pad op % 65536) ∧
    ∀ (c : Console ρ) (pad : Keypad) (x : UInt8),
      c.machine.mode = .awaitingKey x → x.toNat ≤ 15 →
      ∃ d told, c.step pad = .ok (d, told) ∧ d.machine.pc = c.machine.pc := by
  constructor
  · intro c pad op hmode hsp hop
    rw [eq_peek hop]
    exact step_pc_of_running hmode hsp
  · intro c pad x hmode hx
    exact step_pc_of_awaiting hmode hx

/-- A console at the last address there is, whose word begins in the last place of memory, goes on
in the first, and asks for a key that no keypad has. -/
def crossing : Console CyclicWords where
  machine := { Machine.fresh with
    v := .replicate 16 0x20
    pc := 0xFFFF
    memory := ((⟨.replicate 4096 0⟩ : Memory).put 0xFFF 0xE3).put 0x000 0xA1 }
  screen := .fresh
  random := ⟨#[], 0⟩

/-- The key counts as up, so the word behind is passed over; while a key is awaited for the flag
register, none is. -/
theorem crossing_skips : crossing.machine.mode = .running ∧ crossing.machine.sp.toNat ≤ 16 ∧
    (∃ d told, crossing.step (Keypad.released.press 0) = .ok (d, told) ∧ d.machine.pc = 3) ∧
    ∃ d told,
      ({ crossing with machine := { crossing.machine with mode := .awaitingKey 15 } }).step
        (Keypad.released.press 7) = .ok (d, told) ∧ d.machine.pc = 0xFFFF := by
  have hword : (⟨0xE3A1⟩ : Opcode).word.toNat =
      256 * (crossing.machine.memory.bytes.get
          (Place.ofNat crossing.machine.pc.toNat)).toNat +
        (crossing.machine.memory.bytes.get
          (Place.ofNat (crossing.machine.pc.toNat + 1))).toNat := by
    decide +kernel
  have hall := steps_to_destination (ρ := CyclicWords)
  rcases hall.1 crossing (Keypad.released.press 0) ⟨0xE3A1⟩ rfl (by decide) hword with
    ⟨d, told, hstep, hpc⟩
  have hskip : crossing.machine.destination (Keypad.released.press 0) ⟨0xE3A1⟩ = 0x10003 := by
    decide
  rw [hskip] at hpc
  exact ⟨rfl, by decide, ⟨d, told, hstep, UInt16.toNat_inj.1 hpc⟩,
    hall.2 _ (Keypad.released.press 7) 15 rfl (by decide)⟩

end Console

end Chip8VM
