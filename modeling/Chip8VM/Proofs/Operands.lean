import Chip8VM.Console.Execution
import Chip8VM.Proofs.Results

/-!
# Operands

What the operands of an instruction may be. Every instruction that an opcode encodes names
registers below sixteen and addresses of twelve bits, and such an instruction never faults as long
as the call stack is no deeper than it can be.

* `decode_inRange`: opcodes encode no other operands.
* `Machine.operand`: the register that an operand in range names.
* `execute_succeeds`, `execute_decoded_succeeds`: when an instruction comes to an outcome.
-/

namespace Chip8VM

namespace Instruction

/-- The operands of an instruction that name registers, a range of registers by its last one. -/
def registers : Instruction → List UInt8
  | .skipEqByte x _ | .skipNeByte x _ | .loadByte x _ | .addByte x _ | .random x _
  | .shiftRight x | .shiftLeft x | .skipKeyDown x | .skipKeyUp x | .readDelay x | .awaitKey x
  | .setDelay x | .setSound x | .addIndex x | .loadGlyph x | .storeBcd x | .storeRegisters x
  | .loadRegisters x => [x]
  | .skipEqReg x y | .skipNeReg x y | .move x y | .or x y | .and x y | .xor x y | .addReg x y
  | .sub x y | .subN x y | .draw x y _ => [x, y]
  | .sys _ | .cls | .ret | .jump _ | .call _ | .loadIndex _ | .jumpOffset _ => []

/-- The operand of an instruction that is an address. -/
def address? : Instruction → Option UInt16
  | .sys addr | .jump addr | .call addr | .loadIndex addr | .jumpOffset addr => some addr
  | _ => none

/-- The operand of an instruction that is the height of a sprite. -/
def height? : Instruction → Option UInt8
  | .draw _ _ n => some n
  | _ => none

/-- The operands of an instruction are such as fit in the digits of an opcode. -/
structure InRange (ins : Instruction) : Prop where
  registers : ∀ x ∈ ins.registers, x.toNat < 16
  address : ∀ addr ∈ ins.address?, addr.toNat < 4096
  height : ∀ n ∈ ins.height?, n.toNat < 16

/-! ## Opcodes -/

theorem decodeSystem_inRange (op : Opcode) : (decodeSystem op).InRange := by
  unfold decodeSystem
  split
  · exact ⟨by simp [registers], by simp [address?], by simp [height?]⟩
  · exact ⟨by simp [registers], by simp [address?], by simp [height?]⟩
  · have ha := op.addr_lt
    exact ⟨by simp [registers], by simpa [address?] using ha, by simp [height?]⟩

theorem decodeArithmetic_inRange {x y n : UInt8} {ins : Instruction} (hx : x.toNat < 16)
    (hy : y.toNat < 16) (h : decodeArithmetic x y n = some ins) : ins.InRange := by
  unfold decodeArithmetic at h
  split at h <;> cases h <;>
    exact ⟨by simp [registers, hx, hy], by simp [address?], by simp [height?]⟩

theorem decodeKeyTest_inRange {x kk : UInt8} {ins : Instruction} (hx : x.toNat < 16)
    (h : decodeKeyTest x kk = some ins) : ins.InRange := by
  unfold decodeKeyTest at h
  split at h <;> cases h <;>
    exact ⟨by simp [registers, hx], by simp [address?], by simp [height?]⟩

theorem decodeTransfer_inRange {x kk : UInt8} {ins : Instruction} (hx : x.toNat < 16)
    (h : decodeTransfer x kk = some ins) : ins.InRange := by
  unfold decodeTransfer at h
  split at h <;> cases h <;>
    exact ⟨by simp [registers, hx], by simp [address?], by simp [height?]⟩

/-- The operands of an instruction that an opcode encodes fit in its digits. -/
theorem decode_inRange {op : Opcode} {ins : Instruction} (h : decode op = some ins) :
    ins.InRange := by
  have hx := op.x_lt
  have hy := op.y_lt
  have hn := op.n_lt
  have ha := op.addr_lt
  unfold decode at h
  split at h
  -- four of the families are decoded further by their last digits
  case h_1 =>
    cases h
    exact decodeSystem_inRange op
  case h_9 => exact decodeArithmetic_inRange hx hy h
  case h_15 => exact decodeKeyTest_inRange hx h
  case h_16 => exact decodeTransfer_inRange hx h
  all_goals
    cases h
    exact ⟨by simp [registers, hx, hy], by simp [address?, ha], by simp [height?, hn]⟩

end Instruction

/-! ## Registers -/

/-- The register that an operand names; the first one if it names none. -/
def Machine.operand (x : UInt8) : Register :=
  match register x with
  | .ok r => r
  | .error _ => first

theorem Machine.register_operand {x : UInt8} (h : x.toNat < 16) :
    register x = .ok (operand x) := by
  simp only [operand, register_of_lt h]

theorem Machine.val_of_register {x : UInt8} {r : Register} (h : register x = .ok r) :
    r.val = x.toNat := by
  unfold register at h
  split at h
  · cases h
    rfl
  · cases h

theorem Machine.val_of_rangeEnd {x : UInt8} {r : Register} (h : rangeEnd x = .ok r) :
    r.val = x.toNat := by
  unfold rangeEnd at h
  split at h
  · cases h
    rfl
  · cases h

theorem Machine.toNat_register (r : Register) : (r.val.toUInt8).toNat = r.val := by
  have hr := r.isLt
  rw [Nat.toUInt8_eq, UInt8.toNat_ofNat']
  omega

theorem Machine.toNat_register_lt (r : Register) : (r.val.toUInt8).toNat < 16 := by
  rw [toNat_register]
  exact r.isLt

theorem Machine.register_toUInt8 (r : Register) : register r.val.toUInt8 = .ok r := by
  rw [register_of_lt (toNat_register_lt r)]
  exact congrArg Except.ok (Fin.ext (toNat_register r))

theorem Machine.rangeEnd_toUInt8 (r : Register) : rangeEnd r.val.toUInt8 = .ok r := by
  rw [rangeEnd_of_lt (toNat_register_lt r)]
  exact congrArg Except.ok (Fin.ext (toNat_register r))

/-! ## Outcomes -/

namespace Console

open Machine (register rangeEnd)

theorem succeeds_register {α : Type} {x : UInt8} {f : Machine.Register → Except Fault α}
    (hx : x.toNat < 16) (hf : ∀ r, Succeeds (f r)) : Succeeds (register x >>= f) := by
  rw [Machine.register_of_lt hx]
  exact hf _

theorem succeeds_rangeEnd {α : Type} {x : UInt8} {f : Machine.Register → Except Fault α}
    (hx : x.toNat < 16) (hf : ∀ r, Succeeds (f r)) : Succeeds (rangeEnd x >>= f) := by
  rw [Machine.rangeEnd_of_lt hx]
  exact hf _

theorem call_succeeds {m : Machine} (hsp : m.sp.toNat ≤ 16) (addr : UInt16) :
    Succeeds (m.call addr) := by
  by_cases hfull : m.sp = 16
  · exact ⟨_, Machine.call_of_full hfull addr⟩
  · have hne : m.sp.toNat ≠ 16 := fun h => hfull (UInt8.toNat_inj.1 h)
    exact ⟨_, Machine.call_of_lt (by omega) addr⟩

theorem ret_succeeds {m : Machine} (hsp : m.sp.toNat ≤ 16) : Succeeds m.ret := by
  by_cases hempty : m.sp = 0
  · exact ⟨_, Machine.ret_of_empty hempty⟩
  · exact ⟨_, Machine.ret_of_le hempty (by omega)⟩

variable {ρ : Type} [WordSource ρ]

theorem execute_draw (c : Console ρ) (pad : Keypad) {x y : UInt8} {r s : Machine.Register}
    (hx : register x = .ok r) (hy : register y = .ok s) (n : UInt8) :
    c.execute pad (.draw x y n) = .ok (c.draw r s n.toNat, []) := by
  simp only [execute, hx, hy]
  rfl

/-- An instruction that names registers which exist never faults, unless the call stack is deeper
than it can be or the target of a jump with an offset is no address. -/
theorem execute_succeeds (c : Console ρ) (pad : Keypad) {ins : Instruction}
    (hreg : ∀ x ∈ ins.registers, x.toNat < 16)
    (hjump : ∀ addr, ins = .jumpOffset addr →
      (c.machine.getV Machine.first).toNat + addr.toNat < 65536)
    (hsp : c.machine.sp.toNat ≤ 16) : Succeeds (c.execute pad ins) := by
  cases ins
  case sys | cls | jump | loadIndex => exact ⟨_, rfl⟩
  case ret =>
    obtain ⟨r, hr⟩ := ret_succeeds hsp
    simp only [execute, hr]
    exact ⟨_, rfl⟩
  case call addr =>
    obtain ⟨r, hr⟩ := call_succeeds hsp addr
    simp only [execute, hr]
    exact ⟨_, rfl⟩
  case jumpOffset addr =>
    simp only [execute, Machine.jumpOffset_of_lt (hjump addr rfl)]
    exact ⟨_, rfl⟩
  case awaitKey x =>
    have hx : x.toNat < 16 := hreg x (by simp [Instruction.registers])
    simp only [execute, awaitKey]
    cases pad.firstPressed with
    | none => exact ⟨_, rfl⟩
    | some key =>
      rw [Machine.register_of_lt hx]
      exact ⟨_, rfl⟩
  case addReg x y =>
    apply succeeds_register (hreg x (by simp [Instruction.registers]))
    intro r
    apply succeeds_register (hreg y (by simp [Instruction.registers]))
    intro s
    rw [Machine.addRegister_eq]
    exact ⟨_, rfl⟩
  case loadGlyph x =>
    apply succeeds_register (hreg x (by simp [Instruction.registers]))
    intro r
    rw [Machine.pointAtGlyph_eq]
    exact ⟨_, rfl⟩
  case storeRegisters x | loadRegisters x =>
    exact succeeds_rangeEnd (hreg x (by simp [Instruction.registers])) fun _ => ⟨_, rfl⟩
  -- the remaining instructions read their registers and then cannot fail
  case skipEqReg x y | sub x y | subN x y | skipNeReg x y | draw x y n =>
    exact succeeds_register (hreg x (by simp [Instruction.registers])) fun _ =>
      succeeds_register (hreg y (by simp [Instruction.registers])) fun _ => ⟨_, rfl⟩
  case move x y | or x y | and x y | xor x y =>
    exact succeeds_register (hreg y (by simp [Instruction.registers])) fun _ =>
      succeeds_register (hreg x (by simp [Instruction.registers])) fun _ => ⟨_, rfl⟩
  case skipEqByte x kk | skipNeByte x kk | loadByte x kk | addByte x kk | random x kk =>
    exact succeeds_register (hreg x (by simp [Instruction.registers])) fun _ => ⟨_, rfl⟩
  case shiftRight x | shiftLeft x | skipKeyDown x | skipKeyUp x | readDelay x | setDelay x |
      setSound x | addIndex x | storeBcd x =>
    exact succeeds_register (hreg x (by simp [Instruction.registers])) fun _ => ⟨_, rfl⟩

/-- An instruction that an opcode encodes never faults, unless the call stack is deeper than it can
be. -/
theorem execute_decoded_succeeds (c : Console ρ) (pad : Keypad) {op : Opcode} {ins : Instruction}
    (hdecode : Instruction.decode op = some ins) (hsp : c.machine.sp.toNat ≤ 16) :
    Succeeds (c.execute pad ins) := by
  have hins := Instruction.decode_inRange hdecode
  apply execute_succeeds c pad hins.registers _ hsp
  rintro addr rfl
  have hv := (c.machine.getV Machine.first).toNat_lt
  have haddr := hins.address addr rfl
  omega

end Console

end Chip8VM
