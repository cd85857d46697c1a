import Chip8VM.Proofs.Operands
import Chip8VM.Proofs.Stepping

/-!
# Faults

Which instructions fault, and how. An instruction built by hand may name a register that does not
exist, and in a state built by hand the call stack may be deeper than its slots. Nothing else can
go wrong, but for a jump whose target is no address.

* `faultOf?`: the fault that a computation comes to, if it does.
* `Machine.fault?`: the fault of an instruction, told from its operands, the keys and the depth of
  the call stack; `faultOf?_execute` says that it is this one.
* `execute_faults_iff`: which instructions fault and at which index, and which steps that wait.
-/

namespace Chip8VM

/-! ## Computations that fault -/

section

variable {α β : Type}

/-- The fault that a computation comes to, if it does. -/
def faultOf? : Except Fault α → Option Fault
  | .ok _ => none
  | .error fault => some fault

theorem faultOf?_eq_some_iff {r : Except Fault α} {fault : Fault} :
    faultOf? r = some fault ↔ r = .error fault := by
  cases r <;> simp [faultOf?]

theorem succeeds_of_faultOf? {r : Except Fault α} (h : faultOf? r = none) : Succeeds r := by
  cases r with
  | ok a => exact ⟨a, rfl⟩
  | error fault => cases h

theorem faultOf?_bind {r : Except Fault α} {next : α → Except Fault β} {later : Option Fault}
    (h : ∀ a, faultOf? (next a) = later) : faultOf? (r >>= next) = (faultOf? r).or later := by
  cases r with
  | ok a => exact h a
  | error fault => rfl

/-- What cannot fault itself faults like the computation before it. -/
theorem faultOf?_bind_of_succeeds {r : Except Fault α} {next : α → Except Fault β}
    (h : ∀ a, Succeeds (next a)) : faultOf? (r >>= next) = faultOf? r := by
  have hnone : ∀ a, faultOf? (next a) = none := by
    intro a
    rcases h a with ⟨b, hb⟩
    rw [hb]
    rfl
  rw [faultOf?_bind hnone, Option.or_none]

end

/-! ## What is reached for -/

/-- The fault of an operand that names no register. -/
def Machine.missing? (x : UInt8) : Option Fault :=
  if 15 < x.toNat then some (.noRegister x.toNat) else none

theorem Machine.missing?_eq_some_iff {x : UInt8} {fault : Fault} :
    missing? x = some fault ↔ 15 < x.toNat ∧ fault = .noRegister x.toNat := by
  unfold missing?
  split
  · rename_i hlarge
    simp [hlarge, eq_comm]
  · rename_i hsmall
    simp [hsmall]

/-- The operands of an instruction that name registers, in the order in which these are needed. -/
def Instruction.needed : Instruction → List UInt8
  | .move x y | .or x y | .and x y | .xor x y => [y, x]
  | ins => ins.registers

theorem Instruction.mem_needed {ins : Instruction} {x : UInt8} :
    x ∈ ins.needed ↔ x ∈ ins.registers := by
  cases ins <;> simp [needed, registers, or_comm]

/-- The fault of an instruction, if it comes to one. Of two operands that name no register the one
that is needed first is reported; a range of registers runs into the first one that is missing. -/
def Machine.fault? (m : Machine) (pad : Keypad) (ins : Instruction) : Option Fault :=
  match ins with
  | .ret => if 16 < m.sp.toNat then some (.noStackSlot (m.sp.toNat - 1)) else none
  | .call _ => if 16 < m.sp.toNat then some (.noStackSlot m.sp.toNat) else none
  | .jumpOffset addr =>
    if (m.getV first).toNat + addr.toNat < 65536 then none else some (.overflow .add)
  | .awaitKey x => if pad.firstPressed = none then none else missing? x
  | .storeRegisters x | .loadRegisters x =>
    if 15 < x.toNat then some (.noRegister 16) else none
  | ins => ins.needed.findSome? missing?

namespace Machine

theorem faultOf?_register (x : UInt8) : faultOf? (register x) = missing? x := by
  unfold register missing?
  split
  · rw [if_neg (by omega)]
    rfl
  · rw [if_pos (by omega)]
    rfl

theorem faultOf?_rangeEnd (x : UInt8) :
    faultOf? (rangeEnd x) = if 15 < x.toNat then some (.noRegister 16) else none := by
  unfold rangeEnd
  split
  · rw [if_neg (by omega)]
    rfl
  · rw [if_pos (by omega)]
    rfl

/-- A call faults if the call stack is too deep for it to be refused. -/
theorem faultOf?_call (m : Machine) (addr : UInt16) : faultOf? (m.call addr) =
    if 16 < m.sp.toNat then some (.noStackSlot m.sp.toNat) else none := by
  by_cases hsp : m.sp.toNat ≤ 16
  · rw [if_neg (by omega)]
    rcases Console.call_succeeds hsp addr with ⟨r, hr⟩
    rw [hr]
    rfl
  · have hne : m.sp ≠ 16 := by
      intro hfull
      rw [hfull] at hsp
      exact hsp (by decide)
    have hslot : stackSlot m.sp.toNat = .error (.noStackSlot m.sp.toNat) := dif_neg (by omega)
    rw [if_pos (by omega)]
    unfold call
    rw [if_neg hne, hslot]
    rfl

/-- A return faults if there is no slot below the top of the call stack. -/
theorem faultOf?_ret (m : Machine) : faultOf? m.ret =
    if 16 < m.sp.toNat then some (.noStackSlot (m.sp.toNat - 1)) else none := by
  by_cases hsp : m.sp.toNat ≤ 16
  · rw [if_neg (by omega)]
    rcases Console.ret_succeeds hsp with ⟨r, hr⟩
    rw [hr]
    rfl
  · have hne : m.sp ≠ 0 := by
      intro hempty
      rw [hempty] at hsp
      exact hsp (by decide)
    have hlt := m.sp.toNat_lt
    have htop : ((m.sp.toNat - 1 : Int)).toNat.toUInt8.toNat = m.sp.toNat - 1 := by
      rw [Nat.toUInt8_eq, UInt8.toNat_ofNat']
      omega
    have hslot : stackSlot (m.sp.toNat - 1) = .error (.noStackSlot (m.sp.toNat - 1)) :=
      dif_neg (by omega)
    rw [if_pos (by omega)]
    unfold ret
    rw [if_neg hne, Arithmetic.toByte_of_mem _ (by omega)]
    show faultOf? (stackSlot _ >>= _) = _
    rw [htop, hslot]
    rfl

theorem faultOf?_jumpOffset (m : Machine) (addr : UInt16) : faultOf? (m.jumpOffset addr) =
    if (m.getV first).toNat + addr.toNat < 65536 then none else some (.overflow .add) := by
  split
  · rename_i hlt
    rw [jumpOffset_of_lt hlt]
    rfl
  · rename_i hover
    unfold jumpOffset Arithmetic.toWord
    rw [if_neg hover]
    rfl

end Machine

/-! ## Instructions -/

namespace Console

open Machine (register rangeEnd)

variable {ρ : Type}

theorem faultOf?_bind_register {α : Type} {x : UInt8} {f : Machine.Register → Except Fault α}
    (h : ∀ r, Succeeds (f r)) : faultOf? (register x >>= f) = [x].findSome? Machine.missing? := by
  rw [faultOf?_bind_of_succeeds h, Machine.faultOf?_register]
  cases hx : Machine.missing? x <;> simp [hx]

theorem faultOf?_bind_registers {α : Type} {x y : UInt8}
    {f : Machine.Register → Machine.Register → Except Fault α} (h : ∀ r s, Succeeds (f r s)) :
    faultOf? (register x >>= fun r => register y >>= f r) =
      [x, y].findSome? Machine.missing? := by
  have hsecond : ∀ r, faultOf? (register y >>= f r) = [y].findSome? Machine.missing? := by
    intro r
    exact faultOf?_bind_register (h r)
  rw [faultOf?_bind hsecond, Machine.faultOf?_register]
  cases hx : Machine.missing? x <;> simp [hx]

theorem faultOf?_awaitKey (c : Console ρ) (pad : Keypad) (x : UInt8) :
    faultOf? (c.awaitKey pad x) =
      if pad.firstPressed = none then none else Machine.missing? x := by
  unfold awaitKey
  cases pad.firstPressed with
  | none => rfl
  | some key =>
    rw [if_neg (by simp), ← Machine.faultOf?_register]
    exact faultOf?_bind_of_succeeds fun _ => ⟨_, rfl⟩

variable [WordSource ρ]

/-- An instruction comes to the fault that its operands, the keys and the depth of the call stack
tell, and to no other. -/
theorem faultOf?_execute (c : Console ρ) (pad : Keypad) (ins : Instruction) :
    faultOf? (c.execute pad ins) = c.machine.fault? pad ins := by
  cases ins
  case sys | cls | jump | loadIndex => rfl
  case ret =>
    rw [Machine.fault?, ← Machine.faultOf?_ret]
    exact faultOf?_bind_of_succeeds fun _ => ⟨_, rfl⟩
  case call addr =>
    rw [Machine.fault?, ← Machine.faultOf?_call _ addr]
    exact faultOf?_bind_of_succeeds fun _ => ⟨_, rfl⟩
  case jumpOffset addr =>
    rw [Machine.fault?, ← Machine.faultOf?_jumpOffset]
    exact faultOf?_bind_of_succeeds fun _ => ⟨_, rfl⟩
  case awaitKey x =>
    rw [Machine.fault?, ← faultOf?_awaitKey c]
    exact faultOf?_bind_of_succeeds fun _ => ⟨_, rfl⟩
  case storeRegisters x | loadRegisters x =>
    rw [Machine.fault?, ← Machine.faultOf?_rangeEnd]
    exact faultOf?_bind_of_succeeds fun _ => ⟨_, rfl⟩
  -- sums of registers and glyphs are checked, but always fit
  case addReg x y =>
    refine faultOf?_bind_registers fun r s => ?_
    rw [Machine.addRegister_eq]
    exact ⟨_, rfl⟩
  case loadGlyph x =>
    refine faultOf?_bind_register fun r => ?_
    rw [Machine.pointAtGlyph_eq]
    exact ⟨_, rfl⟩
  -- the others look up their registers and then cannot fault
  case skipEqReg x y | sub x y | subN x y | skipNeReg x y | draw x y n | move x y | or x y |
      and x y | xor x y =>
    exact faultOf?_bind_registers fun _ _ => ⟨_, rfl⟩
  case skipEqByte x kk | skipNeByte x kk | loadByte x kk | addByte x kk | random x kk |
      shiftRight x | shiftLeft x | skipKeyDown x | skipKeyUp x | readDelay x | setDelay x |
      setSound x | addIndex x | storeBcd x =>
    exact faultOf?_bind_register fun _ => ⟨_, rfl⟩

end Console

/-! ## Overreaching -/

/-- An instruction reaches for a register or for a slot of the call stack that does not exist. A
wait for a key reaches for its register only when there is a key to be stored. -/
def Machine.Overreaches (m : Machine) (pad : Keypad) (ins : Instruction) : Prop :=
  (∃ x ∈ ins.registers, 15 < x.toNat) ∧
      ¬ ((∃ x, ins = .awaitKey x) ∧ ∀ key, pad.isDown key = false) ∨
    (∃ addr, ins = .call addr) ∧ 16 < m.sp.toNat ∨
    ins = .ret ∧ 16 < m.sp.toNat

/-- A fault tells of an index at which there is nothing. -/
def Fault.TellsIndex (fault : Fault) (index : Nat) : Prop :=
  fault.message = "index out of bounds: the len is 16 but the index is " ++ toString index

/-- The indices at which an instruction that overreaches may be reported. -/
def Machine.Reports (m : Machine) (ins : Instruction) (index : Nat) : Prop :=
  match ins with
  | .storeRegisters _ | .loadRegisters _ => index = 16
  | .call _ => index = m.sp.toNat
  | .ret => index = m.sp.toNat - 1
  | ins => ∃ x ∈ ins.registers, 15 < x.toNat ∧ index = x.toNat

namespace Machine

variable {m : Machine} {pad : Keypad} {ins : Instruction}

theorem exists_findSome?_needed :
    (∃ fault, ins.needed.findSome? missing? = some fault) ↔ ∃ x ∈ ins.registers, 15 < x.toNat := by
  rw [← Option.isSome_iff_exists, List.findSome?_isSome_iff]
  constructor
  · rintro ⟨x, hx, hmissing⟩
    rcases Option.isSome_iff_exists.1 hmissing with ⟨fault, hfault⟩
    exact ⟨x, Instruction.mem_needed.1 hx, (missing?_eq_some_iff.1 hfault).1⟩
  · rintro ⟨x, hx, hlarge⟩
    refine ⟨x, Instruction.mem_needed.2 hx, Option.isSome_iff_exists.2 ⟨.noRegister x.toNat, ?_⟩⟩
    exact missing?_eq_some_iff.2 ⟨hlarge, rfl⟩

/-- An instruction faults exactly if it overreaches, a jump to no address apart. -/
theorem exists_fault?_iff
    (hjump : ∀ addr, ins = .jumpOffset addr → (m.getV first).toNat + addr.toNat ≤ 65535) :
    (∃ fault, m.fault? pad ins = some fault) ↔ m.Overreaches pad ins := by
  cases ins
  case ret | call =>
    simp [fault?, Overreaches, Instruction.registers]
  case jumpOffset addr =>
    have hlt := hjump addr rfl
    rw [fault?, if_pos (by omega)]
    simp [Overreaches, Instruction.registers]
  case awaitKey x =>
    by_cases hpad : pad.firstPressed = none
    · have hup := Keypad.firstPressed_eq_none_iff.1 hpad
      simp [fault?, Overreaches, hpad, hup]
    · have hdown : ¬ ∀ key, pad.isDown key = false :=
        fun hup => hpad (Keypad.firstPressed_eq_none_iff.2 hup)
      simp only [fault?, if_neg hpad, missing?_eq_some_iff, Overreaches, hdown]
      simp [Instruction.registers]
  case storeRegisters x | loadRegisters x =>
    simp [fault?, Overreaches, Instruction.registers]
  -- the others reach for nothing but their registers
  all_goals
    simp only [fault?, exists_findSome?_needed]
    simp [Overreaches]

theorem reports_of_findSome?_needed {fault : Fault}
    (h : ins.needed.findSome? missing? = some fault) :
    ∃ index, fault.TellsIndex index ∧
      ∃ x ∈ ins.registers, 15 < x.toNat ∧ index = x.toNat := by
  rcases List.exists_of_findSome?_eq_some h with ⟨x, hx, hmissing⟩
  rcases missing?_eq_some_iff.1 hmissing with ⟨hlarge, rfl⟩
  exact ⟨x.toNat, rfl, x, Instruction.mem_needed.1 hx, hlarge, rfl⟩

/-- The fault of an instruction tells the index that it reached for. -/
theorem reports_of_fault? {fault : Fault}
    (hjump : ∀ addr, ins = .jumpOffset addr → (m.getV first).toNat + addr.toNat ≤ 65535)
    (h : m.fault? pad ins = some fault) :
    ∃ index, fault.TellsIndex index ∧ m.Reports ins index := by
  cases ins <;> simp only [fault?] at h
  case ret | call | storeRegisters | loadRegisters =>
    split at h
    · cases h
      exact ⟨_, rfl, rfl⟩
    · cases h
  case jumpOffset addr =>
    have hlt := hjump addr rfl
    rw [if_pos (by omega)] at h
    cases h
  case awaitKey x =>
    split at h
    · cases h
    · rcases missing?_eq_some_iff.1 h with ⟨hlarge, rfl⟩
      exact ⟨x.toNat, rfl, x, by simp [Instruction.registers], hlarge, rfl⟩
  all_goals exact reports_of_findSome?_needed h

end Machine

namespace Console

variable {ρ : Type} [WordSource ρ]

/-- While no key is down a wait begins for any register, whether or not it exists. -/
theorem execute_awaitKey_of_up (c : Console ρ) {pad : Keypad}
    (hpad : ∀ key, pad.isDown key = false) (x : UInt8) : c.execute pad (.awaitKey x) =
      .ok ({ c with machine := { c.machine with mode := .awaitingKey x } }, []) := by
  simp only [execute, awaitKey, Keypad.firstPressed_eq_none_iff.2 hpad]
  rfl

/-- A step that waits faults if it has a key and no register for it. -/
theorem faultOf?_step_of_awaiting {c : Console ρ} {x : UInt8}
    (hmode : c.machine.mode = .awaitingKey x) (pad : Keypad) : faultOf? (c.step pad) =
      if pad.firstPressed = none then none else Machine.missing? x := by
  rw [step_of_awaiting hmode]
  unfold continueWait
  cases pad.firstPressed with
  | none => rfl
  | some key =>
    rw [if_neg (by simp), ← Machine.faultOf?_register]
    exact faultOf?_bind_of_succeeds fun _ => ⟨_, rfl⟩

theorem step_of_awaiting_eq_error_iff {c : Console ρ} {x : UInt8}
    (hmode : c.machine.mode = .awaitingKey x) {pad : Keypad} {fault : Fault} :
    c.step pad = .error fault ↔
      (15 < x.toNat ∧ ∃ key, pad.isDown key = true) ∧ fault = .noRegister x.toNat := by
  rw [← faultOf?_eq_some_iff, faultOf?_step_of_awaiting hmode]
  by_cases hpad : pad.firstPressed = none
  · have hup := Keypad.firstPressed_eq_none_iff.1 hpad
    simp [hpad, hup]
  · have hdown : ∃ key, pad.isDown key = true := by
      simpa [Keypad.firstPressed_eq_none_iff] using hpad
    rw [if_neg hpad, Machine.missing?_eq_some_iff]
    simp [hdown]

/-- The instructions that fault, from any state at all and with any operands. They are those that
name a register above fifteen, a wait for a key apart as long as no key is down, and the calls and
returns with a call stack deeper than sixteen. The index that is reported is sixteen for a range of
registers, the depth for a call, one less for a return, and otherwise an operand above fifteen; and
every other instruction comes to an outcome. A jump with an offset is only spoken of if its target
is an address. A step that waits for a key faults exactly if there is a key and the register that it
waits for is above fifteen, which is the index that is reported. -/
theorem execute_faults_iff :
    (∀ (c : Console ρ) (pad : Keypad) (ins : Instruction),
      (∀ addr, ins = .jumpOffset addr →
        (c.machine.getV Machine.first).toNat + addr.toNat ≤ 65535) →
      ((∃ fault, c.execute pad ins = .error fault) ↔ c.machine.Overreaches pad ins) ∧
      (∀ fault, c.execute pad ins = .error fault →
        ∃ index, fault.TellsIndex index ∧ c.machine.Reports ins index) ∧
      (¬ c.machine.Overreaches pad ins → ∃ d told, c.execute pad ins = .ok (d, told))) ∧
    (∀ (c : Console ρ) (pad : Keypad) (x : UInt8), (∀ key, pad.isDown key = false) →
      c.execute pad (.awaitKey x) =
        .ok ({ c with machine := { c.machine with mode := .awaitingKey x } }, [])) ∧
    ∀ (c : Console ρ) (pad : Keypad) (x : UInt8), c.machine.mode = .awaitingKey x →
      ((∃ fault, c.step pad = .error fault) ↔
        15 < x.toNat ∧ ∃ key, pad.isDown key = true) ∧
      (∀ fault, c.step pad = .error fault → fault.TellsIndex x.toNat) ∧
      (¬ (15 < x.toNat ∧ ∃ key, pad.isDown key = true) →
        ∃ d told, c.step pad = .ok (d, told)) := by
  refine ⟨?_, fun c pad x hpad => c.execute_awaitKey_of_up hpad x, ?_⟩
  · intro c pad ins hjump
    have hfault := c.faultOf?_execute pad ins
    have hiff : (∃ fault, c.machine.fault? pad ins = some fault) ↔ c.machine.Overreaches pad ins :=
      Machine.exists_fault?_iff hjump
    refine ⟨?_, ?_, ?_⟩
    · rw [← hiff, ← hfault]
      simp only [faultOf?_eq_some_iff]
    · intro fault herror
      rw [← faultOf?_eq_some_iff, hfault] at herror
      exact Machine.reports_of_fault? hjump herror
    · intro hnot
      rw [← hiff, ← hfault, not_exists, ← Option.eq_none_iff_forall_ne_some] at hnot
      rcases succeeds_of_faultOf? hnot with ⟨⟨d, told⟩, hexec⟩
      exact ⟨d, told, hexec⟩
  · intro c pad x hmode
    refine ⟨?_, ?_, ?_⟩
    · simp only [step_of_awaiting_eq_error_iff hmode, exists_and_left, exists_eq, and_true]
    · intro fault herror
      rw [(step_of_awaiting_eq_error_iff hmode).1 herror |>.2]
      rfl
    · intro hnot
      cases hstep : c.step pad with
      | ok r => exact ⟨r.1, r.2, rfl⟩
      | error fault => exact absurd ((step_of_awaiting_eq_error_iff hmode).1 hstep).1 hnot

/-- A console put together by hand: its call stack is one deeper than it can be, and it waits for a
key for a register that does not exist. -/
def mishandled : Console CyclicWords where
  machine := { Machine.fresh with
    v := Vector.replicate 16 0xFF
    sp := 17
    mode := .awaitingKey 16 }
  screen := .fresh
  random := ⟨#[], 0⟩

/-- A sprite of no rows at a register that does not exist faults, as do a return and the step that
takes the key; a jump to the last address there is does not. -/
theorem mishandled_faults :
    (∃ fault, mishandled.execute .released (.draw 2 16 0) = .error fault ∧
      fault.message = "index out of bounds: the len is 16 but the index is 16") ∧
    (∃ fault, mishandled.execute .released .ret = .error fault) ∧
    (∃ d told, mishandled.execute .released (.jumpOffset 0xFF00) = .ok (d, told)) ∧
    ∃ fault, mishandled.step (Keypad.released.press 7) = .error fault := by
  rcases execute_faults_iff (ρ := CyclicWords) with ⟨hexec, -, hstep⟩
  rcases hexec mishandled .released (.draw 2 16 0) (by intro addr h; cases h) with
    ⟨hdraw, hindex, -⟩
  rcases hexec mishandled .released .ret (by intro addr h; cases h) with ⟨hret, -, -⟩
  have htarget : ∀ addr, Instruction.jumpOffset 0xFF00 = .jumpOffset addr →
      (mishandled.machine.getV Machine.first).toNat + addr.toNat ≤ 65535 := by
    intro addr h
    cases h
    decide
  rcases hexec mishandled .released (.jumpOffset 0xFF00) htarget with ⟨-, -, hjump⟩
  have hmissing : mishandled.machine.Overreaches .released (.draw 2 16 0) :=
    .inl ⟨⟨16, by decide, by decide⟩, by simp⟩
  rcases hdraw.2 hmissing with ⟨fault, herror⟩
  rcases hindex fault herror with ⟨index, hmessage, x, hx, hlarge, rfl⟩
  have hsixteen : x = 16 := by
    rcases List.mem_cons.1 hx with rfl | hx
    · exact absurd hlarge (by decide)
    · exact List.mem_singleton.1 hx
  rw [hsixteen] at hmessage
  refine ⟨⟨fault, herror, hmessage⟩, hret.2 (.inr (.inr ⟨rfl, by decide⟩)), hjump ?_, ?_⟩
  · simp [Machine.Overreaches, Instruction.registers]
  · exact (hstep mishandled (Keypad.released.press 7) 16 rfl).1.2 ⟨by decide, 7, by decide⟩

end Console

end Chip8VM
