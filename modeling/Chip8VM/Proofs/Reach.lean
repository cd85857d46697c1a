import Chip8VM.Proofs.Formats
import Chip8VM.Proofs.Indifference
import Chip8VM.Proofs.RegisterBlocks
import Chip8VM.Proofs.Safety

/-!
# Reach

What a step can reach, by the digits of the word that it fetches. The program counter, the opcode
that is kept and the two timers change in every step; every other part of a console changes only
where the digits say so, and few words depend on the keys, the pixels or the random words.

* `Instruction.Writes`, `execute_registers`: the registers that an instruction may change.
* `Reach`: the parts of a console by the words that may change them.
* `step_reach`: a step changes nothing out of its reach.
* `step_within_reach`: the same for all steps, with what they do not depend on.
-/

namespace Chip8VM

/-! ## Registers -/

/-- An instruction may change a register. -/
def Instruction.Writes (r : Machine.Register) : Instruction → Prop
  | .loadByte x _ | .addByte x _ | .move x _ | .or x _ | .and x _ | .xor x _ | .random x _
  | .readDelay x | .awaitKey x => r.val = x.toNat
  | .addReg x _ | .sub x _ | .subN x _ | .shiftRight x | .shiftLeft x =>
    r.val = x.toNat ∨ r = Machine.flag
  | .draw .. => r = Machine.flag
  | .loadRegisters x => r.val ≤ x.toNat
  | _ => False

namespace Machine

theorem ne_of_register {x : UInt8} {r s : Register} (hs : register x = .ok s)
    (hr : r.val ≠ x.toNat) : s ≠ r := by
  rintro rfl
  exact hr (val_of_register hs)

theorem getV_setV_of_ne {m : Machine} {x r : Register} (h : x ≠ r) (value : UInt8) :
    (m.setV x value).getV r = m.getV r := by
  rw [getV_setV, if_neg h]

theorem getV_setFlagged_of_ne {m : Machine} {x r : Register} (hx : x ≠ r) (hflag : r ≠ flag)
    (value flagValue : UInt8) : (m.setFlagged x value flagValue).getV r = m.getV r := by
  rw [getV_setFlagged, if_neg hx, if_neg (Ne.symm hflag)]

end Machine

namespace Console

variable {ρ : Type}

theorem awaitKey_registers {c d : Console ρ} {pad : Keypad} {x : UInt8}
    (h : c.awaitKey pad x = .ok d) {r : Machine.Register} (hr : r.val ≠ x.toNat) :
    d.machine.getV r = c.machine.getV r := by
  unfold awaitKey at h
  split at h
  · simp only [bind_eq_ok, pure_eq_ok] at h
    obtain ⟨s, hs, rfl⟩ := h
    exact Machine.getV_setV_of_ne (Machine.ne_of_register hs hr) _
  · simp only [pure_eq_ok] at h
    subst h
    rfl

variable [WordSource ρ]

/-- Executing an instruction keeps every register that the instruction does not write. -/
theorem execute_registers {c d : Console ρ} {pad : Keypad} {ins : Instruction}
    {events : List Event} (h : c.execute pad ins = .ok (d, events)) {r : Machine.Register}
    (hr : ¬ ins.Writes r) : d.machine.getV r = c.machine.getV r := by
  cases ins <;>
    simp only [execute, bind_eq_ok, pure_eq_ok, become, becomeWith, Machine.skipIf_eq,
      Machine.addRegister_eq, Machine.pointAtGlyph_eq, Except.ok.injEq, Prod.mk.injEq] at h <;>
    simp only [Instruction.Writes, not_or] at hr
  -- most instructions write no register
  case sys | cls | jump | loadIndex =>
    obtain ⟨rfl, -⟩ := h
    rfl
  case call =>
    obtain ⟨⟨m, _⟩, hm, rfl, -⟩ := h
    obtain ⟨sp, stack, pc, rfl⟩ := call_keeps hm
    rfl
  case ret =>
    obtain ⟨⟨m, _⟩, hm, rfl, -⟩ := h
    obtain ⟨sp, pc, rfl⟩ := ret_keeps hm
    rfl
  case jumpOffset =>
    simp only [Machine.jumpOffset, bind_eq_ok, pure_eq_ok] at h
    obtain ⟨m, ⟨target, -, rfl⟩, rfl, -⟩ := h
    rfl
  case skipEqReg | skipNeReg =>
    obtain ⟨s, -, t, -, rfl, -⟩ := h
    rfl
  case skipEqByte | skipNeByte | skipKeyDown | skipKeyUp | setDelay | setSound | addIndex |
      storeBcd | storeRegisters =>
    obtain ⟨s, -, rfl, -⟩ := h
    rfl
  case loadGlyph =>
    obtain ⟨s, -, m, rfl, rfl, -⟩ := h
    rfl
  -- these write the register that their first operand names
  case loadByte | addByte | readDelay =>
    obtain ⟨s, hs, rfl, -⟩ := h
    exact Machine.getV_setV_of_ne (Machine.ne_of_register hs hr) _
  case random =>
    obtain ⟨s, hs, rfl, -⟩ := h
    exact Machine.getV_setV_of_ne (Machine.ne_of_register hs hr) _
  case move | or | and | xor =>
    obtain ⟨t, -, s, hs, rfl, -⟩ := h
    exact Machine.getV_setV_of_ne (Machine.ne_of_register hs hr) _
  case awaitKey =>
    obtain ⟨e, he, rfl, -⟩ := h
    exact awaitKey_registers he hr
  -- these write the flag, most of them beside a register
  case addReg =>
    obtain ⟨s, hs, t, -, m, rfl, rfl, -⟩ := h
    exact Machine.getV_setFlagged_of_ne (Machine.ne_of_register hs hr.1) hr.2 _ _
  case sub | subN =>
    obtain ⟨s, hs, t, -, rfl, -⟩ := h
    exact Machine.getV_setFlagged_of_ne (Machine.ne_of_register hs hr.1) hr.2 _ _
  case shiftRight | shiftLeft =>
    obtain ⟨s, hs, rfl, -⟩ := h
    exact Machine.getV_setFlagged_of_ne (Machine.ne_of_register hs hr.1) hr.2 _ _
  case draw =>
    obtain ⟨s, -, t, -, rfl, -⟩ := h
    exact Machine.getV_setV_of_ne (Ne.symm hr) _
  -- this one writes all registers up to one
  case loadRegisters =>
    obtain ⟨last, hlast, rfl, -⟩ := h
    have hlt : last < r := by
      have hval := Machine.val_of_rangeEnd hlast
      exact Fin.lt_def.2 (by omega)
    exact (c.machine.getV_loadRegisters last r).trans (if_neg (Fin.not_le.2 hlt))

end Console

/-! ## Digits -/

namespace Opcode

/-- A word may change a part of a console. -/
def Reaches (op : Opcode) : Part → Prop
  | .callStack => op.family = 0x2 ∨ op.word = 0x00EE
  | .mode => op.family = 0xF ∧ op.kk = 0x0A
  | .index => op.family = 0xA ∨ op.family = 0xF ∧ (op.kk = 0x1E ∨ op.kk = 0x29)
  | .delay => op.family = 0xF ∧ op.kk = 0x15
  | .sound => op.family = 0xF ∧ op.kk = 0x18
  | .memory => op.family = 0xF ∧ (op.kk = 0x33 ∨ op.kk = 0x55)
  | .screen => op.word = 0x00E0 ∨ op.family = 0xD
  | .random => op.family = 0xC

/-- A word may change a register. -/
def Writes (op : Opcode) (r : Machine.Register) : Prop :=
  r.val = op.x.toNat ∧ (op.family = 0x6 ∨ op.family = 0x7 ∨ op.family = 0x8 ∨ op.family = 0xC ∨
    op.family = 0xF ∧ (op.kk = 0x07 ∨ op.kk = 0x0A)) ∨
  r.val = 0xF ∧ (op.family = 0xD ∨
    op.family = 0x8 ∧ (op.n = 0x4 ∨ op.n = 0x5 ∨ op.n = 0x6 ∨ op.n = 0x7 ∨ op.n = 0xE)) ∨
  r.val ≤ op.x.toNat ∧ op.family = 0xF ∧ op.kk = 0x65

/-- A word may change the byte that is `k` places behind the index register. -/
def Stores (op : Opcode) (k : Nat) : Prop :=
  op.family = 0xF ∧ (op.kk = 0x33 ∧ k < 3 ∨ op.kk = 0x55 ∧ k ≤ op.x.toNat)

/-- A word makes a step that asks which keys are down. -/
def AsksKeypad (op : Opcode) : Prop :=
  op.family = 0xE ∧ (op.kk = 0x9E ∨ op.kk = 0xA1) ∨ op.family = 0xF ∧ op.kk = 0x0A

/-- A word is one of the machine routines, of which there are none. -/
def IsRoutine (op : Opcode) : Prop :=
  op.family = 0x0 ∧ op.word ≠ 0x00E0 ∧ op.word ≠ 0x00EE

end Opcode

namespace Instruction

variable {op : Opcode} {ins : Instruction}

theorem reaches_of_touches (h : ins.HasFormat op) {part : Part} (ht : ins.touches = some part) :
    op.Reaches part := by
  cases ins <;> cases ht <;> simp only [HasFormat] at h <;> simp [Opcode.Reaches, h]

theorem writes_of_writes (h : ins.HasFormat op) {r : Machine.Register} (hr : ins.Writes r) :
    op.Writes r := by
  cases ins
  -- a register that is an operand
  case loadByte | addByte | random =>
    rcases h with ⟨hfamily, rfl, rfl⟩
    exact .inl ⟨hr, by simp [hfamily]⟩
  case move | or | and | xor =>
    rcases h with ⟨hfamily, hn, rfl, rfl⟩
    exact .inl ⟨hr, by simp [hfamily]⟩
  case readDelay | awaitKey =>
    rcases h with ⟨hfamily, hkk, rfl⟩
    exact .inl ⟨hr, by simp [hfamily, hkk]⟩
  -- such a register or the flag
  case addReg | sub | subN =>
    rcases h with ⟨hfamily, hn, rfl, rfl⟩
    rcases hr with hr | rfl
    · exact .inl ⟨hr, by simp [hfamily]⟩
    · exact .inr (.inl ⟨rfl, .inr ⟨hfamily, by simp [hn]⟩⟩)
  case shiftRight | shiftLeft =>
    rcases h with ⟨hfamily, hn, rfl⟩
    rcases hr with hr | rfl
    · exact .inl ⟨hr, by simp [hfamily]⟩
    · exact .inr (.inl ⟨rfl, .inr ⟨hfamily, by simp [hn]⟩⟩)
  case draw =>
    rcases h with ⟨hfamily, rfl, rfl, rfl⟩
    rcases hr with rfl
    exact .inr (.inl ⟨rfl, .inl hfamily⟩)
  case loadRegisters =>
    rcases h with ⟨hfamily, hkk, rfl⟩
    exact .inr (.inr ⟨hr, hfamily, hkk⟩)
  -- no register at all
  all_goals exact hr.elim

theorem stores_of_lt_storeCount (h : ins.HasFormat op) {k : Nat} (hk : k < ins.storeCount) :
    op.Stores k := by
  cases ins <;> simp only [storeCount, Nat.not_lt_zero] at hk
  case storeBcd x => exact ⟨h.1, .inl ⟨h.2.1, hk⟩⟩
  case storeRegisters x =>
    rcases h with ⟨hfamily, hkk, rfl⟩
    exact ⟨hfamily, .inr ⟨hkk, by omega⟩⟩

theorem asksKeypad_eq_false (h : ins.HasFormat op) (hop : ¬ op.AsksKeypad) :
    ins.asksKeypad = false := by
  cases ins <;> simp only [HasFormat] at h <;> simp_all [Opcode.AsksKeypad, asksKeypad]

end Instruction

/-! ## Steps -/

namespace Console

variable {ρ : Type}

/-- What an outcome tells apart from the source of random words. -/
def Outcome.offRandom (r : Outcome ρ) : Machine × Screen × List Event :=
  (r.1.machine, r.1.screen, r.2)

/-- A step from `c` to `d` that fetches a word changes nothing out of its reach. The program counter
and the opcode that is kept are not spoken of, and the timers are compared with what they are when
counted down. -/
structure Reach (op : Opcode) (c d : Console ρ) : Prop where
  memory : ∀ p : Place, d.machine.memory.bytes.get p ≠ c.machine.memory.bytes.get p →
    p.isFont = false ∧ ∃ k, op.Stores k ∧ p = Place.ofNat (c.machine.i.toNat + k)
  sp : d.machine.sp ≠ c.machine.sp → op.family = 0x2 ∨ op.word = 0x00EE
  stack : ∀ j : Machine.Slot, d.machine.stack.get j ≠ c.machine.stack.get j →
    op.family = 0x2 ∧ j.val = c.machine.sp.toNat
  index : d.machine.i ≠ c.machine.i → op.Reaches .index
  mode : d.machine.mode ≠ c.machine.mode → op.Reaches .mode
  delay : d.machine.delay.toNat ≠ c.machine.delay.toNat - 1 → op.Reaches .delay
  sound : d.machine.sound.toNat ≠ c.machine.sound.toNat - 1 → op.Reaches .sound
  registers : ∀ r, d.machine.getV r ≠ c.machine.getV r → op.Writes r
  screen : d.screen ≠ c.screen → op.Reaches .screen
  random : d.random ≠ c.random → op.Reaches .random
  /-- Machine routines and words that encode nothing change nothing that is spoken of. -/
  idle : op.IsRoutine ∨ Instruction.decode op = none →
    d = { c.ticked with machine := { c.machine.tick with opcode := op, pc := c.machine.pc + 2 } }

/-- A call changes at most the slot at the old depth. -/
theorem call_stack_change {m n : Machine} {addr : UInt16} {events : List Event}
    (h : m.call addr = .ok (n, events)) {j : Machine.Slot}
    (hj : n.stack.get j ≠ m.stack.get j) : j.val = m.sp.toNat := by
  unfold Machine.call at h
  split at h
  · cases h
    exact absurd rfl hj
  · simp only [bind_eq_ok, pure_eq_ok, Prod.mk.injEq] at h
    obtain ⟨slot, hslot, sp, -, rfl, -⟩ := h
    have hval : slot.val = m.sp.toNat := by
      unfold Machine.stackSlot at hslot
      split at hslot
      · cases hslot
        rfl
      · cases hslot
    apply Decidable.byContradiction
    intro hne
    apply hj
    show (m.stack.set slot.val m.pc)[j.val] = m.stack[j.val]
    rw [Vector.getElem_set, if_neg (by omega)]

variable [WordSource ρ]

/-- An instruction changes a slot of the call stack only if it is a call, and only the slot at the
old depth. -/
theorem execute_stack_change {c d : Console ρ} {pad : Keypad} {ins : Instruction}
    {events : List Event} (h : c.execute pad ins = .ok (d, events)) {j : Machine.Slot}
    (hj : d.machine.stack.get j ≠ c.machine.stack.get j) :
    (∃ addr, ins = .call addr) ∧ j.val = c.machine.sp.toNat := by
  by_cases ht : ins.touches = some .callStack
  · rcases Instruction.of_touches_callStack ht with rfl | ⟨addr, rfl⟩
    · rcases execute_ret h with ⟨m, hm, rfl⟩
      obtain ⟨sp, pc, rfl⟩ := ret_keeps hm
      exact absurd rfl hj
    · rcases execute_call h with ⟨m, hm, rfl⟩
      exact ⟨⟨addr, rfl⟩, call_stack_change hm hj⟩
  · rw [(execute_footprint h).stack ht] at hj
    exact absurd rfl hj

/-- A step that fetches an instruction changes nothing out of the reach of its word. -/
theorem executed_reach {c d : Console ρ} {pad : Keypad} {ins : Instruction} {events : List Event}
    (hdecode : Instruction.decode c.machine.peek = some ins)
    (hexec : c.fetched.execute pad ins = .ok (d, events)) : Reach c.machine.peek c d := by
  have hformat := Instruction.hasFormat_of_decode hdecode
  have hfoot := execute_footprint hexec
  -- a part that is changed is touched, and so within the reach of the word
  have hreaches : ∀ part, ¬ ins.touches ≠ some part → c.machine.peek.Reaches part :=
    fun part ht => Instruction.reaches_of_touches hformat (Decidable.not_not.1 ht)
  constructor
  case memory =>
    intro p hp
    rcases execute_memory_change hexec hp with ⟨hfont, k, hk, hplace⟩
    exact ⟨hfont, k, Instruction.stores_of_lt_storeCount hformat hk, hplace⟩
  case sp => exact fun h => hreaches .callStack fun ht => h (hfoot.sp ht)
  case stack =>
    intro j hj
    rcases execute_stack_change hexec hj with ⟨⟨addr, rfl⟩, hslot⟩
    exact ⟨hformat.1, hslot⟩
  case index => exact fun h => hreaches .index fun ht => h (hfoot.index ht)
  case mode => exact fun h => hreaches .mode fun ht => h (hfoot.mode ht)
  case delay =>
    refine fun h => hreaches .delay fun ht => h ?_
    rw [hfoot.delay ht]
    exact Machine.toNat_countDown c.machine.delay
  case sound =>
    refine fun h => hreaches .sound fun ht => h ?_
    rw [hfoot.sound ht]
    exact Machine.toNat_countDown c.machine.sound
  case registers =>
    intro r hr
    apply Instruction.writes_of_writes hformat
    apply Classical.byContradiction
    intro hwrites
    exact hr (execute_registers hexec hwrites)
  case screen => exact fun h => hreaches .screen fun ht => h (hfoot.screen ht)
  case random => exact fun h => hreaches .random fun ht => h (hfoot.random ht)
  case idle =>
    rintro (⟨hfamily, hcls, hret⟩ | hnone)
    · have hsys : Instruction.decode c.machine.peek = some (.sys c.machine.peek.addr) :=
        Instruction.decode_of_hasFormat ⟨hfamily, hcls, hret, rfl⟩
      rw [hdecode] at hsys
      cases hsys
      simp only [execute] at hexec
      cases hexec
      rfl
    · rw [hdecode] at hnone
      cases hnone

/-- A step changes nothing out of the reach of the word that it fetches. -/
theorem step_reach {c d : Console ρ} {pad : Keypad} {events : List Event}
    (hmode : c.machine.mode = .running) (h : c.step pad = .ok (d, events)) :
    Reach c.machine.peek c d := by
  cases step_eq_ok_iff.1 h with
  | waiting hwait | resumed hwait =>
    rw [hmode] at hwait
    cases hwait
  | unrecognised _ hdecode =>
    constructor
    case delay => exact fun h => absurd (Machine.toNat_countDown c.machine.delay) h
    case sound => exact fun h => absurd (Machine.toNat_countDown c.machine.sound) h
    case idle => exact fun _ => rfl
    case memory | stack | registers => exact fun _ h => absurd rfl h
    all_goals exact fun h => absurd rfl h
  | executed _ hdecode hexec => exact executed_reach hdecode hexec

theorem step_offRandom {σ : Type} [WordSource σ] {c : Console ρ}
    (h : ∀ x kk, c.machine.upcoming? ≠ some (.random x kk)) (random : σ) (pad : Keypad) :
    ((c.withRandom random).step pad).map Outcome.offRandom =
      (c.step pad).map Outcome.offRandom := by
  rw [step_withRandom h]
  cases c.step pad <;> rfl

/-- Every step stays within the reach of the word that it fetches. It comes to an outcome whenever
the call stack is no deeper than it can be, and changes nothing out of its reach. The whole outcome
is the same with any keys down, unless the word asks for keys; the machine, the random words and the
events are the same with any screen, unless the word draws; and the machine, the screen and the
events are the same with any two sources of random words, unless the word asks for one. -/
theorem step_within_reach {σ : Type} [WordSource σ] :
    (∀ (c : Console ρ) (pad : Keypad), c.machine.mode = .running → c.machine.sp.toNat ≤ 16 →
      ∃ d told, c.step pad = .ok (d, told) ∧ Reach c.machine.peek c d) ∧
    ∀ c : Console ρ, c.machine.mode = .running →
      (¬ c.machine.peek.AsksKeypad → ∀ pad pad', c.step pad = c.step pad') ∧
      (c.machine.peek.family ≠ 0xD → ∀ screen screen' pad,
        ((c.withScreen screen).step pad).map Outcome.offScreen =
          ((c.withScreen screen').step pad).map Outcome.offScreen) ∧
      (c.machine.peek.family ≠ 0xC → ∀ (random : ρ) (random' : σ) (pad : Keypad),
        ((c.withRandom random).step pad).map Outcome.offRandom =
          ((c.withRandom random').step pad).map Outcome.offRandom) := by
  constructor
  · intro c pad hmode hsp
    have hsound : c.machine.Sound := by
      refine ⟨hsp, ?_⟩
      intro x hx
      rw [hmode] at hx
      cases hx
    rcases step_succeeds hsound pad with ⟨⟨d, told⟩, hstep⟩
    exact ⟨d, told, hstep, step_reach hmode hstep⟩
  · intro c hmode
    refine ⟨?_, ?_, ?_⟩
    · intro hasks pad pad'
      apply step_congr_keypad hmode
      intro ins hdecode
      exact Instruction.asksKeypad_eq_false (Instruction.hasFormat_of_decode hdecode) hasks
    · intro hfamily screen screen' pad
      have hdraw : ∀ x y n, Instruction.decode c.machine.peek ≠ some (.draw x y n) := by
        intro x y n hdecode
        exact hfamily (Instruction.hasFormat_of_decode hdecode).1
      rw [step_withScreen hmode hdraw, step_withScreen hmode hdraw]
    · intro hfamily random random' pad
      have hrandom : ∀ x kk, c.machine.upcoming? ≠ some (.random x kk) := by
        intro x kk hup
        have hdecode := (Machine.upcoming?_eq_some_iff.1 hup).2
        exact hfamily (Instruction.hasFormat_of_decode hdecode).1
      rw [step_offRandom hrandom, step_offRandom hrandom]

/-- A console with a full call stack that is about to store four registers across the beginning of
the font. -/
def straddling : Console CyclicWords where
  machine := { Machine.fresh with
    v := Vector.replicate 16 7
    i := 0xF04E
    sp := 16
    memory := ((⟨.replicate 4096 0⟩ : Memory).put 0x200 0xF3).put 0x201 0x55 }
  screen := .fresh
  random := ⟨#[], 0⟩

/-- The store keeps the font and everything beyond the four places, the index register included. -/
theorem straddling_stays_within : straddling.machine.mode = .running ∧
    straddling.machine.sp.toNat ≤ 16 ∧ ¬ straddling.machine.peek.AsksKeypad ∧
    ∃ d told, straddling.step .released = .ok (d, told) ∧
      straddling.step (Keypad.released.press 4) = .ok (d, told) ∧
      d.machine.i = straddling.machine.i ∧ d.machine.sp = 16 ∧
      d.machine.memory.bytes.get 0x50 = straddling.machine.memory.bytes.get 0x50 ∧
      d.machine.memory.bytes.get 0x4D = straddling.machine.memory.bytes.get 0x4D := by
  have hop : straddling.machine.peek = ⟨0xF355⟩ := by decide +kernel
  have hasks : ¬ straddling.machine.peek.AsksKeypad := by
    rw [hop]
    rintro (⟨hfamily, -⟩ | ⟨-, hkk⟩)
    · exact absurd hfamily (by decide)
    · exact absurd hkk (by decide)
  have hall := step_within_reach (ρ := CyclicWords) (σ := CyclicWords)
  rcases hall.1 straddling .released rfl (by decide) with ⟨d, told, hstep, hreach⟩
  have hother : straddling.step (Keypad.released.press 4) = .ok (d, told) := by
    rw [← (hall.2 straddling rfl).1 hasks .released (Keypad.released.press 4)]
    exact hstep
  rw [hop] at hreach
  have hfont : d.machine.memory.bytes.get 0x50 = straddling.machine.memory.bytes.get 0x50 := by
    apply Decidable.byContradiction
    intro hne
    exact absurd (hreach.memory 0x50 hne).1 (by decide)
  have hbefore : d.machine.memory.bytes.get 0x4D = straddling.machine.memory.bytes.get 0x4D := by
    apply Decidable.byContradiction
    intro hne
    rcases (hreach.memory 0x4D hne).2 with ⟨k, ⟨-, ⟨hkk, -⟩ | ⟨-, hk⟩⟩, hplace⟩
    · exact absurd hkk (by decide)
    · have hk3 : k ≤ 3 := hk
      have hval : 0x4D = (0xF04E + k) % 4096 := congrArg Fin.val hplace
      omega
  have hindex : d.machine.i = straddling.machine.i := by
    apply Decidable.byContradiction
    intro hne
    rcases hreach.index hne with hfamily | ⟨-, hkk | hkk⟩
    · exact absurd hfamily (by decide)
    · exact absurd hkk (by decide)
    · exact absurd hkk (by decide)
  have hsp : d.machine.sp = straddling.machine.sp := by
    apply Decidable.byContradiction
    intro hne
    exact absurd (hreach.sp hne) (by decide)
  exact ⟨rfl, by decide, hasks, d, told, hstep, hother, hindex, hsp, hfont, hbefore⟩

end Console

end Chip8VM
