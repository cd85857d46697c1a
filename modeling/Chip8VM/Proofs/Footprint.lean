import Chip8VM.Console.Execution
import Chip8VM.Proofs.Results

/-!
# Footprints

What instructions leave alone. A console falls into parts, and apart from the registers and the
program counter every instruction changes at most one of them.

* `Instruction.touches`: the part that an instruction may change.
* `execute_footprint`: executing an instruction keeps all the others.
* `execute_silent`: only what touches the call stack or the memory has something to tell.
-/

namespace Chip8VM

/-- A part of a console that only few instructions change. -/
inductive Part where
  /-- The stack pointer and the slots of the call stack. -/
  | callStack
  /-- What the next step does. -/
  | mode
  /-- The index register. -/
  | index
  /-- The delay timer. -/
  | delay
  /-- The sound timer. -/
  | sound
  /-- The memory. -/
  | memory
  /-- The screen with its frame and the news about it. -/
  | screen
  /-- The source of random words. -/
  | random
deriving DecidableEq, Repr

/-- The part of a console that an instruction may change, the registers and the program counter
apart. -/
def Instruction.touches : Instruction → Option Part
  | .call _ | .ret => some .callStack
  | .awaitKey _ => some .mode
  | .loadIndex _ | .addIndex _ | .loadGlyph _ => some .index
  | .setDelay _ => some .delay
  | .setSound _ => some .sound
  | .storeBcd _ | .storeRegisters _ => some .memory
  | .cls | .draw .. => some .screen
  | .random .. => some .random
  | _ => none

/-- Only calls and returns touch the call stack. -/
theorem Instruction.of_touches_callStack {ins : Instruction}
    (h : ins.touches = some .callStack) : ins = .ret ∨ ∃ addr, ins = .call addr := by
  cases ins <;> cases h
  · exact .inl rfl
  · exact .inr ⟨_, rfl⟩

/-- Only clearing and drawing touch the screen. -/
theorem Instruction.of_touches_screen {ins : Instruction} (h : ins.touches = some .screen) :
    ins = .cls ∨ ∃ x y n, ins = .draw x y n := by
  cases ins <;> cases h
  · exact .inl rfl
  · exact .inr ⟨_, _, _, rfl⟩

/-- Only waiting for a key touches the mode. -/
theorem Instruction.of_touches_mode {ins : Instruction} (h : ins.touches = some .mode) :
    ∃ x, ins = .awaitKey x := by
  cases ins <;> cases h
  exact ⟨_, rfl⟩

namespace Console

variable {ρ : Type}

/-- Two consoles agree in every part but the one that an instruction touches. -/
structure Footprint (ins : Instruction) (c d : Console ρ) : Prop where
  opcode : d.machine.opcode = c.machine.opcode
  sp : ins.touches ≠ some .callStack → d.machine.sp = c.machine.sp
  stack : ins.touches ≠ some .callStack → d.machine.stack = c.machine.stack
  mode : ins.touches ≠ some .mode → d.machine.mode = c.machine.mode
  index : ins.touches ≠ some .index → d.machine.i = c.machine.i
  delay : ins.touches ≠ some .delay → d.machine.delay = c.machine.delay
  sound : ins.touches ≠ some .sound → d.machine.sound = c.machine.sound
  memory : ins.touches ≠ some .memory → d.machine.memory = c.machine.memory
  screen : ins.touches ≠ some .screen → d.screen = c.screen
  random : ins.touches ≠ some .random → d.random = c.random

theorem call_keeps {m n : Machine} {addr : UInt16} {events : List Event}
    (h : m.call addr = .ok (n, events)) :
    ∃ sp stack pc, n = { m with sp, stack, pc } := by
  unfold Machine.call at h
  split at h
  · cases h
    exact ⟨_, _, _, rfl⟩
  · simp only [bind_eq_ok, pure_eq_ok, Prod.mk.injEq] at h
    obtain ⟨slot, -, sp, -, rfl, -⟩ := h
    exact ⟨_, _, _, rfl⟩

theorem ret_keeps {m n : Machine} {events : List Event} (h : m.ret = .ok (n, events)) :
    ∃ sp pc, n = { m with sp, pc } := by
  unfold Machine.ret at h
  split at h
  · cases h
    exact ⟨_, _, rfl⟩
  · simp only [bind_eq_ok, pure_eq_ok, Prod.mk.injEq] at h
    obtain ⟨sp, -, slot, -, rfl, -⟩ := h
    exact ⟨_, _, rfl⟩

/-! ## Footprints by what is written -/

namespace Footprint

variable {ins : Instruction} {c : Console ρ}

/-- A console that is left alone agrees with itself in every part. -/
theorem refl (ins : Instruction) (c : Console ρ) : Footprint ins c c := by
  constructor <;> intros <;> rfl

theorem of_registers (v : Vector UInt8 16) (pc : UInt16) :
    Footprint ins c { c with machine := { c.machine with v, pc } } :=
  { refl ins c with }

theorem of_callStack (hins : ins.touches = some .callStack) (sp : UInt8)
    (stack : Vector UInt16 16) (pc : UInt16) :
    Footprint ins c { c with machine := { c.machine with sp, stack, pc } } :=
  { refl ins c with
    sp := fun h => absurd hins h
    stack := fun h => absurd hins h }

theorem of_mode (hins : ins.touches = some .mode) (mode : Mode) :
    Footprint ins c { c with machine := { c.machine with mode } } :=
  { refl ins c with mode := fun h => absurd hins h }

theorem of_index (hins : ins.touches = some .index) (i : UInt16) :
    Footprint ins c { c with machine := { c.machine with i } } :=
  { refl ins c with index := fun h => absurd hins h }

theorem of_delay (hins : ins.touches = some .delay) (delay : UInt8) :
    Footprint ins c { c with machine := { c.machine with delay } } :=
  { refl ins c with delay := fun h => absurd hins h }

theorem of_sound (hins : ins.touches = some .sound) (sound : UInt8) :
    Footprint ins c { c with machine := { c.machine with sound } } :=
  { refl ins c with sound := fun h => absurd hins h }

theorem of_memory (hins : ins.touches = some .memory) (memory : Memory) :
    Footprint ins c { c with machine := { c.machine with memory } } :=
  { refl ins c with memory := fun h => absurd hins h }

theorem of_screen (hins : ins.touches = some .screen) (v : Vector UInt8 16) (screen : Screen) :
    Footprint ins c { c with machine := { c.machine with v }, screen } :=
  { refl ins c with screen := fun h => absurd hins h }

theorem of_random (hins : ins.touches = some .random) (v : Vector UInt8 16) (random : ρ) :
    Footprint ins c { c with machine := { c.machine with v }, random } :=
  { refl ins c with random := fun h => absurd hins h }

end Footprint

theorem awaitKey_footprint {c d : Console ρ} {pad : Keypad} {x : UInt8}
    (h : c.awaitKey pad x = .ok d) : Footprint (.awaitKey x) c d := by
  unfold awaitKey at h
  split at h
  · simp only [bind_eq_ok, pure_eq_ok] at h
    obtain ⟨r, -, rfl⟩ := h
    exact .of_registers _ _
  · simp only [pure_eq_ok] at h
    subst h
    exact .of_mode rfl _

variable [WordSource ρ]

/-- Executing an instruction keeps every part of the console that the instruction does not
touch. -/
theorem execute_footprint {c d : Console ρ} {pad : Keypad} {ins : Instruction}
    {events : List Event} (h : c.execute pad ins = .ok (d, events)) : Footprint ins c d := by
  cases ins <;>
    simp only [execute, bind_eq_ok, pure_eq_ok, become, becomeWith, Machine.skipIf_eq,
      Machine.addRegister_eq, Machine.pointAtGlyph_eq, Except.ok.injEq, Prod.mk.injEq] at h
  case cls =>
    obtain ⟨rfl, -⟩ := h
    exact .of_screen rfl _ _
  case draw =>
    obtain ⟨r, -, s, -, rfl, -⟩ := h
    exact .of_screen rfl _ _
  case call =>
    obtain ⟨⟨m, _⟩, hm, rfl, -⟩ := h
    obtain ⟨sp, stack, pc, rfl⟩ := call_keeps hm
    exact .of_callStack rfl _ _ _
  case ret =>
    obtain ⟨⟨m, _⟩, hm, rfl, -⟩ := h
    obtain ⟨sp, pc, rfl⟩ := ret_keeps hm
    exact .of_callStack rfl _ _ _
  case loadIndex =>
    obtain ⟨rfl, -⟩ := h
    exact .of_index rfl _
  case addIndex =>
    obtain ⟨r, -, rfl, -⟩ := h
    exact .of_index rfl _
  case loadGlyph =>
    obtain ⟨r, -, m, rfl, rfl, -⟩ := h
    exact .of_index rfl _
  case storeBcd | storeRegisters =>
    obtain ⟨r, -, rfl, -⟩ := h
    exact .of_memory rfl _
  case awaitKey =>
    obtain ⟨e, he, rfl, -⟩ := h
    exact awaitKey_footprint he
  case setDelay =>
    obtain ⟨r, -, rfl, -⟩ := h
    exact .of_delay rfl _
  case setSound =>
    obtain ⟨r, -, rfl, -⟩ := h
    exact .of_sound rfl _
  case random =>
    obtain ⟨r, -, rfl, -⟩ := h
    exact .of_random rfl _ _
  -- the others write nothing but registers and the program counter
  case sys | jump =>
    obtain ⟨rfl, -⟩ := h
    exact .of_registers _ _
  case jumpOffset =>
    simp only [Machine.jumpOffset, bind_eq_ok, pure_eq_ok] at h
    obtain ⟨m, ⟨target, -, rfl⟩, rfl, -⟩ := h
    exact .of_registers _ _
  case addReg =>
    obtain ⟨r, -, s, -, m, rfl, rfl, -⟩ := h
    exact .of_registers _ _
  case skipEqReg | skipNeReg | move | or | and | xor | sub | subN =>
    obtain ⟨r, -, s, -, rfl, -⟩ := h
    exact .of_registers _ _
  case skipEqByte | skipNeByte | loadByte | addByte | shiftRight | shiftLeft | skipKeyDown |
      skipKeyUp | readDelay | loadRegisters =>
    obtain ⟨r, -, rfl, -⟩ := h
    exact .of_registers _ _

/-- An instruction that touches neither the call stack nor the memory tells nothing. -/
theorem execute_silent {c d : Console ρ} {pad : Keypad} {ins : Instruction} {events : List Event}
    (h : c.execute pad ins = .ok (d, events)) (hstack : ins.touches ≠ some .callStack)
    (hmemory : ins.touches ≠ some .memory) : events = [] := by
  cases ins <;>
    simp only [execute, bind_eq_ok, pure_eq_ok, become, Prod.mk.injEq] at h
  case call | ret => exact absurd rfl hstack
  case storeBcd | storeRegisters => exact absurd rfl hmemory
  case sys | cls | jump | loadIndex =>
    obtain ⟨-, rfl⟩ := h
    rfl
  case addReg =>
    obtain ⟨r, -, s, -, m, -, -, rfl⟩ := h
    rfl
  case loadGlyph =>
    obtain ⟨r, -, m, -, -, rfl⟩ := h
    rfl
  case draw | skipEqReg | skipNeReg | move | or | and | xor | sub | subN =>
    obtain ⟨r, -, s, -, -, rfl⟩ := h
    rfl
  case jumpOffset | awaitKey | random | skipEqByte | skipNeByte | loadByte | addByte | shiftRight |
      shiftLeft | skipKeyDown | skipKeyUp | readDelay | setDelay | setSound | addIndex |
      loadRegisters =>
    obtain ⟨r, -, -, rfl⟩ := h
    rfl

/-! ## What is done to the call stack and to the mode -/

theorem execute_call {c d : Console ρ} {pad : Keypad} {addr : UInt16} {events : List Event}
    (h : c.execute pad (.call addr) = .ok (d, events)) :
    ∃ m, c.machine.call addr = .ok (m, events) ∧ d = { c with machine := m } := by
  simp only [execute, bind_eq_ok, pure_eq_ok, becomeWith, Prod.mk.injEq] at h
  obtain ⟨⟨m, told⟩, hm, rfl, rfl⟩ := h
  exact ⟨m, hm, rfl⟩

theorem execute_ret {c d : Console ρ} {pad : Keypad} {events : List Event}
    (h : c.execute pad .ret = .ok (d, events)) :
    ∃ m, c.machine.ret = .ok (m, events) ∧ d = { c with machine := m } := by
  simp only [execute, bind_eq_ok, pure_eq_ok, becomeWith, Prod.mk.injEq] at h
  obtain ⟨⟨m, told⟩, hm, rfl, rfl⟩ := h
  exact ⟨m, hm, rfl⟩

/-- Waiting for a key leaves the mode alone, or the wait begins. -/
theorem execute_awaitKey {c d : Console ρ} {pad : Keypad} {x : UInt8} {events : List Event}
    (h : c.execute pad (.awaitKey x) = .ok (d, events)) :
    d.machine.mode = c.machine.mode ∨ d.machine.mode = .awaitingKey x := by
  simp only [execute, awaitKey, bind_eq_ok, pure_eq_ok, Prod.mk.injEq] at h
  obtain ⟨e, he, rfl, -⟩ := h
  split at he
  · simp only [bind_eq_ok, pure_eq_ok] at he
    obtain ⟨r, -, rfl⟩ := he
    exact .inl rfl
  · simp only [pure_eq_ok] at he
    subst he
    exact .inr rfl

end Console

end Chip8VM
