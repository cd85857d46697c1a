import Chip8VM.Proofs.Safety

/-!
# The address space

Addresses have sixteen bits and memory has twelve. The program counter, the index register and the
return addresses keep all sixteen, wrap around at the end of sixteen, and lose the upper four only
where memory is read or written. Masking them earlier makes no difference: two consoles that are
equal when masked stay so, whatever they execute.

* `execute_masked`, `step_masked`: an instruction, or a step, does the same to a console and to the
  masked one.
* `run_congr`: so do runs from any two consoles that are equal when masked.
* `run_masked`: a run from a masked console shows and computes the same as a run from the console.
-/

namespace Chip8VM

/-- An address without the bits above the twelfth. -/
def maskAddress (addr : UInt16) : UInt16 :=
  addr % 0x1000

/-- The machine whose addresses are masked. -/
def Machine.masked (m : Machine) : Machine :=
  { m with pc := maskAddress m.pc, i := maskAddress m.i, stack := m.stack.map maskAddress }

/-- The event whose place in the program is masked. -/
def Event.masked : Event → Event
  | .executing pc opcode instruction => .executing (maskAddress pc) opcode instruction
  | .unrecognised pc opcode => .unrecognised (maskAddress pc) opcode
  | .returnIgnored pc => .returnIgnored (maskAddress pc)
  | .callIgnored addr pc => .callIgnored addr (maskAddress pc)
  | event => event

/-- The console whose machine is masked. -/
def Console.masked {ρ : Type} (c : Console ρ) : Console ρ :=
  { c with machine := c.machine.masked }

/-- The outcome whose console and events are masked. -/
def Console.maskOutcome {ρ : Type} (r : Outcome ρ) : Outcome ρ :=
  (r.1.masked, r.2.map Event.masked)

/-! ## Addresses -/

theorem toNat_maskAddress (addr : UInt16) : (maskAddress addr).toNat = addr.toNat % 4096 := by
  simp [maskAddress, UInt16.toNat_mod]

@[simp] theorem maskAddress_maskAddress (addr : UInt16) :
    maskAddress (maskAddress addr) = maskAddress addr := by
  apply UInt16.toNat_inj.1
  simp only [toNat_maskAddress]
  omega

@[simp] theorem maskAddress_add (a b : UInt16) :
    maskAddress (maskAddress a + b) = maskAddress (a + b) := by
  apply UInt16.toNat_inj.1
  simp only [toNat_maskAddress, UInt16.toNat_add]
  omega

@[simp] theorem maskAddress_sub (a b : UInt16) :
    maskAddress (maskAddress a - b) = maskAddress (a - b) := by
  have hb := b.toNat_lt
  apply UInt16.toNat_inj.1
  simp only [toNat_maskAddress, UInt16.toNat_sub]
  omega

/-- Addresses name the same place exactly if they are equal when masked. -/
theorem Place.ofAddress_eq_iff {a b : UInt16} :
    Place.ofAddress a = Place.ofAddress b ↔ maskAddress a = maskAddress b := by
  rw [← UInt16.toNat_inj, toNat_maskAddress, toNat_maskAddress]
  simp [Place.ofAddress, Fin.ext_iff]

theorem maskAddress_add_congr {a b : UInt16} (h : maskAddress a = maskAddress b) (k : UInt16) :
    maskAddress (a + k) = maskAddress (b + k) := by
  rw [← maskAddress_add a, h, maskAddress_add]

/-! ## Memory -/

theorem Memory.read_congr {a b : UInt16} (h : maskAddress a = maskAddress b) (m : Memory) :
    m.read a = m.read b := by
  simp only [Memory.read, Place.ofAddress_eq_iff.2 h]

theorem Memory.readAll_congr {a b : UInt16} (h : maskAddress a = maskAddress b) (m : Memory)
    (count : Nat) : m.readAll a count = m.readAll b count := by
  unfold Memory.readAll
  exact List.map_congr_left fun k _ => Memory.read_congr (maskAddress_add_congr h _) m

theorem Memory.storeAll_congr {a b : UInt16} (h : maskAddress a = maskAddress b) (m : Memory)
    (values : List UInt8) : m.storeAll a values = m.storeAll b values := by
  induction values generalizing a b m with
  | nil => rfl
  | cons value rest ih =>
    have hstore : m.store a value = m.store b value := by
      simp only [Memory.store, Memory.put, Place.ofAddress_eq_iff.2 h]
    unfold Memory.storeAll
    rw [hstore]
    -- both addresses move on by one and stay equal when masked
    exact ih (maskAddress_add_congr h 1) _

theorem Event.dropped_congr {a b : UInt16} (h : maskAddress a = maskAddress b)
    (values : List UInt8) : Event.dropped a values = Event.dropped b values := by
  induction values generalizing a b with
  | nil => rfl
  | cons value rest ih =>
    unfold Event.dropped
    rw [Place.ofAddress_eq_iff.2 h, ih (maskAddress_add_congr h 1)]

/-! ## The machine -/

namespace Machine

/-- What an operation of the machine comes to, masked. -/
def maskResult (r : Machine × List Event) : Machine × List Event :=
  (r.1.masked, r.2.map Event.masked)

@[simp] theorem masked_pc (m : Machine) : m.masked.pc = maskAddress m.pc := rfl

@[simp] theorem getV_masked (m : Machine) (x : Register) : m.masked.getV x = m.getV x := rfl

@[simp] theorem setV_masked (m : Machine) (x : Register) (value : UInt8) :
    m.masked.setV x value = (m.setV x value).masked := rfl

@[simp] theorem masked_masked (m : Machine) : m.masked.masked = m.masked := by
  simp [masked, Function.comp_def]

/-- Machines that are equal when masked agree in all but addresses. -/
theorem eq_of_masked_eq {m n : Machine} (h : m.masked = n.masked) :
    m.v = n.v ∧ m.memory = n.memory ∧ m.sp = n.sp ∧ m.delay = n.delay ∧ m.sound = n.sound ∧
      m.mode = n.mode ∧ m.opcode = n.opcode := by
  simp only [masked, mk.injEq] at h
  obtain ⟨hv, -, -, hsp, hdelay, hsound, -, hmemory, hopcode, hmode⟩ := h
  exact ⟨hv, hmemory, hsp, hdelay, hsound, hmode, hopcode⟩

theorem skipIf_masked (m : Machine) (condition : Bool) :
    (m.masked.skipIf condition).masked = (m.skipIf condition).masked := by
  cases condition <;> simp [skipIf, masked, Function.comp_def]

theorem jump_masked (m : Machine) (addr : UInt16) :
    (m.masked.jump addr).masked = (m.jump addr).masked := by
  simp [jump, masked, Function.comp_def]

theorem setIndex_masked (m : Machine) (addr : UInt16) :
    (m.masked.setIndex addr).masked = (m.setIndex addr).masked := by
  simp [setIndex, masked, Function.comp_def]

theorem addIndex_masked (m : Machine) (x : Register) :
    (m.masked.addIndex x).masked = (m.addIndex x).masked := by
  simp [addIndex, masked, getV, Function.comp_def]

@[simp] theorem peek_masked (m : Machine) : m.masked.peek = m.peek := by
  have hhigh : m.memory.read (maskAddress m.pc) = m.memory.read m.pc :=
    Memory.read_congr (maskAddress_maskAddress _) _
  have hlow : m.memory.read (maskAddress m.pc + 1) = m.memory.read (m.pc + 1) :=
    Memory.read_congr (maskAddress_add _ _) _
  simp [peek, masked, hhigh, hlow]

theorem tick_masked (m : Machine) : m.masked.tick = m.tick.masked := rfl

theorem fetch_masked (m : Machine) : m.masked.fetch.masked = m.fetch.masked := by
  have hpeek := m.peek_masked
  simp only [fetch, hpeek]
  simp [masked, Function.comp_def]

theorem call_masked (m : Machine) (addr : UInt16) :
    (m.masked.call addr).map maskResult = (m.call addr).map maskResult := by
  unfold call
  by_cases hfull : m.sp = 16
  · -- what is told of a refused call is where it stands
    rw [if_pos (show m.masked.sp = 16 from hfull), if_pos hfull]
    simp [maskResult, Event.masked]
  · rw [if_neg (show m.masked.sp ≠ 16 from hfull), if_neg hfull]
    refine map_bind_congr (fun slot => map_bind_congr (fun sp => ?_) _) _
    -- the address that is pushed is masked like those below it
    simp [maskResult, masked, Function.comp_def]

theorem ret_masked (m : Machine) : m.masked.ret.map maskResult = m.ret.map maskResult := by
  unfold ret
  by_cases hempty : m.sp = 0
  · rw [if_pos (show m.masked.sp = 0 from hempty), if_pos hempty]
    simp [maskResult, Event.masked]
  · rw [if_neg (show m.masked.sp ≠ 0 from hempty), if_neg hempty]
    refine map_bind_congr (fun sp => map_bind_congr (fun slot => ?_) _) _
    -- the address that is popped becomes the program counter
    have hslot : m.masked.stack.get slot = maskAddress (m.stack.get slot) := by
      show (m.stack.map maskAddress)[slot.val] = maskAddress m.stack[slot.val]
      rw [Vector.getElem_map]
    simp only [hslot]
    simp [maskResult, masked, Function.comp_def]

theorem store_masked (m : Machine) {a b : UInt16} (h : maskAddress a = maskAddress b)
    (values : List UInt8) :
    maskResult (m.masked.store a values) = maskResult (m.store b values) := by
  have hmemory := Memory.storeAll_congr h m.memory values
  have hevents := Event.dropped_congr h values
  simp [store, maskResult, masked, hmemory, hevents, Function.comp_def]

theorem loadRegisters_masked (m : Machine) (last : Register) :
    (m.masked.loadRegisters last).masked = (m.loadRegisters last).masked := by
  have hread : ∀ k : UInt16, m.memory.read (maskAddress m.i + k) = m.memory.read (m.i + k) :=
    fun k => Memory.read_congr (maskAddress_add _ k) _
  simp [loadRegisters, masked, getV, hread, Function.comp_def]

end Machine

/-! ## The console -/

namespace Console

variable {ρ : Type}

@[simp] theorem machine_masked (c : Console ρ) : c.masked.machine = c.machine.masked := rfl

@[simp] theorem masked_masked (c : Console ρ) : c.masked.masked = c.masked := by
  simp [masked]

theorem masked_eq_iff {c d : Console ρ} : c.masked = d.masked ↔
    c.machine.masked = d.machine.masked ∧ c.screen = d.screen ∧ c.random = d.random := by
  simp [masked]

theorem become_masked {m n : Machine} (h : m.masked = n.masked) (c : Console ρ) :
    (pure (c.masked.become m) : Except Fault (Outcome ρ)).map maskOutcome =
      (pure (c.become n) : Except Fault (Outcome ρ)).map maskOutcome := by
  simp [become, maskOutcome, masked, h]

theorem become_masked_of_eq {m n : Machine} (h : m = n.masked) (c : Console ρ) :
    (pure (c.masked.become m) : Except Fault (Outcome ρ)).map maskOutcome =
      (pure (c.become n) : Except Fault (Outcome ρ)).map maskOutcome :=
  become_masked (by rw [h, Machine.masked_masked]) c

theorem becomeWith_masked {r s : Machine × List Event}
    (h : Machine.maskResult r = Machine.maskResult s) (c : Console ρ) :
    (pure (c.masked.becomeWith r) : Except Fault (Outcome ρ)).map maskOutcome =
      (pure (c.becomeWith s) : Except Fault (Outcome ρ)).map maskOutcome := by
  simp only [Machine.maskResult, Prod.mk.injEq] at h
  simp [becomeWith, maskOutcome, masked, h.1, h.2]

theorem draw_masked (c : Console ρ) (x y : Machine.Register) (n : Nat) :
    (c.masked.draw x y n).masked = (c.draw x y n).masked := by
  have hread : c.machine.memory.readAll (maskAddress c.machine.i) n =
      c.machine.memory.readAll c.machine.i n :=
    Memory.readAll_congr (maskAddress_maskAddress _) _ n
  have hcells : Sprite.cells (c.machine.masked.getV x).toNat (c.machine.masked.getV y).toNat
      (c.machine.masked.memory.readAll c.machine.masked.i n) =
        Sprite.cells (c.machine.getV x).toNat (c.machine.getV y).toNat
          (c.machine.memory.readAll c.machine.i n) :=
    congrArg (Sprite.cells _ _) hread
  -- the rows are read from the same places, so the same cells are flipped
  unfold draw
  simp only [machine_masked, hcells]
  simp [masked]

theorem awaitKey_masked (c : Console ρ) (pad : Keypad) (x : UInt8) :
    (c.masked.awaitKey pad x).map masked = (c.awaitKey pad x).map masked := by
  unfold awaitKey
  cases pad.firstPressed with
  | some key =>
    refine map_bind_congr (fun r => ?_) _
    simp [masked]
  | none =>
    simp [masked, Machine.masked, Function.comp_def]

theorem continueWait_masked (c : Console ρ) (pad : Keypad) (x : UInt8) :
    (c.masked.continueWait pad x).map maskOutcome = (c.continueWait pad x).map maskOutcome := by
  unfold continueWait
  cases pad.firstPressed with
  | none => simp [maskOutcome]
  | some key =>
    refine map_bind_congr (fun r => ?_) _
    simp [maskOutcome, masked]
    simp [Machine.masked, Function.comp_def]

theorem fetched_masked (c : Console ρ) : c.masked.fetched.masked = c.fetched.masked := by
  have hfetch : c.machine.tick.masked.fetch.masked = c.machine.tick.fetch.masked :=
    c.machine.tick.fetch_masked
  simp [fetched, masked, Machine.tick_masked, hfetch]

variable [WordSource ρ]

/-- An instruction does the same to a console and to the masked one. -/
theorem execute_masked (c : Console ρ) (pad : Keypad) (ins : Instruction) :
    (c.masked.execute pad ins).map maskOutcome = (c.execute pad ins).map maskOutcome := by
  cases ins <;> simp only [execute, machine_masked]
  case sys => simp [maskOutcome]
  case cls => simp [maskOutcome, masked]
  -- the program counter and the return addresses
  case ret =>
    exact bind_map_congr c.machine.ret_masked fun r s h => becomeWith_masked h c
  case jump addr => exact become_masked (c.machine.jump_masked addr) c
  case call addr =>
    exact bind_map_congr (c.machine.call_masked addr) fun r s h => becomeWith_masked h c
  case skipEqByte | skipNeByte | skipKeyDown | skipKeyUp =>
    refine map_bind_congr (fun r => ?_) _
    exact become_masked (c.machine.skipIf_masked _) c
  case skipEqReg | skipNeReg =>
    refine map_bind_congr (fun r => map_bind_congr (fun s => ?_) _) _
    exact become_masked (c.machine.skipIf_masked _) c
  case jumpOffset addr =>
    refine bind_map_congr (p := Machine.masked) ?_ fun m n h => become_masked h c
    refine map_bind_congr (fun target => ?_) _
    exact congrArg Except.ok (c.machine.jump_masked target)
  -- the index register
  case loadIndex addr => exact become_masked (c.machine.setIndex_masked addr) c
  case addIndex =>
    refine map_bind_congr (fun r => ?_) _
    exact become_masked (c.machine.addIndex_masked r) c
  case loadGlyph =>
    refine map_bind_congr (fun r => ?_) _
    rw [Machine.pointAtGlyph_eq, Machine.pointAtGlyph_eq]
    exact become_masked (c.machine.setIndex_masked _) c
  -- what is read and stored at the index register
  case draw =>
    refine map_bind_congr (fun r => map_bind_congr (fun s => ?_) _) _
    simp [maskOutcome, draw_masked]
  case storeBcd | storeRegisters =>
    refine map_bind_congr (fun r => ?_) _
    exact becomeWith_masked (c.machine.store_masked (maskAddress_maskAddress _) _) c
  case loadRegisters =>
    refine map_bind_congr (fun r => ?_) _
    exact become_masked (c.machine.loadRegisters_masked r) c
  case awaitKey =>
    refine bind_map_congr (c.awaitKey_masked pad _) fun d e h => ?_
    simp [maskOutcome, h]
  -- the others look at no address
  case loadByte | addByte | shiftRight | shiftLeft | readDelay | setDelay | setSound =>
    refine map_bind_congr (fun r => ?_) _
    refine become_masked_of_eq ?_ c
    rfl
  case move | or | and | xor | sub | subN =>
    refine map_bind_congr (fun r => map_bind_congr (fun s => ?_) _) _
    refine become_masked_of_eq ?_ c
    rfl
  case addReg =>
    refine map_bind_congr (fun r => map_bind_congr (fun s => ?_) _) _
    rw [Machine.addRegister_eq, Machine.addRegister_eq]
    refine become_masked_of_eq ?_ c
    rfl
  case random =>
    refine map_bind_congr (fun r => ?_) _
    simp [maskOutcome, drawRandom, masked]

theorem execute_congr {c d : Console ρ} (h : c.masked = d.masked) (pad : Keypad)
    (ins : Instruction) :
    (c.execute pad ins).map maskOutcome = (d.execute pad ins).map maskOutcome := by
  rw [← execute_masked c, h, execute_masked d]

/-- A step does the same to a console and to the masked one. -/
theorem step_masked (c : Console ρ) (pad : Keypad) :
    (c.masked.step pad).map maskOutcome = (c.step pad).map maskOutcome := by
  -- both consoles fetch the same word
  have hpeek : c.masked.machine.peek = c.machine.peek := c.machine.peek_masked
  cases hmode : c.machine.mode with
  | running =>
    have hmode' : c.masked.machine.mode = .running := hmode
    cases hdecode : Instruction.decode c.machine.peek with
    | none =>
      have hdecode' : Instruction.decode c.masked.machine.peek = none := by rw [hpeek, hdecode]
      rw [step_of_unrecognised hmode hdecode, step_of_unrecognised hmode' hdecode']
      simp [maskOutcome, fetched_masked, Event.masked]
    | some ins =>
      have hdecode' : Instruction.decode c.masked.machine.peek = some ins := by
        rw [hpeek, hdecode]
      rw [step_of_decoded hmode hdecode, step_of_decoded hmode' hdecode']
      refine map_map_congr (execute_congr c.fetched_masked pad ins) fun r s h => ?_
      simp only [maskOutcome, Prod.mk.injEq] at h
      simp [maskOutcome, h.1, h.2, Event.masked]
  | awaitingKey x =>
    have hmode' : c.masked.machine.mode = .awaitingKey x := hmode
    rw [step_of_awaiting hmode, step_of_awaiting hmode']
    exact c.ticked.continueWait_masked pad x

theorem step_congr {c d : Console ρ} (h : c.masked = d.masked) (pad : Keypad) :
    (c.step pad).map maskOutcome = (d.step pad).map maskOutcome := by
  rw [← step_masked c, h, step_masked d]

/-! ## Runs -/

/-- What a run comes to, masked. -/
def maskRun (r : Console ρ × Array Event) : Console ρ × Array Event :=
  (r.1.masked, r.2.map Event.masked)

/-- Runs from consoles that are equal when masked come to the same, masked. -/
theorem run_congr {c d : Console ρ} (h : c.masked = d.masked) (pads : List Keypad) :
    (c.run pads).map maskRun = (d.run pads).map maskRun := by
  induction pads generalizing c d with
  | nil => simp [maskRun, h]
  | cons pad pads ih =>
    rw [run_cons, run_cons]
    -- after the first step the consoles are again equal when masked
    refine bind_map_congr (step_congr h pad) fun r s hstep => ?_
    simp only [maskOutcome, Prod.mk.injEq] at hstep
    refine map_map_congr (ih hstep.1) fun t u hrun => ?_
    simp only [maskRun, Prod.mk.injEq] at hrun
    simp [maskRun, hrun.1, hrun.2, hstep.2]

/-- The bits of the program counter, of the index register and of the return addresses above the
twelfth influence nothing but themselves and the addresses that are told: with the same keys, a run
from a console and a run from the masked one show the same, take the same random words and come to
machines that are equal when masked. -/
theorem run_masked {c : Console ρ} (hc : c.machine.Sound) (pads : List Keypad) :
    ∃ d e past told, c.run pads = .ok (d, past) ∧ c.masked.run pads = .ok (e, told) ∧
      e.screen = d.screen ∧ e.random = d.random ∧ e.machine.masked = d.machine.masked ∧
      (e.machine.v = d.machine.v ∧ e.machine.memory = d.machine.memory ∧
        e.machine.sp = d.machine.sp ∧ e.machine.delay = d.machine.delay ∧
        e.machine.sound = d.machine.sound ∧ e.machine.mode = d.machine.mode ∧
        e.machine.opcode = d.machine.opcode) ∧
      told.map Event.masked = past.map Event.masked := by
  rcases run_succeeds hc pads with ⟨d, past, hrun, -⟩
  have hmasked := run_congr c.masked_masked pads
  rw [hrun] at hmasked
  cases hrun' : c.masked.run pads with
  | error fault =>
    rw [hrun'] at hmasked
    cases hmasked
  | ok r =>
    rw [hrun'] at hmasked
    have h := Except.ok.inj hmasked
    simp only [maskRun, Prod.mk.injEq] at h
    obtain ⟨hmachine, hscreen, hrandom⟩ := masked_eq_iff.1 h.1
    exact ⟨d, r.1, past, r.2, hrun, rfl, hscreen, hrandom, hmachine,
      Machine.eq_of_masked_eq hmachine, h.2⟩

/-- A console whose program counter is about to wrap around, and whose index register and return
addresses lie beyond the memory. -/
def astray : Console CyclicWords where
  machine :=
    { Machine.fresh with pc := 0xFFFF, i := 0xF050, sp := 1, stack := .replicate 16 0x5200 }
  screen := .fresh
  random := ⟨#[7], 0⟩

theorem astray_run_masked : astray.machine.Sound ∧ astray.masked.machine.pc = 0x0FFF ∧
    ∃ d e past told,
      astray.run [.released, Keypad.released.press 5] = .ok (d, past) ∧
      astray.masked.run [.released, Keypad.released.press 5] = .ok (e, told) ∧
      e.screen = d.screen ∧ e.machine.masked = d.machine.masked := by
  have hsound : astray.machine.Sound := ⟨by decide, by intro x hx; cases hx⟩
  rcases run_masked hsound [.released, Keypad.released.press 5] with
    ⟨d, e, past, told, hrun, hrun', hscreen, -, hmachine, -, -⟩
  exact ⟨hsound, by decide, d, e, past, told, hrun, hrun', hscreen, hmachine⟩

end Console

end Chip8VM
