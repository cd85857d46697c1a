import Mathlib.Data.List.Nodup
import Chip8VM.Proofs.Destinations

/-!
# The journal of a step

What a step tells, line by line. A running machine begins with the address and the word that it
fetches. Behind this line there are only warnings: of the return or the call that it ignores, or of
each byte that it does not store because the font is in its place. A machine that awaits a key tells
of the key that ends the wait.

* `Machine.headline`, `Machine.warnings`: these lines, told from the digits of the word.
* `Event.dropped_eq_map`: bytes that the font refuses are told of one by one.
* `execute_warned`: an instruction tells the warnings of its word.
* `step_lines_tell_effects`: what every step tells, and that every byte is stored or told of.
-/

namespace Chip8VM

/-- The line of an event, with its level. -/
def Event.line (event : Event) : Level × String :=
  (event.level, event.text)

/-! ## Bytes that the font refuses -/

/-- Of bytes that go to successive addresses, those that the font is in the place of, each with this
place. -/
def Memory.refused (addr : UInt16) (values : List UInt8) : List (UInt8 × Place) :=
  values.zipIdx.filterMap fun (value, k) =>
    let p := Place.ofNat (addr.toNat + k)
    if 0x050 ≤ p.val ∧ p.val ≤ 0x09F then some (value, p) else none

namespace Memory

theorem refused_cons (addr : UInt16) (value : UInt8) (rest : List UInt8) :
    refused addr (value :: rest) =
      if (Place.ofAddress addr).isFont then
        (value, Place.ofAddress addr) :: refused (addr + 1) rest
      else refused (addr + 1) rest := by
  have hrest : (rest.zipIdx 1).filterMap (fun (value, k) =>
      let p := Place.ofNat (addr.toNat + k)
      if 0x050 ≤ p.val ∧ p.val ≤ 0x09F then some (value, p) else none) =
        refused (addr + 1) rest := by
    rw [← Nat.zero_add 1, List.zipIdx_succ, List.filterMap_map]
    simp only [refused, Place.ofNat_next]
    rfl
  have hfirst : Place.ofNat (addr.toNat + 0) = Place.ofAddress addr := rfl
  rw [refused, List.zipIdx_cons, List.filterMap_cons, hrest]
  simp only [hfirst, Place.isFont_iff]
  by_cases hfont : 0x050 ≤ (Place.ofAddress addr).val ∧ (Place.ofAddress addr).val ≤ 0x09F
  · rw [if_pos hfont, if_pos hfont]
  · rw [if_neg hfont, if_neg hfont]

theorem mem_refused {addr : UInt16} {values : List UInt8} {value : UInt8} {p : Place} :
    (value, p) ∈ refused addr values ↔
      p.isFont = true ∧ ∃ k, values[k]? = some value ∧ p = Place.ofNat (addr.toNat + k) := by
  simp only [refused, List.mem_filterMap, Prod.exists, List.mem_zipIdx_iff_getElem?,
    Place.isFont_iff]
  constructor
  · rintro ⟨stored, k, hk, hsome⟩
    split at hsome
    · rename_i hfont
      cases hsome
      exact ⟨hfont, k, hk, rfl⟩
    · cases hsome
  · rintro ⟨hfont, k, hk, rfl⟩
    exact ⟨value, k, hk, if_pos hfont⟩

/-- Bytes that are no more than memory has places are refused at a place of their own. -/
theorem pairwise_refused {addr : UInt16} {values : List UInt8} (hlength : values.length ≤ 4096) :
    (refused addr values).Pairwise fun r s => r.2 ≠ s.2 := by
  rw [refused, List.pairwise_filterMap, List.pairwise_iff_getElem]
  intro j k hj hk hjk r hr s hs
  rw [List.length_zipIdx] at hj hk
  simp only [List.getElem_zipIdx, Option.ite_none_right_eq_some, Option.some.injEq] at hr hs
  rcases hr with ⟨-, rfl⟩
  rcases hs with ⟨-, rfl⟩
  intro hplace
  have heq := Place.ofNat_add_inj (by omega) (by omega) hplace
  omega

end Memory

/-- The bytes that are told to have been dropped are those that the font refuses. -/
theorem Event.dropped_eq_map (addr : UInt16) (values : List UInt8) :
    Event.dropped addr values =
      (Memory.refused addr values).map fun r => .writeDropped r.1 r.2 := by
  induction values generalizing addr with
  | nil => rfl
  | cons value rest ih =>
    unfold Event.dropped
    rw [Memory.refused_cons, ih]
    split <;> rfl

theorem Event.nodup_dropped {addr : UInt16} {values : List UInt8} (hlength : values.length ≤ 4096) :
    (Event.dropped addr values).Nodup := by
  rw [dropped_eq_map, List.Nodup, List.pairwise_map]
  refine (Memory.pairwise_refused hlength).imp ?_
  intro r s hplace hevent
  rw [Event.writeDropped.injEq] at hevent
  exact hplace hevent.2

/-! ## Lines -/

namespace Machine

/-- The line that tells where a running machine is and what it finds there. -/
def headline (m : Machine) (op : Opcode) : Level × String :=
  let found := Hex.text 3 m.pc.toNat ++ "  " ++ Hex.text 4 op.word.toNat
  match Instruction.decode op with
  | some ins => (.trace, found ++ "  " ++ ins.text)
  | none => (.debug, found ++ "  ignored unrecognised opcode")

/-- The bytes that a word asks to be stored from the index register on. -/
def requested (m : Machine) (op : Opcode) : List UInt8 :=
  let vx := m.getV (operand op.x)
  if op.family = 0xF ∧ op.kk = 0x33 then [vx / 100, vx / 10 % 10, vx % 10]
  else if op.family = 0xF ∧ op.kk = 0x55 then m.v.toList.take (op.x.toNat + 1)
  else []

/-- The lines of warning that a word gives rise to. The address in them is that of the word. -/
def warnings (m : Machine) (op : Opcode) : List (Level × String) :=
  let here := Hex.text 3 m.pc.toNat
  let ignored :=
    if op.word = 0x00EE ∧ m.sp = 0 then
      [(.warn, "RET at " ++ here ++ " with an empty call stack was ignored")]
    else if op.family = 0x2 ∧ m.sp = 16 then
      [(.warn, "CALL " ++ Hex.text 3 op.addr.toNat ++ " at " ++ here
        ++ " would exceed 16 nested calls and was ignored")]
    else []
  ignored ++ (Memory.refused m.i (m.requested op)).map fun (value, p) =>
    (.warn, "dropped write of " ++ Hex.text 2 value.toNat ++ " to font address "
      ++ Hex.text 3 p.val)

/-! ## The events behind the lines -/

/-- The event that a running machine begins a step with. -/
def opening (m : Machine) (op : Opcode) : Event :=
  match Instruction.decode op with
  | some ins => .executing m.pc op ins
  | none => .unrecognised m.pc op

/-- The event of a return or a call that is ignored. -/
def ignored (m : Machine) (op : Opcode) : List Event :=
  if op.word = 0x00EE ∧ m.sp = 0 then [.returnIgnored m.pc]
  else if op.family = 0x2 ∧ m.sp = 16 then [.callIgnored op.addr m.pc]
  else []

/-- The events that a word gives rise to behind the first. -/
def warned (m : Machine) (op : Opcode) : List Event :=
  m.ignored op ++ Event.dropped m.i (m.requested op)

theorem line_opening (m : Machine) (op : Opcode) : (m.opening op).line = m.headline op := by
  unfold opening headline
  cases Instruction.decode op with
  | none => rfl
  | some ins => rfl

theorem map_line_warned (m : Machine) (op : Opcode) :
    (m.warned op).map Event.line = m.warnings op := by
  rw [warned, List.map_append, Event.dropped_eq_map, List.map_map]
  unfold warnings ignored
  split
  · rfl
  · split
    · rfl
    · rfl

theorem level_opening_ne (m : Machine) (op : Opcode) : (m.opening op).level ≠ .warn := by
  unfold opening
  cases Instruction.decode op with
  | none => simp [Event.level]
  | some ins => simp [Event.level]

theorem length_requested_le (m : Machine) (op : Opcode) : (m.requested op).length ≤ 4096 := by
  unfold requested
  split
  · show 3 ≤ 4096
    omega
  · split
    · rw [List.length_take, Vector.length_toList]
      omega
    · exact Nat.zero_le _

variable {op : Opcode}

/-- Only words that encode a store ask for bytes to be stored. -/
theorem requested_eq_nil (m : Machine)
    (h : ∀ ins, Instruction.decode op = some ins → ins.touches ≠ some .memory) :
    m.requested op = [] := by
  have hdigits : ¬ (op.family = 0xF ∧ op.kk = 0x33) := by
    intro ⟨hfamily, hkk⟩
    exact h (.storeBcd op.x) (Instruction.decode_of_hasFormat ⟨hfamily, hkk, rfl⟩) rfl
  have hregisters : ¬ (op.family = 0xF ∧ op.kk = 0x55) := by
    intro ⟨hfamily, hkk⟩
    exact h (.storeRegisters op.x) (Instruction.decode_of_hasFormat ⟨hfamily, hkk, rfl⟩) rfl
  simp only [requested, if_neg hdigits, if_neg hregisters]

/-- Only words that encode a call or a return may be ignored. -/
theorem ignored_eq_nil (m : Machine)
    (h : ∀ ins, Instruction.decode op = some ins → ins.touches ≠ some .callStack) :
    m.ignored op = [] := by
  have hret : ¬ (op.word = 0x00EE ∧ m.sp = 0) := by
    intro ⟨hword, _⟩
    exact h .ret (Instruction.decode_of_hasFormat hword) rfl
  have hcall : ¬ (op.family = 0x2 ∧ m.sp = 16) := by
    intro ⟨hfamily, _⟩
    exact h (.call op.addr) (Instruction.decode_of_hasFormat ⟨hfamily, rfl⟩) rfl
  rw [ignored, if_neg hret, if_neg hcall]

theorem ignored_of_ret (m : Machine) (hword : op.word = 0x00EE) :
    m.ignored op = if m.sp = 0 then [.returnIgnored m.pc] else [] := by
  simp [ignored, hword, Instruction.family_eq_zero (.inr hword)]

theorem ignored_of_call (m : Machine) (hfamily : op.family = 0x2) :
    m.ignored op = if m.sp = 16 then [.callIgnored op.addr m.pc] else [] := by
  have hword : op.word ≠ 0x00EE := by
    intro hword
    rw [Instruction.family_eq_zero (.inr hword)] at hfamily
    cases hfamily
  simp [ignored, hword, hfamily]

theorem eq_of_mem_ignored {m : Machine} {event : Event} (h : event ∈ m.ignored op) :
    event = .returnIgnored m.pc ∨ event = .callIgnored op.addr m.pc := by
  unfold ignored at h
  split at h
  · exact .inl (List.mem_singleton.1 h)
  · split at h
    · exact .inr (List.mem_singleton.1 h)
    · cases h

/-- Behind the first event there is what is ignored and what is dropped. -/
theorem cases_of_mem_warned {m : Machine} {event : Event} (h : event ∈ m.warned op) :
    event = .returnIgnored m.pc ∨ event = .callIgnored op.addr m.pc ∨
      ∃ r ∈ Memory.refused m.i (m.requested op), event = .writeDropped r.1 r.2 := by
  rcases List.mem_append.1 h with hignored | hdropped
  · rcases eq_of_mem_ignored hignored with hret | hcall
    · exact .inl hret
    · exact .inr (.inl hcall)
  · rw [Event.dropped_eq_map] at hdropped
    rcases List.mem_map.1 hdropped with ⟨r, hr, hevent⟩
    exact .inr (.inr ⟨r, hr, hevent.symm⟩)

/-- A byte is told to have been dropped, and told so once, if the font refuses it. -/
theorem count_warned (m : Machine) {value : UInt8} {p : Place}
    (h : (value, p) ∈ Memory.refused m.i (m.requested op)) :
    (m.warned op).count (.writeDropped value p) = 1 := by
  have hdropped : .writeDropped value p ∈ Event.dropped m.i (m.requested op) := by
    rw [Event.dropped_eq_map]
    exact List.mem_map_of_mem h
  have hignored : .writeDropped value p ∉ m.ignored op := by
    intro hmem
    rcases eq_of_mem_ignored hmem with hret | hcall
    · cases hret
    · cases hcall
  rw [warned, List.count_append, List.count_eq_zero.2 hignored, Nat.zero_add]
  exact List.count_eq_one_of_mem (Event.nodup_dropped (m.length_requested_le op)) hdropped

theorem isFont_of_mem_warned {m : Machine} {value : UInt8} {p : Place}
    (h : .writeDropped value p ∈ m.warned op) : p.isFont = true := by
  rcases cases_of_mem_warned h with hret | hcall | ⟨r, hr, hdropped⟩
  · cases hret
  · cases hcall
  · cases hdropped
    exact (Memory.mem_refused.1 hr).1

/-- There are warnings exactly if something is ignored or dropped. -/
theorem warned_ne_nil_iff (m : Machine) : m.warned op ≠ [] ↔
    op.word = 0x00EE ∧ m.sp = 0 ∨ op.family = 0x2 ∧ m.sp = 16 ∨
      ∃ k value, (m.requested op)[k]? = some value ∧
        (Place.ofNat (m.i.toNat + k)).isFont = true := by
  have hignored : m.ignored op ≠ [] ↔
      op.word = 0x00EE ∧ m.sp = 0 ∨ op.family = 0x2 ∧ m.sp = 16 := by
    unfold ignored
    split <;> simp_all
  have hdropped : Event.dropped m.i (m.requested op) ≠ [] ↔
      ∃ k value, (m.requested op)[k]? = some value ∧
        (Place.ofNat (m.i.toNat + k)).isFont = true := by
    rw [Event.dropped_eq_map, Ne, List.map_eq_nil_iff]
    constructor
    · intro hne
      rcases List.exists_mem_of_ne_nil _ hne with ⟨⟨value, p⟩, hmem⟩
      rcases Memory.mem_refused.1 hmem with ⟨hfont, k, hk, rfl⟩
      exact ⟨k, value, hk, hfont⟩
    · rintro ⟨k, value, hk, hfont⟩
      exact List.ne_nil_of_mem (Memory.mem_refused.2 ⟨hfont, k, hk, rfl⟩)
  rw [warned, Ne, List.append_eq_nil_iff, Decidable.not_and_iff_or_not, ← or_assoc]
  exact or_congr hignored hdropped

theorem level_of_mem_warned {m : Machine} {event : Event} (h : event ∈ m.warned op) :
    event.level = .warn := by
  rcases cases_of_mem_warned h with rfl | rfl | ⟨r, -, rfl⟩
  · rfl
  · rfl
  · rfl

/-- A running machine warns of something exactly if there is something to warn of. -/
theorem exists_warn_iff (m : Machine) :
    (∃ line ∈ (m.opening op :: m.warned op).map Event.line, line.1 = .warn) ↔
      m.warned op ≠ [] := by
  constructor
  · rintro ⟨line, hline, hwarn⟩
    rcases List.mem_cons.1 hline with rfl | hlater
    · exact absurd hwarn (m.level_opening_ne op)
    · rcases List.mem_map.1 hlater with ⟨event, hevent, -⟩
      exact List.ne_nil_of_mem hevent
  · intro hne
    rcases List.exists_mem_of_ne_nil _ hne with ⟨event, hevent⟩
    exact ⟨event.line, List.mem_map_of_mem (List.mem_cons_of_mem _ hevent),
      level_of_mem_warned hevent⟩

/-! ## Returns and calls -/

variable {m n : Machine} {addr : UInt16} {events : List Event}

theorem ret_tells (h : m.ret = .ok (n, events)) (hsp : m.sp.toNat ≤ 16) :
    events = if m.sp = 0 then [.returnIgnored (m.pc - 2)] else [] := by
  rcases ret_cases h hsp with ⟨hempty, -, rfl⟩ | ⟨hne, -, rfl, -⟩
  · rw [if_pos hempty]
  · rw [if_neg hne]

theorem call_tells (h : m.call addr = .ok (n, events)) (hsp : m.sp.toNat ≤ 16) :
    events = if m.sp = 16 then [.callIgnored addr (m.pc - 2)] else [] := by
  rcases call_cases h hsp with ⟨hfull, -, rfl⟩ | ⟨hlt, rfl, -⟩
  · rw [if_pos hfull]
  · have hne : m.sp ≠ 16 := by
      intro hfull
      rw [hfull] at hlt
      exact absurd hlt (by decide)
    rw [if_neg hne]

end Machine

/-! ## Steps -/

namespace Console

variable {ρ : Type} [WordSource ρ] {c d : Console ρ} {pad : Keypad} {op : Opcode}
  {ins : Instruction} {events : List Event}

/-- What a word asks to be stored goes to its places, and what is dropped is told. -/
theorem execute_requested (hdecode : Instruction.decode op = some ins)
    (hins : ins.touches = some .memory) (h : c.fetched.execute pad ins = .ok (d, events)) :
    d.machine.memory = c.machine.memory.storeAll c.machine.i (c.machine.requested op) ∧
      events = Event.dropped c.machine.i (c.machine.requested op) := by
  have hformat := Instruction.hasFormat_of_decode hdecode
  rcases Instruction.of_touches_memory hins with ⟨x, rfl⟩ | ⟨x, rfl⟩
  · rcases hformat with ⟨hfamily, hkk, rfl⟩
    simp only [execute, Machine.register_operand op.x_lt] at h
    cases h
    simp only [Machine.requested, hfamily, hkk, and_self, if_true]
    exact ⟨rfl, rfl⟩
  · rcases hformat with ⟨hfamily, hkk, rfl⟩
    have hkk' : (0x55 : UInt8) ≠ 0x33 := by decide
    simp only [execute, Machine.rangeEnd_of_lt op.x_lt] at h
    cases h
    simp only [Machine.requested, hfamily, hkk, hkk', and_false, and_self, if_true, if_false]
    exact ⟨rfl, rfl⟩

/-- A call or a return that is ignored is told, with the address before the fetch. -/
theorem execute_ignored (hdecode : Instruction.decode op = some ins)
    (hins : ins.touches = some .callStack) (hsp : c.machine.sp.toNat ≤ 16)
    (h : c.fetched.execute pad ins = .ok (d, events)) : events = c.machine.ignored op := by
  have hformat := Instruction.hasFormat_of_decode hdecode
  have hpc : c.fetched.machine.pc - 2 = c.machine.pc := UInt16.add_sub_cancel _ _
  rcases Instruction.of_touches_callStack hins with rfl | ⟨addr, rfl⟩
  · rcases execute_ret h with ⟨m, hm, -⟩
    have htold := Machine.ret_tells hm hsp
    rw [hpc] at htold
    rw [c.machine.ignored_of_ret hformat]
    exact htold
  · rcases hformat with ⟨hfamily, rfl⟩
    rcases execute_call h with ⟨m, hm, -⟩
    have htold := Machine.call_tells hm hsp
    rw [hpc] at htold
    rw [c.machine.ignored_of_call hfamily]
    exact htold

/-- An instruction tells the warnings of its word. -/
theorem execute_warned (hdecode : Instruction.decode op = some ins)
    (hsp : c.machine.sp.toNat ≤ 16) (h : c.fetched.execute pad ins = .ok (d, events)) :
    events = c.machine.warned op := by
  unfold Machine.warned
  by_cases hmemory : ins.touches = some .memory
  · rw [c.machine.ignored_eq_nil (by simp [hdecode, hmemory])]
    exact (execute_requested hdecode hmemory h).2
  · rw [c.machine.requested_eq_nil (by simp [hdecode, hmemory]), Event.dropped, List.append_nil]
    by_cases hstack : ins.touches = some .callStack
    · exact execute_ignored hdecode hstack hsp h
    · rw [c.machine.ignored_eq_nil (by simp [hdecode, hstack])]
      exact execute_silent h hstack hmemory

/-- A running machine tells the address and the word that it fetches, and then the warnings of the
word. -/
theorem step_told_eq (hmode : c.machine.mode = .running) (hsp : c.machine.sp.toNat ≤ 16)
    (h : c.step pad = .ok (d, events)) :
    events = c.machine.opening c.machine.peek :: c.machine.warned c.machine.peek := by
  cases step_eq_ok_iff.1 h with
  | waiting hawaits hpad => simp [hmode] at hawaits
  | resumed hawaits hpad hr => simp [hmode] at hawaits
  | unrecognised _ hdecode =>
    rw [Machine.opening, hdecode, Machine.warned, c.machine.ignored_eq_nil (by simp [hdecode]),
      c.machine.requested_eq_nil (by simp [hdecode])]
    rfl
  | executed _ hdecode hexec =>
    rw [Machine.opening, hdecode, ← execute_warned hdecode hsp hexec]

/-- A running machine stores what its word asks for. -/
theorem step_memory_eq (hmode : c.machine.mode = .running)
    (h : c.step pad = .ok (d, events)) :
    d.machine.memory =
      c.machine.memory.storeAll c.machine.i (c.machine.requested c.machine.peek) := by
  cases step_eq_ok_iff.1 h with
  | waiting hawaits hpad => simp [hmode] at hawaits
  | resumed hawaits hpad hr => simp [hmode] at hawaits
  | unrecognised _ hdecode =>
    rw [c.machine.requested_eq_nil (by simp [hdecode])]
    rfl
  | @executed ins _ _ _ hdecode hexec =>
    by_cases hmemory : ins.touches = some .memory
    · exact (execute_requested hdecode hmemory hexec).1
    · rw [c.machine.requested_eq_nil (by simp [hdecode, hmemory])]
      exact (execute_footprint hexec).memory hmemory

theorem step_lines (hmode : c.machine.mode = .running) (hsp : c.machine.sp.toNat ≤ 16)
    (h : c.step pad = .ok (d, events)) :
    events.map Event.line =
      c.machine.headline c.machine.peek :: c.machine.warnings c.machine.peek := by
  rw [step_told_eq hmode hsp h, List.map_cons, Machine.line_opening, Machine.map_line_warned]

/-- Of the bytes that a running machine is asked to store, those that the font refuses are told of
once each, and the others are stored. -/
theorem step_tells_or_stores (hmode : c.machine.mode = .running) (hsp : c.machine.sp.toNat ≤ 16)
    (h : c.step pad = .ok (d, events)) {k : Nat} {value : UInt8} {p : Place}
    (hk : (c.machine.requested c.machine.peek)[k]? = some value)
    (hp : p = Place.ofNat (c.machine.i.toNat + k)) :
    if p.isFont then events.count (.writeDropped value p) = 1
    else d.machine.memory.bytes.get p = value ∧ ∀ other, .writeDropped other p ∉ events := by
  have hopening : ∀ value p, c.machine.opening c.machine.peek ≠ .writeDropped value p := by
    intro value p hevent
    exact c.machine.level_opening_ne _ (congrArg Event.level hevent)
  rw [step_told_eq hmode hsp h, hp]
  split
  · rename_i hfont
    rw [List.count_cons_of_ne (hopening _ _)]
    exact c.machine.count_warned (Memory.mem_refused.2 ⟨hfont, k, hk, rfl⟩)
  · rename_i hfont
    constructor
    · rcases List.getElem?_eq_some_iff.1 hk with ⟨hlt, hvalue⟩
      have hlength := c.machine.length_requested_le c.machine.peek
      rw [step_memory_eq hmode h, Memory.get_storeAll _ hlength hlt, if_neg hfont]
      exact hvalue
    · intro other hother
      rcases List.mem_cons.1 hother with hfirst | hwarned
      · exact absurd hfirst.symm (hopening _ _)
      · exact hfont (Machine.isFont_of_mem_warned hwarned)

theorem step_warns_iff (hmode : c.machine.mode = .running) (hsp : c.machine.sp.toNat ≤ 16)
    (h : c.step pad = .ok (d, events)) :
    (∃ line ∈ events.map Event.line, line.1 = .warn) ↔
      c.machine.peek.word = 0x00EE ∧ c.machine.sp = 0 ∨
      c.machine.peek.family = 0x2 ∧ c.machine.sp = 16 ∨
      ∃ k value, (c.machine.requested c.machine.peek)[k]? = some value ∧
        (Place.ofNat (c.machine.i.toNat + k)).isFont := by
  rw [step_told_eq hmode hsp h, Machine.exists_warn_iff, Machine.warned_ne_nil_iff]

theorem step_of_awaiting_up {x : UInt8} (hmode : c.machine.mode = .awaitingKey x)
    (hup : ∀ key : UInt8, key.toNat ≤ 15 → pad.isDown key = false) :
    ∃ d, c.step pad = .ok (d, []) := by
  have hnone : pad.firstPressed = none := by
    rw [Keypad.firstPressed_eq_none_iff]
    intro key
    by_cases hkey : key.toNat ≤ 15
    · exact hup key hkey
    · exact Keypad.isDown_of_le pad (by omega)
  exact ⟨_, step_eq_ok_iff.2 (.waiting hmode hnone)⟩

theorem step_of_awaiting_down {x : UInt8} (hmode : c.machine.mode = .awaitingKey x)
    (hx : x.toNat ≤ 15) {key : Key} (hdown : pad.isDown key.val.toUInt8 = true)
    (hlower : ∀ lower : UInt8, lower.toNat < key.val → pad.isDown lower = false) :
    ∃ d, c.step pad = .ok (d, [.keyStored key x]) := by
  have hsome := Keypad.firstPressed_eq_some_iff.2 ⟨hdown, hlower⟩
  exact ⟨_, step_eq_ok_iff.2 (.resumed hmode hsome (Machine.register_of_lt (by omega)))⟩

/-- The lines of a step tell what the step does. A machine that awaits a key tells nothing while no
key is down, and otherwise which key is the lowest one and where it is stored. A running machine
tells first the address and the word that it fetches, the word being that of the bytes at two
places. Then it warns if it ignores a return or a call, at this same address, or else of every byte
that it is asked to store where the font is, in the order of the bytes; and it tells nothing more.
So each byte that it is asked to store is in memory afterwards or has a warning of its own, and
there is no warning if nothing is ignored or dropped. -/
theorem step_lines_tell_effects :
    (∀ (c : Console ρ) (pad : Keypad) (x : UInt8),
      c.machine.mode = .awaitingKey x →
      (∀ key : UInt8, key.toNat ≤ 15 → pad.isDown key = false) →
      ∃ d, c.step pad = .ok (d, [])) ∧
    (∀ (c : Console ρ) (pad : Keypad) (x : UInt8) (key : Key),
      c.machine.mode = .awaitingKey x → x.toNat ≤ 15 → pad.isDown key.val.toUInt8 = true →
      (∀ lower : UInt8, lower.toNat < key.val → pad.isDown lower = false) →
      ∃ d told, c.step pad = .ok (d, told) ∧
        told.map Event.line = [(.debug, "key " ++ Hex.text 1 key.val
          ++ " pressed, storing it in V" ++ Hex.text 1 x.toNat)]) ∧
    ∀ (c : Console ρ) (pad : Keypad) (op : Opcode),
      c.machine.mode = .running → c.machine.sp.toNat ≤ 16 →
      op.word.toNat =
        256 * (c.machine.memory.bytes.get (Place.ofNat c.machine.pc.toNat)).toNat +
          (c.machine.memory.bytes.get (Place.ofNat (c.machine.pc.toNat + 1))).toNat →
      ∃ d told, c.step pad = .ok (d, told) ∧
        told.map Event.line = c.machine.headline op :: c.machine.warnings op ∧
        (∀ k value p, (c.machine.requested op)[k]? = some value →
          p = Place.ofNat (c.machine.i.toNat + k) →
          if 0x050 ≤ p.val ∧ p.val ≤ 0x09F then told.count (.writeDropped value p) = 1
          else d.machine.memory.bytes.get p = value ∧ ∀ other, .writeDropped other p ∉ told) ∧
        ((∃ line ∈ told.map Event.line, line.1 = .warn) ↔
          op.word = 0x00EE ∧ c.machine.sp = 0 ∨ op.family = 0x2 ∧ c.machine.sp = 16 ∨
          ∃ k value, (c.machine.requested op)[k]? = some value ∧
            0x050 ≤ (Place.ofNat (c.machine.i.toNat + k)).val ∧
            (Place.ofNat (c.machine.i.toNat + k)).val ≤ 0x09F) := by
  refine ⟨?_, ?_, ?_⟩
  · intro c pad x hmode hup
    exact step_of_awaiting_up hmode hup
  · intro c pad x key hmode hx hdown hlower
    rcases step_of_awaiting_down hmode hx hdown hlower with ⟨d, hstep⟩
    exact ⟨d, _, hstep, rfl⟩
  · intro c pad op hmode hsp hop
    have hsound : c.machine.Sound := ⟨hsp, by simp [hmode]⟩
    rcases step_succeeds hsound pad with ⟨⟨d, told⟩, hstep⟩
    rw [eq_peek hop]
    simp only [← Place.isFont_iff]
    exact ⟨d, told, hstep, step_lines hmode hsp hstep,
      fun k value p hk hp => step_tells_or_stores hmode hsp hstep hk hp,
      step_warns_iff hmode hsp hstep⟩

/-- A console at the last address there is, about to store four registers, of which the first two
would go to the end of the font. -/
def overwriting : Console CyclicWords where
  machine := { Machine.fresh with
    v := .replicate 16 0x2A
    i := 0xF09E
    pc := 0xFFFF
    memory := ((⟨.replicate 4096 0⟩ : Memory).put 0xFFF 0xF3).put 0x000 0x55 }
  screen := .fresh
  random := ⟨#[], 0⟩

/-- The same console while it awaits a key for the last register. -/
def pausing : Console CyclicWords :=
  { overwriting with machine := { overwriting.machine with mode := .awaitingKey 15 } }

/-- Two bytes are told to have been dropped and the third is stored; while a key is awaited, nothing
is told before it is down. -/
theorem overwriting_tells :
    (∃ d told, overwriting.step .released = .ok (d, told) ∧
      told.map Event.line =
        [(.trace, "FFFF  F355  LD [I], V3"),
          (.warn, "dropped write of 2A to font address 09E"),
          (.warn, "dropped write of 2A to font address 09F")] ∧
      d.machine.memory.bytes.get 0x0A0 = 0x2A) ∧
    (∃ d, pausing.step .released = .ok (d, [])) ∧
    ∃ d told, pausing.step (Keypad.released.press 11) = .ok (d, told) ∧
      told.map Event.line = [(.debug, "key B pressed, storing it in VF")] := by
  rcases step_lines_tell_effects (ρ := CyclicWords) with ⟨hup, hdown, hrunning⟩
  refine ⟨?_, ?_, ?_⟩
  · have hword : (⟨0xF355⟩ : Opcode).word.toNat =
        256 * (overwriting.machine.memory.bytes.get
            (Place.ofNat overwriting.machine.pc.toNat)).toNat +
          (overwriting.machine.memory.bytes.get
            (Place.ofNat (overwriting.machine.pc.toNat + 1))).toNat := by
      decide +kernel
    rcases hrunning overwriting .released ⟨0xF355⟩ rfl (by decide) hword with
      ⟨d, told, hstep, hlines, hbytes, -⟩
    have hstored := hbytes 2 0x2A 0x0A0 (by decide +kernel) (by decide)
    rw [if_neg (by decide)] at hstored
    refine ⟨d, told, hstep, hlines.trans ?_, hstored.1⟩
    decide +kernel
  · have hnone : Keypad.released.firstPressed = none := by decide
    exact hup pausing .released 15 rfl fun key _ => Keypad.firstPressed_eq_none_iff.1 hnone key
  · have hsome : (Keypad.released.press 11).firstPressed = some 11 := by decide
    rcases Keypad.firstPressed_eq_some_iff.1 hsome with ⟨hkey, hlower⟩
    rcases hdown pausing _ 15 11 rfl (by decide) hkey hlower with ⟨d, told, hstep, hlines⟩
    refine ⟨d, told, hstep, hlines.trans ?_⟩
    decide +kernel

end Console

end Chip8VM
