import Chip8VM.Proofs.Safety

/-!
# Nesting of calls and returns

A call pushes the address behind it, and whatever runs above it cannot reach the slots below: other
calls write at or above the depth that they find, returns write nothing, and no other instruction
comes near the call stack. So the step that brings the depth of a call back is a return to the
address behind that call.

* `step_stackMove`: what one step does to the call stack.
* `course_shelters`: as long as the depth stays above that of a call, its return address and the
  slots below are kept.
* `calls_nest`: calls and returns nest, and those that the ends of the call stack refuse do nothing.
-/

namespace Chip8VM.Console

open Machine (Slot)

variable {ρ : Type}

/-- What a step from `c` to `d` does to the call stack. -/
inductive StackMove (c d : Console ρ) : Prop where
  /-- Nothing. -/
  | kept (hsp : d.machine.sp = c.machine.sp) (hstack : d.machine.stack = c.machine.stack)
  /-- A call puts the address behind it into the slot at the old depth. -/
  | pushed {addr : UInt16} (hcall : c.machine.upcoming? = some (.call addr))
      (hsp : d.machine.sp.toNat = c.machine.sp.toNat + 1)
      (hstack : ∀ j : Slot, d.machine.stack.get j =
        if j.val = c.machine.sp.toNat then c.machine.pc + 2 else c.machine.stack.get j)
  /-- A return goes to the address in the slot at the new depth. -/
  | popped (hret : c.machine.upcoming? = some .ret)
      (hsp : d.machine.sp.toNat + 1 = c.machine.sp.toNat)
      (hstack : d.machine.stack = c.machine.stack)
      (hpc : ∀ j : Slot, j.val = d.machine.sp.toNat → d.machine.pc = c.machine.stack.get j)

variable [WordSource ρ]

/-! ## One step -/

theorem executed_call_stackMove {c d : Console ρ} {pad : Keypad} {addr : UInt16}
    {events : List Event} (hcall : c.machine.upcoming? = some (.call addr))
    (hexec : c.fetched.execute pad (.call addr) = .ok (d, events))
    (hsp : c.machine.sp.toNat ≤ 16) : StackMove c d := by
  rcases execute_call hexec with ⟨m, hm, rfl⟩
  rcases Machine.call_cases hm hsp with ⟨-, rfl, -⟩ | ⟨hlt, -, rfl⟩
  · -- the call is refused
    exact .kept rfl rfl
  · have hroom : c.machine.sp.toNat < 16 := hlt
    refine .pushed hcall (Machine.depth_add_one hroom) ?_
    intro j
    show (c.machine.stack.set c.machine.sp.toNat (c.machine.pc + 2) hroom)[j.val] = _
    rw [Vector.getElem_set]
    by_cases hj : j.val = c.machine.sp.toNat
    · rw [if_pos hj.symm, if_pos hj]
    · rw [if_neg (fun h => hj h.symm), if_neg hj]
      rfl

theorem executed_ret_stackMove {c d : Console ρ} {pad : Keypad} {events : List Event}
    (hret : c.machine.upcoming? = some .ret)
    (hexec : c.fetched.execute pad .ret = .ok (d, events))
    (hsp : c.machine.sp.toNat ≤ 16) : StackMove c d := by
  rcases execute_ret hexec with ⟨m, hm, rfl⟩
  rcases Machine.ret_cases hm hsp with ⟨-, rfl, -⟩ | ⟨hne, hslot, -, rfl⟩
  · -- the return is refused
    exact .kept rfl rfl
  · have hone : (c.machine.sp - 1).toNat + 1 = c.machine.sp.toNat := Machine.depth_sub_one hne
    refine .popped hret hone rfl ?_
    intro j hj
    have hval : j.val = (c.machine.sp - 1).toNat := hj
    have hlast : j.val = c.machine.sp.toNat - 1 := by omega
    have hj' : j = ⟨c.machine.sp.toNat - 1, hslot⟩ := Fin.ext hlast
    rw [hj']
    rfl

/-- A step from a sound console leaves the call stack alone, or it is a call or a return. -/
theorem step_stackMove {c d : Console ρ} {pad : Keypad} {events : List Event}
    (hc : c.machine.Sound) (h : c.step pad = .ok (d, events)) : StackMove c d := by
  cases step_eq_ok_iff.1 h with
  | waiting hmode hpad => exact .kept rfl rfl
  | resumed hmode hpad hr => exact .kept rfl rfl
  | unrecognised hmode hdecode => exact .kept rfl rfl
  | @executed ins _ _ hmode hdecode hexec =>
    have hup := Machine.upcoming?_eq_some_iff.2 ⟨hmode, hdecode⟩
    rcases Classical.em (ins.touches = some .callStack) with ht | ht
    · rcases Instruction.of_touches_callStack ht with rfl | ⟨addr, rfl⟩
      · exact executed_ret_stackMove hup hexec hc.sp_le
      · exact executed_call_stackMove hup hexec hc.sp_le
    · have hfoot := execute_footprint hexec
      exact .kept (hfoot.sp ht) (hfoot.stack ht)

/-! ## Whole runs -/

/-- A machine keeps the return address of a call made at depth `d`, and below it the slots of the
call stack as they were before the call. -/
structure Shelters (before : Machine) (d : Slot) (m : Machine) : Prop where
  top : m.stack.get d = before.pc + 2
  below : ∀ j : Slot, j < d → m.stack.get j = before.stack.get j

/-- Steps from above the depth of a call keep what is at that depth and below. -/
theorem step_shelters {c e : Console ρ} {before : Machine} {pad : Keypad} {d : Slot}
    {events : List Event} (hc : c.machine.Sound) (h : c.step pad = .ok (e, events))
    (habove : d.val < c.machine.sp.toNat) (hd : Shelters before d c.machine) :
    Shelters before d e.machine := by
  cases step_stackMove hc h with
  | kept hsp hstack =>
    constructor
    · rw [hstack]
      exact hd.top
    · rw [hstack]
      exact hd.below
  | pushed hcall hsp hstack =>
    -- the slot that is written lies above those in question
    constructor
    · rw [hstack, if_neg (by omega)]
      exact hd.top
    · intro j hj
      have hlt : j.val < d.val := hj
      rw [hstack, if_neg (by omega)]
      exact hd.below j hj
  | popped hret hsp hstack hpc =>
    constructor
    · rw [hstack]
      exact hd.top
    · rw [hstack]
      exact hd.below

/-- Once a call at depth `d` has been made, its return address and the slots below are kept for as
long as the depth stays above `d`. -/
theorem course_shelters {s : Nat → Console ρ} {pads : Nat → Keypad} (hs : IsCourse s pads)
    (hsound : ∀ k, (s k).machine.Sound) {d : Slot} (hd : (s 0).machine.sp.toNat = d.val) {n : Nat}
    (habove : ∀ k, 1 ≤ k → k ≤ n + 1 → d.val < (s k).machine.sp.toNat) :
    Shelters (s 0).machine d (s (n + 1)).machine := by
  induction n with
  | zero =>
    rcases hs 0 with ⟨events, hstep⟩
    have hrise := habove 1 (by omega) (by omega)
    cases step_stackMove (hsound 0) hstep with
    | kept hsp hstack =>
      rw [hsp] at hrise
      omega
    | pushed hcall hsp hstack =>
      constructor
      · rw [hstack, if_pos hd.symm]
      · intro j hj
        have hlt : j.val < d.val := hj
        rw [hstack, if_neg (by omega)]
    | popped hret hsp hstack hpc =>
      simp only [Nat.zero_add] at hsp
      omega
  | succ n ih =>
    rcases hs (n + 1) with ⟨events, hstep⟩
    have hbefore := ih fun k hk hkn => habove k hk (by omega)
    exact step_shelters (hsound (n + 1)) hstep (habove (n + 1) (by omega) (by omega)) hbefore

/-- The step that brings the depth of a call back is a return. It goes to the address behind the
call, and the slots below the depth are as they were before the call. -/
theorem course_returns {s : Nat → Console ρ} {pads : Nat → Keypad} (hs : IsCourse s pads)
    (hsound : ∀ k, (s k).machine.Sound) {d : Slot} (hd : (s 0).machine.sp.toNat = d.val) {n : Nat}
    (habove : ∀ k, 1 ≤ k → k ≤ n + 1 → d.val < (s k).machine.sp.toNat)
    (hback : (s (n + 1 + 1)).machine.sp.toNat = d.val) :
    (s (n + 1)).machine.upcoming? = some .ret ∧
      (s (n + 1 + 1)).machine.pc = (s 0).machine.pc + 2 ∧
      ∀ j : Slot, j < d → (s (n + 1 + 1)).machine.stack.get j = (s 0).machine.stack.get j := by
  have hkept := course_shelters hs hsound hd habove
  have hlast := habove (n + 1) (by omega) (by omega)
  rcases hs (n + 1) with ⟨events, hstep⟩
  cases step_stackMove (hsound (n + 1)) hstep with
  | kept hsp hstack =>
    rw [hsp] at hback
    omega
  | pushed hcall hsp hstack => omega
  | popped hret hsp hstack hpc =>
    refine ⟨hret, ?_, ?_⟩
    · rw [hpc d hback.symm]
      exact hkept.top
    · intro j hj
      rw [hstack]
      exact hkept.below j hj

/-! ## Nesting -/

theorem step_call_of_lt {c d : Console ρ} {addr : UInt16} {pad : Keypad} {events : List Event}
    (hcall : c.machine.upcoming? = some (.call addr)) (hsp : c.machine.sp.toNat < 16)
    (h : c.step pad = .ok (d, events)) : d.machine.sp.toNat = c.machine.sp.toNat + 1 := by
  rcases Machine.upcoming?_eq_some_iff.1 hcall with ⟨hmode, hdecode⟩
  have hfetched : c.fetched.machine.sp.toNat < 16 := hsp
  rw [step_of_decoded hmode hdecode] at h
  simp only [execute, Machine.call_of_lt hfetched] at h
  cases h
  exact Machine.depth_add_one hsp

theorem step_call_of_full {c : Console ρ} {addr : UInt16}
    (hcall : c.machine.upcoming? = some (.call addr)) (hsp : c.machine.sp = 16) (pad : Keypad) :
    ∃ events, c.step pad = .ok (c.fetched, events) := by
  rcases Machine.upcoming?_eq_some_iff.1 hcall with ⟨hmode, hdecode⟩
  have hfetched : c.fetched.machine.sp = 16 := hsp
  rw [step_of_decoded hmode hdecode]
  simp only [execute, Machine.call_of_full hfetched]
  exact ⟨_, rfl⟩

theorem step_ret_of_empty {c : Console ρ} (hret : c.machine.upcoming? = some .ret)
    (hsp : c.machine.sp = 0) (pad : Keypad) : ∃ events, c.step pad = .ok (c.fetched, events) := by
  rcases Machine.upcoming?_eq_some_iff.1 hret with ⟨hmode, hdecode⟩
  have hfetched : c.fetched.machine.sp = 0 := hsp
  rw [step_of_decoded hmode hdecode]
  simp only [execute, Machine.ret_of_empty hfetched]
  exact ⟨_, rfl⟩

/-- Calls and returns nest. From a call at a depth below sixteen the console runs on for ever,
whatever keys are down, and in every such run the first step that brings the depth back, if there is
one, is a return to the address behind the call with the slots below as they were. A call at depth
sixteen and a return at depth zero change no slot and no depth and go on behind themselves. -/
theorem calls_nest :
    (∀ (c : Console ρ) (pads : Nat → Keypad) (addr : UInt16),
      c.machine.sp.toNat < 16 → c.machine.upcoming? = some (.call addr) →
      (∃ s : Nat → Console ρ, s 0 = c ∧ IsCourse s pads) ∧
      ∀ s : Nat → Console ρ, s 0 = c → IsCourse s pads →
        ∀ n, (∀ k, 1 ≤ k → k ≤ n → c.machine.sp < (s k).machine.sp) →
          (s (n + 1)).machine.sp = c.machine.sp →
          (s n).machine.upcoming? = some .ret ∧
          (s (n + 1)).machine.pc = c.machine.pc + 2 ∧
          ∀ j : Slot, j.val < c.machine.sp.toNat →
            (s (n + 1)).machine.stack.get j = c.machine.stack.get j) ∧
    (∀ (c : Console ρ) (pad : Keypad) (addr : UInt16),
      c.machine.sp = 16 → c.machine.upcoming? = some (.call addr) →
      ∃ d events, c.step pad = .ok (d, events) ∧ d.machine.stack = c.machine.stack ∧
        d.machine.sp = c.machine.sp ∧ d.machine.pc = c.machine.pc + 2) ∧
    (∀ (c : Console ρ) (pad : Keypad),
      c.machine.sp = 0 → c.machine.upcoming? = some .ret →
      ∃ d events, c.step pad = .ok (d, events) ∧ d.machine.stack = c.machine.stack ∧
        d.machine.sp = c.machine.sp ∧ d.machine.pc = c.machine.pc + 2) := by
  refine ⟨?_, ?_, ?_⟩
  · intro c pads addr hsp hcall
    have hsound : c.machine.Sound := by
      refine ⟨by omega, ?_⟩
      intro x hx
      rw [(Machine.upcoming?_eq_some_iff.1 hcall).1] at hx
      cases hx
    constructor
    · exact exists_course hsound pads
    · intro s h0 hs n habove hback
      subst h0
      cases n with
      | zero =>
        -- the call itself raises the depth
        rcases hs 0 with ⟨events, hstep⟩
        have hrise := step_call_of_lt hcall hsp hstep
        rw [hback] at hrise
        omega
      | succ n =>
        have hd : ∀ k, 1 ≤ k → k ≤ n + 1 → (s 0).machine.sp.toNat < (s k).machine.sp.toNat :=
          fun k hk hkn => UInt8.lt_iff_toNat_lt.1 (habove k hk hkn)
        exact course_returns hs (hs.sound hsound) (d := ⟨_, hsp⟩) rfl hd
          (congrArg UInt8.toNat hback)
  · intro c pad addr hsp hcall
    rcases step_call_of_full hcall hsp pad with ⟨events, hstep⟩
    exact ⟨c.fetched, events, hstep, rfl, rfl, rfl⟩
  · intro c pad hsp hret
    rcases step_ret_of_empty hret hsp pad with ⟨events, hstep⟩
    exact ⟨c.fetched, events, hstep, rfl, rfl, rfl⟩

/-- A console about to call a subroutine at 204 that consists of a return. -/
def calling : Console CyclicWords where
  machine := { Machine.fresh with
    memory := (((⟨.replicate 4096 0⟩ : Memory).put 0x200 0x22).put 0x201 0x04).put 0x205 0xEE }
  screen := .fresh
  random := ⟨#[], 0⟩

/-- The same console inside the subroutine. -/
def called : Console CyclicWords :=
  { calling.fetched with
    machine := { calling.fetched.machine with
      stack := calling.machine.stack.set 0 0x202, sp := 1, pc := 0x204 } }

/-- The return of the subroutine brings the depth back, and so goes behind its call. -/
theorem calling_returns :
    calling.machine.sp.toNat < 16 ∧ calling.machine.upcoming? = some (.call 0x204) ∧
      ∃ s : Nat → Console CyclicWords, s 0 = calling ∧ IsCourse s (fun _ => .released) ∧
        calling.machine.sp < (s 1).machine.sp ∧ (s 2).machine.sp = calling.machine.sp ∧
        (s 1).machine.upcoming? = some .ret ∧ (s 2).machine.pc = 0x202 := by
  have hcall : calling.machine.upcoming? = some (.call 0x204) := by decide +kernel
  have hret : called.machine.upcoming? = some .ret := by decide +kernel
  have hfirst : calling.step .released =
      .ok (called, [.executing 0x200 calling.machine.peek (.call 0x204)]) := by
    rw [step_of_decoded rfl (Machine.upcoming?_eq_some_iff.1 hcall).2]
    rfl
  have hsecond : called.step .released =
      .ok ({ called.fetched with
          machine := { called.fetched.machine with sp := 0, pc := 0x202 } },
        [.executing 0x204 called.machine.peek .ret]) := by
    rw [step_of_decoded rfl (Machine.upcoming?_eq_some_iff.1 hret).2]
    rfl
  rcases calls_nest.1 calling (fun _ => .released) 0x204 (by decide) hcall with
    ⟨⟨s, h0, hs⟩, hnest⟩
  have h1 : s 1 = called := by
    rcases hs 0 with ⟨events, hstep⟩
    rw [h0, hfirst, Except.ok.injEq, Prod.mk.injEq] at hstep
    exact hstep.1.symm
  have h2 : (s 2).machine.sp = 0 := by
    rcases hs 1 with ⟨events, hstep⟩
    rw [h1, hsecond, Except.ok.injEq, Prod.mk.injEq] at hstep
    rw [← hstep.1]
  have habove : calling.machine.sp < (s 1).machine.sp := by
    rw [h1]
    decide
  have hback : (s (1 + 1)).machine.sp = calling.machine.sp := h2
  have hend := hnest s h0 hs 1 (fun k hk hk1 => (show k = 1 by omega) ▸ habove) hback
  exact ⟨by decide, hcall, s, h0, hs, habove, hback, hend.1, hend.2.1⟩

end Chip8VM.Console
