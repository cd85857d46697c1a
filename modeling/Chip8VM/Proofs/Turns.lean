import Chip8VM.Proofs.Headless

/-!
# Turns

What can happen at a turn of a session, said once. The frame that is news is shown or refused; then
the poll closes the session, or the console makes a step with the keys of the poll and the session
goes on to the next turn.

* `play_of_refused`, `play_nil`, `play_of_closing`, `play_of_fault`, `play_of_step`: a turn by what
  happens in it.
* `present_cases`, `present_keypad`: showing a frame takes the news away and leaves the rest alone,
  or it ends the session before anything is told.
* `step_of_console`: a session makes the step of its console and follows the tone.
-/

namespace Chip8VM.Desktop.Session

variable {refused : Option (Service × String)} {made : Nat} {s shown : Session}
  {frames : List Presented} {inputs : List Input} {rest : List (List Input)}

/-- A frame that cannot be shown ends the session. -/
theorem play_of_refused {report : Report} (hpresent : s.present refused made = .error report)
    (polls : List (List Input)) : s.play refused made polls = report := by
  cases polls <;> simp only [play, hpresent]

/-- Without polls that are left the session is closed. -/
theorem play_nil (hpresent : s.present refused made = .ok (shown, frames)) :
    s.play refused made [] = Report.after { polls := made + 1 } frames [.quit] := by
  simp only [play, hpresent]

/-- A poll may close the session. -/
theorem play_of_closing (hpresent : s.present refused made = .ok (shown, frames))
    (hclosing : inputs.any Input.closes = true) :
    s.play refused made (inputs :: rest) = Report.after { polls := made + 1 } frames
      ((listen shown.keypad inputs).events ++ [.quit]) := by
  simp only [play, hpresent, listen_isClosing, hclosing, if_true]

/-- A step that faults ends the session. -/
theorem play_of_fault (hpresent : s.present refused made = .ok (shown, frames))
    (hopen : inputs.any Input.closes = false) {fault : Fault}
    (hstep : shown.step (Headless.feed shown.keypad inputs) = .error fault) :
    s.play refused made (inputs :: rest) =
      Report.after { failure := some (.fault fault), polls := made + 1 } frames
        (listen shown.keypad inputs).events := by
  simp only [play, hpresent, listen_isClosing, hopen, listen_keypad _ hopen, hstep,
    Bool.false_eq_true, if_false]

/-- A step with the keys of the poll leads to the next turn. -/
theorem play_of_step (hpresent : s.present refused made = .ok (shown, frames))
    (hopen : inputs.any Input.closes = false) {after : Session} {events : List Event}
    (hstep : shown.step (Headless.feed shown.keypad inputs) = .ok (after, events)) :
    s.play refused made (inputs :: rest) =
      (after.play refused (made + 1) rest).afterStep.after frames
        ((listen shown.keypad inputs).events ++ events) := by
  simp only [play, hpresent, listen_isClosing, hopen, listen_keypad _ hopen, hstep,
    Bool.false_eq_true, if_false]

/-- Showing a frame leaves the keys alone. -/
theorem present_keypad (h : s.present refused made = .ok (shown, frames)) :
    shown.keypad = s.keypad := by
  unfold present at h
  split at h
  · cases h
    rfl
  · split at h <;> cases h
    rfl

/-- At the beginning of a turn the news is taken away, or the session ends without a step and
without a word. -/
theorem present_cases (refused : Option (Service × String)) (made : Nat) (c : Console ChaCha)
    (isNew : Bool) (keypad : Keypad) (isSounding : Bool) :
    (∃ frames, (⟨c.withNews isNew, keypad, isSounding⟩ : Session).present refused made =
      .ok (⟨c.withNews false, keypad, isSounding⟩, frames)) ∨
    ∃ report, (⟨c.withNews isNew, keypad, isSounding⟩ : Session).present refused made =
      .error report ∧ report.steps = 0 ∧ report.events = [] := by
  cases isNew with
  | false => exact .inl ⟨[], rfl⟩
  | true =>
    rcases refused with _ | ⟨service, message⟩
    · exact .inl ⟨_, rfl⟩
    · cases service with
      | texture | update | copy => exact .inr ⟨_, rfl, rfl, rfl⟩
      | _ => exact .inl ⟨_, rfl⟩

/-- A session makes the step of its console, whose news it has taken away. It tells what the step
tells, and then the tone if this is not as it was. -/
theorem step_of_console {c d : Console ChaCha} {pad : Keypad} {told : List Event}
    (hstep : c.step pad = .ok (d, told)) (keypad : Keypad) (isSounding : Bool) :
    (⟨c.withNews false, keypad, isSounding⟩ : Session).step pad =
      .ok (⟨d.withNews (Event.tellRedrawing told), pad, d.machine.isSounding⟩,
        told ++
          if d.machine.isSounding == isSounding then [] else [.tone d.machine.isSounding]) := by
  have hquiet : (c.withNews false).step pad =
      .ok (d.withNews (Event.tellRedrawing told), told) := by
    rw [Console.step_withNews, hstep]
    simp
  simp only [step, hquiet, bind, Except.bind]
  rfl

/-- A step leaves the keys as it was given them. -/
theorem step_keypad {pad : Keypad} {events : List Event} (h : s.step pad = .ok (shown, events)) :
    shown.keypad = pad := by
  unfold step at h
  simp only [bind_eq_ok, pure_eq_ok, Prod.mk.injEq] at h
  obtain ⟨_, -, rfl, -⟩ := h
  rfl

end Chip8VM.Desktop.Session
