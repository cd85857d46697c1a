import Chip8VM.Proofs.Turns

/-!
# Held keys

What a session makes of the keyboard. Of all that happens there it takes up two things: which poll
closes it, and which of the sixteen keys are held after each poll before that one, a key being held
if the last event that speaks of it says so. Scripts of input that agree in these are the same
session, but for the names of keys that are on none of the sixteen.

* `isHeld`: whether a key is held after some events.
* `isDown_feed`: the keypad of a session shows which keys are held.
* `play_congr_keypad`: the turns of a session depend on the keypads alone.
* `Trims`: events that can be left out of a poll.
* `run_congr_held`: two scripts that agree in closing and in the keys that are held.
-/

namespace Chip8VM

/-- Whether an event tells of a name on no key. -/
def Event.isKeyUnmapped : Event → Bool
  | .keyUnmapped _ => true
  | _ => false

namespace Desktop

/-! ## Definitions -/

/-- What an event says of a key: that it went down, or that it went up. -/
def Input.says? (key : Key) : Input → Option Bool
  | .keyDown (some name) => if Key.ofName? name = some key then some true else none
  | .keyUp (some name) => if Key.ofName? name = some key then some false else none
  | _ => none

/-- What the last event that speaks of a key says of it. -/
def lastSaid? (inputs : List Input) (key : Key) : Option Bool :=
  inputs.reverse.findSome? (Input.says? key)

/-- Whether a key is held after events that began with all keys up. -/
def isHeld (inputs : List Input) (key : Key) : Bool :=
  (lastSaid? inputs key).getD false

/-- A report without the names of keys that are on none of the sixteen. -/
def Report.withoutNames (report : Report) : Report :=
  { report with events := report.events.filter fun event => !event.isKeyUnmapped }

/-! ## What is said of a key -/

theorem lastSaid?_append (first second : List Input) (key : Key) :
    lastSaid? (first ++ second) key = (lastSaid? second key).or (lastSaid? first key) := by
  rw [lastSaid?, List.reverse_append, List.findSome?_append]
  rfl

theorem lastSaid?_singleton (input : Input) (key : Key) :
    lastSaid? [input] key = input.says? key := by
  simp [lastSaid?]

theorem isHeld_append (first second : List Input) (key : Key) :
    isHeld (first ++ second) key = (lastSaid? second key).getD (isHeld first key) := by
  unfold isHeld
  rw [lastSaid?_append]
  cases lastSaid? second key <;> rfl

theorem ofName?_space : Key.ofName? "Space" = none := by
  decide +kernel

/-! ## The keypad -/

/-- An event leaves a key as it says, and otherwise as it was. -/
theorem isDown_apply (pad : Keypad) (input : Input) (key : Key) :
    (input.apply pad).1.isDown key.val.toUInt8 =
      (input.says? key).getD (pad.isDown key.val.toUInt8) := by
  cases input with
  | quit | other => rfl
  | keyDown name | keyUp name =>
    cases name with
    | none => rfl
    | some name =>
      by_cases hspace : name = "Space"
      · subst hspace
        simp [Input.apply, Input.says?, ofName?_space]
      · simp only [Input.apply, hspace, if_false, Input.says?, Keypad.isDown_setNamed]
        split <;> rfl

/-- The keypad shows what was said last of each key. -/
theorem isDown_feed (pad : Keypad) (inputs : List Input) (key : Key) :
    (Headless.feed pad inputs).isDown key.val.toUInt8 =
      (lastSaid? inputs key).getD (pad.isDown key.val.toUInt8) := by
  induction inputs generalizing pad with
  | nil => rfl
  | cons input rest ih =>
    rw [feed_cons, ih, isDown_apply, ← List.singleton_append, lastSaid?_append,
      lastSaid?_singleton]
    cases lastSaid? rest key <;> rfl

/-- The keys that are held after some events say all about the keypad. -/
theorem feed_congr {inputs inputs' : List Input}
    (hheld : ∀ key, isHeld inputs key = isHeld inputs' key) :
    Headless.feed .released inputs = Headless.feed .released inputs' := by
  have hup : ∀ key, Keypad.released.isDown key = false :=
    Keypad.firstPressed_eq_none_iff.1 (by decide)
  apply Keypad.ext_isDown
  intro key
  by_cases hkey : key.toNat < 16
  · have hnamed : key = (⟨key.toNat, hkey⟩ : Key).val.toUInt8 := by simp
    have hsame := hheld ⟨key.toNat, hkey⟩
    unfold isHeld at hsame
    rw [hnamed, isDown_feed, isDown_feed, hup, hsame]
  · rw [Keypad.isDown_of_le _ (by omega), Keypad.isDown_of_le _ (by omega)]

theorem feed_append (pad : Keypad) (first second : List Input) :
    Headless.feed pad (first ++ second) = Headless.feed (Headless.feed pad first) second := by
  unfold Headless.feed
  rw [List.filterMap_append, List.foldl_append]

/-! ## Reports without names -/

@[simp] theorem after_withoutNames (rest : Report) (frames : List Presented)
    (events : List Event) : (rest.after frames events).withoutNames =
      rest.withoutNames.after frames (events.filter fun event => !event.isKeyUnmapped) := by
  simp [Report.after, Report.withoutNames]

@[simp] theorem afterStep_withoutNames (rest : Report) :
    rest.afterStep.withoutNames = rest.withoutNames.afterStep := rfl

/-- An event tells of nothing but names. -/
theorem apply_events (pad : Keypad) (input : Input) :
    (input.apply pad).2.filter (fun event => !event.isKeyUnmapped) = [] := by
  cases input with
  | quit | other => rfl
  | keyDown name | keyUp name =>
    cases name with
    | none => rfl
    | some name =>
      simp only [Input.apply]
      split
      · rfl
      · unfold Keypad.setNamed
        cases Key.ofName? name <;> rfl

theorem listen_events (pad : Keypad) (inputs : List Input) :
    (listen pad inputs).events.filter (fun event => !event.isKeyUnmapped) = [] := by
  induction inputs generalizing pad with
  | nil => rfl
  | cons input rest ih =>
    unfold listen
    split
    · rfl
    · rw [List.filter_append, apply_events, ih]
      rfl

/-- Listening tells of nothing but names. -/
theorem isKeyUnmapped_of_mem_listen {pad : Keypad} {inputs : List Input} {event : Event}
    (h : event ∈ (listen pad inputs).events) : event.isKeyUnmapped = true := by
  simpa using List.filter_eq_nil_iff.1 (listen_events pad inputs) event h

/-! ## Turns -/

theorem any_closes_eq {inputs inputs' : List Input} {rest rest' : List (List Input)}
    (h : openPolls (inputs :: rest) = openPolls (inputs' :: rest')) :
    inputs.any Input.closes = inputs'.any Input.closes := by
  cases hclosing : inputs.any Input.closes <;> cases hclosing' : inputs'.any Input.closes
  · rfl
  · rw [openPolls_of_open rest hclosing, openPolls_of_closing rest' hclosing'] at h
    cases h
  · rw [openPolls_of_closing rest hclosing, openPolls_of_open rest' hclosing'] at h
    cases h
  · rfl

/-- The turns of a session depend on its keypads alone, the names of keys that are told apart. -/
theorem play_congr_keypad {refused : Option (Service × String)} {polls polls' : List (List Input)}
    {made : Nat} {s : Session} (hlength : polls.length = polls'.length)
    (hclosing : openPolls polls = openPolls polls')
    (hpads : ∀ k < openPolls polls, Headless.feed s.keypad (polls.take (k + 1)).flatten =
      Headless.feed s.keypad (polls'.take (k + 1)).flatten) :
    (s.play refused made polls).withoutNames = (s.play refused made polls').withoutNames := by
  induction polls generalizing polls' made s with
  | nil => rw [List.eq_nil_of_length_eq_zero hlength.symm]
  | cons inputs rest ih =>
    obtain _ | ⟨inputs', rest'⟩ := polls'
    · cases hlength
    have hsame := any_closes_eq hclosing
    cases hpresent : s.present refused made with
    | error report =>
      rw [Session.play_of_refused hpresent, Session.play_of_refused hpresent]
    | ok turn =>
      obtain ⟨shown, frames⟩ := turn
      cases hcloses : inputs.any Input.closes with
      | true =>
        rw [hcloses] at hsame
        rw [Session.play_of_closing hpresent hcloses, Session.play_of_closing hpresent hsame.symm]
        simp only [after_withoutNames, List.filter_append, listen_events]
      | false =>
        rw [hcloses] at hsame
        rw [openPolls_of_open rest hcloses] at hpads
        have hkeypad : shown.keypad = s.keypad := Session.present_keypad hpresent
        -- the keys are the same after the first poll, so both consoles make the same step
        have hfirst : Headless.feed shown.keypad inputs = Headless.feed shown.keypad inputs' := by
          rw [hkeypad]
          simpa using hpads 0 (Nat.succ_pos _)
        cases hstep : shown.step (Headless.feed shown.keypad inputs) with
        | error fault =>
          rw [Session.play_of_fault hpresent hcloses hstep,
            Session.play_of_fault hpresent hsame.symm (hfirst ▸ hstep)]
          simp only [after_withoutNames, listen_events]
        | ok next =>
          obtain ⟨after, events⟩ := next
          have hafter : after.keypad = Headless.feed s.keypad inputs :=
            hkeypad ▸ Session.step_keypad hstep
          have hafter' : after.keypad = Headless.feed s.keypad inputs' := by
            rw [hafter, ← hkeypad, hfirst]
          have hrest : (after.play refused (made + 1) rest).withoutNames =
              (after.play refused (made + 1) rest').withoutNames := by
            apply ih (Nat.succ.inj hlength)
            · rw [openPolls_of_open rest hcloses, openPolls_of_open rest' hsame.symm] at hclosing
              exact Nat.succ.inj hclosing
            · intro k hk
              calc Headless.feed after.keypad (rest.take (k + 1)).flatten
                  = Headless.feed s.keypad ((inputs :: rest).take (k + 1 + 1)).flatten := by
                    rw [hafter, ← feed_append]
                    rfl
                _ = Headless.feed s.keypad ((inputs' :: rest').take (k + 1 + 1)).flatten :=
                    hpads (k + 1) (Nat.succ_lt_succ hk)
                _ = Headless.feed after.keypad (rest'.take (k + 1)).flatten := by
                    rw [hafter', ← feed_append]
                    rfl
          rw [Session.play_of_step hpresent hcloses hstep,
            Session.play_of_step hpresent hsame.symm (hfirst ▸ hstep)]
          simp only [after_withoutNames, afterStep_withoutNames, List.filter_append,
            listen_events, hrest]

/-! ## Sessions -/

theorem serve_congr {refused : Option (Service × String)} {polls polls' : List (List Input)}
    (scale : UInt32) {console : Console ChaCha}
    (h : ((Session.start console).play refused 0 polls).withoutNames =
      ((Session.start console).play refused 0 polls').withoutNames) :
    ((⟨polls, refused⟩ : Desktop).serve scale console).withoutNames =
      ((⟨polls', refused⟩ : Desktop).serve scale console).withoutNames := by
  -- only a session whose services are granted looks at its input
  have hturns : ({ ((Session.start console).play refused 0 polls).after []
        [.windowOpened scale] with window := some (Window.ofScale scale) } : Report).withoutNames =
      ({ ((Session.start console).play refused 0 polls').after []
        [.windowOpened scale] with
          window := some (Window.ofScale scale) } : Report).withoutNames := by
    show ({ ((Session.start console).play refused 0 polls).withoutNames.after []
      [.windowOpened scale] with window := some (Window.ofScale scale) } : Report) = _
    rw [h]
    rfl
  rcases refused with _ | ⟨service, message⟩
  · exact hturns
  · cases service with
    | desktop | video | window | canvas | events => rfl
    | texture | update | copy => exact hturns

/-- Sessions whose keypads agree after every poll before the closing one are seen alike. -/
theorem run_congr {refused : Option (Service × String)} {polls polls' : List (List Input)}
    (options : Options) (rom : RomFile) (entropy : UInt64) (hlength : polls.length = polls'.length)
    (hclosing : openPolls polls = openPolls polls')
    (hheld : ∀ k < openPolls polls, ∀ key,
      isHeld (polls.take (k + 1)).flatten key = isHeld (polls'.take (k + 1)).flatten key) :
    ((⟨polls, refused⟩ : Desktop).run options rom entropy).withoutNames =
      ((⟨polls', refused⟩ : Desktop).run options rom entropy).withoutNames := by
  unfold Desktop.run
  dsimp only
  cases rom.load (Console.ofSeed (options.seed.getD entropy)).machine with
  | error failure => rfl
  | ok loaded =>
    dsimp only
    rw [after_withoutNames, after_withoutNames]
    congr 1
    apply serve_congr
    exact play_congr_keypad hlength hclosing fun k hk => feed_congr (hheld k hk)

/-! ## Events that make no difference -/

/-- Events that come to nothing: after the events `past`, the events `inputs` do what `fewer` does,
which lacks one or two of them. -/
inductive Trims (past : List Input) : (inputs fewer : List Input) → Prop where
  /-- Something that is no key happened. -/
  | other : Trims past [.other] []
  /-- A key without a name went down. -/
  | namelessDown : Trims past [.keyDown none] []
  /-- A key without a name went up. -/
  | namelessUp : Trims past [.keyUp none] []
  /-- A key that is none of the sixteen went down, such as the space bar. -/
  | unmappedDown {name : String} (hname : Key.ofName? name = none) (hopen : name ≠ "Escape") :
      Trims past [.keyDown (some name)] []
  /-- A key that is none of the sixteen went up, such as the space bar or the escape key. -/
  | unmappedUp {name : String} (hname : Key.ofName? name = none) :
      Trims past [.keyUp (some name)] []
  /-- A key went down that was held already. -/
  | repeated {name : String} {key : Key} (hname : Key.ofName? name = some key)
      (hheld : isHeld past key = true) : Trims past [.keyDown (some name)] []
  /-- A key that was not held went down and up again, and nothing else was said of it between. -/
  | tap {down up : String} {key : Key} {between : List Input} (hdown : Key.ofName? down = some key)
      (hup : Key.ofName? up = some key) (hfree : isHeld past key = false)
      (hbetween : lastSaid? between key = none) :
      Trims past (.keyDown (some down) :: between ++ [.keyUp (some up)]) between

theorem closes_eq_false_of_ofName? {name : String} {key : Key}
    (hname : Key.ofName? name = some key) : (Input.keyDown (some name)).closes = false := by
  have hescape : Key.ofName? "Escape" = none := by decide +kernel
  have hne : name ≠ "Escape" := by
    rintro rfl
    rw [hescape] at hname
    cases hname
  simpa [Input.closes] using hne

theorem Trims.any_closes {past inputs fewer : List Input} (h : Trims past inputs fewer) :
    inputs.any Input.closes = fewer.any Input.closes := by
  cases h with
  | other | namelessDown | namelessUp | unmappedUp => rfl
  | unmappedDown _ hopen => simpa [Input.closes] using hopen
  | repeated hname => simp [closes_eq_false_of_ofName? hname]
  | tap hdown _ _ _ =>
    have hkeyUp : ∀ up, (Input.keyUp (some up)).closes = false := fun _ => rfl
    simp [closes_eq_false_of_ofName? hdown, hkeyUp]

theorem isHeld_singleton (past : List Input) (input : Input) (key : Key) :
    isHeld (past ++ [input]) key = (input.says? key).getD (isHeld past key) := by
  rw [isHeld_append, lastSaid?_singleton]

theorem Trims.isHeld_eq {past inputs fewer : List Input} (h : Trims past inputs fewer) (key : Key) :
    isHeld (past ++ inputs) key = isHeld (past ++ fewer) key := by
  cases h with
  | other | namelessDown | namelessUp =>
    rw [isHeld_singleton, List.append_nil]
    rfl
  | unmappedDown hname _ =>
    rw [isHeld_singleton, List.append_nil]
    simp [Input.says?, hname]
  | unmappedUp hname =>
    rw [isHeld_singleton, List.append_nil]
    simp [Input.says?, hname]
  | repeated hname hheld =>
    rw [isHeld_singleton, List.append_nil]
    simp only [Input.says?, hname]
    split
    · next hkey =>
      cases hkey
      exact hheld.symm
    · rfl
  | @tap down up tapped between hdown hup hfree hbetween =>
    rw [isHeld_append, isHeld_append, List.cons_append, ← List.singleton_append,
      lastSaid?_append, lastSaid?_append, lastSaid?_singleton, lastSaid?_singleton]
    by_cases hkey : tapped = key
    · subst hkey
      simp [Input.says?, hup, hbetween, hfree]
    · simp [Input.says?, hdown, hup, hkey]

theorem openPolls_congr {inputs fewer : List Input}
    (hcloses : inputs.any Input.closes = fewer.any Input.closes)
    (before after : List (List Input)) :
    openPolls (before ++ inputs :: after) = openPolls (before ++ fewer :: after) := by
  simp only [openPolls, List.findIdx_append, List.findIdx_cons, hcloses]

/-- What is held does not depend on events that come to nothing. -/
theorem Trims.isHeld_take {before after : List (List Input)} {first inputs fewer last : List Input}
    (h : Trims (before.flatten ++ first) inputs fewer) (k : Nat) (key : Key) :
    isHeld ((before ++ (first ++ inputs ++ last) :: after).take k).flatten key =
      isHeld ((before ++ (first ++ fewer ++ last) :: after).take k).flatten key := by
  rw [List.take_append, List.take_append]
  cases hlast : k - before.length with
  | zero => rfl
  | succ m =>
    have hbefore : before.take k = before := List.take_of_length_le (by omega)
    simp only [List.take_succ_cons, hbefore, List.flatten_append, List.flatten_cons,
      ← List.append_assoc]
    -- the events that follow the trimmed ones say the same of the key on both sides
    rw [isHeld_append _ (after.take m).flatten, isHeld_append _ last, h.isHeld_eq,
      ← isHeld_append _ last, ← isHeld_append _ (after.take m).flatten]

/-- What is seen of a session depends on its input only through the poll that closes it and through
the keys that are held after each poll before that one. Two scripts of as many polls that agree in
these are the same session, whatever the program, the options and the service that is refused: the
same failure, window and texture, as many polls and steps, the same frames, and the same events but
for the names of keys that are on none of the sixteen. So nothing changes when something that is no
key, a key without a name or on none of the sixteen, a key that is held already going down, or a tap
within one poll is taken out of a script. -/
theorem run_congr_held (refused : Option (Service × String)) (options : Options) (rom : RomFile)
    (entropy : UInt64) :
    (∀ polls polls' : List (List Input), polls.length = polls'.length →
      polls.findIdx? (fun inputs => inputs.any Input.closes) =
        polls'.findIdx? (fun inputs => inputs.any Input.closes) →
      (∀ k < openPolls polls, ∀ key,
        isHeld (polls.take (k + 1)).flatten key = isHeld (polls'.take (k + 1)).flatten key) →
      ((⟨polls, refused⟩ : Desktop).run options rom entropy).withoutNames =
        ((⟨polls', refused⟩ : Desktop).run options rom entropy).withoutNames) ∧
    (∀ (before after : List (List Input)) (first inputs fewer last : List Input),
      Trims (before.flatten ++ first) inputs fewer →
      ((⟨before ++ (first ++ inputs ++ last) :: after, refused⟩ : Desktop).run options rom
          entropy).withoutNames =
        ((⟨before ++ (first ++ fewer ++ last) :: after, refused⟩ : Desktop).run options rom
          entropy).withoutNames) := by
  constructor
  · intro polls polls' hlength hclosing hheld
    have hopen : openPolls polls = openPolls polls' := by
      rw [openPolls, openPolls, List.findIdx_eq_getD_findIdx?, List.findIdx_eq_getD_findIdx?,
        hclosing, hlength]
    exact run_congr options rom entropy hlength hopen hheld
  · intro before after first inputs fewer last htrims
    have hlength : (before ++ (first ++ inputs ++ last) :: after).length =
        (before ++ (first ++ fewer ++ last) :: after).length := by
      simp only [List.length_append, List.length_cons]
    have hcloses : (first ++ inputs ++ last).any Input.closes =
        (first ++ fewer ++ last).any Input.closes := by
      simp only [List.any_append, htrims.any_closes]
    exact run_congr options rom entropy hlength (openPolls_congr hcloses before after)
      fun k _ key => htrims.isHeld_take (k + 1) key

/-- A script with a key of another case, names on no key, a tap and an escape key that goes up. -/
def hasty : List (List Input) :=
  [[.keyDown (some "q"), .other, .keyDown (some "é")],
    [.keyDown (some "Z"), .keyUp (some "Space"), .keyUp (some "z"), .keyUp (some "Escape")],
    [.keyDown (some "Escape"), .keyDown (some "1")], [.quit]]

/-- A script with the same keys held. -/
def calm : List (List Input) :=
  [[.keyDown (some "Q")], [], [.quit], [.keyDown (some "V")]]

theorem hasty_like_calm :
    (hasty.length = calm.length ∧
      hasty.findIdx? (fun inputs => inputs.any Input.closes) =
        calm.findIdx? (fun inputs => inputs.any Input.closes) ∧
      (∀ k < openPolls hasty, ∀ key,
        isHeld (hasty.take (k + 1)).flatten key = isHeld (calm.take (k + 1)).flatten key) ∧
      ((⟨hasty, some (.update, "lost")⟩ : Desktop).run { rom := "r" } (.file drawing)
          7).withoutNames =
        ((⟨calm, some (.update, "lost")⟩ : Desktop).run { rom := "r" } (.file drawing)
          7).withoutNames) ∧
    (Trims ([[.keyDown (some "q")]].flatten ++ [])
        (.keyDown (some "Z") :: [.keyUp (some "Space")] ++ [.keyUp (some "z")])
        [.keyUp (some "Space")] ∧
      ((⟨[[.keyDown (some "q")], [.keyDown (some "Z"), .keyUp (some "Space"), .keyUp (some "z")]],
          none⟩ : Desktop).run { rom := "r" } (.file drawing) 7).withoutNames =
        ((⟨[[.keyDown (some "q")], [.keyUp (some "Space")]], none⟩ : Desktop).run { rom := "r" }
          (.file drawing) 7).withoutNames) := by
  have hclosing : hasty.findIdx? (fun inputs => inputs.any Input.closes) =
      calm.findIdx? (fun inputs => inputs.any Input.closes) := by decide +kernel
  have hheld : ∀ k < openPolls hasty, ∀ key,
      isHeld (hasty.take (k + 1)).flatten key = isHeld (calm.take (k + 1)).flatten key := by
    decide +kernel
  have htap : Trims ([[.keyDown (some "q")]].flatten ++ [])
      (.keyDown (some "Z") :: [.keyUp (some "Space")] ++ [.keyUp (some "z")])
      [.keyUp (some "Space")] := by
    have hkey : Key.ofName? "Z" = some 12 ∧ Key.ofName? "z" = some 12 := by decide +kernel
    exact .tap hkey.1 hkey.2 (by decide +kernel) (by decide +kernel)
  have htrimmed := (run_congr_held none { rom := "r" } (.file drawing) 7).2
    [[.keyDown (some "q")]] [] [] _ _ [] htap
  simp only [List.cons_append, List.nil_append, List.append_nil] at htrimmed
  exact ⟨⟨rfl, hclosing, hheld,
      (run_congr_held (some (.update, "lost")) { rom := "r" } (.file drawing) 7).1 hasty calm rfl
        hclosing hheld⟩,
    htap, htrimmed⟩

end Desktop

end Chip8VM
