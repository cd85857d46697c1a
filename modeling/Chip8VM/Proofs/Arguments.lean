import Chip8VM.CommandLine.Argument

/-!
# The looks of arguments

Which texts look like a setting, and which like a path or a value: what `Argument.ofString` makes of
the arguments that a command line is written with, and what it can have been given.

* `ofString_of_plain`, `ofString_apart`, `ofString_attached`: what these arguments look like.
* `of_ofString_setting`, `of_ofString_not_option`: the arguments that look like this.
-/

namespace Chip8VM.CommandLine

theorem Setting.ofName?_eq_some_iff {cs : List Char} {s : Setting} :
    Setting.ofName? cs = some s ↔ s.name.toList = cs := by
  constructor
  · intro h
    have hname := List.find?_some h
    exact eq_of_beq hname
  · rintro rfl
    cases s <;> decide

theorem Setting.equals_notMem_name (s : Setting) : '=' ∉ s.name.toList := by
  cases s <;> decide

namespace Argument

theorem ofLong_attached (s : Setting) (value : String) :
    ofLong (s.name.toList ++ '=' :: value.toList) = .setting s (some value) := by
  have hname : ∀ c ∈ s.name.toList, decide (c ≠ '=') = true := by
    intro c hc
    have hne : c ≠ '=' := fun he => s.equals_notMem_name (he ▸ hc)
    simpa using hne
  have htake : (s.name.toList ++ '=' :: value.toList).takeWhile (· ≠ '=') = s.name.toList := by
    rw [List.takeWhile_append_of_pos hname]
    simp
  have hdrop : (s.name.toList ++ '=' :: value.toList).dropWhile (· ≠ '=') =
      '=' :: value.toList := by
    rw [List.dropWhile_append_of_pos hname]
    simp
  have hfound : Setting.ofName? s.name.toList = some s := Setting.ofName?_eq_some_iff.2 rfl
  unfold ofLong
  simp only [htake, hdrop, hfound, String.ofList_toList]

/-- What an option with a long name is if it is a setting. -/
theorem of_ofLong {body : List Char} {s : Setting} {attached : Option String}
    (h : ofLong body = .setting s attached) :
    (attached = none ∧ body = s.name.toList) ∨
      ∃ value, attached = some value ∧ body = s.name.toList ++ '=' :: value.toList := by
  have hbody := List.takeWhile_append_dropWhile (p := (· ≠ '=')) (l := body)
  unfold ofLong at h
  cases hname : Setting.ofName? (body.takeWhile (· ≠ '=')) with
  | none =>
    -- without such a setting the option is something else
    simp only [hname] at h
    split at h
    · split at h <;> cases h
    · split at h
      · split at h <;> cases h
      · cases h
  | some t =>
    have htake := Setting.ofName?_eq_some_iff.1 hname
    cases hdrop : body.dropWhile (· ≠ '=') with
    | nil =>
      simp only [hname, hdrop] at h
      cases h
      rw [← htake, hdrop, List.append_nil] at hbody
      exact .inl ⟨rfl, hbody.symm⟩
    | cons c value =>
      have hc : c = '=' := by
        have hstop := List.head?_dropWhile_not (· ≠ '=') body
        rw [hdrop] at hstop
        simpa using hstop
      simp only [hname, hdrop] at h
      cases h
      rw [← htake, hdrop, hc] at hbody
      exact .inr ⟨String.ofList value, rfl, by simpa using hbody.symm⟩

theorem ofString_of_plain {text : String} (h : text.toList.head? ≠ some '-') :
    ofString text = .plain text := by
  unfold ofString
  split
  · simp_all
  · simp_all
  · simp_all
  · rfl

theorem ofString_long {text : String} {body : List Char} (hne : body ≠ [])
    (h : text.toList = '-' :: '-' :: body) : ofString text = ofLong body := by
  unfold ofString
  rw [h]
  cases body with
  | nil => exact absurd rfl hne
  | cons c rest => rfl

theorem ofString_apart (s : Setting) : ofString ("--" ++ s.name) = .setting s none := by
  cases s <;> decide

theorem ofString_attached (s : Setting) (value : String) :
    ofString ("--" ++ s.name ++ "=" ++ value) = .setting s (some value) := by
  have hlong : ("--" ++ s.name ++ "=" ++ value).toList =
      '-' :: '-' :: (s.name.toList ++ '=' :: value.toList) := by simp
  rw [ofString_long (by simp) hlong]
  exact ofLong_attached s value

/-- What an argument is if it looks like a setting. -/
theorem of_ofString_setting {text : String} {s : Setting} {attached : Option String}
    (h : ofString text = .setting s attached) :
    (attached = none ∧ text = "--" ++ s.name) ∨
      ∃ value, attached = some value ∧ text = "--" ++ s.name ++ "=" ++ value := by
  unfold ofString at h
  split at h
  · cases h
  · rename_i body hne htext
    rcases of_ofLong h with ⟨hattached, rfl⟩ | ⟨value, hattached, rfl⟩
    · refine .inl ⟨hattached, String.toList_inj.1 ?_⟩
      rw [htext]
      simp
    · refine .inr ⟨value, hattached, String.toList_inj.1 ?_⟩
      rw [htext]
      simp
  · rename_i letter rest hne htext
    unfold ofShort at h
    split at h
    · cases h
    · split at h <;> cases h
  · cases h

/-- Whether an argument looks like an option. -/
def isOption : Argument → Bool
  | .separator | .plain _ => false
  | _ => true

theorem ofLong_isOption (body : List Char) : (ofLong body).isOption = true := by
  unfold ofLong
  dsimp only
  split
  · rfl
  · split
    · split <;> rfl
    · split
      · split <;> rfl
      · rfl

theorem ofShort_isOption (letter : Char) : (ofShort letter).isOption = true := by
  unfold ofShort
  split
  · rfl
  · split <;> rfl

/-- What an argument is if it does not look like an option. -/
theorem of_ofString_not_option {text : String} (h : (ofString text).isOption = false) :
    text = "--" ∨ (ofString text = .plain text ∧ (text = "-" ∨ text.toList.head? ≠ some '-')) := by
  unfold ofString at h ⊢
  split at h
  · exact .inl (String.toList_inj.1 ‹_›)
  · rw [ofLong_isOption] at h
    cases h
  · rw [ofShort_isOption] at h
    cases h
  · rename_i hseparator hlong hshort
    refine .inr ⟨rfl, ?_⟩
    cases htext : text.toList with
    | nil => exact .inr (by simp)
    | cons c rest =>
      by_cases hc : c = '-'
      · subst hc
        cases rest with
        | nil => exact .inl (String.toList_inj.1 htext)
        | cons d rest => exact absurd htext (hshort d rest)
      · exact .inr (by simpa using hc)

end Argument

end Chip8VM.CommandLine
