import Mathlib.Data.List.Induction
import Chip8VM.Proofs.Bench
import Chip8VM.Proofs.Letters

/-!
# The history of a keypad

Which keys are down is told by the operations that were made on the keypad: a key is down if the
last operation for it pressed it. An operation names its key by number or by the character on it;
letters are the same in both cases, and no other characters are.

* `Key.names`: the names of a key, spelled out.
* `Key.ofName?_eq_some_iff`: they are the names under which a key is found.
* `isDown_apply`, `apply_told`: what one operation does to a key, and what it tells.
* `shows_operations`: all that can be seen of a keypad, told by its history.
-/

namespace Chip8VM

/-! ## Names -/

namespace Key

/-- Whether a name is that of the key with a given number: the one character on it, or this in lower
case. -/
def names (name : String) (key : Nat) : Bool :=
  "1234QWERASDFZXCV".toList[key]?.any fun c => name.toList = [c] ∨ name.toList = [c.toLower]

theorem toList_layout : layout.toList = "1234QWERASDFZXCV".toList := by rfl

theorem getElem?_layout (key : Key) : layout.toList[key.val]? = some (layout.get key) := by
  have hlt : key.val < layout.toList.length := by simp
  rw [List.getElem?_eq_getElem hlt, Vector.getElem_toList]
  rfl

theorem names_iff {name : String} {key : Key} : names name key.val = true ↔
    name.toList = [layout.get key] ∨ name.toList = [(layout.get key).toLower] := by
  unfold names
  rw [← toList_layout, getElem?_layout]
  simp

/-- There are only capital letters and digits on the keys. -/
theorem toUpper_layout (key : Key) : (layout.get key).toUpper = layout.get key := by
  revert key
  decide +kernel

/-- No character is on two keys. -/
theorem layout_inj {i j : Key} (h : layout.get i = layout.get j) : i = j := by
  revert i j
  decide +kernel

theorem finIdxOf?_layout {c : Char} {key : Key} :
    layout.finIdxOf? c = some key ↔ layout.get key = c := by
  have hlist : layout.finIdxOf? c = layout.toList.finIdxOf? c := by
    simp [layout]
  rw [hlist]
  refine List.finIdxOf?_eq_some_iff.trans ⟨And.left, fun h => ⟨h, ?_⟩⟩
  intro j hj heq
  exact absurd (layout_inj (heq.trans h.symm)) (Fin.ne_of_lt hj)

/-- A key is found under its names and no others. -/
theorem ofName?_eq_some_iff {name : String} {key : Key} :
    ofName? name = some key ↔ names name key.val = true := by
  rw [names_iff]
  unfold ofName?
  split
  · next c hname =>
    rw [finIdxOf?_layout, eq_comm, toUpper_eq_iff_of_self (toUpper_layout key), hname]
    simp
  · next hname =>
    -- a name that is no single character is that of no key
    constructor
    · intro h
      cases h
    · rintro (h | h)
      · exact absurd h (hname _)
      · exact absurd h (hname _)

theorem ofName?_eq_none_iff {name : String} :
    ofName? name = none ↔ ∀ key : Key, names name key.val = false := by
  simp only [Option.eq_none_iff_forall_ne_some, ne_eq, ofName?_eq_some_iff, Bool.not_eq_true]

end Key

namespace Keypad

/-! ## Definitions -/

namespace Operation

/-- Whether an operation is for the key with a given number. -/
def addresses (key : UInt8) : Operation → Bool
  | .press pressed => pressed = key
  | .release released => released = key
  | .setNamed name _ => Key.names name key.toNat

/-- Whether an operation presses its key. -/
def presses : Operation → Bool
  | .press _ => true
  | .release _ => false
  | .setNamed _ isDown => isDown

/-- What an operation tells: a name on no key. -/
def complaint? : Operation → Option Event
  | .setNamed name _ =>
    if ∀ key : Key, Key.names name key.val = false then some (.keyUnmapped name) else none
  | .press _ | .release _ => none

/-- The last operation for a key, if there is one. -/
def last? (operations : List Operation) (key : UInt8) : Option Operation :=
  operations.reverse.find? (addresses key)

theorem last?_append_singleton (operations : List Operation) (operation : Operation)
    (key : UInt8) : last? (operations ++ [operation]) key =
      if operation.addresses key then some operation else last? operations key := by
  unfold last?
  rw [List.reverse_append, List.reverse_singleton, List.singleton_append, List.find?_cons]
  cases operation.addresses key <;> rfl

end Operation

/-- The keypad after operations that began with no key down, and what was told. -/
def replay (operations : List Operation) : Keypad × List Event :=
  operations.foldl
    (fun past operation =>
      ((past.1.apply operation).1, past.2 ++ (past.1.apply operation).2))
    (.released, [])

theorem replay_append_singleton (operations : List Operation) (operation : Operation) :
    replay (operations ++ [operation]) =
      (((replay operations).1.apply operation).1,
        (replay operations).2 ++ ((replay operations).1.apply operation).2) := by
  rw [replay, List.foldl_append]
  rfl

/-! ## One operation -/

/-- An operation leaves its key as it says, and the other keys as they were. -/
theorem isDown_apply (pad : Keypad) (operation : Operation) {key : UInt8} (hkey : key.toNat < 16) :
    (pad.apply operation).1.isDown key =
      if operation.addresses key then operation.presses else pad.isDown key := by
  cases operation with
  | press pressed =>
    show (pad.press pressed).isDown key = _
    rw [isDown_press]
    simp [Operation.addresses, Operation.presses, hkey]
  | release released =>
    show (pad.release released).isDown key = _
    rw [isDown_release]
    simp [Operation.addresses, Operation.presses, hkey]
  | setNamed name isDown =>
    have hnamed := pad.isDown_setNamed name isDown ⟨key.toNat, hkey⟩
    have hself : key.toNat.toUInt8 = key := by simp
    rw [hself] at hnamed
    simp only [apply, hnamed, Key.ofName?_eq_some_iff]
    rfl

/-- What an operation tells does not depend on the keypad. -/
theorem apply_told (pad : Keypad) (operation : Operation) :
    (pad.apply operation).2 = operation.complaint?.toList := by
  cases operation with
  | press | release => rfl
  | setNamed name isDown =>
    simp only [apply, setNamed, Operation.complaint?, ← Key.ofName?_eq_none_iff]
    cases Key.ofName? name <;> rfl

/-- An operation for no key that exists leaves the keypad as it was. -/
theorem apply_of_addresses_none (pad : Keypad) {operation : Operation}
    (h : ∀ key : UInt8, key.toNat < 16 → operation.addresses key = false) :
    (pad.apply operation).1 = pad := by
  apply ext_isDown
  intro key
  by_cases hkey : key.toNat < 16
  · rw [isDown_apply pad operation hkey, h key hkey]
    rfl
  · rw [isDown_of_le _ (by omega), isDown_of_le _ (by omega)]

/-! ## All operations -/

/-- A key is down if the last operation for it pressed it. -/
theorem isDown_replay (operations : List Operation) {key : UInt8} (hkey : key.toNat < 16) :
    (replay operations).1.isDown key = (Operation.last? operations key).any Operation.presses := by
  induction operations using List.reverseRecOn with
  | nil => exact firstPressed_eq_none_iff.1 (by decide) key
  | append_singleton operations operation ih =>
    rw [replay_append_singleton, isDown_apply _ _ hkey, Operation.last?_append_singleton, ih]
    cases operation.addresses key <;> rfl

/-- Nothing is told but the names on no key, one after the other. -/
theorem told_replay (operations : List Operation) :
    (replay operations).2 = operations.filterMap Operation.complaint? := by
  induction operations using List.reverseRecOn with
  | nil => rfl
  | append_singleton operations operation ih =>
    rw [replay_append_singleton, apply_told, ih, List.filterMap_append]
    cases hcomplaint : operation.complaint? <;> simp [hcomplaint]

/-- What can be seen of a keypad is told by the operations that were made on it since no key was
down, whatever they are. A key is down exactly if its number is below sixteen and the last operation
for it pressed it; an operation is for the key whose number it gives, or whose character is its name
in either case. Operations for no key below sixteen change nothing. Each name that is on no key is
told with one line for tracing, and nothing else is told. The first pressed key is the lowest that
is down, if any is. -/
theorem shows_operations (operations : List Operation) :
    (∀ key : UInt8, (replay operations).1.isDown key = true ↔ key.toNat < 16 ∧
      ∃ operation, Operation.last? operations key = some operation ∧ operation.presses = true) ∧
    (∀ (pad : Keypad) (operation : Operation),
      (∀ key : UInt8, key.toNat < 16 → operation.addresses key = false) →
      (pad.apply operation).1 = pad) ∧
    (replay operations).2 = operations.filterMap Operation.complaint? ∧
    (∀ event ∈ (replay operations).2, event.level = .trace) ∧
    (∀ key : Key, (replay operations).1.firstPressed = some key ↔
      (replay operations).1.isDown key.val.toUInt8 = true ∧
        ∀ lower : UInt8, lower.toNat < key.val → (replay operations).1.isDown lower = false) ∧
    ((replay operations).1.firstPressed = none ↔
      ∀ key, (replay operations).1.isDown key = false) := by
  refine ⟨?_, fun pad _ => apply_of_addresses_none pad, told_replay operations, ?_,
    fun _ => firstPressed_eq_some_iff, firstPressed_eq_none_iff⟩
  · intro key
    constructor
    · intro hdown
      have hkey := toNat_lt_of_isDown hdown
      rw [isDown_replay operations hkey, Option.any_eq_true] at hdown
      exact ⟨hkey, hdown⟩
    · rintro ⟨hkey, hlast⟩
      rw [isDown_replay operations hkey, Option.any_eq_true]
      exact hlast
  · intro event hevent
    rw [told_replay, List.mem_filterMap] at hevent
    rcases hevent with ⟨operation, -, hcomplaint⟩
    cases operation with
    | press | release => cases hcomplaint
    | setNamed name isDown =>
      simp only [Operation.complaint?] at hcomplaint
      split at hcomplaint <;> cases hcomplaint
      rfl

/-- Keys pressed by number and by name, with numbers and names that are on no key among them: the
long s is another letter than the S, whose capital it shares. -/
def tapping : List Operation :=
  [.press 3, .setNamed "q" true, .press 16, .setNamed "ſ" true, .setNamed "" false,
    .release 3, .setNamed "Q1" true, .setNamed "V" true, .release 255]

/-- Only the keys 4 and 15 are down in the end, and three names were told. -/
theorem tapping_shows :
    (replay tapping).1.isDown 3 = false ∧ (replay tapping).1.isDown 4 = true ∧
      (replay tapping).1.isDown 9 = false ∧ (replay tapping).1.isDown 15 = true ∧
      (replay tapping).1.isDown 16 = false ∧ (replay tapping).1.firstPressed = some 4 ∧
      (replay tapping).2 = [.keyUnmapped "ſ", .keyUnmapped "", .keyUnmapped "Q1"] := by
  rcases shows_operations tapping with ⟨hdown, -, htold, -, hfirst, -⟩
  have hup : ∀ key : UInt8, (Operation.last? tapping key).any Operation.presses = false →
      (replay tapping).1.isDown key = false := by
    intro key hlast
    rw [← Bool.not_eq_true, hdown key, ← Option.any_eq_true, hlast]
    simp
  have hfour : (replay tapping).1.isDown 4 = true :=
    (hdown 4).2 ⟨by decide, .setNamed "q" true, by decide +kernel, rfl⟩
  refine ⟨hup 3 (by decide +kernel), hfour, hup 9 (by decide +kernel),
    (hdown 15).2 ⟨by decide, .setNamed "V" true, by decide +kernel, rfl⟩, ?_,
    (hfirst 4).2 ⟨hfour, ?_⟩, htold.trans (by decide +kernel)⟩
  · rw [← Bool.not_eq_true, hdown 16]
    simp
  · have hlower : ∀ lower : Fin 4, (Operation.last? tapping lower.val.toUInt8).any
        Operation.presses = false := by decide +kernel
    intro lower hlt
    have hself : lower.toNat.toUInt8 = lower := by simp
    exact hup lower (hself ▸ hlower ⟨lower.toNat, hlt⟩)

end Keypad

end Chip8VM
