import Chip8VM.Journal
import Chip8VM.Keypad.Layout

/-!
# The keypad

Which of the sixteen keys are down. Any byte may be asked for or changed as a key; those above
fifteen are never down and changing them changes nothing.

- `isDown_press`, `isDown_release`: what asking sees after a change.
- `firstPressed_eq_none_iff`, `firstPressed_eq_some_iff`: the lowest key that is down, by asking.
-/

namespace Chip8VM

/-- The state of the sixteen keys. -/
structure Keypad where
  /-- Whether each key is down. -/
  down : Vector Bool 16
deriving DecidableEq, Repr

namespace Keypad

/-- The keypad with no key down. -/
def released : Keypad :=
  ⟨Vector.replicate 16 false⟩

/-- Whether a key is down. -/
def isDown (pad : Keypad) (key : UInt8) : Bool :=
  pad.down[key.toNat]?.getD false

/-- Records whether a key is down. -/
def set (pad : Keypad) (key : UInt8) (isDown : Bool) : Keypad :=
  ⟨pad.down.setIfInBounds key.toNat isDown⟩

/-- Records that a key went down. -/
def press (pad : Keypad) (key : UInt8) : Keypad :=
  pad.set key true

/-- Records that a key went up. -/
def release (pad : Keypad) (key : UInt8) : Keypad :=
  pad.set key false

/-- Records that the key with a given name went down or up; a name on no key is told. -/
def setNamed (pad : Keypad) (name : String) (isDown : Bool) : Keypad × List Event :=
  match Key.ofName? name with
  | some key => (pad.set key.val.toUInt8 isDown, [])
  | none => (pad, [.keyUnmapped name])

/-- The keys that are down, in order. -/
def pressed (pad : Keypad) : List Key :=
  (List.finRange 16).filter pad.down.get

/-- The lowest key that is down. -/
def firstPressed (pad : Keypad) : Option Key :=
  (List.finRange 16).find? pad.down.get

theorem isDown_set (pad : Keypad) (key other : UInt8) (b : Bool) :
    (pad.set key b).isDown other =
      if key = other ∧ other.toNat < 16 then b else pad.isDown other := by
  by_cases h : key = other
  · subst h
    by_cases hk : key.toNat < 16
    · simp [isDown, set, hk]
    · simp [isDown, set, hk]
  · have hne : key.toNat ≠ other.toNat := fun he => h (UInt8.toNat_inj.1 he)
    simp [isDown, set, hne, h]

theorem isDown_press (pad : Keypad) (key other : UInt8) :
    (pad.press key).isDown other =
      if key = other ∧ other.toNat < 16 then true else pad.isDown other :=
  isDown_set pad key other true

theorem isDown_release (pad : Keypad) (key other : UInt8) :
    (pad.release key).isDown other =
      if key = other ∧ other.toNat < 16 then false else pad.isDown other :=
  isDown_set pad key other false

/-! ## The keys one by one -/

theorem toNat_key (key : Key) : key.val.toUInt8.toNat = key.val := by
  rw [Nat.toUInt8_eq, UInt8.toNat_ofNat']
  omega

theorem isDown_toUInt8 (pad : Keypad) (key : Key) :
    pad.isDown key.val.toUInt8 = pad.down.get key := by
  show pad.down[key.val.toUInt8.toNat]?.getD false = pad.down[key.val]
  rw [toNat_key]
  simp

/-- A name sets its own key and leaves the others alone. -/
theorem isDown_setNamed (pad : Keypad) (name : String) (isDown : Bool) (key : Key) :
    (pad.setNamed name isDown).1.isDown key.val.toUInt8 =
      if Key.ofName? name = some key then isDown else pad.isDown key.val.toUInt8 := by
  unfold setNamed
  cases hname : Key.ofName? name with
  | none => rfl
  | some named =>
    have hlt : key.val.toUInt8.toNat < 16 := by
      rw [toNat_key]
      exact key.isLt
    have hinj : named.val.toUInt8 = key.val.toUInt8 ↔ named = key := by
      rw [← UInt8.toNat_inj, toNat_key, toNat_key, Fin.ext_iff]
    simp only [isDown_set, hlt, and_true, hinj, Option.some.injEq]

theorem isDown_of_lt (pad : Keypad) {key : UInt8} (h : key.toNat < 16) :
    pad.isDown key = pad.down.get ⟨key.toNat, h⟩ := by
  rw [← isDown_toUInt8]
  simp

theorem isDown_of_le (pad : Keypad) {key : UInt8} (h : 16 ≤ key.toNat) :
    pad.isDown key = false := by
  simp [isDown, h]

theorem toNat_lt_of_isDown {pad : Keypad} {key : UInt8} (h : pad.isDown key = true) :
    key.toNat < 16 := by
  apply Nat.lt_of_not_le
  intro hle
  rw [isDown_of_le pad hle] at h
  cases h

/-- Keypads on which the same keys are down are equal. -/
theorem ext_isDown {pad pad' : Keypad} (h : ∀ key, pad.isDown key = pad'.isDown key) :
    pad = pad' := by
  obtain ⟨down⟩ := pad
  obtain ⟨down'⟩ := pad'
  congr 1
  ext k hk
  have hkey := h (⟨k, hk⟩ : Key).val.toUInt8
  rw [isDown_toUInt8, isDown_toUInt8] at hkey
  exact hkey

theorem firstPressed_eq_none_iff {pad : Keypad} :
    pad.firstPressed = none ↔ ∀ key, pad.isDown key = false := by
  simp only [firstPressed, List.find?_eq_none, Bool.not_eq_true]
  constructor
  · intro h key
    by_cases hkey : key.toNat < 16
    · rw [isDown_of_lt pad hkey]
      exact h _ (List.mem_finRange _)
    · exact isDown_of_le pad (by omega)
  · intro h key _
    rw [← isDown_toUInt8]
    exact h _

theorem firstPressed_eq_some_iff {pad : Keypad} {key : Key} :
    pad.firstPressed = some key ↔ pad.isDown key.val.toUInt8 = true ∧
      ∀ lower : UInt8, lower.toNat < key.val → pad.isDown lower = false := by
  simp only [firstPressed, List.find?_eq_some_iff_getElem, List.getElem_finRange,
    List.length_finRange, isDown_toUInt8, Bool.not_eq_true']
  constructor
  · rintro ⟨hdown, i, hi, rfl, hlower⟩
    refine ⟨hdown, fun lower hlt => ?_⟩
    rw [isDown_of_lt pad (by omega)]
    exact hlower lower.toNat hlt
  · rintro ⟨hdown, hlower⟩
    refine ⟨hdown, key.val, key.isLt, rfl, fun j hj => ?_⟩
    have hkey : (j.toUInt8).toNat = j := toNat_key ⟨j, by omega⟩
    rw [← isDown_toUInt8]
    exact hlower _ (by rw [Fin.val_cast, hkey]; exact hj)

end Keypad

end Chip8VM
