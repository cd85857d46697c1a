import Chip8VM.Fault

/-!
# Results

Computations that may fault, and what is known of their results.

* `bind_eq_ok`: what a sequence of computations that comes to a result has gone through.
* `bind_map_congr`: sequences whose steps look alike come to results that look alike, or to the same
  fault.
-/

namespace Chip8VM

variable {α β γ δ ε : Type}

/-- A computation that may fault comes to a result. -/
def Succeeds (r : Except Fault α) : Prop :=
  ∃ a, r = .ok a

theorem bind_eq_ok {r : Except ε α} {next : α → Except ε β} {b : β} :
    (r >>= next) = .ok b ↔ ∃ a, r = .ok a ∧ next a = .ok b := by
  cases r <;> simp [bind, Except.bind]

theorem pure_eq_ok {a b : α} : (pure a : Except ε α) = .ok b ↔ a = b := by
  simp [pure, Except.pure]

@[simp] theorem ok_map (f : α → β) (a : α) : (.ok a : Except ε α).map f = .ok (f a) := rfl

@[simp] theorem pure_map (f : α → β) (a : α) : (pure a : Except ε α).map f = .ok (f a) := rfl

/-! ## Results that look alike

Two results look alike if a function `p` takes them to the same value. -/

/-- What follows alike from all values follows alike from a computation of one. -/
theorem map_bind_congr {f g : α → Except ε β} {p : β → γ} (h : ∀ a, (f a).map p = (g a).map p)
    (r : Except ε α) : (r >>= f).map p = (r >>= g).map p := by
  cases r with
  | error fault => rfl
  | ok a => exact h a

/-- What follows alike from values that look alike follows alike from computations of such
values. -/
theorem bind_map_congr {p : α → δ} {q : β → γ} {f g : α → Except ε β} {r s : Except ε α}
    (hrs : r.map p = s.map p) (h : ∀ a b, p a = p b → (f a).map q = (g b).map q) :
    (r >>= f).map q = (s >>= g).map q := by
  cases r with
  | error fault =>
    cases s with
    | error other =>
      cases hrs
      rfl
    | ok b => cases hrs
  | ok a =>
    cases s with
    | error other => cases hrs
    | ok b => exact h a b (Except.ok.inj hrs)

theorem map_map_congr {p : α → δ} {q : β → γ} {f g : α → β} {r s : Except ε α}
    (hrs : r.map p = s.map p) (h : ∀ a b, p a = p b → q (f a) = q (g b)) :
    (r.map f).map q = (s.map g).map q := by
  have hmap : ∀ (k : α → β) (t : Except ε α), t.map k = t >>= fun a => .ok (k a) := by
    intro k t
    cases t <;> rfl
  rw [hmap, hmap]
  exact bind_map_congr hrs fun a b hab => congrArg Except.ok (h a b hab)

end Chip8VM
