import Chip8VM.Proofs.Bench
import Chip8VM.Proofs.Spans

/-!
# Loads

A program is loaded as a whole or not at all. What its reader delivers counts up to the end of the
file and no further; in which pieces it comes and how often the reader is interrupted does not
count. Of the reasons to refuse it, a reader that fails comes first, whatever it has delivered by
then.

* `Delivery.delivered`, `Delivery.failure?`: the bytes before the end, and the failure before it.
* `readAll_eq`: reading to the end gives these.
* `Delivery.Refused`: the reasons to refuse what a reader delivers.
* `Bench.loads_whole_or_nothing`: what a load from a reader does to a bench.
-/

namespace Chip8VM

/-! ## Readers -/

namespace Delivery

/-- The bytes that an attempt to read gives. -/
def payload : Delivery → List UInt8
  | .data bytes => bytes
  | .interrupted | .failed _ => []

/-- The message of an attempt to read that fails for good. -/
def complaint? : Delivery → Option String
  | .failed message => some message
  | .data _ | .interrupted => none

/-- The attempts before the end of the file: either one gives no bytes or there are no more. -/
def beforeEnd (reader : List Delivery) : List Delivery :=
  reader.takeWhile (· ≠ .data [])

/-- All bytes that a reader gives before the end of the file. -/
def delivered (reader : List Delivery) : List UInt8 :=
  (beforeEnd reader).flatMap payload

/-- The message of the first failure before the end of the file. -/
def failure? (reader : List Delivery) : Option String :=
  (beforeEnd reader).findSome? complaint?

@[simp]
theorem beforeEnd_cons_end (rest : List Delivery) : beforeEnd (.data [] :: rest) = [] := by
  simp [beforeEnd]

@[simp]
theorem beforeEnd_cons {attempt : Delivery} (h : attempt ≠ .data []) (rest : List Delivery) :
    beforeEnd (attempt :: rest) = attempt :: beforeEnd rest := by
  simp [beforeEnd, h]

/-- There is a failure to tell exactly if some attempt before the end fails. -/
theorem isSome_failure?_iff {reader : List Delivery} :
    (failure? reader).isSome ↔ ∃ message, .failed message ∈ beforeEnd reader := by
  rw [failure?, List.findSome?_isSome_iff]
  constructor
  · rintro ⟨attempt, hmem, hcomplaint⟩
    cases attempt with
    | data bytes => cases hcomplaint
    | interrupted => cases hcomplaint
    | failed message => exact ⟨message, hmem⟩
  · rintro ⟨message, hmem⟩
    exact ⟨_, hmem, rfl⟩

/-- Reading to the end gives the bytes that are delivered, unless a failure comes first. -/
theorem readAll_eq (reader : List Delivery) : readAll reader =
    match failure? reader with
    | some message => .error message
    | none => .ok (delivered reader) := by
  fun_induction readAll reader with
  | case1 => rfl
  | case2 rest => simp [failure?, delivered]
  | case3 bytes rest hbytes ih =>
    -- a piece stands before what the rest delivers, and hides no failure of it
    have hattempt : Delivery.data bytes ≠ .data [] := fun he => hbytes (by cases he; rfl)
    have hfailure : failure? (.data bytes :: rest) = failure? rest := by
      simp [failure?, hattempt, List.findSome?_cons, complaint?]
    have hdelivered : delivered (.data bytes :: rest) = bytes ++ delivered rest := by
      simp [delivered, hattempt, payload]
    rw [ih, hfailure, hdelivered]
    cases failure? rest <;> rfl
  | case4 rest ih =>
    rw [ih]
    simp [failure?, delivered, List.findSome?_cons, complaint?, payload]
  | case5 message rest => simp [failure?, List.findSome?_cons, complaint?]

/-- The reasons to refuse what a reader delivers. -/
inductive Refused (reader : List Delivery) : LoadError → Prop where
  /-- The reader fails before the end, however much it has delivered. -/
  | unreadable {message : String} (h : failure? reader = some message) :
      Refused reader (.unreadable message)
  /-- It comes to the end without a failure and without a byte. -/
  | empty (h : failure? reader = none) (hsize : delivered reader = []) : Refused reader .empty
  /-- It comes to the end without a failure but with too many bytes. -/
  | tooLarge (h : failure? reader = none) (hsize : 3584 < (delivered reader).length) :
      Refused reader (.tooLarge (delivered reader).length)

theorem refused_unreadable_iff {reader : List Delivery} {message : String} :
    Refused reader (.unreadable message) ↔ failure? reader = some message := by
  constructor
  · rintro ⟨h⟩
    exact h
  · exact .unreadable

end Delivery

/-! ## Loading -/

namespace Machine

/-- A load fails if there are no bytes or too many. -/
theorem load_eq_error_iff {m : Machine} {image : List UInt8} {reason : LoadError} :
    m.load image = .error reason ↔ image = [] ∧ reason = .empty ∨
      3584 < image.length ∧ reason = .tooLarge image.length := by
  rw [load, show Memory.programCapacity = 3584 from rfl]
  by_cases hempty : image = []
  · simp [hempty, eq_comm (a := reason)]
  · rw [if_neg (by simpa using hempty)]
    by_cases hlarge : 3584 < image.length
    · rw [if_pos hlarge]
      simp [hempty, hlarge, eq_comm (a := reason)]
    · rw [if_neg hlarge]
      simp [hempty, hlarge]

/-- An image that is neither empty nor too large is installed. -/
theorem load_of_fits (m : Machine) {image : List UInt8} (hempty : image ≠ [])
    (hsize : image.length ≤ 3584) : m.load image =
      .ok ({ m with memory := m.memory.install image.toArray }, [.programLoaded image.length]) := by
  have hfits : ¬ Memory.programCapacity < image.length := Nat.not_lt.2 hsize
  rw [load, if_neg (by simpa using hempty), if_neg hfits]

/-- What is loaded from a reader that does not fail is what it delivers. -/
theorem loadFrom_of_not_failed (m : Machine) {reader : List Delivery}
    (h : Delivery.failure? reader = none) :
    m.loadFrom reader = m.load (Delivery.delivered reader) := by
  rw [loadFrom, Delivery.readAll_eq, h]

/-- A load from a reader fails for the reasons there are to refuse it, and for no others. -/
theorem loadFrom_eq_error_iff {m : Machine} {reader : List Delivery} {reason : LoadError} :
    m.loadFrom reader = .error reason ↔ Delivery.Refused reader reason := by
  cases hfailure : Delivery.failure? reader with
  | some message =>
    have hload : m.loadFrom reader = .error (.unreadable message) := by
      rw [loadFrom, Delivery.readAll_eq, hfailure]
    rw [hload]
    constructor
    · rintro ⟨⟩
      exact .unreadable hfailure
    · -- the other reasons need a reader that does not fail
      rintro (h | ⟨h, -⟩ | ⟨h, -⟩)
      · cases hfailure.symm.trans h
        rfl
      · cases hfailure.symm.trans h
      · cases hfailure.symm.trans h
  | none =>
    rw [m.loadFrom_of_not_failed hfailure, load_eq_error_iff]
    constructor
    · rintro (⟨hsize, rfl⟩ | ⟨hsize, rfl⟩)
      · exact .empty hfailure hsize
      · exact .tooLarge hfailure hsize
    · rintro (h | ⟨-, hsize⟩ | ⟨-, hsize⟩)
      · cases hfailure.symm.trans h
      · exact .inl ⟨hsize, rfl⟩
      · exact .inr ⟨hsize, rfl⟩

/-- A load from a reader depends on the bytes before the end of the file and the failure before it,
not on the pieces and the interruptions. -/
theorem loadFrom_congr (m : Machine) {reader reader' : List Delivery}
    (hfailure : Delivery.failure? reader = Delivery.failure? reader')
    (hdelivered : Delivery.delivered reader = Delivery.delivered reader') :
    m.loadFrom reader = m.loadFrom reader' := by
  rw [loadFrom, loadFrom, Delivery.readAll_eq, Delivery.readAll_eq, hfailure, hdelivered]

end Machine

namespace Bench

theorem apply_load (b : Bench) (image : List UInt8) :
    b.apply (.load image) = .ok (b.afterLoading (b.console.machine.load image)) := rfl

theorem apply_loadFrom (b : Bench) (reader : List Delivery) :
    b.apply (.loadFrom reader) = .ok (b.afterLoading (b.console.machine.loadFrom reader)) := rfl

/-- A load from a reader is whole or has no effect. It fails exactly for the reasons there are to
refuse what the reader delivers, and then the bench is as it was, machine, random numbers and all.
If there is none it does what a load of the delivered bytes does: they are in memory from the start
of programs on, every other byte of memory is as it was, and so is everything else but the journal.
All readers that deliver the same have the same effect. -/
theorem loads_whole_or_nothing (b : Bench) (reader : List Delivery) :
    (∀ reason, b.console.machine.loadFrom reader = .error reason ↔
      Delivery.Refused reader reason) ∧
    ((∃ message, b.console.machine.loadFrom reader = .error (.unreadable message)) ↔
      ∃ message, .failed message ∈ Delivery.beforeEnd reader) ∧
    (∀ reason, Delivery.Refused reader reason → b.apply (.loadFrom reader) = .ok b) ∧
    (∀ size, Delivery.Refused reader (.tooLarge size) →
      (LoadError.tooLarge size).message = "program image is " ++
        toString (Delivery.delivered reader).length ++ " bytes but at most 3584 fit in memory") ∧
    (Delivery.failure? reader = none → Delivery.delivered reader ≠ [] →
      (Delivery.delivered reader).length ≤ 3584 → ∃ memory : Memory,
        b.apply (.loadFrom reader) = .ok { b with
          console := { b.console with machine := { b.console.machine with memory } }
          journal := b.journal ++ [.programLoaded (Delivery.delivered reader).length] } ∧
        b.console.machine.loadFrom reader =
          b.console.machine.load (Delivery.delivered reader) ∧
        b.apply (.loadFrom reader) = b.apply (.load (Delivery.delivered reader)) ∧
        (∀ k (hk : k < (Delivery.delivered reader).length),
          memory.bytes.get (Place.ofNat (0x200 + k)) = (Delivery.delivered reader)[k]) ∧
        ∀ p : Place, p.val < 0x200 ∨ 0x200 + (Delivery.delivered reader).length ≤ p.val →
          memory.bytes.get p = b.console.machine.memory.bytes.get p) ∧
    ∀ reader', Delivery.failure? reader' = Delivery.failure? reader →
      Delivery.delivered reader' = Delivery.delivered reader →
        b.console.machine.loadFrom reader' = b.console.machine.loadFrom reader ∧
          b.apply (.loadFrom reader') = b.apply (.loadFrom reader) := by
  refine ⟨fun reason => Machine.loadFrom_eq_error_iff, ?_, ?_, ?_, ?_, ?_⟩
  · rw [← Delivery.isSome_failure?_iff, Option.isSome_iff_exists]
    simp only [Machine.loadFrom_eq_error_iff, Delivery.refused_unreadable_iff]
  · intro reason hrefused
    have hload := Machine.loadFrom_eq_error_iff (m := b.console.machine).2 hrefused
    rw [apply_loadFrom, hload]
    rfl
  · rintro _ ⟨⟩
    exact LoadError.message_tooLarge _
  · intro hfailure hnonempty hfits
    have hfrom := b.console.machine.loadFrom_of_not_failed hfailure
    have hload := b.console.machine.load_of_fits hnonempty hfits
    refine ⟨_, ?_, hfrom, ?_, fun k hk => Memory.get_install_ofNat _ hfits hk,
      fun p hp => Memory.get_install_of_outside _ (by simpa using hp)⟩
    · rw [apply_loadFrom, hfrom, hload]
      rfl
    · rw [apply_loadFrom, apply_load, hfrom]
  · intro reader' hfailure hdelivered
    have hload := b.console.machine.loadFrom_congr hfailure hdelivered
    refine ⟨hload, ?_⟩
    rw [apply_loadFrom, apply_loadFrom, hload]

/-- A program of three bytes that comes in pieces; what its reader would do beyond the end of the
file is of no interest. -/
def pieces : List Delivery :=
  [.interrupted, .data [0x12], .interrupted, .data [0x34, 0x56], .data [], .failed "torn",
    .data [0]]

/-- The pieces are loaded like the whole. A reader that fails after more bytes than fit is refused
for its failure and leaves the bench as it was. -/
theorem pieces_loaded : ∃ memory : Memory,
    (ofSeed 1).apply (.loadFrom pieces) = .ok { ofSeed 1 with
      console := { (ofSeed 1).console with
        machine := { (ofSeed 1).console.machine with memory } }
      journal := [.programLoaded 3] } ∧
    memory.bytes.get (Place.ofNat 0x202) = 0x56 ∧
    (ofSeed 1).apply (.loadFrom [.data [0x12, 0x34, 0x56]]) =
      (ofSeed 1).apply (.loadFrom pieces) ∧
    (ofSeed 1).apply (.loadFrom [.data (List.replicate 4000 0), .failed "torn"]) =
      .ok (ofSeed 1) := by
  have hpieces := loads_whole_or_nothing (ofSeed 1) pieces
  have htorn := loads_whole_or_nothing (ofSeed 1) [.data (List.replicate 4000 0), .failed "torn"]
  rcases hpieces with ⟨-, -, -, -, hinstalled, hsame⟩
  rcases hinstalled rfl (by decide) (by decide) with ⟨memory, hload, -, -, hbytes, -⟩
  have hrefused : Delivery.Refused [.data (List.replicate 4000 0), .failed "torn"]
      (.unreadable "torn") := .unreadable rfl
  refine ⟨memory, hload, hbytes 2 (by decide), ?_, htorn.2.2.1 _ hrefused⟩
  exact (hsame [.data [0x12, 0x34, 0x56]] rfl rfl).2

end Bench

end Chip8VM
