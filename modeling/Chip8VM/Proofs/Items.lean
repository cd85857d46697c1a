import Chip8VM.CommandLine.Reading
import Chip8VM.Proofs.Arguments
import Chip8VM.Proofs.Results

/-!
# Items of a command line

A command line is made of items: the path of the program, and settings with their values, which
stand apart or are attached. A draft keeps back what it took last until the next argument or the end
of the line settles it; but a line that is accepted in the end is accepted as well if every item is
settled as soon as it is complete.

* `Draft.take_eq_ok_iff`: what is pending may be looked into before the next argument is taken.
* `Draft.readOn_tokens`: reading the arguments of an item comes to the same as putting the item.
* `Draft.readOn_eq_ok_iff`: the accepted lines are those of items that can be put one after the
  other.
-/

namespace Chip8VM.CommandLine

/-! ## Items -/

/-- A part of a command line: the path of the program, or a setting with its value. -/
inductive Item where
  /-- The path of the program. -/
  | rom (path : String)
  /-- A setting and its value as two arguments. -/
  | apart (s : Setting) (value : String)
  /-- A setting and its value as one argument. -/
  | attached (s : Setting) (value : String)
deriving DecidableEq, Repr

namespace Item

/-- The arguments that an item is written as. -/
def tokens : Item → List String
  | .rom path => [path]
  | .apart s value => ["--" ++ s.name, value]
  | .attached s value => ["--" ++ s.name ++ "=" ++ value]

/-- Whether no path and no value that stands apart begins with a dash. -/
def IsPlain : Item → Prop
  | .rom text | .apart _ text => text.toList.head? ≠ some '-'
  | .attached .. => True

/-- The path that an item gives. -/
def path? : Item → Option String
  | .rom path => some path
  | _ => none

/-- The value that an item gives to a setting. -/
def valueOf? (s : Setting) : Item → Option String
  | .rom _ => none
  | .apart t value | .attached t value => if t = s then some value else none

end Item

/-! ## Drafts -/

namespace Draft

theorem once_eq_ok {α : Type} {current value result : Option α} :
    once current value = .ok result ↔ current = none ∧ ∃ a, value = some a ∧ some a = result := by
  unfold once
  cases current <;> cases value <;> simp

/-- A draft in which nothing is pending. -/
structure Settled (d : Draft) : Prop where
  pending : d.pending = .nothing
  isLiteral : d.isLiteral = false

theorem settle_of_settled {d : Draft} (h : d.Settled) : d.settle = .ok d := by
  obtain ⟨rom, hz, scale, seed, logLevel, pending, isLiteral⟩ := d
  cases h.pending
  rfl

theorem accept_settled {d e : Draft} {s : Setting} {text : String} (h : d.accept s text = .ok e)
    (hd : d.Settled) : e.Settled := by
  cases s <;>
  · simp only [accept, bind_eq_ok, pure_eq_ok] at h
    obtain ⟨_, -, rfl⟩ := h
    exact ⟨hd.pending, hd.isLiteral⟩

/-- Looking into what is pending leaves nothing pending, and a path where there was one. -/
theorem settle_settled {d e : Draft} (h : d.settle = .ok e) (hd : d.isLiteral = false) :
    e.Settled ∧ e.hasRom = d.hasRom := by
  obtain ⟨rom, hz, scale, seed, logLevel, pending, isLiteral⟩ := d
  cases hd
  cases pending with
  | nothing =>
    cases h
    exact ⟨⟨rfl, rfl⟩, rfl⟩
  | unfinished s => cases h
  | value s text =>
    refine ⟨accept_settled h ⟨rfl, rfl⟩, ?_⟩
    have haccept : accept ⟨rom, hz, scale, seed, logLevel, .nothing, false⟩ s text = .ok e := h
    cases s <;>
    · simp only [accept, bind_eq_ok, pure_eq_ok] at haccept
      obtain ⟨_, -, rfl⟩ := haccept
      rfl
  | rom path =>
    unfold settle at h
    dsimp only at h
    split at h
    · cases h
    · cases h
      exact ⟨⟨rfl, rfl⟩, by simp [hasRom]⟩

/-! ## Arguments by their looks -/

theorem take_name {d : Draft} (hd : d.isLiteral = false) (s : Setting) :
    d.take ("--" ++ s.name) = d.settle >>= fun e => pure { e with pending := .unfinished s } := by
  simp only [take, hd, Argument.ofString_apart, Bool.false_eq_true, if_false]

theorem take_attached {d : Draft} (hd : d.isLiteral = false) (s : Setting) (value : String) :
    d.take ("--" ++ s.name ++ "=" ++ value) = d.settle >>= fun e => e.accept s value := by
  simp only [take, hd, Argument.ofString_attached, Bool.false_eq_true, if_false]

theorem take_value {d : Draft} (hd : d.isLiteral = false) {s : Setting}
    (hpending : d.pending = .unfinished s) {text : String} (htext : text.toList.head? ≠ some '-') :
    d.take text = .ok { d with pending := .value s text } := by
  simp only [take, hd, Argument.ofString_of_plain htext, hpending, Bool.false_eq_true, if_false]

theorem take_path {d : Draft} (hd : d.isLiteral = false)
    (hpending : ∀ s, d.pending ≠ .unfinished s) {text : String}
    (htext : text.toList.head? ≠ some '-') : d.take text = d.takePath text := by
  simp only [take, hd, Argument.ofString_of_plain htext, Bool.false_eq_true, if_false]

theorem take_other {d : Draft} (hd : d.isLiteral = false) {text : String}
    (htext : (Argument.ofString text).isOption = true)
    (hother : ∀ s attached, Argument.ofString text ≠ .setting s attached) (e : Draft) :
    d.take text ≠ .ok e := by
  intro h
  simp only [take, hd, Bool.false_eq_true, if_false] at h
  cases hlooks : Argument.ofString text with
  | setting s attached => exact hother s attached hlooks
  | separator | plain path =>
    rw [hlooks] at htext
    cases htext
  | unknown | requestWithValue => simp [hlooks] at h
  | help | version =>
    simp only [hlooks, refuse, bind_eq_ok] at h
    obtain ⟨_, -, h⟩ := h
    cases h

/-- What an argument can be that is not made of dashes alone. -/
inductive Looks (text : String) : Prop where
  /-- A path or a value. -/
  | plain (htext : text.toList.head? ≠ some '-')
  /-- The name of a setting. -/
  | name (s : Setting) (htext : text = "--" ++ s.name)
  /-- The name of a setting with a value. -/
  | attached (s : Setting) (value : String) (htext : text = "--" ++ s.name ++ "=" ++ value)
  /-- An option that is refused. -/
  | refused (htext : ∀ d : Draft, d.isLiteral = false → ∀ e, d.take text ≠ .ok e)

theorem looks {text : String} (hdash : text ≠ "-") (hdashes : text ≠ "--") : Looks text := by
  cases hoption : (Argument.ofString text).isOption with
  | false =>
    rcases Argument.of_ofString_not_option hoption with h | ⟨-, h | h⟩
    · exact absurd h hdashes
    · exact absurd h hdash
    · exact .plain h
  | true =>
    by_cases hsetting : ∃ s attached, Argument.ofString text = .setting s attached
    · rcases hsetting with ⟨s, attached, h⟩
      rcases Argument.of_ofString_setting h with ⟨-, htext⟩ | ⟨value, -, htext⟩
      · exact .name s htext
      · exact .attached s value htext
    · exact .refused fun d hd => take_other hd hoption fun s attached h => hsetting ⟨s, attached, h⟩

/-! ## Arguments after a complete item -/

theorem takePath_eq_ok {d e : Draft} {path : String} : d.takePath path = .ok e ↔
    d.hasRom = false ∧ ∃ f, d.settle = .ok f ∧ { f with pending := .rom path } = e := by
  unfold takePath
  cases d.hasRom with
  | true => simp
  | false => simp only [Bool.false_eq_true, if_false, bind_eq_ok, pure_eq_ok, true_and]

/-- If no value is still to come, what is pending may as well be looked into before the next
argument is taken. -/
theorem take_eq_ok_iff {d e : Draft} {text : String} (hd : d.isLiteral = false)
    (hpending : ∀ s, d.pending ≠ .unfinished s) (htext : Looks text) :
    d.take text = .ok e ↔ ∃ f, d.settle = .ok f ∧ f.take text = .ok e := by
  have hlater : ∀ f, d.settle = .ok f → f.isLiteral = false ∧ f.pending = .nothing ∧
      f.hasRom = d.hasRom ∧ f.settle = .ok f := by
    intro f hf
    rcases settle_settled hf hd with ⟨hsettled, hrom⟩
    exact ⟨hsettled.isLiteral, hsettled.pending, hrom, settle_of_settled hsettled⟩
  cases htext with
  | plain htext =>
    rw [take_path hd hpending htext, takePath_eq_ok]
    constructor
    · rintro ⟨hrom, f, hf, rfl⟩
      rcases hlater f hf with ⟨hliteral, hnothing, hsame, hsettle⟩
      refine ⟨f, hf, ?_⟩
      rw [take_path hliteral (by simp [hnothing]) htext, takePath_eq_ok]
      exact ⟨hsame.trans hrom, f, hsettle, rfl⟩
    · rintro ⟨f, hf, h⟩
      rcases hlater f hf with ⟨hliteral, hnothing, hsame, hsettle⟩
      rw [take_path hliteral (by simp [hnothing]) htext, takePath_eq_ok, hsettle] at h
      rcases h with ⟨hrom, f', hf', rfl⟩
      cases hf'
      exact ⟨hsame.symm.trans hrom, f, hf, rfl⟩
  | name s htext =>
    subst htext
    rw [take_name hd, bind_eq_ok]
    refine exists_congr fun f => and_congr_right fun hf => ?_
    rcases hlater f hf with ⟨hliteral, -, -, hsettle⟩
    rw [take_name hliteral, hsettle]
    rfl
  | attached s value htext =>
    subst htext
    rw [take_attached hd, bind_eq_ok]
    refine exists_congr fun f => and_congr_right fun hf => ?_
    rcases hlater f hf with ⟨hliteral, -, -, hsettle⟩
    rw [take_attached hliteral, hsettle]
    rfl
  | refused htext =>
    constructor
    · intro h
      exact absurd h (htext d hd e)
    · rintro ⟨f, hf, h⟩
      exact absurd h (htext f (hlater f hf).1 e)

/-- Takes arguments from left to right, to the end of the line. -/
def readOn (d : Draft) (arguments : List String) : Except Refusal Options :=
  arguments.foldlM take d >>= finish

theorem readOn_cons (d : Draft) (text : String) (rest : List String) :
    d.readOn (text :: rest) = d.take text >>= fun e => e.readOn rest := by
  simp [readOn]

/-- The options that a draft gives in which nothing is pending, with the path `rom`. -/
def options (d : Draft) (rom : String) : Options where
  rom := rom
  hz := d.hz.getD 500
  scale := d.scale.getD 10
  seed := d.seed
  logLevel := d.logLevel.getD .info

theorem finish_eq_ok_iff {d : Draft} {result : Options} : d.finish = .ok result ↔
    ∃ e, d.settle = .ok e ∧ ∃ rom, e.rom = some rom ∧ e.options rom = result := by
  unfold finish
  rw [bind_eq_ok]
  refine exists_congr fun e => and_congr_right fun _ => ?_
  cases e.rom with
  | none => simp
  | some rom => simp [options, pure_eq_ok]

/-- If no value is still to come, what is pending may as well be looked into first. -/
theorem readOn_eq_ok_iff_settle {d : Draft} {arguments : List String} {result : Options}
    (hd : d.isLiteral = false) (hpending : ∀ s, d.pending ≠ .unfinished s)
    (hlooks : ∀ text ∈ arguments, Looks text) :
    d.readOn arguments = .ok result ↔
      ∃ e, d.settle = .ok e ∧ e.readOn arguments = .ok result := by
  cases arguments with
  | nil =>
    show d.finish = .ok result ↔ ∃ e, d.settle = .ok e ∧ e.finish = .ok result
    rw [finish_eq_ok_iff]
    refine exists_congr fun e => and_congr_right fun he => ?_
    simp only [finish_eq_ok_iff, settle_of_settled (settle_settled he hd).1, Except.ok.injEq,
      exists_eq_left']
  | cons text rest =>
    have htext := (List.forall_mem_cons.1 hlooks).1
    simp only [readOn_cons, bind_eq_ok, take_eq_ok_iff hd hpending htext]
    constructor
    · rintro ⟨f, ⟨e, he, htake⟩, hrest⟩
      exact ⟨e, he, f, htake, hrest⟩
    · rintro ⟨e, he, f, htake, hrest⟩
      exact ⟨f, ⟨e, he, htake⟩, hrest⟩

/-! ## Items one after the other -/

/-- Puts an item that is complete onto a draft in which nothing is pending. -/
def put (d : Draft) : Item → Except Refusal Draft
  | .rom path =>
    if d.rom.isSome then .error .unknownArgument
    else if path.isEmpty then .error .missingValue
    else .ok { d with rom := some path }
  | .apart s value | .attached s value => d.accept s value

theorem put_rom_eq_ok {d e : Draft} {path : String} : d.put (.rom path) = .ok e ↔
    d.rom = none ∧ path ≠ "" ∧ { d with rom := some path } = e := by
  unfold put
  dsimp only
  cases d.rom with
  | some other => simp
  | none => by_cases hempty : path = "" <;> simp [hempty]

theorem put_settled {d e : Draft} {item : Item} (h : d.put item = .ok e) (hd : d.Settled) :
    e.Settled := by
  cases item with
  | rom path =>
    rcases put_rom_eq_ok.1 h with ⟨-, -, rfl⟩
    exact ⟨hd.pending, hd.isLiteral⟩
  | apart s value | attached s value => exact accept_settled h hd

theorem settle_path {d : Draft} (hd : d.Settled) (hrom : d.rom = none) (path : String) :
    { d with pending := .rom path }.settle = d.put (.rom path) := by
  obtain ⟨rom, hz, scale, seed, logLevel, pending, isLiteral⟩ := d
  cases hd.pending
  cases hrom
  rfl

theorem settle_value {d : Draft} (hd : d.Settled) (s : Setting) (value : String) :
    { d with pending := .value s value }.settle = d.accept s value := by
  obtain ⟨rom, hz, scale, seed, logLevel, pending, isLiteral⟩ := d
  cases hd.pending
  rfl

/-- Taking the arguments of an item comes to the same as putting the item. -/
theorem readOn_tokens {d : Draft} (hd : d.Settled) {item : Item} (hitem : item.IsPlain)
    {rest : List String} (hrest : ∀ text ∈ rest, Looks text) {result : Options} :
    d.readOn (item.tokens ++ rest) = .ok result ↔
      ∃ e, d.put item = .ok e ∧ e.readOn rest = .ok result := by
  have hsettle := settle_of_settled hd
  cases item with
  | rom path =>
    have htake : d.take path = d.takePath path :=
      take_path hd.isLiteral (by simp [hd.pending]) hitem
    show d.readOn (path :: rest) = .ok result ↔ _
    rw [readOn_cons, htake, takePath, hasRom, hd.pending, Bool.or_false]
    cases hrom : d.rom with
    | some other =>
      simp [put_rom_eq_ok, hrom, bind, Except.bind]
    | none =>
      rw [hsettle, ← settle_path hd hrom,
        ← readOn_eq_ok_iff_settle (d := { d with pending := .rom path }) hd.isLiteral (by simp)
          hrest]
      rfl
  | apart s value =>
    have hname : d.take ("--" ++ s.name) = .ok { d with pending := .unfinished s } := by
      rw [take_name hd.isLiteral, hsettle]
      rfl
    have hvalue := take_value (d := { d with pending := .unfinished s }) hd.isLiteral rfl hitem
    show d.readOn (("--" ++ s.name) :: value :: rest) = .ok result ↔
      ∃ e, d.accept s value = .ok e ∧ _
    rw [readOn_cons, hname, ← settle_value hd,
      ← readOn_eq_ok_iff_settle (d := { d with pending := .value s value }) hd.isLiteral (by simp)
        hrest]
    show readOn { d with pending := .unfinished s } (value :: rest) = .ok result ↔ _
    rw [readOn_cons, hvalue]
    rfl
  | attached s value =>
    show d.readOn (("--" ++ s.name ++ "=" ++ value) :: rest) = .ok result ↔ _
    rw [readOn_cons, take_attached hd.isLiteral, hsettle, bind_eq_ok]
    rfl

theorem settle_of_unfinished {d : Draft} {s : Setting} (hpending : d.pending = .unfinished s) :
    d.settle = .error .missingValue := by
  simp only [settle, hpending]

/-- A setting whose value is still to come takes nothing but a value. -/
theorem plain_of_unfinished {d e : Draft} (hd : d.isLiteral = false) {s : Setting}
    (hpending : d.pending = .unfinished s) {text : String} (htext : Looks text)
    (h : d.take text = .ok e) : text.toList.head? ≠ some '-' := by
  have hsettle := settle_of_unfinished hpending
  cases htext with
  | plain htext => exact htext
  | name t htext =>
    subst htext
    rw [take_name hd, hsettle] at h
    cases h
  | attached t value htext =>
    subst htext
    rw [take_attached hd, hsettle] at h
    cases h
  | refused htext => exact absurd h (htext d hd e)

theorem exists_value {d : Draft} (hd : d.isLiteral = false) {s : Setting}
    (hpending : d.pending = .unfinished s) {arguments : List String}
    (hlooks : ∀ text ∈ arguments, Looks text) {result : Options}
    (h : d.readOn arguments = .ok result) :
    ∃ value rest, arguments = value :: rest ∧ value.toList.head? ≠ some '-' := by
  cases arguments with
  | nil =>
    rcases finish_eq_ok_iff.1 h with ⟨e, he, -⟩
    rw [settle_of_unfinished hpending] at he
    cases he
  | cons value rest =>
    rw [readOn_cons, bind_eq_ok] at h
    rcases h with ⟨e, htake, -⟩
    have hvalue := (List.forall_mem_cons.1 hlooks).1
    exact ⟨value, rest, rfl, plain_of_unfinished hd hpending hvalue htake⟩

/-- An accepted line begins with an item. -/
theorem exists_item {d : Draft} (hd : d.Settled) {arguments : List String} (hne : arguments ≠ [])
    (hlooks : ∀ text ∈ arguments, Looks text) {result : Options}
    (h : d.readOn arguments = .ok result) :
    ∃ (item : Item) (rest : List String), arguments = item.tokens ++ rest ∧ item.IsPlain := by
  obtain _ | ⟨text, rest⟩ := arguments
  · exact absurd rfl hne
  rcases List.forall_mem_cons.1 hlooks with ⟨htext, hrest⟩
  cases htext with
  | plain htext => exact ⟨.rom text, rest, rfl, htext⟩
  | attached s value htext =>
    subst htext
    exact ⟨.attached s value, rest, rfl, trivial⟩
  | refused htext =>
    rw [readOn_cons, bind_eq_ok] at h
    rcases h with ⟨e, htake, -⟩
    exact absurd htake (htext d hd.isLiteral e)
  | name s htext =>
    subst htext
    rw [readOn_cons, take_name hd.isLiteral, settle_of_settled hd] at h
    rcases exists_value (d := { d with pending := .unfinished s }) hd.isLiteral rfl hrest h with
      ⟨value, later, rfl, hvalue⟩
    exact ⟨.apart s value, later, rfl, hvalue⟩

/-- A line is accepted exactly if it is made of items that can be put one after the other. -/
theorem readOn_eq_ok_iff {d : Draft} (hd : d.Settled) {arguments : List String}
    (hlooks : ∀ text ∈ arguments, Looks text) {result : Options} :
    d.readOn arguments = .ok result ↔ ∃ items : List Item,
      items.flatMap Item.tokens = arguments ∧ (∀ item ∈ items, item.IsPlain) ∧
        ∃ e, items.foldlM put d = .ok e ∧ e.finish = .ok result := by
  constructor
  · intro h
    induction hlength : arguments.length using Nat.strongRecOn generalizing d arguments with
    | ind length ih =>
      by_cases hne : arguments = []
      · subst hne
        exact ⟨[], rfl, by simp, d, rfl, h⟩
      · rcases exists_item hd hne hlooks h with ⟨item, rest, rfl, hitem⟩
        have hrest : ∀ text ∈ rest, Looks text := fun text ht =>
          hlooks text (List.mem_append_right _ ht)
        rcases (readOn_tokens hd hitem hrest).1 h with ⟨e, hput, hlater⟩
        have hshorter : rest.length < length := by
          rw [← hlength, List.length_append]
          cases item <;> simp [Item.tokens]
        rcases ih _ hshorter (put_settled hput hd) hrest hlater rfl with
          ⟨items, rfl, hitems, f, hfold, hfinish⟩
        refine ⟨item :: items, rfl, List.forall_mem_cons.2 ⟨hitem, hitems⟩, f, ?_, hfinish⟩
        rw [List.foldlM_cons, hput]
        exact hfold
  · rintro ⟨items, rfl, hitems, f, hfold, hfinish⟩
    induction items generalizing d with
    | nil =>
      cases hfold
      exact hfinish
    | cons item items ih =>
      rcases List.forall_mem_cons.1 hitems with ⟨hitem, hrest⟩
      rw [List.foldlM_cons, bind_eq_ok] at hfold
      rcases hfold with ⟨e, hput, hfold⟩
      have hlater : ∀ text ∈ items.flatMap Item.tokens, Looks text := fun text ht =>
        hlooks text (List.mem_append_right _ ht)
      rw [List.flatMap_cons]
      exact (readOn_tokens hd hitem hlater).2
        ⟨e, hput, ih (put_settled hput hd) hlater hrest hfold⟩

end Draft

end Chip8VM.CommandLine
