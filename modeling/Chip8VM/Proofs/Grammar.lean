import Chip8VM.Desktop.Service
import Chip8VM.Proofs.Items
import Chip8VM.Proofs.Spellings

/-!
# The grammar of command lines

Which command lines are accepted, said without reading them from left to right: any line of items in
which there is one path and each setting at most once, with a value that it can have, and no other
line.

* `Gives`: the options that items give.
* `foldlM_put_eq_ok_iff`: items fill the places of a draft, each place for itself.
* `gives_iff`: so they give options exactly if they can be put one after the other.
* `read_eq_ok_iff`: the lines that are accepted, and what they say.
-/

namespace Chip8VM.CommandLine

/-- A setting is given at most once: its value is what the text that is given spells, and otherwise
its default. -/
def Settles {α : Type} (Spells : String → α → Prop) (default : α) (texts : List String)
    (value : α) : Prop :=
  (texts = [] ∧ value = default) ∨ ∃ text, texts = [text] ∧ Spells text value

/-- The items give options: one path, which has a character, and each setting at most once. -/
structure Gives (items : List Item) (options : Options) : Prop where
  rom : items.filterMap Item.path? = [options.rom] ∧ options.rom ≠ ""
  hz : Settles (fun text hz => SpellsNumber text hz.toNat ∧ 1 ≤ hz.toNat ∧ hz.toNat ≤ 4294967295)
    500 (items.filterMap (Item.valueOf? .hz)) options.hz
  scale : Settles (fun text scale => SpellsNumber text scale.toNat ∧ 1 ≤ scale.toNat ∧
    scale.toNat ≤ 40) 10 (items.filterMap (Item.valueOf? .scale)) options.scale
  seed : Settles (fun text seed => ∃ n : UInt64, seed = some n ∧ SpellsNumber text n.toNat) none
    (items.filterMap (Item.valueOf? .seed)) options.seed
  logLevel : Settles SpellsLevel .info (items.filterMap (Item.valueOf? .logLevel))
    options.logLevel

namespace Draft

/-! ## What items leave behind -/

/-- Texts are read one after the other into a place that takes one value. -/
def Fills {α : Type} (read? : String → Option α) (current : Option α) :
    List String → Option α → Prop
  | [], result => current = result
  | text :: rest, result => current = none ∧ ∃ a, read? text = some a ∧
      Fills read? (some a) rest result

theorem fills_none_iff {α : Type} {read? : String → Option α} {texts : List String}
    {result : Option α} : Fills read? none texts result ↔
      (texts = [] ∧ result = none) ∨ ∃ text a, texts = [text] ∧ read? text = some a ∧
        result = some a := by
  rcases texts with _ | ⟨text, _ | ⟨other, rest⟩⟩
  · simp [Fills, eq_comm]
  · simp [Fills, eq_comm]
  · simp [Fills]

/-- A path has a character. -/
def pathOf? (text : String) : Option String :=
  if text = "" then none else some text

/-- The items fill the places of a draft. -/
structure IsFilled (d : Draft) (items : List Item) (e : Draft) : Prop where
  rom : Fills pathOf? d.rom (items.filterMap Item.path?) e.rom
  hz : Fills hzOf? d.hz (items.filterMap (Item.valueOf? .hz)) e.hz
  scale : Fills scaleOf? d.scale (items.filterMap (Item.valueOf? .scale)) e.scale
  seed : Fills seedOf? d.seed (items.filterMap (Item.valueOf? .seed)) e.seed
  logLevel : Fills Level.ofName? d.logLevel (items.filterMap (Item.valueOf? .logLevel)) e.logLevel
  pending : d.pending = e.pending
  isLiteral : d.isLiteral = e.isLiteral

theorem fills_append {α : Type} {read? : String → Option α} {current result : Option α}
    {texts rest : List String} : Fills read? current (texts ++ rest) result ↔
      ∃ between, Fills read? current texts between ∧ Fills read? between rest result := by
  induction texts generalizing current with
  | nil => simp [Fills]
  | cons text texts ih =>
    simp only [List.cons_append, Fills, ih]
    constructor
    · rintro ⟨hnone, a, ha, between, hfirst, hrest⟩
      exact ⟨between, ⟨hnone, a, ha, hfirst⟩, hrest⟩
    · rintro ⟨between, ⟨hnone, a, ha, hfirst⟩, hrest⟩
      exact ⟨hnone, a, ha, between, hfirst, hrest⟩

/-- Items fill the places of a draft one after the other. -/
theorem isFilled_append {d e : Draft} {items rest : List Item} :
    IsFilled d (items ++ rest) e ↔ ∃ f, IsFilled d items f ∧ IsFilled f rest e := by
  constructor
  · intro h
    rcases h with ⟨hrom, hhz, hscale, hseed, hlevel, hpending, hliteral⟩
    rw [List.filterMap_append, fills_append] at hrom hhz hscale hseed hlevel
    rcases hrom with ⟨rom, hrom, hrom'⟩
    rcases hhz with ⟨hz, hhz, hhz'⟩
    rcases hscale with ⟨scale, hscale, hscale'⟩
    rcases hseed with ⟨seed, hseed, hseed'⟩
    rcases hlevel with ⟨level, hlevel, hlevel'⟩
    exact ⟨⟨rom, hz, scale, seed, level, d.pending, d.isLiteral⟩,
      ⟨hrom, hhz, hscale, hseed, hlevel, rfl, rfl⟩,
      ⟨hrom', hhz', hscale', hseed', hlevel', hpending, hliteral⟩⟩
  · rintro ⟨f, h, h'⟩
    constructor
    case pending => exact h.pending.trans h'.pending
    case isLiteral => exact h.isLiteral.trans h'.isLiteral
    all_goals rw [List.filterMap_append, fills_append]
    case rom => exact ⟨f.rom, h.rom, h'.rom⟩
    case hz => exact ⟨f.hz, h.hz, h'.hz⟩
    case scale => exact ⟨f.scale, h.scale, h'.scale⟩
    case seed => exact ⟨f.seed, h.seed, h'.seed⟩
    case logLevel => exact ⟨f.logLevel, h.logLevel, h'.logLevel⟩

theorem isFilled_nil {d e : Draft} : IsFilled d [] e ↔ d = e := by
  obtain ⟨rom, hz, scale, seed, logLevel, pending, isLiteral⟩ := d
  obtain ⟨rom', hz', scale', seed', logLevel', pending', isLiteral'⟩ := e
  rw [Draft.mk.injEq]
  constructor
  · rintro ⟨hrom, hhz, hscale, hseed, hlevel, hpending, hliteral⟩
    exact ⟨hrom, hhz, hscale, hseed, hlevel, hpending, hliteral⟩
  · rintro ⟨hrom, hhz, hscale, hseed, hlevel, hpending, hliteral⟩
    exact ⟨hrom, hhz, hscale, hseed, hlevel, hpending, hliteral⟩

/-- A setting fills its place and leaves the others as they are. -/
theorem accept_eq_ok_iff {d e : Draft} {s : Setting} {text : String} :
    d.accept s text = .ok e ↔ IsFilled d [.apart s text] e := by
  cases s <;> simp only [accept, bind_eq_ok, pure_eq_ok, once_eq_ok]
  case hz =>
    constructor
    · rintro ⟨_, ⟨hnone, a, ha, rfl⟩, rfl⟩
      exact { isFilled_nil.2 (rfl : d = d) with hz := ⟨hnone, a, ha, rfl⟩ }
    · intro h
      rcases h.hz with ⟨hnone, a, ha, hrest⟩
      exact ⟨_, ⟨hnone, a, ha, rfl⟩, isFilled_nil.1 { h with hz := hrest }⟩
  case scale =>
    constructor
    · rintro ⟨_, ⟨hnone, a, ha, rfl⟩, rfl⟩
      exact { isFilled_nil.2 (rfl : d = d) with scale := ⟨hnone, a, ha, rfl⟩ }
    · intro h
      rcases h.scale with ⟨hnone, a, ha, hrest⟩
      exact ⟨_, ⟨hnone, a, ha, rfl⟩, isFilled_nil.1 { h with scale := hrest }⟩
  case seed =>
    constructor
    · rintro ⟨_, ⟨hnone, a, ha, rfl⟩, rfl⟩
      exact { isFilled_nil.2 (rfl : d = d) with seed := ⟨hnone, a, ha, rfl⟩ }
    · intro h
      rcases h.seed with ⟨hnone, a, ha, hrest⟩
      exact ⟨_, ⟨hnone, a, ha, rfl⟩, isFilled_nil.1 { h with seed := hrest }⟩
  case logLevel =>
    constructor
    · rintro ⟨_, ⟨hnone, a, ha, rfl⟩, rfl⟩
      exact { isFilled_nil.2 (rfl : d = d) with logLevel := ⟨hnone, a, ha, rfl⟩ }
    · intro h
      rcases h.logLevel with ⟨hnone, a, ha, hrest⟩
      exact ⟨_, ⟨hnone, a, ha, rfl⟩, isFilled_nil.1 { h with logLevel := hrest }⟩

/-- An item fills one place. -/
theorem put_eq_ok_iff {d e : Draft} {item : Item} :
    d.put item = .ok e ↔ IsFilled d [item] e := by
  cases item with
  | rom path =>
    rw [put_rom_eq_ok]
    constructor
    · rintro ⟨hnone, hne, rfl⟩
      exact { isFilled_nil.2 (rfl : d = d) with rom := ⟨hnone, path, if_neg hne, rfl⟩ }
    · intro h
      rcases h.rom with ⟨hnone, a, ha, hrest⟩
      have hpath : path ≠ "" ∧ path = a := by
        unfold pathOf? at ha
        split at ha
        · cases ha
        · exact ⟨‹_›, Option.some.inj ha⟩
      exact ⟨hnone, hpath.1, isFilled_nil.1 { h with rom := hpath.2 ▸ hrest }⟩
  | apart s value => exact accept_eq_ok_iff
  | attached s value =>
    show d.accept s value = .ok e ↔ _
    rw [accept_eq_ok_iff]
    exact ⟨fun h => { h with }, fun h => { h with }⟩

theorem foldlM_put_eq_ok_iff {d e : Draft} {items : List Item} :
    items.foldlM put d = .ok e ↔ IsFilled d items e := by
  induction items generalizing d with
  | nil =>
    rw [isFilled_nil]
    exact pure_eq_ok
  | cons item items ih =>
    rw [List.foldlM_cons, bind_eq_ok, ← List.singleton_append, isFilled_append]
    simp only [ih, put_eq_ok_iff]

theorem settles_iff {α : Type} {Spells : String → α → Prop} {read? : String → Option α}
    (hread : ∀ text a, read? text = some a ↔ Spells text a) {default value : α}
    {texts : List String} : Settles Spells default texts value ↔
      ∃ result, Fills read? none texts result ∧ result.getD default = value := by
  simp only [fills_none_iff]
  constructor
  · rintro (⟨htexts, rfl⟩ | ⟨text, htexts, hspells⟩)
    · exact ⟨none, .inl ⟨htexts, rfl⟩, rfl⟩
    · exact ⟨some value, .inr ⟨text, value, htexts, (hread text value).2 hspells, rfl⟩, rfl⟩
  · rintro ⟨result, ⟨htexts, rfl⟩ | ⟨text, a, htexts, ha, rfl⟩, rfl⟩
    · exact .inl ⟨htexts, rfl⟩
    · exact .inr ⟨text, htexts, (hread text a).1 ha⟩

theorem settles_seed_iff {texts : List String} {seed : Option UInt64} :
    Settles (fun text seed => ∃ n : UInt64, seed = some n ∧ SpellsNumber text n.toNat) none texts
      seed ↔ Fills seedOf? none texts seed := by
  rw [fills_none_iff]
  unfold Settles
  simp only [seedOf?_eq_some_iff]
  constructor
  · rintro (hnone | ⟨text, htexts, n, hseed, hspells⟩)
    · exact .inl hnone
    · exact .inr ⟨text, n, htexts, hspells, hseed⟩
  · rintro (hnone | ⟨text, n, htexts, hspells, hseed⟩)
    · exact .inl hnone
    · exact .inr ⟨text, htexts, n, hseed, hspells⟩

theorem fills_path_iff {texts : List String} {rom : String} :
    Fills pathOf? none texts (some rom) ↔ texts = [rom] ∧ rom ≠ "" := by
  rw [fills_none_iff]
  constructor
  · rintro (⟨-, h⟩ | ⟨text, a, htexts, ha, hrom⟩)
    · cases h
    · unfold pathOf? at ha
      split at ha
      · cases ha
      · cases ha
        cases hrom
        exact ⟨htexts, ‹_›⟩
  · rintro ⟨htexts, hne⟩
    exact .inr ⟨rom, rom, htexts, if_neg hne, rfl⟩

/-- Items that are put one after the other give the options of the draft that they leave. -/
theorem gives_iff {items : List Item} {result : Options} :
    (∃ e, items.foldlM put {} = .ok e ∧ e.finish = .ok result) ↔ Gives items result := by
  simp only [foldlM_put_eq_ok_iff]
  constructor
  · rintro ⟨e, h, hfinish⟩
    have he : e.settle = .ok e := settle_of_settled ⟨h.pending.symm, h.isLiteral.symm⟩
    rcases finish_eq_ok_iff.1 hfinish with ⟨f, hf, rom, hrom, rfl⟩
    cases he.symm.trans hf
    exact {
      rom := fills_path_iff.1 (hrom ▸ h.rom)
      hz := (settles_iff fun _ _ => hzOf?_eq_some_iff).2 ⟨e.hz, h.hz, rfl⟩
      scale := (settles_iff fun _ _ => scaleOf?_eq_some_iff).2 ⟨e.scale, h.scale, rfl⟩
      seed := settles_seed_iff.2 h.seed
      logLevel := (settles_iff fun _ _ => ofName?_eq_some_iff).2 ⟨e.logLevel, h.logLevel, rfl⟩ }
  · intro h
    rcases (settles_iff fun _ _ => hzOf?_eq_some_iff).1 h.hz with ⟨hz, hhz, hhz'⟩
    rcases (settles_iff fun _ _ => scaleOf?_eq_some_iff).1 h.scale with ⟨scale, hscale, hscale'⟩
    rcases (settles_iff fun _ _ => ofName?_eq_some_iff).1 h.logLevel with ⟨level, hlevel, hlevel'⟩
    let e : Draft := ⟨some result.rom, hz, scale, result.seed, level, .nothing, false⟩
    refine ⟨e, ⟨fills_path_iff.2 h.rom, hhz, hscale, settles_seed_iff.1 h.seed, hlevel, rfl, rfl⟩,
      finish_eq_ok_iff.2 ⟨e, settle_of_settled ⟨rfl, rfl⟩, result.rom, rfl, ?_⟩⟩
    unfold options
    rw [hhz', hscale', hlevel']

end Draft

/-! ## The grammar -/

theorem Gives.hz_pos {items : List Item} {options : Options} (h : Gives items options) :
    1 ≤ options.hz.toNat := by
  rcases h.hz with ⟨-, hdefault⟩ | ⟨text, -, -, hlow, -⟩
  · rw [hdefault]
    decide
  · exact hlow

theorem Gives.scale_le {items : List Item} {options : Options} (h : Gives items options) :
    options.scale.toNat ≤ 40 := by
  rcases h.scale with ⟨-, hdefault⟩ | ⟨text, -, -, -, hhigh⟩
  · rw [hdefault]
    decide
  · exact hhigh

/-- A command line is accepted exactly if it is written by the grammar, whatever the order of its
items and however the values of its settings are written; and then it says what its items give. It
is one path and each setting at most once. So the time of a step and the size of the window that
follow from an accepted line are always exact. -/
theorem read_eq_ok_iff {arguments : List String}
    (harguments : ∀ text ∈ arguments, text ≠ "-" ∧ text ≠ "--") :
    (∀ options, read arguments = .ok options ↔ ∃ items : List Item,
      items.flatMap Item.tokens = arguments ∧ (∀ item ∈ items, item.IsPlain) ∧
        Gives items options) ∧
    ∀ options, read arguments = .ok options → options.hz.toNat ≠ 0 ∧
      64 * options.scale.toNat < 4294967296 ∧ 32 * options.scale.toNat < 4294967296 ∧
      (Desktop.Window.ofScale options.scale).width.toNat = 64 * options.scale.toNat ∧
      (Desktop.Window.ofScale options.scale).height.toNat = 32 * options.scale.toNat := by
  have hlooks : ∀ text ∈ arguments, Draft.Looks text := fun text ht =>
    Draft.looks (harguments text ht).1 (harguments text ht).2
  have hread : ∀ options, read arguments = .ok options ↔ ∃ items : List Item,
      items.flatMap Item.tokens = arguments ∧ (∀ item ∈ items, item.IsPlain) ∧
        Gives items options := by
    intro options
    show Draft.readOn {} arguments = .ok options ↔ _
    rw [Draft.readOn_eq_ok_iff ⟨rfl, rfl⟩ hlooks]
    simp only [Draft.gives_iff]
  refine ⟨hread, fun options h => ?_⟩
  rcases (hread options).1 h with ⟨items, -, -, hgives⟩
  have hhz := hgives.hz_pos
  have hscale := hgives.scale_le
  exact ⟨by omega, by omega, by omega, Desktop.Window.size_ofScale hscale⟩

/-- Two settings, one of them with its value attached, around the path. -/
def launch : List Item :=
  [.apart .hz "+0700", .rom "pong.ch8", .attached .logLevel "dEbUg"]

theorem launch_reads :
    (∀ text ∈ ["--hz", "+0700", "pong.ch8", "--log-level=dEbUg"], text ≠ "-" ∧ text ≠ "--") ∧
    read ["--hz", "+0700", "pong.ch8", "--log-level=dEbUg"] =
      .ok { rom := "pong.ch8", hz := 700, logLevel := .debug } ∧
    (700 : UInt32).toNat ≠ 0 := by
  have harguments : ∀ text ∈ ["--hz", "+0700", "pong.ch8", "--log-level=dEbUg"],
      text ≠ "-" ∧ text ≠ "--" := by decide
  have hhz : SpellsNumber "+0700" (700 : UInt32).toNat :=
    ⟨['0', '7', '0', '0'], by decide, List.all_eq_true.1 (by decide), .inr (by decide), by decide⟩
  have hgives : Gives launch { rom := "pong.ch8", hz := 700, logLevel := .debug } :=
    { rom := ⟨rfl, by decide⟩
      hz := .inr ⟨"+0700", rfl, hhz, by decide, by decide⟩
      scale := .inl ⟨rfl, rfl⟩
      seed := .inl ⟨rfl, rfl⟩
      logLevel := .inr ⟨"dEbUg", rfl, by unfold SpellsLevel; decide⟩ }
  have hplain : ∀ item ∈ launch, item.IsPlain := by
    intro item hitem
    simp only [launch, List.mem_cons, List.not_mem_nil, or_false] at hitem
    rcases hitem with rfl | rfl | rfl
    · show "+0700".toList.head? ≠ some '-'
      decide
    · show "pong.ch8".toList.head? ≠ some '-'
      decide
    · trivial
  rcases read_eq_ok_iff harguments with ⟨hread, hexact⟩
  have haccepted := (hread _).2 ⟨launch, by decide, hplain, hgives⟩
  exact ⟨harguments, haccepted, (hexact _ haccepted).1⟩

end Chip8VM.CommandLine
