import Chip8VM.Proofs.Masks
import Chip8VM.Proofs.Workshop

/-!
# Glyphs

The font is in memory from power-on and can never be damaged: stores leave out the places where it
is, and programs are loaded behind it. So the glyph of a digit can be drawn at any time.

* `Memory.HasFont`: the font is where it belongs.
* `execute_hasFont`, `step_hasFont`, `carryOut_hasFont`: nothing that is done to a console damages
  it.
* `steps_glyph`, `carryOut_glyph`: pointing at a glyph and drawing five rows draws that glyph.
* `font_survives`: both together, after any sequence of interventions.
-/

namespace Chip8VM

/-- The font is in its place in memory. -/
def Memory.HasFont (m : Memory) : Prop :=
  ∀ k : Fin 80, m.bytes.get (Place.ofNat (Font.start + k.val)) = Font.bytes.get k

/-- The address of the glyph of a digit. -/
def Font.address (digit : Nat) : UInt16 :=
  (start + glyphSize * digit).toUInt16

/-- The cells of the glyph of a digit with its corner at a point of the wrapped grid. -/
def Font.mask (digit left top : Nat) : Finset Cell :=
  Sprite.mask left top (fun j => Font.bytes.get (Fin.ofNat 80 (Font.glyphSize * digit + j)))
    Font.glyphSize

/-! ## The font in memory -/

namespace Memory

theorem val_fontPlace (k : Fin 80) :
    (Place.ofNat (Font.start + k.val)).val = Font.start + k.val := by
  have hk := k.isLt
  simp only [Place.ofNat, Fin.ofNat, Font.start]
  omega

theorem isFont_fontPlace (k : Fin 80) :
    Place.isFont (Place.ofNat (Font.start + k.val)) = true := by
  have hk := k.isLt
  rw [Place.isFont_iff, val_fontPlace]
  simp only [Font.start]
  omega

theorem fresh_hasFont : fresh.HasFont := by
  intro k
  have hk := k.isLt
  have hplace : Place.ofNat (Font.start + k.val) = ⟨0x50 + k.val, by omega⟩ :=
    Fin.ext (val_fontPlace k)
  rw [hplace]
  show fresh.bytes[0x50 + k.val] = Font.bytes[k.val]
  have hlt : 80 + k.val < 160 := by omega
  simp [fresh, Font.start, hlt]

/-- Changes outside the font's places keep the font. -/
theorem HasFont.of_change {m n : Memory} (hm : m.HasFont)
    (h : ∀ p : Place, n.bytes.get p ≠ m.bytes.get p → p.isFont = false) : n.HasFont := by
  intro k
  rw [← hm k]
  apply Decidable.byContradiction
  intro hne
  have hfont := h _ hne
  rw [isFont_fontPlace] at hfont
  cases hfont

/-- Programs are copied behind the font. -/
theorem install_hasFont {m : Memory} (hm : m.HasFont) (image : Array UInt8) :
    (m.install image).HasFont := by
  apply hm.of_change
  intro p hp
  have hbehind : ¬ p.val < programStart := by
    intro hlt
    exact hp (m.get_install_of_outside (.inl hlt))
  rw [← Bool.not_eq_true, Place.isFont_iff]
  simp only [programStart] at hbehind
  omega

end Memory

/-! ## Glyphs in memory -/

namespace Console

variable {ρ : Type}

/-- The sprite of five rows at the glyph of a digit is that glyph. -/
theorem mask_glyph {m : Machine} (hm : m.memory.HasFont) {digit : Nat} (hdigit : digit ≤ 15)
    (hi : m.i = Font.address digit) (y z : Machine.Register) :
    m.mask y z 5 = Font.mask digit (m.getV y).toNat (m.getV z).toNat := by
  apply Sprite.mask_congr
  intro j hj
  have hk : 5 * digit + j < 80 := by omega
  have haddr : (Font.address digit).toNat = 0x50 + 5 * digit := by
    unfold Font.address
    rw [Nat.toUInt16_eq, UInt16.toNat_ofNat']
    simp only [Font.start, Font.glyphSize]
    omega
  have hplace : m.i.toNat + j = Font.start + (5 * digit + j) := by
    rw [hi, haddr, Nat.add_assoc]
  have hbyte : (Fin.ofNat 80 (5 * digit + j) : Fin 80) = ⟨5 * digit + j, hk⟩ :=
    Fin.ext (Nat.mod_eq_of_lt hk)
  rw [hplace]
  show _ = Font.bytes.get (Fin.ofNat 80 (5 * digit + j))
  rw [hbyte]
  exact hm ⟨5 * digit + j, hk⟩

/-- Drawing five rows at the glyph of a digit turns the cells of that glyph and no others. -/
theorem isLit_drawGlyph {c : Console ρ} (hc : c.machine.memory.HasFont) {digit : Nat}
    (hdigit : digit ≤ 15) (hi : c.machine.i = Font.address digit) (y z : Machine.Register)
    (cell : Cell) :
    (c.draw y z 5).screen.frame.isLit cell =
      (c.screen.frame.isLit cell ^^
        decide (cell ∈ Font.mask digit (c.machine.getV y).toNat (c.machine.getV z).toNat)) := by
  rw [isLit_draw c y z (by omega) cell, mask_glyph hc hdigit hi]

/-! ## What is done to a console -/

variable [WordSource ρ]

theorem execute_hasFont {c d : Console ρ} {pad : Keypad} {ins : Instruction} {events : List Event}
    (h : c.execute pad ins = .ok (d, events)) (hc : c.machine.memory.HasFont) :
    d.machine.memory.HasFont :=
  hc.of_change fun _ hp => (execute_memory_change h hp).1

theorem step_hasFont {c d : Console ρ} {pad : Keypad} {events : List Event}
    (h : c.step pad = .ok (d, events)) (hc : c.machine.memory.HasFont) :
    d.machine.memory.HasFont := by
  cases step_eq_ok_iff.1 h with
  | waiting hmode hpad => exact hc
  | resumed hmode hpad hr => exact hc
  | unrecognised hmode hdecode => exact hc
  | executed hmode hdecode hexec => exact execute_hasFont hexec hc

/-! ## Drawing glyphs -/

/-- Pointing at the glyph of a register sets the index register and nothing else. -/
theorem execute_loadGlyph (c : Console ρ) (pad : Keypad) (x : Machine.Register) :
    c.execute pad (.loadGlyph x.val.toUInt8) =
      .ok (c.become (c.machine.setIndex (Font.address (c.machine.getV x).toNat))) := by
  simp only [execute, Machine.register_toUInt8]
  show (c.machine.pointAtGlyph x >>= fun m => .ok (c.become m)) = _
  rw [Machine.pointAtGlyph_eq]
  rfl

/-- A step that points at the glyph of a digit and one that draws five rows there draw that
glyph. -/
theorem steps_glyph {c : Console ρ} (hc : c.machine.memory.HasFont) {x : Machine.Register}
    (hx : (c.machine.getV x).toNat ≤ 15)
    (hpoint : c.machine.upcoming? = some (.loadGlyph x.val.toUInt8)) (pad : Keypad) :
    ∃ d past, c.step pad = .ok (d, past) ∧ ∀ (y z : Machine.Register) (pad' : Keypad),
      d.machine.upcoming? = some (.draw y.val.toUInt8 z.val.toUInt8 5) →
        ∃ e told, d.step pad' = .ok (e, told) ∧
          ∀ cell, e.screen.frame.isLit cell =
            (c.screen.frame.isLit cell ^^
              decide (cell ∈ Font.mask (c.machine.getV x).toNat (c.machine.getV y).toNat
                (c.machine.getV z).toNat)) := by
  rcases Machine.upcoming?_eq_some_iff.1 hpoint with ⟨hmode, hdecode⟩
  let m := c.fetched.machine.setIndex (Font.address (c.machine.getV x).toNat)
  let d : Console ρ := { c.fetched with machine := m }
  have hfirst : c.step pad =
      .ok (d, [.executing c.machine.pc c.machine.peek (.loadGlyph x.val.toUInt8)]) :=
    step_eq_ok_iff.2 (.executed hmode hdecode (c.fetched.execute_loadGlyph pad x))
  refine ⟨d, _, hfirst, ?_⟩
  intro y z pad' hdraw
  rcases Machine.upcoming?_eq_some_iff.1 hdraw with ⟨hmode', hdecode'⟩
  have hsecond := d.fetched.execute_draw pad' (Machine.register_toUInt8 y)
    (Machine.register_toUInt8 z) 5
  refine ⟨_, _, step_eq_ok_iff.2 (.executed hmode' hdecode' hsecond), ?_⟩
  -- between the two the timers and the program counter move, and nothing that is drawn
  intro cell
  exact isLit_drawGlyph (c := d.fetched) hc hx rfl y z cell

end Console

/-! ## In the workshop -/

namespace Bench

variable {σ : Type} [WordSource σ]

theorem apply_hasFont {b b' : Bench} {operation : Operation} (h : b.apply operation = .ok b')
    (hb : b.console.machine.memory.HasFont) : b'.console.machine.memory.HasFont := by
  cases operation with
  | load image =>
    cases h
    rcases b.afterLoading_load image with hsame | hinstalled
    · rw [hsame]
      exact hb
    · rw [hinstalled]
      exact Memory.install_hasFont hb _
  | loadFrom reader =>
    cases h
    rcases b.afterLoading_loadFrom reader with hsame | ⟨image, hinstalled⟩
    · rw [hsame]
      exact hb
    · rw [hinstalled]
      exact Memory.install_hasFont hb _
  | step =>
    rcases apply_step_eq_ok.1 h with ⟨console, events, hstep, rfl⟩
    exact Console.step_hasFont hstep hb
  | keypad operation =>
    cases h
    exact hb
  | screen operation =>
    cases h
    exact hb

theorem intervene_hasFont {b b' : Bench} {intervention : Intervention σ}
    (h : b.intervene intervention = .ok b') (hb : b.console.machine.memory.HasFont) :
    b'.console.machine.memory.HasFont := by
  cases intervention with
  | operate operation => exact apply_hasFont h hb
  | execute ins random =>
    rcases intervene_execute_eq_ok.1 h with ⟨console, events, hexec, rfl⟩
    exact Console.execute_hasFont (c := b.console.withRandom random) hexec hb

/-- Whatever is done in a workshop, the font stays where it is. -/
theorem carryOut_hasFont {b b' : Bench} {interventions : List (Intervention σ)}
    (h : b.carryOut interventions = .ok b') (hb : b.console.machine.memory.HasFont) :
    b'.console.machine.memory.HasFont := by
  induction interventions generalizing b with
  | nil =>
    cases h
    exact hb
  | cons intervention rest ih =>
    rcases bind_eq_ok.1 h with ⟨b₁, hfirst, hrest⟩
    exact ih hrest (intervene_hasFont hfirst hb)

/-- Pointing at a glyph by hand sets the index register and nothing else. -/
theorem intervene_loadGlyph (b : Bench) (x : Machine.Register) (random : σ) :
    ∃ b', b.intervene (.execute (.loadGlyph x.val.toUInt8) random) = .ok b' ∧
      b'.console.machine =
        b.console.machine.setIndex (Font.address (b.console.machine.getV x).toNat) ∧
      b'.console.screen = b.console.screen := by
  have hpoint := (b.console.withRandom random).execute_loadGlyph b.keypad x
  exact ⟨_, intervene_execute_eq_ok.2 ⟨_, _, hpoint, rfl⟩, rfl, rfl⟩

/-- Drawing by hand leaves the screen that drawing leaves. -/
theorem intervene_draw (b : Bench) (y z : Machine.Register) (n : UInt8) (random : σ) :
    ∃ b', b.intervene (.execute (.draw y.val.toUInt8 z.val.toUInt8 n) random) = .ok b' ∧
      b'.console.screen = (b.console.draw y z n.toNat).screen := by
  have hdraw := (b.console.withRandom random).execute_draw b.keypad (Machine.register_toUInt8 y)
    (Machine.register_toUInt8 z) n
  exact ⟨_, intervene_execute_eq_ok.2 ⟨_, _, hdraw, rfl⟩, rfl⟩

/-- Pointing at the glyph of a digit and drawing five rows by hand draws that glyph. -/
theorem carryOut_glyph {b : Bench} (hb : b.console.machine.memory.HasFont)
    {x : Machine.Register} (hx : (b.console.machine.getV x).toNat ≤ 15) (y z : Machine.Register)
    (random random' : σ) :
    ∃ b', b.carryOut [.execute (.loadGlyph x.val.toUInt8) random,
        .execute (.draw y.val.toUInt8 z.val.toUInt8 5) random'] = .ok b' ∧
      ∀ cell, b'.console.screen.frame.isLit cell =
        (b.console.screen.frame.isLit cell ^^
          decide (cell ∈ Font.mask (b.console.machine.getV x).toNat
            (b.console.machine.getV y).toNat (b.console.machine.getV z).toNat)) := by
  rcases b.intervene_loadGlyph x random with ⟨b₁, hfirst, hmachine, hscreen⟩
  rcases b₁.intervene_draw y z 5 random' with ⟨b₂, hsecond, hdrawn⟩
  refine ⟨b₂, ?_, ?_⟩
  · simp only [carryOut_cons, hfirst, bind_eq_ok, Except.ok.injEq]
    exact ⟨b₁, rfl, b₂, hsecond, rfl⟩
  · intro cell
    have hfont : b₁.console.machine.memory.HasFont := by
      rw [hmachine]
      exact hb
    have hindex : b₁.console.machine.i = Font.address (b.console.machine.getV x).toNat := by
      rw [hmachine]
      rfl
    have hlit := Console.isLit_drawGlyph hfont hx hindex y z cell
    rw [hscreen, hmachine] at hlit
    rw [hdrawn]
    exact hlit

/-- The font can never be damaged and is always drawable. After any sequence of loads, steps and
encoded instructions executed by hand it is where it was at power-on; and whenever a register holds
a digit, pointing at its glyph and drawing five rows, by hand or in two steps, turns exactly the
cells of that glyph with its corner at the position in the other two registers. -/
theorem font_survives (seed : UInt64) (interventions : List (Intervention σ))
    (h : ∀ i ∈ interventions, i.IsEncoded) :
    ∃ b, (ofSeed seed).carryOut interventions = .ok b ∧
      (∀ k : Fin 80, b.console.machine.memory.bytes.get (Place.ofNat (0x50 + k.val)) =
        Font.bytes.get k) ∧
      ∀ x y z : Machine.Register, (b.console.machine.getV x).toNat ≤ 15 →
        (∀ random random' : σ, ∃ b',
          b.carryOut [.execute (.loadGlyph x.val.toUInt8) random,
            .execute (.draw y.val.toUInt8 z.val.toUInt8 5) random'] = .ok b' ∧
          ∀ cell, b'.console.screen.frame.isLit cell =
            (b.console.screen.frame.isLit cell ^^
              decide (cell ∈ Font.mask (b.console.machine.getV x).toNat
                (b.console.machine.getV y).toNat (b.console.machine.getV z).toNat))) ∧
        ∀ pad pad', b.console.machine.upcoming? = some (.loadGlyph x.val.toUInt8) →
          ∃ c past, b.console.step pad = .ok (c, past) ∧
            (c.machine.upcoming? = some (.draw y.val.toUInt8 z.val.toUInt8 5) →
              ∃ d told, c.step pad' = .ok (d, told) ∧
                ∀ cell, d.screen.frame.isLit cell =
                  (b.console.screen.frame.isLit cell ^^
                    decide (cell ∈ Font.mask (b.console.machine.getV x).toNat
                      (b.console.machine.getV y).toNat (b.console.machine.getV z).toNat))) := by
  have hsound : (ofSeed seed).console.machine.Sound := Machine.fresh_sound
  rcases carryOut_succeeds hsound h with ⟨b, hcarry, -⟩
  have hfont : b.console.machine.memory.HasFont := carryOut_hasFont hcarry Memory.fresh_hasFont
  refine ⟨b, hcarry, hfont, ?_⟩
  intro x y z hx
  constructor
  · intro random random'
    exact carryOut_glyph hfont hx y z random random'
  · intro pad pad' hpoint
    rcases Console.steps_glyph hfont hx hpoint pad with ⟨c, past, hfirst, hdraw⟩
    exact ⟨c, past, hfirst, hdraw y z pad'⟩

/-- Loads a program, waits for a key and takes it in a step, and then stores all registers across
the beginning of the font. -/
def tampering : List (Intervention CyclicWords) :=
  [.operate (.load [0x00, 0xE0]), .execute (.awaitKey 3) ⟨#[], 0⟩, .operate (.keypad (.press 11)),
    .operate .step, .execute (.loadIndex 0x4A) ⟨#[], 0⟩, .execute (.storeRegisters 15) ⟨#[], 0⟩]

/-- After an attempt to damage the font the digit in a register can still be drawn. -/
theorem tampering_spares_font : (∀ i ∈ tampering, i.IsEncoded) ∧
    ∃ b, (ofSeed 7).carryOut tampering = .ok b ∧ b.console.machine.getV 3 = 11 ∧
      b.console.machine.memory.bytes.get 0x51 = 0x90 ∧
      ∃ b', b.carryOut [.execute (.loadGlyph 3) (⟨#[], 0⟩ : CyclicWords),
          .execute (.draw 3 4 5) ⟨#[], 0⟩] = .ok b' ∧
        ∀ cell, b'.console.screen.frame.isLit cell =
          (b.console.screen.frame.isLit cell ^^ decide (cell ∈ Font.mask 11 11 0)) := by
  have hencoded : ∀ i ∈ tampering, i.IsEncoded := by
    intro i hi
    simp only [tampering, List.mem_cons, List.not_mem_nil, or_false] at hi
    rcases hi with rfl | rfl | rfl | rfl | rfl | rfl
    · trivial
    · exact ⟨⟨0xF30A⟩, rfl⟩
    · trivial
    · trivial
    · exact ⟨⟨0xA04A⟩, rfl⟩
    · exact ⟨⟨0xFF55⟩, rfl⟩
  rcases font_survives 7 tampering hencoded with ⟨b, hcarry, hfont, hdraw⟩
  have hregisters : ((ofSeed 7).carryOut tampering).map
      (fun b => (b.console.machine.getV 3, b.console.machine.getV 4)) = .ok (11, 0) := by
    decide +kernel
  rw [hcarry] at hregisters
  simp only [Except.map, Except.ok.injEq, Prod.mk.injEq] at hregisters
  rcases hregisters with ⟨h3, h4⟩
  rcases (hdraw 3 3 4 (by rw [h3]; decide)).1 ⟨#[], 0⟩ ⟨#[], 0⟩ with ⟨b', hglyph, hcells⟩
  rw [h3, h4] at hcells
  exact ⟨hencoded, b, hcarry, h3, hfont 1, b', hglyph, hcells⟩

end Bench

end Chip8VM
