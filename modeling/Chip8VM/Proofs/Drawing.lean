import Mathlib.Algebra.BigOperators.Group.Finset.Piecewise
import Mathlib.Algebra.BigOperators.Group.Finset.Sigma
import Mathlib.Data.Nat.Count
import Chip8VM.Proofs.LitCells
import Chip8VM.Proofs.Masks

/-!
# Drawing

What one drawing of a sprite does, exactly: to every cell, to the flag and to the number of lit
pixels. A sprite that is higher than the frame meets itself; what it does to a cell depends on how
many of its bits cover it.

* `Machine.count_covered`: drawing covers a cell once for each of the bits that do.
* `Frame.stamp_met`, `getV_flag_draw`: the flag tells whether a lit cell was met.
* `draw_turns_mask`: all that an instruction that draws does.
-/

namespace Chip8VM

/-! ## Bits that cover a cell -/

/-- The bits of the first `n` rows of a sprite that cover a cell, by row and column. -/
def Sprite.hits (left top : Nat) (row : Nat → UInt8) (n : Nat) (cell : Cell) :
    Finset (Nat × Nat) :=
  (Finset.range n ×ˢ Finset.range 8).filter fun p =>
    (row p.1).toNat.testBit (7 - p.2) ∧ Cell.wrap (left + p.2) (top + p.1) = cell

/-- The bits of the sprite of `n` rows at the index register that cover a cell when its corner is at
`(Vx, Vy)`. -/
def Machine.hits (m : Machine) (x y : Register) (n : Nat) (cell : Cell) : Finset (Nat × Nat) :=
  Sprite.hits (m.getV x).toNat (m.getV y).toNat
    (fun j => m.memory.bytes.get (Place.ofNat (m.i.toNat + j))) n cell

theorem Sprite.card_hits (left top : Nat) (row : Nat → UInt8) (n : Nat) (cell : Cell) :
    (Sprite.hits left top row n cell).card =
      ∑ j ∈ Finset.range n, Nat.count (fun b => (row j).toNat.testBit (7 - b) ∧
        Cell.wrap (left + b) (top + j) = cell) 8 := by
  unfold Sprite.hits
  rw [Finset.card_filter, Finset.sum_product]
  refine Finset.sum_congr rfl fun j _ => ?_
  rw [Nat.count_eq_card_filter_range, Finset.card_filter]

theorem Sprite.count_rowCells (left top : Nat) (bits : UInt8) (cell : Cell) :
    (Sprite.rowCells left top bits).count cell =
      Nat.count (fun b => bits.toNat.testBit (7 - b) ∧ Cell.wrap (left + b) top = cell) 8 := by
  unfold Sprite.rowCells Nat.count
  rw [List.count_filterMap]
  apply List.countP_congr
  intro b _
  by_cases hbit : bits.toNat.testBit (7 - b) <;> simp [hbit]

/-- A sprite covers a cell once for each of the bits that do. -/
theorem Sprite.count_cells (left top : Nat) (rows : List UInt8) (cell : Cell) :
    (Sprite.cells left top rows).count cell =
      (Sprite.hits left top (fun j => rows.getD j 0) rows.length cell).card := by
  rw [Sprite.card_hits]
  induction rows generalizing top with
  | nil => rfl
  | cons bits rest ih =>
    unfold Sprite.cells
    rw [List.count_append, Sprite.count_rowCells, ih, List.length_cons, Finset.sum_range_succ',
      Nat.add_comm]
    simp [Nat.add_assoc, Nat.add_comm 1]

theorem Sprite.hits_congr {left top n : Nat} {row row' : Nat → UInt8} {cell : Cell}
    (h : ∀ j < n, row j = row' j) :
    Sprite.hits left top row n cell = Sprite.hits left top row' n cell := by
  unfold Sprite.hits
  apply Finset.filter_congr
  intro p hp
  rw [Finset.mem_product, Finset.mem_range] at hp
  rw [h p.1 hp.1]

/-- Drawing a sprite of any height covers a cell once for each of the bits that do. -/
theorem Machine.count_covered (m : Machine) (x y : Register) (n : Nat) (cell : Cell) :
    (m.covered x y n).count cell = (m.hits x y n cell).card := by
  unfold Machine.covered Machine.hits
  rw [Sprite.count_cells, Memory.length_readAll,
    Sprite.hits_congr fun j hj => Memory.getD_readAll _ _ hj]

/-! ## The flag -/

/-- Turning different cells meets a lit one if there is a lit one among them. -/
theorem Frame.stamp_met (f : Frame) {cells : List Cell} (h : cells.Nodup) :
    (f.stamp cells).2 = cells.any f.isLit := by
  suffices hmet : ∀ met, (cells.foldl
      (fun (r : Frame × Bool) c => (r.1.flip c, r.2 || r.1.isLit c)) (f, met)).2 =
        (met || cells.any f.isLit) from hmet false
  induction cells generalizing f with
  | nil => simp
  | cons c cells ih =>
    intro met
    rw [List.nodup_cons] at h
    -- turning the first cell leaves the others as they were
    have hother : ∀ d ∈ cells, (f.flip c).isLit d = f.isLit d := by
      intro d hd
      have hne : c ≠ d := fun he => h.1 (he ▸ hd)
      rw [Frame.isLit_flip, if_neg hne]
    have hothers : cells.any (f.flip c).isLit = cells.any f.isLit := by
      simpa [List.any_map] using congrArg (List.any · id) (List.map_congr_left hother)
    rw [List.foldl_cons, ih (f.flip c) h.2, hothers, List.any_cons, Bool.or_assoc]

namespace Console

variable {ρ : Type}

/-- A cell is turned once for each bit of the sprite that covers it. -/
theorem isLit_draw_hits (c : Console ρ) (x y : Machine.Register) (n : Nat) (cell : Cell) :
    (c.draw x y n).screen.frame.isLit cell =
      (c.screen.frame.isLit cell ^^ decide (Odd (c.machine.hits x y n cell).card)) := by
  rw [← Machine.count_covered]
  exact c.screen.frame.isLit_stamp (c.machine.covered x y n) cell

/-- The flag tells whether the sprite covers a cell that was lit. -/
theorem getV_flag_draw (c : Console ρ) (x y : Machine.Register) {n : Nat} (hn : n ≤ 32) :
    (c.draw x y n).machine.getV Machine.flag =
      if ∃ cell ∈ c.machine.mask x y n, c.screen.frame.isLit cell = true then 1 else 0 := by
  have hmet := c.screen.frame.stamp_met (c.machine.nodup_covered x y hn)
  have hflag : (c.draw x y n).machine.getV Machine.flag =
      Machine.flagOf (c.screen.frame.stamp (c.machine.covered x y n)).2 := by
    show (c.machine.setV Machine.flag _).getV Machine.flag = _
    rw [Machine.getV_setV, if_pos rfl]
    rfl
  rw [hflag, hmet, Machine.flagOf]
  simp only [List.any_eq_true, Machine.mem_covered]

/-! ## The instruction -/

variable [WordSource ρ]

/-- Drawing a sprite by an instruction, exactly. From any console it changes the flag and the screen
and nothing else, announces the frame, and turns every cell once for each bit of the sprite that
covers it. If the sprite is no higher than the frame, as those that opcodes encode, different bits
cover different cells; so it turns the cells of its mask and no others, the flag is one if one of
them was lit and zero if none was, and the number of lit pixels grows by the number of these cells,
less two for each of them that was lit. The mask is that of the registers as they are before the
flag is written, even if the flag is one of them. -/
theorem draw_turns_mask (c : Console ρ) (pad : Keypad) (x y : Machine.Register) (n : UInt8) :
    ∃ d : Console ρ,
      c.execute pad (.draw x.val.toUInt8 y.val.toUInt8 n) = .ok (d, []) ∧
      d = { c with
        machine := c.machine.setV Machine.flag (d.machine.getV Machine.flag)
        screen := ⟨d.screen.frame, true⟩ } ∧
      (∀ cell, d.screen.frame.isLit cell =
        (c.screen.frame.isLit cell ^^ decide (Odd (c.machine.hits x y n.toNat cell).card))) ∧
      (n.toNat ≤ 32 →
        (∀ j < n.toNat, ∀ k < n.toNat, ∀ a < 8, ∀ b < 8,
          Cell.wrap ((c.machine.getV x).toNat + a) ((c.machine.getV y).toNat + j) =
            Cell.wrap ((c.machine.getV x).toNat + b) ((c.machine.getV y).toNat + k) →
          a = b ∧ j = k) ∧
        (∀ cell, d.screen.frame.isLit cell =
          (c.screen.frame.isLit cell ^^ decide (cell ∈ c.machine.mask x y n.toNat))) ∧
        d.machine.getV Machine.flag =
          (if ∃ cell ∈ c.machine.mask x y n.toNat, c.screen.frame.isLit cell = true then 1
            else 0) ∧
        d.screen.frame.lit +
            2 * (c.machine.mask x y n.toNat ∩ c.screen.frame.litCells).card =
          c.screen.frame.lit + (c.machine.mask x y n.toNat).card) := by
  have hexec := c.execute_draw pad (Machine.register_toUInt8 x) (Machine.register_toUInt8 y) n
  refine ⟨c.draw x y n.toNat, hexec, ?_, c.isLit_draw_hits x y n.toNat, ?_⟩
  · have hflag : (c.draw x y n.toNat).machine = c.machine.setV Machine.flag
        ((c.draw x y n.toNat).machine.getV Machine.flag) := by
      show c.machine.setV Machine.flag _ =
        c.machine.setV Machine.flag ((c.machine.setV Machine.flag _).getV Machine.flag)
      rw [Machine.getV_setV, if_pos rfl]
    rw [← hflag]
    rfl
  · intro hn
    refine ⟨?_, fun cell => c.isLit_draw x y hn cell, c.getV_flag_draw x y hn,
      Frame.lit_add_of_turned fun cell => c.isLit_draw x y hn cell⟩
    intro j hj k hk a ha b hb hcell
    exact Cell.wrap_inj (by omega) (by omega) (by omega) (by omega) hcell

/-- A console about to draw two rows in the corner of the screen, from the last byte of memory and
the first, at a position whose column is in the flag register; one of the cells is lit. -/
def cornered : Console CyclicWords where
  machine := { Machine.fresh with
    v := (Vector.replicate 16 31).set 15 62
    i := 0xFFFF
    memory := ((⟨.replicate 4096 0⟩ : Memory).put 0xFFF 0xFF).put 0x000 0x80 }
  screen := ⟨(Frame.blank.flip (Cell.wrap 62 0)).flip (Cell.wrap 9 9), false⟩
  random := ⟨#[], 0⟩

/-- One of the nine cells of the sprite was lit, so the flag is set and of two lit pixels and nine
more there remain nine. -/
theorem cornered_draws : ∃ d : Console CyclicWords,
    cornered.execute .released (.draw 15 0 2) = .ok (d, []) ∧
      (cornered.machine.mask 15 0 2).card = 9 ∧ cornered.screen.frame.lit = 2 ∧
      d.machine.getV Machine.flag = 1 ∧ d.screen.isNew = true ∧ d.screen.frame.lit = 9 := by
  rcases draw_turns_mask cornered .released 15 0 2 with ⟨d, hexec, hrest, -, hexact⟩
  rcases hexact (by decide) with ⟨-, -, hflag, hlit⟩
  simp only [UInt8.reduceToNat] at hflag hlit
  have hmask : cornered.machine.mask 15 0 2 =
      Sprite.mask 62 31 (fun j => [0xFF, 0x80].getD j 0) 2 := by
    apply Sprite.mask_congr
    intro j hj
    rw [← Memory.read_add]
    simp only [cornered, Memory.read_put]
    have hj01 : j = 0 ∨ j = 1 := by omega
    rcases hj01 with rfl | rfl <;> rfl
  have hlitCells : cornered.screen.frame.litCells = {Cell.wrap 9 9, Cell.wrap 62 0} := by
    ext cell
    rw [Frame.mem_litCells]
    simp only [cornered, Frame.isLit_flip, Frame.isLit_blank, Finset.mem_insert,
      Finset.mem_singleton, eq_comm (a := cell)]
    by_cases h9 : Cell.wrap 9 9 = cell
    · subst h9
      decide
    · simp [h9]
  have hcard : (cornered.machine.mask 15 0 2).card = 9 := by
    rw [hmask]
    decide +kernel
  have hmet : cornered.machine.mask 15 0 2 ∩ cornered.screen.frame.litCells =
      {Cell.wrap 62 0} := by
    rw [hmask, hlitCells]
    decide +kernel
  have hbefore : cornered.screen.frame.lit = 2 := by
    rw [Frame.lit_eq_card, hlitCells]
    decide
  refine ⟨d, hexec, hcard, hbefore, ?_, by rw [hrest], ?_⟩
  · rw [hflag]
    have hshared : Cell.wrap 62 0 ∈
        cornered.machine.mask 15 0 2 ∩ cornered.screen.frame.litCells := by
      rw [hmet]
      exact Finset.mem_singleton_self _
    rcases Finset.mem_inter.1 hshared with ⟨hcovered, hwasLit⟩
    exact if_pos ⟨_, hcovered, Frame.mem_litCells.1 hwasLit⟩
  · rw [hmet, hcard, hbefore, Finset.card_singleton] at hlit
    omega

end Console

end Chip8VM
