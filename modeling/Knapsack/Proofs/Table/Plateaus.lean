import Knapsack.Proofs.Solver.Outcome

/-!
# The shape of a row, and where an answer is read

More room never makes the best value smaller, and as long as it stays the same its least weight does
too (`best_eq_of_value_eq`): a choice that is lighter than what a smaller room allows would fit into
that room. So the value row of a filled table is a flight of plateaus with one weight on each, and a
plateau begins in the cell that is its weight (`best_weight_eq_room`).

The scan for the terminal cell finds the beginning of the highest plateau. The selection read off
there weighs exactly as much as the cell, and the walk ends in cell zero
(`plateaus_and_exact_terminal`).
-/

namespace Knapsack

variable {items : List Item} {room larger : Nat}

/-- Where a larger room allows no larger value, it allows no smaller weight either. -/
theorem best_eq_of_value_eq (le : room ≤ larger)
    (same : (best true items room).1 = (best true items larger).1) :
    best true items room = best true items larger := by
  refine le_antisymm (best_mono le) ?_
  obtain ⟨chosen, fits, score⟩ := exists_isBest true items larger
  have lighter : (best true items room).2 ≤ (best true items larger).2 := by
    rcases Prod.Lex.le_iff.mp (best_mono le) with less | ⟨-, lighter⟩
    · exact absurd same (ne_of_lt less)
    · exact lighter
  have weight : -weightOf items chosen = (best true items larger).2 := congrArg Prod.snd score
  have small := best_weight_le items room
  have light : weightOf items chosen ≤ room := by omega
  rw [← score]
  exact scoreOf_le_best ⟨fits.inside, light⟩

/-- The least room for a score is filled by what has the score. -/
theorem best_weight_eq_room (nonneg : NonNegative items)
    (first : ∀ smaller < room, best true items smaller < best true items room) :
    -(best true items room).2 = room := by
  obtain ⟨chosen, fits, score⟩ := exists_isBest true items room
  have weight : -weightOf items chosen = (best true items room).2 := congrArg Prod.snd score
  have heavy : 0 ≤ weightOf items chosen := weightOf_nonneg nonneg
  obtain ⟨used, same⟩ := Int.eq_ofNat_of_zero_le heavy
  have light := fits.light
  by_contra free
  have smaller : used < room := by omega
  have fitsThere : Fits items used chosen := ⟨fits.inside, le_of_eq same⟩
  exact absurd (first used smaller) (not_lt.mpr (score ▸ scoreOf_le_best fitsThere))

namespace Table

variable {count capacity : Nat} {table filled : Table count capacity}
  {weights : RowPair UInt64 (capacity + 1)} {cell other : Fin (capacity + 1)}

namespace Tabulates

theorem value_mono (tabulates : filled.Tabulates items) (le : cell ≤ other) :
    filled.values.last.get cell ≤ filled.values.last.get other := by
  rw [Int32.le_iff_toInt_le]
  have value : (filled.lastEntry cell).value.toInt ≤ (filled.lastEntry other).value.toInt := by
    rw [tabulates.value_lastEntry, tabulates.value_lastEntry]
    exact value_le_of_score_le (best_mono le)
  exact value

theorem weight_last (tabulates : filled.Tabulates items) (found : filled.weights = some weights)
    (cell : Fin (capacity + 1)) :
    -((weights.last.get cell).toNat : Int) = (best true items cell).2 :=
  tabulates.weight_lastEntry (weight_lastEntry_of_weights found cell)

theorem weight_eq_of_value_eq (tabulates : filled.Tabulates items)
    (found : filled.weights = some weights)
    (same : filled.values.last.get cell = filled.values.last.get other) :
    weights.last.get cell = weights.last.get other := by
  have tracked : filled.tracked = true := Option.isSome_iff_exists.mpr ⟨weights, found⟩
  have values : (best true items cell).1 = (best true items other).1 := by
    rw [← tracked, ← tabulates.value_lastEntry, ← tabulates.value_lastEntry]
    exact congrArg Int32.toInt same
  have scores : best true items cell = best true items other := by
    rcases le_total cell other with le | le
    · exact best_eq_of_value_eq le values
    · exact (best_eq_of_value_eq le values.symm).symm
  have entry := tabulates.weight_last found cell
  rw [scores, ← tabulates.weight_last found other] at entry
  exact UInt64.toNat_inj.mp (Int.ofNat_inj.mp (neg_inj.mp entry))

/-- The terminal cell begins a plateau, for every cell before it has a smaller score. -/
theorem weight_terminalCell (tabulates : filled.Tabulates items) (nonneg : NonNegative items)
    (found : filled.weights = some weights) :
    (weights.last.get filled.terminalCell).toNat = filled.terminal.cell := by
  have tracked : filled.tracked = true := Option.isSome_iff_exists.mpr ⟨weights, found⟩
  have first : ∀ smaller < (filled.terminalCell : Nat),
      best true items smaller < best true items filled.terminalCell := by
    intro smaller less
    have inside : smaller < capacity + 1 := Nat.lt_trans less filled.terminalCell.isLt
    have earlier := (terminalCell_isFirstBest tracked).first ⟨smaller, inside⟩ less
    rw [tabulates.score, tabulates.score, tracked] at earlier
    exact earlier
  have filledUp := best_weight_eq_room nonneg first
  rw [← tabulates.weight_last found, neg_neg] at filledUp
  exact Int.ofNat_inj.mp filledUp

/-- The selection read off the terminal cell weighs as much as the cell, so nothing is left of it
when the walk ends. -/
theorem trail_terminal (tabulates : filled.Tabulates items) (enough : items.length ≤ count)
    (word : capacity < wordCount) (nonneg : NonNegative items)
    (tracked : filled.tracked = true) :
    ∃ selected, filled.decisions.selection items filled.terminal.cell = .ok selected ∧
      filled.decisions.trail items.zipIdx.reverse filled.terminal.cell [] = .ok (selected, 0) ∧
      weightOf items selected.toFinset = filled.terminal.cell := by
  obtain ⟨selected, stop, walked, -, isForemost, ended⟩ :=
    (Decisions.Explains.of_tabulates tabulates enough).trail word nonneg filled.terminalCell []
  obtain ⟨weights, found⟩ := Option.isSome_iff_exists.mp tracked
  have entry := weight_lastEntry_of_weights found filled.terminalCell
  have weight : weightOf items selected.toFinset = filled.terminal.cell := by
    rw [tabulates.weightOf_eq isForemost.toIsBest entry,
      tabulates.weight_terminalCell nonneg found]
  have nothing : stop = 0 := by
    have whole : (stop : Int) + filled.terminal.cell = filled.terminal.cell := weight ▸ ended
    omega
  rw [List.append_nil, nothing] at walked
  refine ⟨selected, ?_, walked, weight⟩
  rw [Decisions.selection, Decisions.walk_eq_trail]
  exact congrArg (Except.map Prod.fst) walked

end Tabulates

end Table

namespace Solver

variable {solver : Solver} {items : List Item} {capacity : Int32} {solution : Solution}

/-- What a solve by value and weight records: the terminal cell is the weight of the selection. -/
theorem events_of_solve (mode : solver.config.tieBreak = .lightest)
    (solved : solver.solve items capacity = .ok solution) :
    ∃ cell : Nat, (solver.run (some items) capacity).events =
        [.allocating items.length (capacity.toNatClampNeg + 1) true,
          .selected cell solution.optimalValue] ∧
      weightOf items solution.selected.toFinset = cell := by
  have admits := admits_of_solve solved
  have tracks : solver.config.tieBreak.tracksWeight = true := by
    rw [mode]
    rfl
  rw [Solver.solve] at solved
  rw [admits.run, tracks] at solved ⊢
  have outcome := Table.fill_outcome true admits.word (le_refl items.length) admits.nonNegative
  generalize Table.fill items _ = result at solved outcome ⊢
  cases outcome with
  | overflow => cases solved
  | @done filled tabulates kept =>
    obtain ⟨selected, selection, -, weight⟩ :=
      tabulates.trail_terminal le_rfl admits.word admits.nonNegative kept
    obtain rfl := Decisions.eq_of_solution selection solved
    exact ⟨filled.terminal.cell, rfl, weight⟩

end Solver

namespace Table

/-- A filled table that tracks weights rises from plateau to plateau, each of one weight, and the
terminal cell is its own weight; the walk from there spends it entirely. A solver that breaks ties by
weight records that cell: it is the weight of the selection that it returns. -/
theorem plateaus_and_exact_terminal :
    (∀ (count capacity : Nat) (items : List Item) (table filled : Table count capacity),
      allocate count capacity true = .ok table → items.length ≤ count → NonNegative items →
      table.fill items = (filled, none) →
      ∃ weights, filled.weights = some weights ∧
        (∀ cell other : Fin (capacity + 1), cell ≤ other →
          filled.values.last.get cell ≤ filled.values.last.get other) ∧
        (∀ cell other : Fin (capacity + 1),
          filled.values.last.get cell = filled.values.last.get other →
          weights.last.get cell = weights.last.get other) ∧
        (weights.last.get filled.terminalCell).toNat = filled.terminal.cell ∧
        ∃ selected, filled.decisions.selection items filled.terminal.cell = .ok selected ∧
          filled.decisions.trail items.zipIdx.reverse filled.terminal.cell [] =
            .ok (selected, 0) ∧
          weightOf items selected.toFinset = filled.terminal.cell) ∧
    ∀ (solver : Solver) (items : List Item) (capacity : Int32) (solution : Solution),
      solver.config.tieBreak = .lightest → solver.solve items capacity = .ok solution →
      ∃ cell : Nat, (solver.run (some items) capacity).events =
          [.allocating items.length (capacity.toNatClampNeg + 1) true,
            .selected cell solution.optimalValue] ∧
        weightOf items solution.selected.toFinset = cell := by
  constructor
  · intro count capacity items table filled allocated enough nonneg completed
    obtain ⟨tabulates, tracked⟩ := Tabulates.of_allocate allocated enough nonneg completed
    have word : capacity < wordCount := Nat.lt_of_succ_lt (blank_of_allocate allocated).2
    obtain ⟨weights, found⟩ := Option.isSome_iff_exists.mp tracked
    exact ⟨weights, found, fun _ _ => tabulates.value_mono,
      fun _ _ => tabulates.weight_eq_of_value_eq found,
      tabulates.weight_terminalCell nonneg found,
      tabulates.trail_terminal enough word nonneg tracked⟩
  · intro solver items capacity solution mode solved
    exact Solver.events_of_solve mode solved

/-- The last two cells are one plateau, which begins in the cell that both items fill. -/
theorem plateaus_and_exact_terminal_both_items :
    ∃ filled : Table 2 3, allocate 2 3 true = .ok (blank true) ∧
      (blank true : Table 2 3).fill [⟨1, 3⟩, ⟨1, 4⟩] = (filled, none) ∧
      filled.last = ⟨[0, 4, 7, 7], some [0, 1, 2, 2]⟩ ∧
      filled.terminal = ⟨2, 7⟩ ∧
      (∃ weights, filled.weights = some weights ∧
        weights.last.get 2 = weights.last.get 3) ∧
      filled.decisions.trail [⟨1, 3⟩, ⟨1, 4⟩].zipIdx.reverse 2 [] = .ok ([0, 1], 0) ∧
      ∃ cell : Nat, (Solver.default.run (some [⟨1, 3⟩, ⟨1, 4⟩]) 3).events =
          [.allocating 2 4 true, .selected cell 7] ∧
        weightOf [⟨1, 3⟩, ⟨1, 4⟩] [0, 1].toFinset = cell := by
  obtain ⟨filled, completed, last, plateau, terminal, walked⟩ : ∃ filled : Table 2 3,
      (blank true : Table 2 3).fill [⟨1, 3⟩, ⟨1, 4⟩] = (filled, none) ∧
      filled.last = ⟨[0, 4, 7, 7], some [0, 1, 2, 2]⟩ ∧
      filled.values.last.get 2 = filled.values.last.get 3 ∧
      filled.terminal = ⟨2, 7⟩ ∧
      filled.decisions.selection [⟨1, 3⟩, ⟨1, 4⟩] 2 = .ok [0, 1] := ⟨_, rfl, rfl, rfl, rfl, rfl⟩
  have allocated : allocate 2 3 true = .ok (blank true) := rfl
  have solved : Solver.default.solve [⟨1, 3⟩, ⟨1, 4⟩] 3 = .ok ⟨7, [0, 1]⟩ := rfl
  obtain ⟨tables, solves⟩ := plateaus_and_exact_terminal
  obtain ⟨weights, found, -, level, -, selected, selection, trail, -⟩ :=
    tables 2 3 [⟨1, 3⟩, ⟨1, 4⟩] (blank true) filled allocated (by decide) (by decide) completed
  rw [terminal] at selection trail
  obtain rfl : [0, 1] = selected := Except.ok.inj (walked.symm.trans selection)
  exact ⟨filled, allocated, completed, last, terminal, ⟨weights, found, level 2 3 plateau⟩, trail,
    solves Solver.default _ _ _ rfl solved⟩

end Table

end Knapsack
