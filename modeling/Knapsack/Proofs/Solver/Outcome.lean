import Knapsack.Proofs.Solver.Admission
import Knapsack.Proofs.Table.Optima
import Knapsack.Proofs.Table.Readout

/-!
# How a solve ends

`solve_outcome` says how a solve of an admitted instance ends: with the foremost of the best choices
and its value, or with the place at which a value first becomes too large. No buffer is too large,
the flags are read inside their matrix, and no other end is possible.
-/

namespace Knapsack

/-! ## Buffers -/

namespace Table

variable {rows capacity : Nat}

theorem checkBuffer_of_le (buffer : Buffer) (bytesEach length : Nat)
    (small : bytesEach * length ≤ bufferLimit) : checkBuffer buffer bytesEach length = .ok () :=
  if_neg (Nat.not_lt_of_le small)

/-- A table is made if eight bytes for each flag would not be too many. -/
theorem allocate_of_small (tracked : Bool) {count : Nat} (positive : 0 < count)
    (small : 8 * (count * (capacity + 1)) ≤ bufferLimit) :
    allocate count capacity tracked = .ok (blank tracked) := by
  have row : capacity + 1 ≤ count * (capacity + 1) := Nat.le_mul_of_pos_left _ positive
  have dimensions : checkDimensions count capacity = .ok () := by
    unfold bufferLimit at small
    have width : ¬ wordCount ≤ capacity + 1 := by
      unfold wordCount
      omega
    have cells : ¬ (count = 0 ∨ wordCount ≤ count * (capacity + 1)) := by
      unfold wordCount
      omega
    rw [checkDimensions, if_neg width, if_neg cells]
  have values := checkBuffer_of_le .valueRow 4 (capacity + 1) (by omega)
  have weights := checkBuffer_of_le .weightRow 8 (capacity + 1) (by omega)
  have flags := checkBuffer_of_le .decisionMatrix 1 (count * (capacity + 1)) (by omega)
  have buffers : checkBuffers count capacity tracked = .ok () := by
    rw [checkBuffers, values, weights, flags]
    cases tracked <;> rfl
  rw [allocate, dimensions, buffers]
  rfl

/-- A table is made only after its making is recorded. -/
theorem allocationEvents_of_allocate {count : Nat} {tracked : Bool} {table : Table count capacity}
    (allocated : allocate count capacity tracked = .ok table) :
    allocationEvents count capacity tracked = [.allocating count (capacity + 1) tracked] := by
  rw [allocationEvents, (allocate_eq_ok_iff.mp allocated).1]

end Table

/-! ## The list of positions -/

namespace Decisions

variable {rows width : Nat} {decisions : Decisions rows width} {items : List Item}
  {terminal : Terminal} {selected : List Nat}

theorem solution_of_selection (walked : decisions.selection items terminal.cell = .ok selected)
    (small : 8 * selected.length ≤ bufferLimit) :
    decisions.solution items terminal = .ok ⟨terminal.value, selected⟩ := by
  simp only [solution, walked, Table.checkBuffer_of_le .selectedIndices 8 selected.length small]

theorem eq_of_solution {solution : Solution}
    (walked : decisions.selection items terminal.cell = .ok selected)
    (made : decisions.solution items terminal = .ok solution) :
    solution = ⟨terminal.value, selected⟩ := by
  simp only [Decisions.solution, walked] at made
  cases small : Table.checkBuffer .selectedIndices 8 selected.length with
  | error cause =>
    rw [small] at made
    cases made
  | ok =>
    rw [small] at made
    exact (Except.ok.inj made).symm

/-- Positions in ascending order are not more than there are items. -/
theorem length_le_of_ascending {room : Int} (ascending : selected.Pairwise (· < ·))
    (fits : Fits items room selected.toFinset) : selected.length ≤ items.length := by
  rw [← List.toFinset_card_of_nodup (ascending.imp Nat.ne_of_lt)]
  exact card_le_length fits.inside

end Decisions

namespace Solver

variable {solver : Solver} {items : List Item} {capacity : Int32}

theorem Admits.flags_le (admits : solver.Admits items capacity) :
    items.length * (capacity.toNatClampNeg + 1) ≤ 100 * 100001 :=
  Nat.mul_le_mul admits.length_le (Nat.succ_le_succ admits.capacity_le)

theorem Admits.allocate (admits : solver.Admits items capacity) (tracked : Bool) :
    Table.allocate items.length capacity.toNatClampNeg tracked = .ok (.blank tracked) := by
  have flags := admits.flags_le
  apply Table.allocate_of_small tracked (List.length_pos_of_ne_nil admits.nonempty)
  unfold bufferLimit
  omega

/-- A run on an admitted instance is a filling, and the readout of the filled table. -/
theorem Admits.run (admits : solver.Admits items capacity) :
    solver.run (some items) capacity =
      match (Table.blank solver.config.tieBreak.tracksWeight :
          Table items.length capacity.toNatClampNeg).fill items with
      | (_, some failure) => ⟨[.event (.allocating items.length (capacity.toNatClampNeg + 1)
          solver.config.tieBreak.tracksWeight), .timed .fill, .timed .run], .error failure⟩
      | (table, none) => ⟨[.event (.allocating items.length (capacity.toNatClampNeg + 1)
          solver.config.tieBreak.tracksWeight), .timed .fill,
          .event (.selected table.terminal.cell table.terminal.value), .timed .reconstruct,
          .timed .run],
          table.decisions.solution items table.terminal⟩ := by
  have accepted : solver.validate (some items) capacity = .ok items :=
    validate_eq_ok_iff.mpr ⟨rfl, admits⟩
  have allocated := admits.allocate solver.config.tieBreak.tracksWeight
  simp only [Solver.run, accepted, allocated, Table.allocationEvents_of_allocate allocated]
  generalize Table.fill items _ = result
  obtain ⟨table, failure⟩ := result
  cases failure <;> rfl

/-- A solve of an admitted instance is a filling, and the readout of the filled table. -/
theorem Admits.solve (admits : solver.Admits items capacity) :
    solver.solve items capacity =
      match (Table.blank solver.config.tieBreak.tracksWeight :
          Table items.length capacity.toNatClampNeg).fill items with
      | (_, some failure) => .error failure
      | (table, none) => table.decisions.solution items table.terminal := by
  rw [Solver.solve, admits.run]
  generalize Table.fill items _ = result
  obtain ⟨table, failure⟩ := result
  cases failure <;> rfl

end Solver

/-! ## The end of a solve -/

/-- What a solution promises of an instance: the foremost of the best choices, in ascending order, and
its value. -/
structure Solution.Answers (solution : Solution) (tracked : Bool) (items : List Item)
    (room : Nat) : Prop where
  ascending : solution.selected.Pairwise (· < ·)
  isForemost : IsForemost tracked items room solution.selected.toFinset
  value : valueOf items solution.selected.toFinset = solution.optimalValue.toInt

theorem Solution.Answers.isBest {solution : Solution} {tracked : Bool} {items : List Item}
    {room : Nat} (answers : solution.Answers tracked items room) :
    IsBest tracked items room solution.selected.toFinset :=
  answers.isForemost.toIsBest

/-- The score of a selection bounds the value of every choice that fits. -/
theorem Solution.Answers.value_le {solution : Solution} {tracked : Bool} {items : List Item}
    {room : Nat} (answers : solution.Answers tracked items room) {chosen : Finset Nat}
    (fits : Fits items room chosen) : valueOf items chosen ≤ solution.optimalValue.toInt := by
  have unbeaten := value_le_of_score_le (answers.isBest.unbeaten fits)
  rw [← answers.value]
  exact unbeaten

/-- The readout of a filled table succeeds. -/
theorem Table.Tabulates.solution {capacity : Nat} {items : List Item}
    {table : Table items.length capacity} (tabulates : table.Tabulates items)
    (word : capacity < wordCount) (few : items.length ≤ itemCeiling) (nonneg : NonNegative items) :
    ∃ solution, table.decisions.solution items table.terminal = .ok solution ∧
      solution.Answers table.tracked items capacity := by
  obtain ⟨selected, walked, ascending, isForemost⟩ :=
    (Decisions.Explains.of_tabulates tabulates le_rfl).walk word nonneg table.terminalCell []
  have small : 8 * selected.length ≤ bufferLimit := by
    have short := Decisions.length_le_of_ascending ascending isForemost.fits
    unfold bufferLimit
    unfold itemCeiling at few
    omega
  have best := tabulates.best_terminalCell
  rw [List.append_nil] at walked
  refine ⟨⟨(table.lastEntry table.terminalCell).value, selected⟩, ?_, ?_⟩
  · exact Decisions.solution_of_selection walked small
  · refine ⟨ascending, ?_, ?_⟩
    · exact isForemost.widen (Nat.le_of_lt_succ table.terminalCell.isLt) best
        fun _ isBest => tabulates.isBest_terminalCell isBest
    · rw [tabulates.value_lastEntry, isForemost.value]

namespace Solver

/-- How a solve ends whose instance is admitted. -/
inductive SolveOutcome (solver : Solver) (items : List Item) (capacity : Int32) :
    Except Failure Solution → Prop where
  | solved {solution : Solution}
      (answers : solution.Answers solver.config.tieBreak.tracksWeight items capacity.toNatClampNeg) :
      SolveOutcome solver items capacity (.ok solution)
  | overflow {item cell : Nat}
      (overflowAt : OverflowAt items capacity.toNatClampNeg item cell) :
      SolveOutcome solver items capacity (.error (.refused (.valueOverflow item cell)))

theorem solve_outcome {solver : Solver} {items : List Item} {capacity : Int32}
    (admits : solver.Admits items capacity) :
    SolveOutcome solver items capacity (solver.solve items capacity) := by
  rw [admits.solve]
  have enough : items.length ≤ items.length := le_rfl
  have outcome := Table.fill_outcome solver.config.tieBreak.tracksWeight admits.word enough
    admits.nonNegative
  generalize Table.fill items _ = result at outcome
  cases outcome with
  | done tabulates kept =>
    obtain ⟨solution, read, answers⟩ :=
      tabulates.solution admits.word admits.length_le admits.nonNegative
    rw [kept] at answers
    simp only [read]
    exact .solved answers
  | overflow overflowAt => exact .overflow overflowAt

/-- Only an admitted instance is solved. -/
theorem admits_of_solve {solver : Solver} {items : List Item} {capacity : Int32}
    {solution : Solution} (solved : solver.solve items capacity = .ok solution) :
    solver.Admits items capacity := by
  cases checked : solver.validate (some items) capacity with
  | error cause =>
    simp only [solve, run, checked] at solved
    cases solved
  | ok accepted => exact (validate_eq_ok_iff.mp checked).2

theorem answers_of_solve {solver : Solver} {items : List Item} {capacity : Int32}
    {solution : Solution} (solved : solver.solve items capacity = .ok solution) :
    solution.Answers solver.config.tieBreak.tracksWeight items capacity.toNatClampNeg := by
  have outcome := solve_outcome (admits_of_solve solved)
  rw [solved] at outcome
  cases outcome with
  | solved answers => exact answers

end Solver

end Knapsack
