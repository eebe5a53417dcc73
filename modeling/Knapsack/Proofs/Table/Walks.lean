import Knapsack.Proofs.Checked.Agreement
import Knapsack.Proofs.Table.Optima

/-!
# Reading a selection off any cell

The answer to a solve is read off one cell, but the flags of a filled table explain every cell of its
last rows (`walk_accounts_for_cell`). A walk from any cell stays inside the matrix, never subtracts a
weight that is larger than the cell at hand, and comes back with a choice that fits into the cell and
has the value that stands there, and the weight too if weights are tracked.
-/

namespace Knapsack.Table

variable {count capacity : Nat} {tracked : Bool} {items : List Item}
  {table filled : Table count capacity}

/-- A best choice for a cell has the value there. -/
theorem Tabulates.valueOf_eq (tabulates : filled.Tabulates items) {chosen : Finset Nat}
    {cell : Fin (capacity + 1)} (isBest : IsBest filled.tracked items cell chosen) :
    valueOf items chosen = (filled.values.last.get cell).toInt :=
  isBest.value.trans (tabulates.value_lastEntry cell).symm

/-- From every cell the walk, with all its checks on, selects items in ascending order that account
for what the last rows hold there. Only the list of positions can still be refused, if it is no
buffer; it is one if the items, of eight bytes each, are one. -/
theorem walk_accounts_for_cell (allocated : allocate count capacity tracked = .ok table)
    (enough : items.length ≤ count) (nonneg : NonNegative items)
    (completed : table.fill items = (filled, none)) (cell : Fin (capacity + 1)) :
    ∃ selected,
      Checked.walk filled.decisions items.zipIdx.reverse cell [] = .ok selected ∧
      filled.decisions.selection items cell = .ok selected ∧
      (8 * items.length ≤ bufferLimit → ∀ value,
        filled.decisions.solution items ⟨cell, value⟩ = .ok ⟨value, selected⟩) ∧
      selected.Pairwise (· < ·) ∧
      Fits items cell selected.toFinset ∧
      valueOf items selected.toFinset = (filled.values.last.get cell).toInt ∧
      (tracked = true → ∃ weights, filled.weights = some weights ∧
        weightOf items selected.toFinset = (weights.last.get cell).toNat) := by
  obtain ⟨tabulates, kept⟩ := Tabulates.of_allocate allocated enough nonneg completed
  obtain ⟨width, -, words⟩ :=
    checkDimensions_eq_ok_iff.mp (allocate_eq_ok_iff.mp allocated).1
  have explains := Decisions.Explains.of_tabulates tabulates enough
  have word : capacity < wordCount := Nat.lt_of_succ_lt width
  obtain ⟨selected, walked, ascending, isForemost⟩ := explains.walk word nonneg cell []
  obtain ⟨same, walkedAgain, checked⟩ :=
    Checked.walk_eq explains enough word (Nat.le_of_lt words) nonneg cell []
  rw [List.append_nil] at walked
  obtain rfl : selected = same := Except.ok.inj (walked.symm.trans walkedAgain)
  refine ⟨selected, checked, walked, fun buffer value => ?made, ascending, isForemost.fits,
    tabulates.valueOf_eq isForemost.toIsBest, fun isTracked => ?weight⟩
  case made =>
    have short := Decisions.length_le_of_ascending ascending isForemost.fits
    exact Decisions.solution_of_selection walked (le_trans (Nat.mul_le_mul_left 8 short) buffer)
  case weight =>
    obtain ⟨weights, found⟩ := Option.isSome_iff_exists.mp (kept.trans isTracked)
    have entry := weight_lastEntry_of_weights found cell
    exact ⟨weights, found, tabulates.weightOf_eq isForemost.toIsBest entry⟩

/-- From a cell below the capacity: the first item is too heavy for it, and of the others the one
that weighs nothing is taken too. -/
theorem walk_accounts_for_cell_three :
    ∃ filled : Table 3 4, allocate 3 4 true = .ok (blank true) ∧
      (blank true : Table 3 4).fill [⟨4, 9⟩, ⟨2, 5⟩, ⟨0, 1⟩] = (filled, none) ∧
      filled.last = ⟨[1, 1, 6, 6, 10], some [0, 0, 2, 2, 4]⟩ ∧
      filled.decisions.selection [⟨4, 9⟩, ⟨2, 5⟩, ⟨0, 1⟩] (3 : Fin 5) = .ok [1, 2] ∧
      valueOf [⟨4, 9⟩, ⟨2, 5⟩, ⟨0, 1⟩] [1, 2].toFinset = (filled.values.last.get 3).toInt ∧
      ∃ weights, filled.weights = some weights ∧
        weightOf [⟨4, 9⟩, ⟨2, 5⟩, ⟨0, 1⟩] [1, 2].toFinset = (weights.last.get 3).toNat := by
  obtain ⟨filled, completed, last, walked⟩ : ∃ filled : Table 3 4,
      (blank true : Table 3 4).fill [⟨4, 9⟩, ⟨2, 5⟩, ⟨0, 1⟩] = (filled, none) ∧
      filled.last = ⟨[1, 1, 6, 6, 10], some [0, 0, 2, 2, 4]⟩ ∧
      filled.decisions.selection [⟨4, 9⟩, ⟨2, 5⟩, ⟨0, 1⟩] (3 : Fin 5) = .ok [1, 2] :=
    ⟨_, rfl, rfl, rfl⟩
  have allocated : allocate 3 4 true = .ok (blank true) := rfl
  obtain ⟨selected, -, selection, -, -, -, value, weight⟩ :=
    walk_accounts_for_cell allocated (by decide) (by decide) completed 3
  obtain rfl : [1, 2] = selected := Except.ok.inj (walked.symm.trans selection)
  exact ⟨filled, allocated, completed, last, walked, value, weight rfl⟩

end Knapsack.Table
