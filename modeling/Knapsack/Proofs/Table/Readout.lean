import Mathlib.Data.Finset.Dedup
import Mathlib.Data.List.Induction
import Knapsack.Table.Walk
import Knapsack.Proofs.Canonical
import Knapsack.Proofs.Table.Tabulation

/-!
# Reading the answer off a filled table

With weights the terminal cell is the first cell of the best score, whatever the rows hold
(`bestCell_isFirstBest`); without them it is the last cell. Of a filled table either cell has the
best score that the whole capacity allows, and the same choices are best in both.

From any cell of a filled table the walk selects the foremost of the best choices for that cell, and
ends in the cell that is the weight of this choice below (`Explains.trail`). The induction is on the
items from the last to the first: a set flag says that the last item raised the best score, so it
belongs to every best choice, and a clear flag that it may be left out.
-/

namespace Knapsack

/-- The first of the cells before `stop` that hold the largest score among them. -/
structure Row.IsFirstBest {capacity : Nat} (row : Row capacity) (stop : Nat)
    (cell : Fin (capacity + 1)) : Prop where
  before : cell < stop
  largest : ∀ other : Fin (capacity + 1), other < stop → (row other).score ≤ (row cell).score
  first : ∀ other : Fin (capacity + 1), other < cell → (row other).score < (row cell).score

/-- The first best of the cells before `cell` and this cell itself leave one first best. -/
theorem Row.IsFirstBest.step {capacity : Nat} {row : Row capacity} (cell : Fin (capacity + 1))
    {best : Fin (capacity + 1)} (isFirstBest : row.IsFirstBest cell best) :
    row.IsFirstBest (cell + 1)
      (if (row best).score < (row cell).score then cell else best) := by
  have older : ∀ other : Fin (capacity + 1), other < cell.val + 1 → other ≠ cell →
      other < cell.val := by
    intro other early different
    have := Fin.val_ne_of_ne different
    omega
  split
  · next better =>
    refine ⟨Nat.lt_succ_self _, fun other early => ?_, fun other early => ?_⟩
    · by_cases same : other = cell
      · rw [same]
      · exact le_of_lt (lt_of_le_of_lt (isFirstBest.largest other (older other early same)) better)
    · exact lt_of_le_of_lt (isFirstBest.largest other early) better
  · next worse =>
    refine ⟨Nat.lt_succ_of_lt isFirstBest.before, fun other early => ?_, isFirstBest.first⟩
    by_cases same : other = cell
    · rw [same]
      exact not_lt.mp worse
    · exact isFirstBest.largest other (older other early same)

namespace Table

variable {rows capacity : Nat} {table : Table rows capacity}

theorem lastEntry_beats_iff (table : Table rows capacity) (cell other : Fin (capacity + 1)) :
    (table.lastEntry cell).beats (table.lastEntry other) ↔
      (table.lastEntry other).score < (table.lastEntry cell).score :=
  Entry.beats_iff (by rw [isSome_weight_lastEntry, isSome_weight_lastEntry])

/-- The scan of the last `count` cells finds the first best of all, if it starts from the first best
of the others. -/
theorem bestCell_isFirstBest (count : Nat) (within : count ≤ capacity)
    {best : Fin (capacity + 1)}
    (isFirstBest : Row.IsFirstBest table.lastEntry (capacity + 1 - count) best) :
    Row.IsFirstBest table.lastEntry (capacity + 1) (table.bestCell count within best) := by
  induction count generalizing best with
  | zero => exact isFirstBest
  | succ count ih =>
    rw [bestCell]
    apply ih
    have position : capacity + 1 - (count + 1) = capacity - count := by omega
    have following : capacity + 1 - count = capacity - count + 1 := by omega
    rw [position] at isFirstBest
    simp only [following, lastEntry_beats_iff]
    exact Row.IsFirstBest.step ⟨capacity - count, by omega⟩ isFirstBest

/-- The terminal cell of a table with weights is the first of the best cells. -/
theorem terminalCell_isFirstBest (tracked : table.tracked) :
    Row.IsFirstBest table.lastEntry (capacity + 1) table.terminalCell := by
  obtain ⟨weights, found⟩ := Option.isSome_iff_exists.mp tracked
  have chosen : table.terminalCell = table.bestCell capacity (Nat.le_refl capacity) 0 := by
    simp only [terminalCell, found]
  rw [chosen]
  apply bestCell_isFirstBest
  have one : capacity + 1 - capacity = 1 := Nat.add_sub_cancel_left capacity 1
  have origin : ((0 : Fin (capacity + 1)) : Nat) = 0 := rfl
  rw [one]
  refine ⟨Nat.zero_lt_one, fun other early => ?_, fun other early => ?_⟩
  · have only : other = 0 := Fin.ext (Nat.lt_one_iff.mp early)
    rw [only]
  · exact absurd early (Nat.not_lt_zero _)

theorem terminalCell_of_untracked (untracked : table.tracked = false) :
    table.terminalCell = Fin.last capacity := by
  have none : table.weights = none := Option.isNone_iff_eq_none.mp (by simpa [tracked] using untracked)
  simp only [terminalCell, none]

/-- The terminal cell has the best score that the whole capacity allows. -/
theorem Tabulates.best_terminalCell {items : List Item} (tabulates : table.Tabulates items) :
    best table.tracked items table.terminalCell = best table.tracked items capacity := by
  cases tracked : table.tracked with
  | false => rw [terminalCell_of_untracked tracked, Fin.val_last]
  | true =>
    have largest := (terminalCell_isFirstBest tracked).largest (Fin.last capacity) (Fin.is_lt _)
    rw [tabulates.score, tabulates.score, tracked] at largest
    exact le_antisymm (best_mono (Nat.le_of_lt_succ table.terminalCell.isLt)) largest

/-- What is best in the whole capacity is best in the terminal cell, and fits into it: with weights
it is as light as what is best there, and without them the cell is the whole capacity. -/
theorem Tabulates.isBest_terminalCell {items : List Item} (tabulates : table.Tabulates items)
    {chosen : Finset Nat} (isBest : IsBest table.tracked items capacity chosen) :
    IsBest table.tracked items table.terminalCell chosen := by
  have same := tabulates.best_terminalCell
  refine ⟨⟨isBest.fits.inside, ?_⟩, isBest.score.trans same.symm⟩
  cases tracked : table.tracked with
  | false =>
    rw [terminalCell_of_untracked tracked, Fin.val_last]
    exact isBest.fits.light
  | true =>
    rw [tracked] at same isBest
    obtain ⟨light, isBestThere⟩ := exists_isBest true items table.terminalCell
    have scores : scoreOf true items light = scoreOf true items chosen :=
      isBestThere.score.trans (same.trans isBest.score.symm)
    have weights : weightOf items light = weightOf items chosen :=
      neg_inj.mp (congrArg Prod.snd scores)
    rw [← weights]
    exact isBestThere.fits.light

end Table

/-! ## The walk -/

namespace Decisions

variable {rows capacity : Nat}

/-- The flags of the items' rows tell which item raised the best score of the items before it. -/
def Explains (decisions : Decisions rows (capacity + 1)) (tracked : Bool) (items : List Item) :
    Prop :=
  ∀ item < items.length, ∀ cell : Fin (capacity + 1),
    decisions.isTaken item cell =
      .ok (decide (best tracked (items.take item) cell < best tracked (items.take (item + 1)) cell))

/-- The flags of a filled table explain its own items. -/
theorem Explains.of_tabulates {table : Table rows capacity} {items : List Item}
    (tabulates : table.Tabulates items) (enough : items.length ≤ rows) :
    table.decisions.Explains table.tracked items :=
  fun item inside cell => tabulates.taken item (Nat.lt_of_lt_of_le inside enough) cell

theorem Explains.init {decisions : Decisions rows (capacity + 1)} {tracked : Bool}
    {items : List Item} {item : Item} (explains : decisions.Explains tracked (items ++ [item])) :
    decisions.Explains tracked items := by
  intro index inside cell
  have flag := explains index (by rw [List.length_append]; omega) cell
  rw [List.take_append_of_le_length (Nat.le_of_lt inside),
    List.take_append_of_le_length (Nat.succ_le_of_lt inside)] at flag
  exact flag

theorem Explains.last {decisions : Decisions rows (capacity + 1)} {tracked : Bool}
    {items : List Item} {item : Item} (explains : decisions.Explains tracked (items ++ [item]))
    (cell : Fin (capacity + 1)) :
    decisions.isTaken items.length cell =
      .ok (decide (best tracked items cell < best tracked (items ++ [item]) cell)) := by
  have flag := explains items.length (by rw [List.length_append, List.length_singleton]; omega) cell
  rw [List.take_left, List.take_of_length_le
    (by rw [List.length_append, List.length_singleton])] at flag
  exact flag

theorem zipIdx_concat_reverse (items : List Item) (item : Item) :
    (items ++ [item]).zipIdx.reverse = (item, items.length) :: items.zipIdx.reverse := by
  rw [List.zipIdx_append, List.reverse_append, Nat.zero_add]
  rfl

/-- An item that reaches a cell is subtracted from it without going around. -/
theorem cellBelow_of_reaches {item : Item} {cell : Fin (capacity + 1)} (word : capacity < wordCount)
    (reached : item.Reaches cell) : cellBelow cell item.weight = below item.load cell :=
  cellBelow_of_le (Item.cast_load reached.1) reached.2
    (Nat.lt_of_le_of_lt (Nat.le_of_lt_succ cell.isLt) word)

/-- The walk together with the cell in which it ends. -/
def trail (decisions : Decisions rows (capacity + 1)) :
    List (Item × Nat) → Nat → List Nat → Except StrayCell (List Nat × Nat)
  | [], cell, found => .ok (found, cell)
  | (item, index) :: below, cell, found =>
    match decisions.isTaken index cell with
    | .error stray => .error stray
    | .ok true => trail decisions below (cellBelow cell item.weight) (index :: found)
    | .ok false => trail decisions below cell found

theorem walk_eq_trail (decisions : Decisions rows (capacity + 1)) (numbered : List (Item × Nat))
    (cell : Nat) (found : List Nat) :
    decisions.walk numbered cell found = (decisions.trail numbered cell found).map Prod.fst := by
  induction numbered generalizing cell found with
  | nil => rfl
  | cons entry below ih =>
    obtain ⟨item, index⟩ := entry
    unfold walk trail
    cases decisions.isTaken index cell with
    | error stray => rfl
    | ok flag =>
      cases flag with
      | true => exact ih _ _
      | false => exact ih _ _

/-- From any cell the walk puts the foremost of the best choices for that cell, in ascending order,
before what was found already, and ends in the cell that is its weight below. -/
theorem Explains.trail {decisions : Decisions rows (capacity + 1)} {tracked : Bool}
    {items : List Item} (explains : decisions.Explains tracked items)
    (word : capacity < wordCount) (nonneg : NonNegative items) (cell : Fin (capacity + 1))
    (found : List Nat) :
    ∃ selected stop, decisions.trail items.zipIdx.reverse cell found =
        .ok (selected ++ found, stop) ∧
      selected.Pairwise (· < ·) ∧ IsForemost tracked items cell selected.toFinset ∧
      stop + weightOf items selected.toFinset = (cell : Nat) := by
  induction items using List.reverseRecOn generalizing cell found with
  | nil => exact ⟨[], cell, rfl, List.Pairwise.nil, .nil tracked cell, Int.add_zero _⟩
  | append_singleton items item ih =>
    rw [zipIdx_concat_reverse, Decisions.trail, explains.last]
    -- The flag of the last item is this gain, so the walk splits as a foremost choice does.
    by_cases gain : best tracked items cell < best tracked (items ++ [item]) cell
    · have reached := reaches_of_gain nonneg gain
      have next := cellBelow_of_reaches word reached
      obtain ⟨selected, stop, walked, ascending, isForemost, ended⟩ :=
        ih explains.init nonneg.init (below item.load cell) (items.length :: found)
      have whole : (selected ++ [items.length]).toFinset =
          insert items.length selected.toFinset := by
        rw [List.toFinset_append, Finset.union_comm]
        rfl
      rw [decide_eq_true gain]
      refine ⟨selected ++ [items.length], stop, ?_, ?_, ?_, ?_⟩
      · show decisions.trail items.zipIdx.reverse (cellBelow cell item.weight)
          (items.length :: found) = _
        rw [next, walked, List.append_assoc, List.singleton_append]
      · refine List.pairwise_append.mpr ⟨ascending, List.pairwise_singleton _ _, ?_⟩
        intro position member last same
        rw [List.mem_singleton.mp same]
        exact isForemost.fits.inside position (List.mem_toFinset.mpr member)
      · rw [whole]
        exact isForemost.takeLast nonneg reached gain
      · have free : ((below item.load cell : Nat) : Int) = (cell : Nat) - item.weight.toInt :=
          cast_sub_load reached
        rw [whole, weightOf, sumOver_insertLast item isForemost.fits.inside, ← add_assoc, ended,
          free, sub_add_cancel]
    · obtain ⟨selected, stop, walked, ascending, isForemost, ended⟩ :=
        ih explains.init nonneg.init cell found
      rw [decide_eq_false gain]
      refine ⟨selected, stop, walked, ascending, isForemost.skipLast nonneg gain, ?_⟩
      rw [weightOf, sumOver_append [item] isForemost.fits.inside]
      exact ended

/-- The same of the walk alone. -/
theorem Explains.walk {decisions : Decisions rows (capacity + 1)} {tracked : Bool}
    {items : List Item} (explains : decisions.Explains tracked items)
    (word : capacity < wordCount) (nonneg : NonNegative items) (cell : Fin (capacity + 1))
    (found : List Nat) :
    ∃ selected, decisions.walk items.zipIdx.reverse cell found = .ok (selected ++ found) ∧
      selected.Pairwise (· < ·) ∧ IsForemost tracked items cell selected.toFinset := by
  obtain ⟨selected, stop, walked, ascending, isForemost, -⟩ :=
    explains.trail word nonneg cell found
  exact ⟨selected, by rw [walk_eq_trail, walked]; rfl, ascending, isForemost⟩

end Decisions

end Knapsack
