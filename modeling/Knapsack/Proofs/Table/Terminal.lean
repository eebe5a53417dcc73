import Mathlib.Order.Bounds.Basic
import Knapsack.Proofs.Checked.Agreement

/-!
# The terminal cell of any rows

The rows need not come from a filling: their entries may be any values and weights in any order. Of a
table with weights the terminal cell is the first of the cells that hold the largest value and, among
the cells of this value, the least weight (`terminal_isLeast`). The scan that finds it keeps the first
best of the cells it has passed (`bestCell_isFirstBest`), and looks at no cell that the rows do not
have (`Checked.terminal_eq`).
-/

namespace Knapsack

/-- The cell holds the largest value, and the least weight of the cells that hold this value. -/
structure LightestBest {width : Nat} (values : Vector Int32 width) (weights : Vector UInt64 width)
    (cell : Fin width) : Prop where
  value : IsGreatest (Set.range fun other => (values.get other).toInt) (values.get cell).toInt
  weight : IsLeast
    ((fun other => (weights.get other).toNat) '' {other | values.get other = values.get cell})
    (weights.get cell).toNat

namespace Table

variable {rows capacity : Nat} {table : Table rows capacity}
  {weights : RowPair UInt64 (capacity + 1)}

/-- A score is compared by the value first and then by the weight, of which less is better. -/
theorem score_lastEntry_le_iff (found : table.weights = some weights)
    (cell other : Fin (capacity + 1)) :
    (table.lastEntry other).score ≤ (table.lastEntry cell).score ↔
      (table.values.last.get other).toInt < (table.values.last.get cell).toInt ∨
        (table.values.last.get other).toInt = (table.values.last.get cell).toInt ∧
          (weights.last.get cell).toNat ≤ (weights.last.get other).toNat := by
  rw [lastEntry_of_weights found, lastEntry_of_weights found, Prod.Lex.le_iff]
  simp only [Entry.score, ofLex_toLex, Option.elim_some, neg_le_neg_iff, Int.ofNat_le]

theorem lightestBest_iff (found : table.weights = some weights) (cell : Fin (capacity + 1)) :
    LightestBest table.values.last weights.last cell ↔
      ∀ other, (table.lastEntry other).score ≤ (table.lastEntry cell).score := by
  constructor
  · intro lightest other
    rw [score_lastEntry_le_iff found]
    rcases lt_or_eq_of_le (lightest.value.2 ⟨other, rfl⟩) with worse | same
    · exact .inl worse
    · exact .inr ⟨same, lightest.weight.2 ⟨other, Int32.toInt_inj.mp same, rfl⟩⟩
  · intro largest
    refine ⟨⟨⟨cell, rfl⟩, ?value⟩, ⟨cell, rfl, rfl⟩, ?weight⟩
    case value =>
      rintro _ ⟨other, rfl⟩
      rcases (score_lastEntry_le_iff found cell other).mp (largest other) with worse | ⟨same, -⟩
      · exact le_of_lt worse
      · exact le_of_eq same
    case weight =>
      rintro _ ⟨other, same, rfl⟩
      rcases (score_lastEntry_le_iff found cell other).mp (largest other) with worse | ⟨-, heavier⟩
      · exact absurd (congrArg Int32.toInt same) (ne_of_lt worse)
      · exact heavier

/-- Whatever the rows of a table with weights hold, the terminal is the first cell of the largest
value and the least weight with it, and this value. Every cell that is looked at on the way is one of
the rows. -/
theorem terminal_isLeast (found : table.weights = some weights) :
    ∃ cell : Fin (capacity + 1),
      IsLeast {best | LightestBest table.values.last weights.last best} cell ∧
        table.terminal = ⟨cell, table.values.last.get cell⟩ ∧
        Checked.terminal table = .ok table.terminal := by
  have isFirstBest : Row.IsFirstBest table.lastEntry (capacity + 1) table.terminalCell :=
    terminalCell_isFirstBest (by rw [tracked, found]; rfl)
  refine ⟨table.terminalCell, ⟨?best, fun other lightest => ?first⟩, rfl, Checked.terminal_eq table⟩
  case best =>
    exact (lightestBest_iff found _).mpr fun other => isFirstBest.largest other other.isLt
  case first =>
    have asGood := (lightestBest_iff found other).mp lightest table.terminalCell
    exact not_lt.mp fun earlier => not_lt.mpr asGood (isFirstBest.first other earlier)

/-- Three cells hold the largest value. The first of them is heavier than the others, and the lightest
cell of all holds less. -/
theorem terminal_isLeast_third_cell :
    ∃ table : Table 1 4,
      table.last = ⟨[9, -4, 9, 3, 9], some [18446744073709551615, 0, 2, 5, 2]⟩ ∧
        table.terminal = ⟨2, 9⟩ ∧
        ∃ weights, table.weights = some weights ∧
          IsLeast {best | LightestBest table.values.last weights.last best} (2 : Fin 5) := by
  obtain ⟨table, weights, last, found, selected⟩ : ∃ (table : Table 1 4) (weights : _),
      table.last = ⟨[9, -4, 9, 3, 9], some [18446744073709551615, 0, 2, 5, 2]⟩ ∧
        table.weights = some weights ∧ table.terminal = ⟨2, 9⟩ :=
    ⟨⟨⟨#v[9, -4, 9, 3, 9], #v[0, 0, 0, 0, 0]⟩,
      some ⟨#v[18446744073709551615, 0, 2, 5, 2], #v[0, 0, 0, 0, 0]⟩, .blank⟩, _, rfl, rfl, rfl⟩
  obtain ⟨cell, isLeast, terminal, -⟩ := terminal_isLeast found
  have position : cell = 2 := Fin.ext (congrArg Terminal.cell (terminal.symm.trans selected))
  exact ⟨table, last, selected, weights, found, position ▸ isLeast⟩

end Table

end Knapsack
