import Knapsack.Proofs.Solver.Outcome

/-!
# When a value is too large

A solve of a checked instance fails with an overflow exactly if some choice that fits is worth more
than the largest 32-bit number. The place it names is determined by the instance alone
(`solve_eq_overflow_iff`): `OverflowAt` leaves no choice of item and cell (`OverflowAt.unique`), and
it does not mention how ties are broken. Nothing is ever too small, as leaving every item out is
always possible.
-/

namespace Knapsack

namespace OverflowAt

variable {items : List Item} {capacity item cell otherItem otherCell : Nat}

/-- A choice from the first items is a choice from all of them. -/
theorem exceeds (overflowAt : OverflowAt items capacity item cell) : Exceeds items capacity := by
  have first : Exceeds (items.take (item + 1)) capacity := overflowAt.firstItem.1
  have whole := first.append (items.drop (item + 1))
  rw [List.take_append_drop] at whole
  exact whole

theorem unique (overflowAt : OverflowAt items capacity item cell)
    (other : OverflowAt items capacity otherItem otherCell) :
    item = otherItem ∧ cell = otherCell := by
  have same : item = otherItem := overflowAt.firstItem.unique other.firstItem
  subst same
  exact ⟨rfl, overflowAt.leastRoom.unique other.leastRoom⟩

end OverflowAt

/-- A solution of the instance has a value that no choice exceeds. -/
theorem Solution.Answers.not_exceeds {solution : Solution} {tracked : Bool} {items : List Item}
    {room : Nat} (answers : solution.Answers tracked items room) : ¬ Exceeds items room := by
  rintro ⟨chosen, fits, large⟩
  have bound := answers.value_le fits
  have upper := solution.optimalValue.toInt_lt
  omega

namespace Solver

variable {solver : Solver} {items : List Item} {capacity : Int32}

theorem solve_eq_overflow_iff (admits : solver.Admits items capacity) {item cell : Nat} :
    solver.solve items capacity = .error (.refused (.valueOverflow item cell)) ↔
      OverflowAt items capacity.toNatClampNeg item cell := by
  have outcome := solve_outcome admits
  generalize solver.solve items capacity = result at outcome
  cases outcome with
  | solved answers =>
    refine iff_of_false nofun fun overflowAt => ?_
    exact answers.not_exceeds overflowAt.exceeds
  | overflow overflowAt =>
    constructor
    · rintro ⟨⟩
      exact overflowAt
    · intro other
      obtain ⟨rfl, rfl⟩ := overflowAt.unique other
      rfl

theorem exists_overflow_of_exceeds (admits : solver.Admits items capacity)
    (exceeds : Exceeds items capacity.toNatClampNeg) :
    ∃ item cell, solver.solve items capacity = .error (.refused (.valueOverflow item cell)) := by
  have outcome := solve_outcome admits
  generalize solver.solve items capacity = result at outcome
  cases outcome with
  | solved answers => exact absurd exceeds answers.not_exceeds
  | @overflow item cell _ => exact ⟨item, cell, rfl⟩

theorem exists_solution_of_not_exceeds (admits : solver.Admits items capacity)
    (bounded : ¬ Exceeds items capacity.toNatClampNeg) :
    ∃ solution, solver.solve items capacity = .ok solution := by
  have outcome := solve_outcome admits
  generalize solver.solve items capacity = result at outcome
  cases outcome with
  | @solved solution _ => exact ⟨solution, rfl⟩
  | overflow overflowAt => exact absurd overflowAt.exceeds bounded

-- All sums but the empty one are at or below the least 32-bit number, and nothing is selected.
example : Solver.default.solve [⟨1, -2147483648⟩, ⟨1, -2147483648⟩] 2 = .ok ⟨0, []⟩ := rfl

/-- How ties are broken has no part in the check of an instance. -/
theorem Admits.of_config_eq {other : Solver} {mode : TieBreak}
    (alike : other.config = { solver.config with tieBreak := mode })
    (admits : solver.Admits items capacity) : other.Admits items capacity := by
  constructor
  · exact admits.nonempty
  · rw [alike]
    exact admits.few
  · exact admits.lower
  · rw [alike]
    exact admits.upper
  · rw [alike]
    exact admits.weights

/-- A solve of a checked instance overflows exactly if a choice that fits is worth too much. It names
the first item with which there is such a choice, and the least room in which this item has one. The
place is the same however ties are broken. If no choice is worth too much, there is a solution,
however little a choice is worth. -/
theorem overflow_exact (checked : solver.validate (some items) capacity = .ok items) :
    ((∃ item cell, solver.solve items capacity = .error (.refused (.valueOverflow item cell))) ↔
        Exceeds items capacity.toInt) ∧
      (∀ item cell, solver.solve items capacity = .error (.refused (.valueOverflow item cell)) →
        IsLeast {index : Nat | Exceeds (items.take (index + 1)) capacity.toInt} item ∧
          IsLeast {room : Nat | Exceeds (items.take (item + 1)) room} cell) ∧
      (∀ (other : Solver) (mode : TieBreak),
        other.config = { solver.config with tieBreak := mode } →
        ∀ item cell, solver.solve items capacity = .error (.refused (.valueOverflow item cell)) →
          other.solve items capacity = .error (.refused (.valueOverflow item cell))) ∧
      ((∀ chosen, Fits items capacity.toInt chosen → valueOf items chosen ≤ 2147483647) →
        ∃ solution, solver.solve items capacity = .ok solution) := by
  have admits := (validate_eq_ok_iff.mp checked).2
  have cells := admits.cast_capacity
  refine ⟨⟨?_, ?_⟩, ?_, ?_, ?_⟩
  · rintro ⟨item, cell, overflow⟩
    rw [← cells]
    exact ((solve_eq_overflow_iff admits).mp overflow).exceeds
  · intro exceeds
    rw [← cells] at exceeds
    exact exists_overflow_of_exceeds admits exceeds
  · intro item cell overflow
    obtain ⟨firstItem, leastRoom⟩ := (solve_eq_overflow_iff admits).mp overflow
    rw [cells] at firstItem
    exact ⟨firstItem, leastRoom⟩
  · intro other mode alike item cell overflow
    rw [solve_eq_overflow_iff (admits.of_config_eq alike)]
    exact (solve_eq_overflow_iff admits).mp overflow
  · intro bounded
    apply exists_solution_of_not_exceeds admits
    rintro ⟨chosen, fits, large⟩
    rw [cells] at fits
    exact absurd (bounded chosen fits) (not_le.mpr large)

/-- The last two items alone would be worth too much in two cells, but the first two are found
before, in three cells. -/
theorem overflow_exact_second_item :
    Solver.default.solve [⟨2, 5⟩, ⟨1, 2147483647⟩, ⟨1, 1⟩] 4 =
        .error (.refused (.valueOverflow 1 3)) ∧
      IsLeast {index : Nat | Exceeds
        ([⟨2, 5⟩, ⟨1, 2147483647⟩, ⟨1, 1⟩].take (index + 1)) (4 : Int32).toInt} 1 ∧
      IsLeast {room : Nat | Exceeds ([⟨2, 5⟩, ⟨1, 2147483647⟩, ⟨1, 1⟩].take (1 + 1)) room} 3 := by
  have checked : Solver.default.validate (some [⟨2, 5⟩, ⟨1, 2147483647⟩, ⟨1, 1⟩]) 4 =
      .ok [⟨2, 5⟩, ⟨1, 2147483647⟩, ⟨1, 1⟩] := rfl
  have overflow : Solver.default.solve [⟨2, 5⟩, ⟨1, 2147483647⟩, ⟨1, 1⟩] 4 =
      .error (.refused (.valueOverflow 1 3)) := rfl
  obtain ⟨-, place, -⟩ := overflow_exact checked
  exact ⟨overflow, place 1 3 overflow⟩

end Solver

end Knapsack
