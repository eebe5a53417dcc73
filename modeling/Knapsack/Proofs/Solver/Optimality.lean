import Mathlib.Order.Bounds.Basic
import Knapsack.Proofs.Solver.Outcome
import Knapsack.Proofs.Totals

/-!
# What a solution is worth

Whenever a solve gives a solution, over every choice of positions that fits into the capacity:

1. The reported value is the largest value of such a choice.
2. The selection is such a choice, it has the reported value, and `check` accepts it.
3. If ties are broken by weight, no such choice of this value is lighter.

The value is read from the last rows and the selection from the flags. Both are tied to the same
optimum by `Solution.Answers`.
-/

namespace Knapsack

namespace Solver

variable {solver : Solver} {items : List Item} {capacity : Int32} {solution : Solution}

/-- The reported value is the largest value of a choice that fits into the capacity. -/
theorem optimalValue_isGreatest (solved : solver.solve items capacity = .ok solution) :
    IsGreatest (valueOf items '' {chosen | Fits items capacity.toInt chosen})
      solution.optimalValue.toInt := by
  have admits := admits_of_solve solved
  have answers := answers_of_solve solved
  rw [← admits.cast_capacity]
  constructor
  · exact ⟨solution.selected.toFinset, answers.isBest.fits, answers.value⟩
  · rintro value ⟨chosen, fits, rfl⟩
    exact answers.value_le fits

/-- Two items without weight, one of them worth less than nothing, and no weights tracked. -/
theorem optimalValue_isGreatest_weightless :
    Solver.solve ⟨{ weightPolicy := .nonNegative, tieBreak := .valueOnly }, by decide, by decide⟩
        [⟨0, -3⟩, ⟨0, 4⟩, ⟨3, 5⟩, ⟨4, 6⟩] 4 = .ok ⟨10, [1, 3]⟩ ∧
      IsGreatest
        (valueOf [⟨0, -3⟩, ⟨0, 4⟩, ⟨3, 5⟩, ⟨4, 6⟩] ''
          {chosen | Fits [⟨0, -3⟩, ⟨0, 4⟩, ⟨3, 5⟩, ⟨4, 6⟩] (4 : Int32).toInt chosen})
        (10 : Int32).toInt := by
  have solved : Solver.solve
      ⟨{ weightPolicy := .nonNegative, tieBreak := .valueOnly }, by decide, by decide⟩
      [⟨0, -3⟩, ⟨0, 4⟩, ⟨3, 5⟩, ⟨4, 6⟩] 4 = .ok ⟨10, [1, 3]⟩ := rfl
  exact ⟨solved, optimalValue_isGreatest solved⟩

/-- The selection is strictly ascending and inside the list, its items fit and have the reported
value, and the check of a solution accepts it. -/
theorem selected_certified (solved : solver.solve items capacity = .ok solution) :
    solution.selected.Pairwise (· < ·) ∧
      (∀ index ∈ solution.selected, index < items.length) ∧
      weightOf items solution.selected.toFinset ≤ capacity.toInt ∧
      valueOf items solution.selected.toFinset = solution.optimalValue.toInt ∧
      Instance.check ⟨capacity, items⟩ solution = .ok () := by
  have admits := admits_of_solve solved
  have answers := answers_of_solve solved
  have fits : Fits items capacity.toInt solution.selected.toFinset := by
    rw [← admits.cast_capacity]
    exact answers.isBest.fits
  have few : items.length ≤ itemBound := Nat.le_trans admits.length_le (by decide)
  refine ⟨answers.ascending, ?_, fits.light, answers.value, ?_⟩
  · intro index member
    exact fits.inside index (List.mem_toFinset.mpr member)
  · exact Instance.check_of_certified few answers.ascending fits answers.value

/-- The last two of three items are selected, and certified as the selection. -/
theorem selected_certified_two_of_three :
    Solver.default.solve [⟨5, 10⟩, ⟨2, 5⟩, ⟨2, 5⟩] 5 = .ok ⟨10, [1, 2]⟩ ∧
      [1, 2].Pairwise (· < ·) ∧
      (∀ index ∈ [1, 2], index < [(⟨5, 10⟩ : Item), ⟨2, 5⟩, ⟨2, 5⟩].length) ∧
      weightOf [⟨5, 10⟩, ⟨2, 5⟩, ⟨2, 5⟩] [1, 2].toFinset ≤ (5 : Int32).toInt ∧
      valueOf [⟨5, 10⟩, ⟨2, 5⟩, ⟨2, 5⟩] [1, 2].toFinset = (10 : Int32).toInt ∧
      Instance.check ⟨5, [⟨5, 10⟩, ⟨2, 5⟩, ⟨2, 5⟩]⟩ ⟨10, [1, 2]⟩ = .ok () := by
  have solved : Solver.default.solve [⟨5, 10⟩, ⟨2, 5⟩, ⟨2, 5⟩] 5 = .ok ⟨10, [1, 2]⟩ := rfl
  exact ⟨solved, selected_certified solved⟩

/-- If ties are broken by weight, no choice that fits and has the reported value is lighter. -/
theorem selected_lightest (lightest : solver.config.tieBreak = .lightest)
    (solved : solver.solve items capacity = .ok solution) :
    ∀ chosen, Fits items capacity.toInt chosen →
      valueOf items chosen = solution.optimalValue.toInt →
      ¬ weightOf items chosen < weightOf items solution.selected.toFinset := by
  intro chosen fits value
  have admits := admits_of_solve solved
  have answers := answers_of_solve solved
  have isBest : IsBest true items capacity.toNatClampNeg solution.selected.toFinset := by
    have isBest := answers.isBest
    rw [lightest] at isBest
    exact isBest
  rw [← admits.cast_capacity] at fits
  have same : valueOf items chosen = valueOf items solution.selected.toFinset :=
    value.trans answers.value.symm
  exact not_lt.mpr (weightOf_le_of_scoreOf_le (isBest.unbeaten fits) same)

/-- The first item alone has the same value as the other two together, and is heavier. -/
theorem selected_lightest_two_of_three :
    Solver.default.config.tieBreak = .lightest ∧
      Solver.default.solve [⟨5, 10⟩, ⟨2, 5⟩, ⟨2, 5⟩] 5 = .ok ⟨10, [1, 2]⟩ ∧
      ∀ chosen, Fits [⟨5, 10⟩, ⟨2, 5⟩, ⟨2, 5⟩] (5 : Int32).toInt chosen →
        valueOf [⟨5, 10⟩, ⟨2, 5⟩, ⟨2, 5⟩] chosen = (10 : Int32).toInt →
        ¬ weightOf [⟨5, 10⟩, ⟨2, 5⟩, ⟨2, 5⟩] chosen <
          weightOf [⟨5, 10⟩, ⟨2, 5⟩, ⟨2, 5⟩] [1, 2].toFinset := by
  have lightest : Solver.default.config.tieBreak = .lightest := rfl
  have solved : Solver.default.solve [⟨5, 10⟩, ⟨2, 5⟩, ⟨2, 5⟩] 5 = .ok ⟨10, [1, 2]⟩ := rfl
  exact ⟨lightest, solved, selected_lightest lightest solved⟩

end Solver

end Knapsack
