import Knapsack.Proofs.Solver.Outcome

/-!
# Which of the best selections is returned

Several selections may have the best value, and several of these the least weight. The one that a
solve returns is determined by the instance (`selected_foremost`): wherever another one ties with
it, the highest position on which the two differ is one that the other has. Ties are those of the
mode: of value and weight if ties are broken by weight, of value alone otherwise.
-/

namespace Knapsack

/-- Of two choices the later one has the highest position on which they differ. -/
theorem exists_greatest_difference {chosen other : Finset Nat} (different : other ≠ chosen)
    (le : toColex chosen ≤ toColex other) :
    ∃ position ∈ other, IsGreatest {index | ¬(index ∈ chosen ↔ index ∈ other)} position := by
  have differ : ∀ index, index ∈ symmDiff chosen other ↔ ¬(index ∈ chosen ↔ index ∈ other) := by
    intro index
    rw [Finset.mem_symmDiff]
    tauto
  refine ⟨_, Finset.Colex.toColex_le_toColex_iff_max'_mem.mp le different.symm, ?_, ?_⟩
  · exact (differ _).mp (Finset.max'_mem _ _)
  · intro index differs
    exact Finset.le_max' _ index ((differ index).mpr differs)

namespace Solver

variable {solver : Solver} {items : List Item} {capacity : Int32} {solution : Solution}

/-- Of all choices that fit and tie with the selection, the selection lacks the highest position on
which they differ. Every selected item is worth something. -/
theorem selected_foremost (solved : solver.solve items capacity = .ok solution) :
    (∀ chosen, Fits items capacity.toInt chosen → chosen ≠ solution.selected.toFinset →
      valueOf items chosen = valueOf items solution.selected.toFinset →
      (solver.config.tieBreak = .lightest →
        weightOf items chosen = weightOf items solution.selected.toFinset) →
      ∃ position ∈ chosen,
        IsGreatest {index | ¬(index ∈ solution.selected.toFinset ↔ index ∈ chosen)} position) ∧
    ∀ index ∈ solution.selected, ∃ item, items[index]? = some item ∧ 0 < item.value := by
  have admits := admits_of_solve solved
  have isForemost := (answers_of_solve solved).isForemost
  constructor
  · intro chosen fits different value weight
    rw [← admits.cast_capacity] at fits
    have ties : scoreOf solver.config.tieBreak.tracksWeight items chosen =
        scoreOf solver.config.tieBreak.tracksWeight items solution.selected.toFinset := by
      cases mode : solver.config.tieBreak with
      | lightest => simp only [scoreOf, value, weight mode]
      | valueOnly => simp only [scoreOf, value, TieBreak.tracksWeight, Bool.false_eq_true, if_false]
    exact exists_greatest_difference different
      (isForemost.foremost chosen ⟨fits, ties.trans isForemost.score⟩)
  · intro index member
    exact isForemost.value_pos admits.nonNegative (List.mem_toFinset.mpr member)

/-- The first two items together tie with the third in value and in weight, and come first. -/
theorem selected_foremost_first_two :
    Solver.default.solve [⟨1, 2⟩, ⟨1, 2⟩, ⟨2, 4⟩] 2 = .ok ⟨4, [0, 1]⟩ ∧
      (∀ chosen, Fits [⟨1, 2⟩, ⟨1, 2⟩, ⟨2, 4⟩] (2 : Int32).toInt chosen →
        chosen ≠ [0, 1].toFinset →
        valueOf [⟨1, 2⟩, ⟨1, 2⟩, ⟨2, 4⟩] chosen =
          valueOf [⟨1, 2⟩, ⟨1, 2⟩, ⟨2, 4⟩] [0, 1].toFinset →
        (Solver.default.config.tieBreak = .lightest →
          weightOf [⟨1, 2⟩, ⟨1, 2⟩, ⟨2, 4⟩] chosen =
            weightOf [⟨1, 2⟩, ⟨1, 2⟩, ⟨2, 4⟩] [0, 1].toFinset) →
        ∃ position ∈ chosen,
          IsGreatest {index | ¬(index ∈ [0, 1].toFinset ↔ index ∈ chosen)} position) ∧
      ∀ index ∈ [0, 1], ∃ item : Item,
        [⟨1, 2⟩, ⟨1, 2⟩, ⟨2, 4⟩][index]? = some item ∧ 0 < item.value := by
  have solved : Solver.default.solve [⟨1, 2⟩, ⟨1, 2⟩, ⟨2, 4⟩] 2 = .ok ⟨4, [0, 1]⟩ := rfl
  exact ⟨solved, selected_foremost solved⟩

end Solver

end Knapsack
