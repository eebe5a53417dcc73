import Knapsack.Proofs.Checked.Agreement

/-!
# Every run comes to one of its ends

A run goes through with all its checks on, whatever it is given, and its outcome is the first that
applies of a fixed list (`run_safe_and_classified`): a refusal, each reason of which excludes those
before it, and only past all of them a solution or a value that is too large. No other cause occurs;
the limits of a solver are far below those of the words and the buffers.
-/

namespace Knapsack.Solver

/-- How a run can end. -/
inductive RunOutcome (solver : Solver) (capacity : Int32) :
    Option (List Item) → Except Failure Solution → Prop where
  | refused {items : Option (List Item)} {cause : Refusal}
      (refuses : solver.Refuses capacity items cause) :
      RunOutcome solver capacity items (.error (.refused cause))
  | solved {items : List Item} {solution : Solution} (admits : solver.Admits items capacity) :
      RunOutcome solver capacity (some items) (.ok solution)
  | overflow {items : List Item} {item cell : Nat} (admits : solver.Admits items capacity) :
      RunOutcome solver capacity (some items) (.error (.refused (.valueOverflow item cell)))

theorem run_outcome (solver : Solver) (items : Option (List Item)) (capacity : Int32) :
    RunOutcome solver capacity items (solver.run items capacity).outcome := by
  have validation := validate_outcome solver items capacity
  cases validated : solver.validate items capacity with
  | error cause =>
    rw [validated] at validation
    cases validation with
    | refused refuses =>
      simp only [run, validated]
      exact .refused refuses
  | ok accepted =>
    rw [validated] at validation
    cases validation with
    | accepted admits =>
      have ending : SolveOutcome solver accepted capacity
          (solver.run (some accepted) capacity).outcome := solve_outcome admits
      generalize (solver.run (some accepted) capacity).outcome = outcome at ending
      cases ending with
      | solved => exact .solved admits
      | overflow => exact .overflow admits

/-- A run has a solution or is refused. It never ends at a cell that its matrix does not have. -/
theorem run_eq_ok_or_refused (solver : Solver) (items : Option (List Item)) (capacity : Int32) :
    (∃ solution, (solver.run items capacity).outcome = .ok solution) ∨
      ∃ cause, (solver.run items capacity).outcome = .error (.refused cause) := by
  have ending := run_outcome solver items capacity
  generalize (solver.run items capacity).outcome = outcome at ending
  cases ending with
  | refused => exact .inr ⟨_, rfl⟩
  | solved => exact .inl ⟨_, rfl⟩
  | overflow => exact .inr ⟨_, rfl⟩

/-- A run stops at no check, its outcome is the first that applies, and some causes never occur. -/
theorem run_safe_and_classified (solver : Solver) (items : Option (List Item)) (capacity : Int32) :
    Checked.run solver items capacity = .ok (solver.run items capacity) ∧
      RunOutcome solver capacity items (solver.run items capacity).outcome ∧
      ∀ cause, (solver.run items capacity).outcome = .error (.refused cause) →
        cause.status ∉
          [.missingOutput, .dimensionOverflow, .allocationFailure, .invalidConfig] := by
  have ending := run_outcome solver items capacity
  refine ⟨Checked.run_eq solver items capacity, ending, fun cause refused => ?_⟩
  rw [refused] at ending
  cases ending with
  | refused refuses => cases refuses <;> simp [Refusal.status]
  | overflow => simp [Refusal.status]

end Knapsack.Solver
