import Knapsack.Command.Run
import Knapsack.Proofs.Solver.Overflow
import Knapsack.Proofs.Totals

/-!
# What the verify command accepts

`verify` checks the selection by itself, solves the instance once more, and compares the two values.
It accepts a solution exactly if `Certifies` holds (`verify_accepts_iff`): the instance is admitted,
the selection is well formed and has the reported value, and no choice that fits is worth more, all
over the integers. The two ways to add up agree where the instance is admitted, and a second solve
that fails has found a choice worth more than any value that can be reported.
-/

namespace Knapsack

/-- An admitted instance is short enough for its sums to be exact. -/
theorem Solver.Admits.length_le_itemBound {solver : Solver} {items : List Item} {capacity : Int32}
    (admits : solver.Admits items capacity) : items.length ≤ itemBound :=
  Nat.le_trans admits.length_le (by decide)

/-- What makes a solution acceptable as an optimum of an instance. -/
structure Solution.Certifies (solution : Solution) (solver : Solver) (inst : Instance) : Prop where
  admitted : solver.validate (some inst.items) inst.capacity = .ok inst.items
  ascending : solution.selected.Pairwise (· < ·)
  inside : ∀ index ∈ solution.selected, index < inst.items.length
  light : weightOf inst.items solution.selected.toFinset ≤ inst.capacity.toInt
  value : valueOf inst.items solution.selected.toFinset = solution.optimalValue.toInt
  greatest : ∀ chosen, Fits inst.items inst.capacity.toInt chosen →
    valueOf inst.items chosen ≤ solution.optimalValue.toInt

namespace Solution.Certifies

variable {solution : Solution} {solver : Solver} {inst : Instance}

theorem admits (certifies : solution.Certifies solver inst) :
    solver.Admits inst.items inst.capacity :=
  (Solver.validate_eq_ok_iff.mp certifies.admitted).2

theorem fits (certifies : solution.Certifies solver inst) :
    Fits inst.items inst.capacity.toInt solution.selected.toFinset :=
  ⟨fun index member => certifies.inside index (List.mem_toFinset.mp member), certifies.light⟩

theorem of_config_eq {other : Solver} {mode : TieBreak}
    (alike : other.config = { solver.config with tieBreak := mode })
    (certifies : solution.Certifies solver inst) : solution.Certifies other inst :=
  { certifies with
    admitted := Solver.validate_eq_ok_iff.mpr ⟨rfl, certifies.admits.of_config_eq alike⟩ }

/-- A solution that is not exceeded has the value of every optimum. -/
theorem value_eq (certifies : solution.Certifies solver inst) {optimum : Solution}
    (solved : inst.solve solver = .ok optimum) : solution.optimalValue = optimum.optimalValue := by
  have answers := Solver.answers_of_solve solved
  have fits := certifies.fits
  have fitsBest := answers.isBest.fits
  rw [certifies.admits.cast_capacity] at fitsBest
  rw [← certifies.admits.cast_capacity] at fits
  have atMost := answers.value_le fits
  have atLeast := certifies.greatest _ fitsBest
  rw [certifies.value] at atMost
  rw [answers.value] at atLeast
  exact Int32.toInt_inj.mp (le_antisymm atMost atLeast)

end Solution.Certifies

/-- How ties are broken has no part in what is acceptable. -/
theorem Solution.certifies_iff_of_config_eq {solution : Solution} {solver other : Solver}
    {inst : Instance} {mode : TieBreak}
    (alike : other.config = { solver.config with tieBreak := mode }) :
    solution.Certifies solver inst ↔ solution.Certifies other inst := by
  have back : solver.config = { other.config with tieBreak := solver.config.tieBreak } := by
    rw [alike]
  exact ⟨Certifies.of_config_eq alike, Certifies.of_config_eq back⟩

/-- The check and a second solve of the same value together certify a solution. -/
theorem Solution.certifies_iff {solution : Solution} {solver : Solver} {inst : Instance} :
    solution.Certifies solver inst ↔
      inst.check solution = .ok () ∧
        ∃ optimum, inst.solve solver = .ok optimum ∧
          solution.optimalValue = optimum.optimalValue := by
  constructor
  · intro certifies
    have admits := certifies.admits
    have bounded : ¬ Exceeds inst.items inst.capacity.toNatClampNeg := by
      rintro ⟨chosen, fits, large⟩
      rw [admits.cast_capacity] at fits
      have bound := certifies.greatest chosen fits
      have upper := solution.optimalValue.toInt_lt
      omega
    obtain ⟨optimum, solved⟩ := Solver.exists_solution_of_not_exceeds admits bounded
    refine ⟨?_, optimum, solved, certifies.value_eq solved⟩
    exact Instance.check_of_certified admits.length_le_itemBound certifies.ascending certifies.fits
      certifies.value
  · rintro ⟨checked, optimum, solved, same⟩
    have admits := Solver.admits_of_solve solved
    obtain ⟨ascending, fits, value⟩ :=
      (Instance.check_eq_ok_iff admits.length_le_itemBound).mp checked
    refine ⟨Solver.validate_eq_ok_iff.mpr ⟨rfl, admits⟩, ascending, ?_, fits.light, value, ?_⟩
    · intro index member
      exact fits.inside index (List.mem_toFinset.mpr member)
    · intro chosen fits
      rw [← admits.cast_capacity] at fits
      rw [same]
      exact (Solver.answers_of_solve solved).value_le fits

namespace Surroundings

variable {surroundings : Surroundings} {input source : String} {config : Option String}
  {solver : Solver} {inst : Instance} {solution : Solution}

/-- Once everything is loaded, the selection is checked, the instance solved and the value
compared. -/
theorem verify_eq (apart : ¬(input = "-" ∧ source = "-"))
    (configured : surroundings.solver config = .ok solver)
    (loaded : surroundings.loadInstance input = .ok inst)
    (proposed : surroundings.loadSolution source = .ok solution) :
    surroundings.verify input source config =
      match inst.check solution, inst.solve solver with
      | .error flaw, _ => .error (.flawed flaw)
      | .ok (), .error failure => .error (.unsolved failure)
      | .ok (), .ok optimum =>
        if solution.optimalValue = optimum.optimalValue then .ok ()
        else .error (.notOptimal solution.optimalValue optimum.optimalValue) := by
  simp only [verify, if_neg apart, configured, loaded, proposed, Except.mapError, bind,
    Except.bind]
  cases inst.check solution with
  | error flaw => rfl
  | ok =>
    cases inst.solve solver with
    | error failure => rfl
    | ok optimum => exact ite_not _ _ _

theorem verify_eq_ok_iff (apart : ¬(input = "-" ∧ source = "-"))
    (configured : surroundings.solver config = .ok solver)
    (loaded : surroundings.loadInstance input = .ok inst)
    (proposed : surroundings.loadSolution source = .ok solution) :
    surroundings.verify input source config = .ok () ↔ solution.Certifies solver inst := by
  rw [Solution.certifies_iff, verify_eq apart configured loaded proposed]
  cases inst.check solution with
  | error flaw => simp
  | ok =>
    cases inst.solve solver with
    | error failure => simp
    | ok optimum => simp

end Surroundings

/-- How the program ends when a solution is accepted. -/
def Outcome.valid : Outcome :=
  { exitCode := 0
    output := "Solution is valid\n" }

namespace Invocation

variable {surroundings : Surroundings} {input source : String} {config : Option String}
  {solver : Solver} {inst : Instance} {solution : Solution}

theorem outcome_verify_eq_valid_iff :
    (verify input source config).outcome surroundings = .valid ↔
      surroundings.verify input source config = .ok () := by
  simp only [outcome]
  cases surroundings.verify input source config with
  | error error => exact iff_of_false (fun same => nomatch congrArg Outcome.exitCode same) nofun
  | ok => exact iff_of_true rfl rfl

/-- The command ends in one of two ways, and only a failure writes an error. -/
theorem outcome_verify_of_not_valid
    (rejected : (verify input source config).outcome surroundings ≠ .valid) :
    ∃ error, (verify input source config).outcome surroundings = .failed error "" := by
  cases verified : surroundings.verify input source config with
  | error error => exact ⟨error, by simp only [outcome, verified]⟩
  | ok => exact absurd (outcome_verify_eq_valid_iff.mpr verified) rejected

/-- The command succeeds exactly if the solution certifies an optimum, and fails without output
otherwise. How ties are broken makes no difference. -/
theorem verify_accepts_iff (apart : ¬(input = "-" ∧ source = "-"))
    (configured : surroundings.solver config = .ok solver)
    (loaded : surroundings.loadInstance input = .ok inst)
    (proposed : surroundings.loadSolution source = .ok solution) :
    ((verify input source config).outcome surroundings = .valid ↔
        solution.Certifies solver inst) ∧
      (¬ solution.Certifies solver inst →
        ∃ error, (verify input source config).outcome surroundings = .failed error "") ∧
      ∀ (other : Solver) (mode : TieBreak) (otherConfig : Option String),
        other.config = { solver.config with tieBreak := mode } →
        surroundings.solver otherConfig = .ok other →
        ((verify input source config).outcome surroundings = .valid ↔
          (verify input source otherConfig).outcome surroundings = .valid) := by
  have accepts : ∀ {anyConfig : Option String} {any : Solver},
      surroundings.solver anyConfig = .ok any →
        ((verify input source anyConfig).outcome surroundings = .valid ↔
          solution.Certifies any inst) := fun configured =>
    outcome_verify_eq_valid_iff.trans
      (Surroundings.verify_eq_ok_iff apart configured loaded proposed)
  refine ⟨accepts configured, fun fails => ?_, ?_⟩
  · exact outcome_verify_of_not_valid fun valid => fails ((accepts configured).mp valid)
  · intro other mode otherConfig alike configuredOther
    rw [accepts configured, accepts configuredOther]
    exact Solution.certifies_iff_of_config_eq alike

/-- A selection that the solver would not return is accepted under the usual settings: the first item
alone is heavier than the other two, and worth as much. -/
theorem verify_accepts_heavier :
    (verify "5\n5:10,2:5 2:5" "\x7b\"optimal_value\":10,\"selected_indices\":[0]\x7d"
        none).outcome .bare = .valid ∧
      Solution.Certifies ⟨10, [0]⟩ Solver.default ⟨5, [⟨5, 10⟩, ⟨2, 5⟩, ⟨2, 5⟩]⟩ := by
  have apart : ¬("5\n5:10,2:5 2:5" = "-" ∧
      "\x7b\"optimal_value\":10,\"selected_indices\":[0]\x7d" = "-") := by decide
  have configured : Surroundings.bare.solver none = .ok Solver.default := rfl
  have loaded : Surroundings.bare.loadInstance "5\n5:10,2:5 2:5" =
      .ok ⟨5, [⟨5, 10⟩, ⟨2, 5⟩, ⟨2, 5⟩]⟩ := rfl
  have proposed : Surroundings.bare.loadSolution
      "\x7b\"optimal_value\":10,\"selected_indices\":[0]\x7d" = .ok ⟨10, [0]⟩ := rfl
  have valid : (verify "5\n5:10,2:5 2:5" "\x7b\"optimal_value\":10,\"selected_indices\":[0]\x7d"
      none).outcome .bare = .valid := rfl
  exact ⟨valid, (verify_accepts_iff apart configured loaded proposed).1.mp valid⟩

end Invocation

end Knapsack
