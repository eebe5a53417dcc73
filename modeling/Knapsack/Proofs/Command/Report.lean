import Knapsack.Proofs.Command.Verify
import Knapsack.Proofs.Json.Documents
import Knapsack.Proofs.Json.Value

/-!
# What the solve command reports is what the verify command accepts

The report of a solution is read back as that solution (`Solution.decode_line_json`): the status is
passed over, and the value and the positions are read as they were written. What the solver returns
is certified as an optimum (`Solution.certifies_of_solve`). Together, `verify` accepts the report of
`solve` for the same input and settings (`verify_of_solve_json`).
-/

namespace Knapsack

open Json

/-! ## The report -/

namespace Solution

variable {solution : Solution}

/-- The status of a report is no field of a solution. -/
theorem reads_json (words : ∀ index ∈ solution.selected, index < wordCount) :
    Reads record.read (Report.json solution) solution := by
  have status : Reads (record.member {} "status".toList) (':' :: name "ok") {} :=
    Record.reads_unknown rfl rfl fun stops => (value_quote "ok".toList).skipValue blank_nil stops
  have notes : record.Notes {}
      (memberText "status".toList (name "ok") :: solution.entries)
      ⟨some solution.optimalValue, some solution.selected⟩ := .cons status (notes_entries words)
  rw [← entry_eq_memberText rfl] at notes
  exact Record.reads_object notes rfl

theorem decode_line_json (words : ∀ index ∈ solution.selected, index < wordCount) :
    decode record.read (Report.line (Report.json solution)).toList = .ok solution := by
  have blank : ∀ c ∈ ['\n'], isSpace c = true := by
    intro c member
    cases List.mem_singleton.mp member
    rfl
  rw [Report.line, String.toList_ofList]
  exact (reads_json words).decode blank

/-- A report begins with a brace. -/
theorem line_json_ne (solution : Solution) : Report.line (Report.json solution) ≠ "-" := by
  intro same
  have first : ((Report.line (Report.json solution)).toList).head? = some '\x7b' := by
    rw [Report.line, String.toList_ofList]
    rfl
  rw [same] at first
  exact absurd first (by decide)

/-! ## The solution in it -/

variable {inst : Instance} {solver : Solver}

/-- Positions in a list that is not too long are words. -/
theorem word_of_solve (solved : inst.solve solver = .ok solution) :
    ∀ index ∈ solution.selected, index < wordCount := by
  intro index member
  have fits := (Solver.answers_of_solve solved).isBest.fits
  have inside := fits.inside index (List.mem_toFinset.mpr member)
  have few := (Solver.admits_of_solve solved).length_le
  unfold itemCeiling at few
  unfold wordCount
  omega

/-- What the solver returns passes the check, and a second solve has the same value. -/
theorem certifies_of_solve (solved : inst.solve solver = .ok solution) :
    solution.Certifies solver inst := by
  have admits := Solver.admits_of_solve solved
  have answers := Solver.answers_of_solve solved
  have fits := answers.isBest.fits
  rw [admits.cast_capacity] at fits
  have checked := Instance.check_of_certified admits.length_le_itemBound answers.ascending fits
    answers.value
  exact certifies_iff.mpr ⟨checked, solution, solved, rfl⟩

end Solution

/-! ## The two commands -/

namespace Surroundings

variable {surroundings : Surroundings} {input source : String} {config : Option String}
  {solution : Solution}

/-- A solve succeeds exactly if the settings and the instance are loaded and the solver finds the
solution. -/
theorem solve_eq_ok_iff : surroundings.solve input config = .ok solution ↔
    ∃ solver, surroundings.solver config = .ok solver ∧
      ∃ inst, surroundings.loadInstance input = .ok inst ∧ inst.solve solver = .ok solution := by
  simp only [solve, bind_eq_ok_iff, mapError_eq_ok_iff]

/-- A text that names no file is read as it is. -/
theorem loadSolution_of_decode (named : source ≠ "-") (noFile : surroundings.isFile source = false)
    (decoded : decode Solution.record.read source.toList = .ok solution) :
    surroundings.loadSolution source = .ok solution := by
  simp only [loadSolution, read, if_neg named, noFile, Bool.false_eq_true, if_false]
  change (decode Solution.record.read source.toList).mapError _ = _
  rw [decoded]
  rfl

end Surroundings

namespace Invocation

variable {surroundings : Surroundings} {input report : String} {config : Option String}

theorem solve_of_exitCode_eq_zero
    (ended : ((solve input config true).outcome surroundings).exitCode = 0) :
    ∃ solution, surroundings.solve input config = .ok solution ∧
      ((solve input config true).outcome surroundings).output =
        Report.line (Report.json solution) := by
  cases solved : surroundings.solve input config with
  | error error =>
    simp only [outcome, solved] at ended
    cases ended
  | ok solution => exact ⟨solution, rfl, by simp only [outcome, solved]⟩

/-- The report of a solve holds exactly the solution, and is accepted as one. -/
theorem verify_of_solve_json
    (ended : ((solve input config true).outcome surroundings).exitCode = 0)
    (reported : ((solve input config true).outcome surroundings).output = report) :
    ∃ solution, surroundings.solve input config = .ok solution ∧
      decode Solution.record.read report.toList = .ok solution ∧
      (surroundings.isFile report = false →
        (verify input report config).outcome surroundings = .valid) := by
  obtain ⟨solution, solved, written⟩ := solve_of_exitCode_eq_zero ended
  obtain ⟨solver, configured, inst, loaded, found⟩ := Surroundings.solve_eq_ok_iff.mp solved
  have decoded := Solution.decode_line_json (Solution.word_of_solve found)
  have named := Solution.line_json_ne solution
  rw [← written, reported] at decoded named
  refine ⟨solution, solved, decoded, fun noFile => ?_⟩
  have proposed := Surroundings.loadSolution_of_decode named noFile decoded
  have apart : ¬(input = "-" ∧ report = "-") := fun both => named both.2
  have accepted := Surroundings.verify_eq_ok_iff apart configured loaded proposed
  exact outcome_verify_eq_valid_iff.mpr (accepted.mpr (Solution.certifies_of_solve found))

/-- The last two of three items are reported, and the report is accepted as it stands. -/
theorem verify_of_solve_json_two_of_three :
    (solve "5\n5:10,2:5 2:5" none true).outcome .bare =
        { exitCode := 0
          output := "\x7b\"status\":\"ok\",\"optimal_value\":10,\"selected_indices\":[1,2]\x7d\n" } ∧
      (verify "5\n5:10,2:5 2:5"
        "\x7b\"status\":\"ok\",\"optimal_value\":10,\"selected_indices\":[1,2]\x7d\n"
        none).outcome .bare = .valid := by
  have ended : (solve "5\n5:10,2:5 2:5" none true).outcome .bare =
      { exitCode := 0
        output := "\x7b\"status\":\"ok\",\"optimal_value\":10,\"selected_indices\":[1,2]\x7d\n" } :=
    rfl
  obtain ⟨_, _, _, accepted⟩ :=
    verify_of_solve_json (congrArg Outcome.exitCode ended) (congrArg Outcome.output ended)
  exact ⟨ended, accepted rfl⟩

end Invocation

end Knapsack
