import Knapsack.Proofs.Command.Log

/-!
# What a command tells, and where

Whatever the arguments, the standard input, the files and the log are, a command that is accepted
tells its result in one consistent way (`outcome_of_command`):

1. It ends with exit code 0 or 1, and a line on the error output marks exactly the failures.
2. `solve` writes its report, or nothing if it fails; with `--json` it writes one line in both cases,
   and the line of a failure has the message that is on the error output.
3. `verify` says that the solution is valid if it succeeds, and writes nothing otherwise.
4. Settings that are not loaded or not admitted are reported whatever the other sources hold, unless
   `verify` is to read both of them from the standard input.

On the error output the log stands before the error. It has no line that looks like one, there is
none unless the arguments or the environment ask for it, and `--verbose` asks for all of it
(`Host.LogsApart`).
-/

namespace Knapsack

namespace Report

theorem isLine_json (solution : Solution) : IsLine (line (json solution)) :=
  ⟨json solution, String.toList_ofList, (shown_json solution).feed_not_mem⟩

/-- The report of a failure is one line, whatever lines its message has. -/
theorem isLine_error (message : String) : IsLine (line (error message)) :=
  ⟨error message, String.toList_ofList, (shown_error message).feed_not_mem⟩

end Report

/-! ## Outcomes -/

/-- The outcome tells of a failure by its exit code and on the error output alike. -/
structure Outcome.Consistent (outcome : Outcome) : Prop where
  exitCode : outcome.exitCode = 0 ∨ outcome.exitCode = 1
  errorLine : outcome.exitCode = 0 ↔ ¬ HasErrorLine outcome.errorOutput

namespace Outcome

theorem consistent_of_success {outcome : Outcome} (ended : outcome.exitCode = 0)
    (silent : outcome.errorOutput = "") : outcome.Consistent := by
  refine ⟨.inl ended, iff_of_true ended ?_⟩
  rw [silent]
  exact not_hasErrorLine_empty

theorem exitCode_failed (error : CommandError) (output : String) :
    (failed error output).exitCode = 1 := rfl

theorem consistent_failed (error : CommandError) (output : String) :
    (failed error output).Consistent :=
  ⟨.inr rfl, iff_of_false Nat.one_ne_zero (not_not_intro (hasErrorLine_of_message error.message))⟩

end Outcome

namespace Surroundings

variable {surroundings : Surroundings} {source input solution : String} {error : CommandError}

/-- Why a source gives no solver: its settings are not loaded, or they are not admitted. -/
inductive RefusesConfig (surroundings : Surroundings) (source : String) : String → Prop where
  | load {error : LoadError} (failed : surroundings.loadConfig source = .error error) :
      RefusesConfig surroundings source error.message
  | limits {config : Config} {cause : Refusal}
      (loaded : surroundings.loadConfig source = .ok config)
      (refused : Solver.ofConfig config = .error cause) :
      RefusesConfig surroundings source cause.message

theorem RefusesConfig.solver {message : String}
    (refuses : surroundings.RefusesConfig source message) :
    ∃ error, surroundings.solver (some source) = .error error ∧ error.message = message := by
  cases refuses with
  | @load error failed =>
    refine ⟨.load error, ?_, rfl⟩
    simp only [Surroundings.solver, failed]
    rfl
  | @limits config cause loaded refused =>
    refine ⟨.config cause, ?_, rfl⟩
    simp only [Surroundings.solver, loaded]
    change (Solver.ofConfig config).mapError CommandError.config = _
    rw [refused]
    rfl

/-- Without a solver nothing else is read. -/
theorem solve_of_solver_eq_error {config : Option String}
    (failed : surroundings.solver config = .error error) :
    surroundings.solve input config = .error error := by
  simp only [solve, failed]
  rfl

theorem verify_of_solver_eq_error {config : Option String}
    (apart : ¬(input = "-" ∧ solution = "-"))
    (failed : surroundings.solver config = .error error) :
    surroundings.verify input solution config = .error error := by
  simp only [verify, if_neg apart, failed]
  rfl

theorem verify_of_both_input {config : Option String} (both : input = "-" ∧ solution = "-") :
    surroundings.verify input solution config = .error .inputTwice := by
  simp only [verify, if_pos both]
  rfl

theorem solveRecords_of_solver_eq_error {config : Option String}
    (failed : surroundings.solver config = .error error) :
    surroundings.solveRecords input config = [] := by
  simp only [solveRecords, failed]

theorem verifyRecords_of_solver_eq_error {config : Option String}
    (failed : surroundings.solver config = .error error) :
    surroundings.verifyRecords input solution config = [] := by
  simp only [verifyRecords, failed, ite_self]

theorem verifyRecords_of_both_input {config : Option String}
    (both : input = "-" ∧ solution = "-") :
    surroundings.verifyRecords input solution config = [] := by
  simp only [verifyRecords, if_pos both]

end Surroundings

namespace Invocation

variable {surroundings : Surroundings} {input source : String} {config : Option String}
  {solution : Solution} {error : CommandError}

/-- `--json` decides only how a solution is written. -/
theorem outcome_solve_of_ok (json : Bool) (solved : surroundings.solve input config = .ok solution) :
    (solve input config json).outcome surroundings =
      { exitCode := 0
        output := if json then Report.line (Report.json solution)
          else String.ofList (Report.text solution) } := by
  cases json with
  | false => simp only [outcome, solved, Bool.false_eq_true, if_false]
  | true => simp only [outcome, solved, if_true]

theorem outcome_solve_of_error (json : Bool)
    (failed : surroundings.solve input config = .error error) :
    (solve input config json).outcome surroundings =
      .failed error (if json then Report.line (Report.error error.message) else "") := by
  cases json with
  | false => simp only [outcome, failed, Bool.false_eq_true, if_false]
  | true => simp only [outcome, failed, if_true]

theorem outcome_verify_of_ok (accepted : surroundings.verify input source config = .ok ()) :
    (verify input source config).outcome surroundings =
      { exitCode := 0
        output := "Solution is valid\n" } := by
  simp only [outcome, accepted]

theorem outcome_verify_of_error (failed : surroundings.verify input source config = .error error) :
    (verify input source config).outcome surroundings = .failed error "" := by
  simp only [outcome, failed]

/-- Whichever the invocation is, its outcome is consistent. -/
theorem consistent_outcome (surroundings : Surroundings) (invocation : Invocation) :
    (invocation.outcome surroundings).Consistent := by
  cases invocation with
  | solve input config json =>
    cases ended : surroundings.solve input config with
    | ok solution =>
      rw [outcome_solve_of_ok json ended]
      exact Outcome.consistent_of_success rfl rfl
    | error error =>
      rw [outcome_solve_of_error json ended]
      exact Outcome.consistent_failed error _
  | verify input source config =>
    cases ended : surroundings.verify input source config with
    | ok =>
      rw [outcome_verify_of_ok ended]
      exact Outcome.consistent_of_success rfl rfl
    | error error =>
      rw [outcome_verify_of_error ended]
      exact Outcome.consistent_failed error ""
  | noCommand => exact Outcome.consistent_failed .noCommand ""

/-- With `--json` exactly one line is written, whether there is a solution or not. -/
theorem isLine_output_solve (surroundings : Surroundings) (input : String)
    (config : Option String) : IsLine ((solve input config true).outcome surroundings).output := by
  cases ended : surroundings.solve input config with
  | ok solution =>
    rw [outcome_solve_of_ok true ended]
    exact Report.isLine_json solution
  | error error =>
    rw [outcome_solve_of_error true ended]
    exact Report.isLine_error error.message

end Invocation

namespace Host

variable {host : Host} {input source : String} {config : Option String}

/-- The outcome of arguments that are accepted is that of the command line they mean. -/
theorem outcome_of_accepted (host : Host) {arguments : List String} {commandLine : CommandLine}
    (accepted : CommandLine.ofArguments? arguments = some commandLine) :
    host.outcome arguments = host.run commandLine := by
  simp only [outcome, accepted]

/-- The log is all that an outcome has besides that of the invocation. -/
@[simp] theorem exitCode_run (host : Host) (commandLine : CommandLine) :
    (host.run commandLine).exitCode =
      (commandLine.invocation.outcome host.toSurroundings).exitCode := rfl

@[simp] theorem output_run (host : Host) (commandLine : CommandLine) :
    (host.run commandLine).output =
      (commandLine.invocation.outcome host.toSurroundings).output := rfl

theorem hasErrorLine_logged_append (lawful : host.log.Lawful) (commandLine : CommandLine)
    (rest : String) : HasErrorLine (host.logged commandLine ++ rest) ↔ HasErrorLine rest :=
  Log.hasErrorLine_text_append lawful (fun _ => Invocation.shown_message_of_mem_records) _ rest

/-- The log stands apart from the error behind it: it has no line that looks like one, it is nothing
if nobody asks for it, and with `--verbose` it is all that is recorded. -/
structure LogsApart (host : Host) (commandLine : CommandLine) : Prop where
  noError : ¬ HasErrorLine (host.logged commandLine)
  quiet : commandLine.verbose = false → host.log.asked? = none → host.logged commandLine = ""
  whole : commandLine.verbose = true → host.logged commandLine =
    host.log.textFrom 0 (commandLine.invocation.records host.toSurroundings)

theorem logsApart (lawful : host.log.Lawful) (commandLine : CommandLine) :
    host.LogsApart commandLine where
  noError := by
    have none := (hasErrorLine_logged_append lawful commandLine "").not.mpr not_hasErrorLine_empty
    rwa [String.append_empty] at none
  quiet plain unasked := by
    rw [logged, plain]
    exact Log.text_eq_empty unasked _
  whole verbose := by
    rw [logged, verbose]
    exact Log.text_verbose _ _

/-- What a `solve` tells: its report or its error, and nothing else behind the log. -/
structure SolveTells (host : Host) (verbose : Bool) (input : String) (config : Option String)
    (json : Bool) (outcome : Outcome) : Prop where
  apart : host.LogsApart ⟨verbose, .solve input config json⟩
  consistent : outcome.Consistent
  oneLine : json = true → IsLine outcome.output
  result :
    (∃ solution, host.solve input config = .ok solution ∧ outcome.exitCode = 0 ∧
      outcome.errorOutput = host.logged ⟨verbose, .solve input config json⟩ ∧
      outcome.output =
        if json then Report.line (Report.json solution) else String.ofList (Report.text solution)) ∨
    ∃ error, host.solve input config = .error error ∧ outcome.exitCode = 1 ∧
      outcome.errorOutput = host.logged ⟨verbose, .solve input config json⟩ ++
        ("Error: " ++ error.message ++ "\n") ∧
      outcome.output = if json then Report.line (Report.error error.message) else ""
  configFirst : ∀ source message, config = some source → host.RefusesConfig source message →
    outcome.errorOutput = "Error: " ++ message ++ "\n"

/-- What a `verify` tells: that the solution is valid, or its error behind the log. -/
structure VerifyTells (host : Host) (verbose : Bool) (input source : String)
    (config : Option String) (outcome : Outcome) : Prop where
  apart : host.LogsApart ⟨verbose, .verify input source config⟩
  consistent : outcome.Consistent
  valid : outcome.output = "Solution is valid\n" ↔ outcome.exitCode = 0
  silent : outcome.exitCode ≠ 0 → outcome.output = ""
  result :
    (host.verify input source config = .ok () ∧ outcome.exitCode = 0 ∧
      outcome.errorOutput = host.logged ⟨verbose, .verify input source config⟩) ∨
    ∃ error, host.verify input source config = .error error ∧ outcome.exitCode = 1 ∧
      outcome.errorOutput = host.logged ⟨verbose, .verify input source config⟩ ++
        ("Error: " ++ error.message ++ "\n")
  inputFirst : input = "-" ∧ source = "-" →
    outcome.errorOutput = "Error: INPUT and SOLUTION cannot both be read from stdin\n"
  configFirst : ¬(input = "-" ∧ source = "-") → ∀ settings message, config = some settings →
    host.RefusesConfig settings message →
    outcome.errorOutput = "Error: " ++ message ++ "\n"

theorem consistent_run (lawful : host.log.Lawful) (commandLine : CommandLine) :
    (host.run commandLine).Consistent := by
  have inner := Invocation.consistent_outcome host.toSurroundings commandLine.invocation
  refine ⟨inner.exitCode, inner.errorLine.trans (not_congr ?_)⟩
  exact (hasErrorLine_logged_append lawful commandLine _).symm

/-- An error from before anything is recorded stands alone on the error output. -/
theorem errorOutput_run_of_failed {invocation : Invocation} {error : CommandError}
    {output : String} (unlogged : invocation.records host.toSurroundings = [])
    (failed : invocation.outcome host.toSurroundings = .failed error output) (verbose : Bool) :
    (host.run ⟨verbose, invocation⟩).errorOutput = "Error: " ++ error.message ++ "\n" := by
  have silent : host.logged ⟨verbose, invocation⟩ = "" := by
    rw [logged, unlogged]
    rfl
  rw [run, silent, failed]
  change "" ++ ("Error: " ++ error.message ++ "\n") = _
  rw [String.empty_append]

theorem solveTells_run (lawful : host.log.Lawful) (verbose : Bool) (input : String)
    (config : Option String) (json : Bool) :
    host.SolveTells verbose input config json
      (host.run ⟨verbose, .solve input config json⟩) where
  apart := logsApart lawful _
  consistent := consistent_run lawful _
  oneLine := by
    rintro rfl
    exact Invocation.isLine_output_solve host.toSurroundings input config
  result := by
    cases ended : host.solve input config with
    | ok solution =>
      rw [run, Invocation.outcome_solve_of_ok json ended]
      exact .inl ⟨solution, rfl, rfl, String.append_empty, rfl⟩
    | error error =>
      rw [run, Invocation.outcome_solve_of_error json ended]
      exact .inr ⟨error, rfl, rfl, rfl, rfl⟩
  configFirst := by
    rintro source message rfl refuses
    obtain ⟨error, failed, rfl⟩ := refuses.solver
    have unlogged : (Invocation.solve input (some source) json).records host.toSurroundings = [] :=
      Surroundings.solveRecords_of_solver_eq_error failed
    exact errorOutput_run_of_failed unlogged
      (Invocation.outcome_solve_of_error json (Surroundings.solve_of_solver_eq_error failed)) verbose

theorem verifyTells_run (lawful : host.log.Lawful) (verbose : Bool) (input source : String)
    (config : Option String) :
    host.VerifyTells verbose input source config
      (host.run ⟨verbose, .verify input source config⟩) where
  apart := logsApart lawful _
  consistent := consistent_run lawful _
  valid := by
    cases ended : host.verify input source config with
    | ok =>
      rw [run, Invocation.outcome_verify_of_ok ended]
      exact iff_of_true rfl rfl
    | error error =>
      rw [run, Invocation.outcome_verify_of_error ended]
      have empty : "" ≠ "Solution is valid\n" := by decide
      exact iff_of_false empty Nat.one_ne_zero
  silent := by
    intro failed
    cases ended : host.verify input source config with
    | ok =>
      rw [run, Invocation.outcome_verify_of_ok ended] at failed
      exact absurd rfl failed
    | error error =>
      rw [run, Invocation.outcome_verify_of_error ended]
      rfl
  result := by
    cases ended : host.verify input source config with
    | ok =>
      rw [run, Invocation.outcome_verify_of_ok ended]
      exact .inl ⟨rfl, rfl, String.append_empty⟩
    | error error =>
      rw [run, Invocation.outcome_verify_of_error ended]
      exact .inr ⟨error, rfl, rfl, rfl⟩
  inputFirst := by
    intro both
    have unlogged : (Invocation.verify input source config).records host.toSurroundings = [] :=
      Surroundings.verifyRecords_of_both_input both
    have told : (Invocation.verify input source config).outcome host.toSurroundings =
        .failed .inputTwice "" :=
      Invocation.outcome_verify_of_error (Surroundings.verify_of_both_input both)
    rw [errorOutput_run_of_failed unlogged told verbose]
    decide
  configFirst := by
    rintro apart settings message rfl refuses
    obtain ⟨error, failed, rfl⟩ := refuses.solver
    have unlogged : (Invocation.verify input source (some settings)).records host.toSurroundings =
        [] := Surroundings.verifyRecords_of_solver_eq_error failed
    have told := Invocation.outcome_verify_of_error
      (Surroundings.verify_of_solver_eq_error apart failed)
    exact errorOutput_run_of_failed unlogged told verbose

/-- Both commands tell their results as they promise, whatever they are given and whatever is logged.
With and without `--json` a `solve` ends alike, and reports the same solution. -/
theorem outcome_of_command (host : Host) (lawful : host.log.Lawful) :
    (∀ arguments verbose input config json,
      CommandLine.ofArguments? arguments = some ⟨verbose, .solve input config json⟩ →
      host.SolveTells verbose input config json (host.outcome arguments)) ∧
    (∀ arguments verbose input source config,
      CommandLine.ofArguments? arguments = some ⟨verbose, .verify input source config⟩ →
      host.VerifyTells verbose input source config (host.outcome arguments)) ∧
    ∀ plain flagged verbosePlain verboseFlagged input config,
      CommandLine.ofArguments? plain = some ⟨verbosePlain, .solve input config false⟩ →
      CommandLine.ofArguments? flagged = some ⟨verboseFlagged, .solve input config true⟩ →
      (host.outcome plain).exitCode = (host.outcome flagged).exitCode ∧
      ((host.outcome plain).exitCode = 0 → ∃ solution,
        (host.outcome plain).output = String.ofList (Report.text solution) ∧
        (host.outcome flagged).output = Report.line (Report.json solution)) := by
  refine ⟨fun arguments verbose input config json accepted => ?solve,
    fun arguments verbose input source config accepted => ?verify,
    fun plain flagged _ _ input config acceptedPlain acceptedFlagged => ?alike⟩
  case solve =>
    rw [outcome_of_accepted host accepted]
    exact solveTells_run lawful verbose input config json
  case verify =>
    rw [outcome_of_accepted host accepted]
    exact verifyTells_run lawful verbose input source config
  case alike =>
    rw [outcome_of_accepted host acceptedPlain, outcome_of_accepted host acceptedFlagged]
    simp only [exitCode_run, output_run]
    cases ended : host.solve input config with
    | ok solution =>
      rw [Invocation.outcome_solve_of_ok false ended, Invocation.outcome_solve_of_ok true ended]
      exact ⟨rfl, fun _ => ⟨solution, rfl, rfl⟩⟩
    | error error =>
      rw [Invocation.outcome_solve_of_error false ended,
        Invocation.outcome_solve_of_error true ended, Outcome.exitCode_failed,
        Outcome.exitCode_failed]
      exact ⟨rfl, fun impossible => absurd impossible Nat.one_ne_zero⟩

/-- A host whose environment asks for what is to be solved, and which is told where a setting is
misspelled. -/
def observed : Host where
  toSurroundings := { Surroundings.bare with place? := fun _ _ => some ⟨1, 12⟩ }
  log :=
    { asked? := some fun record => record.level == .info
      write := fun _ record =>
        "2026-01-01T00:00:00.000000Z  INFO knapsack: " ++ record.message ++ "\n" }
  help? _ := none
  complaint _ := ""

theorem lawful_log_observed : observed.log.Lawful := by
  refine Log.lawful_of_front (fun _ _ => "2026-01-01T00:00:00.000000Z  INFO knapsack: ") ?_ ?_ ?_
  · exact fun _ _ => rfl
  · exact fun _ _ => by decide
  · exact fun _ _ => ⟨'2', rfl, by decide⟩

/-- A misspelled setting is reported although the input is no instance, the report is one line, and
the whole log is nothing. A value that becomes too large is reported behind what is logged. -/
theorem outcome_of_command_misspelled :
    (CommandLine.ofArguments?
        ["solve", "--verbose", "--config=\x7b\"tie_brake\":\"none\"\x7d", "--json", "no instance"] =
      some ⟨true, .solve "no instance" (some "\x7b\"tie_brake\":\"none\"\x7d") true⟩ ∧
    (observed.outcome
        ["solve", "--verbose", "--config=\x7b\"tie_brake\":\"none\"\x7d", "--json",
          "no instance"]).errorOutput =
      "Error: Failed to parse config: unknown field `tie_brake`, expected one of `max_items`, " ++
        "`max_capacity`, `weight_policy`, `tie_break` at line 1 column 12\n" ∧
    IsLine (observed.outcome
        ["solve", "--verbose", "--config=\x7b\"tie_brake\":\"none\"\x7d", "--json",
          "no instance"]).output) ∧
    (observed.outcome ["solve", "2\n1:2147483647 1:1\n"]).errorOutput =
      "2026-01-01T00:00:00.000000Z  INFO knapsack: solving 2 items with capacity 2\n" ++
        "Error: Knapsack solve failed: Value overflow while adding item 1 at capacity 2\n" ∧
    HasErrorLine (observed.outcome ["solve", "2\n1:2147483647 1:1\n"]).errorOutput := by
  refine ⟨?misspelled, ?overflow⟩
  case misspelled =>
    have accepted : CommandLine.ofArguments?
        ["solve", "--verbose", "--config=\x7b\"tie_brake\":\"none\"\x7d", "--json",
          "no instance"] =
        some ⟨true, .solve "no instance" (some "\x7b\"tie_brake\":\"none\"\x7d") true⟩ := rfl
    have told := (outcome_of_command observed lawful_log_observed).1 _ _ _ _ _ accepted
    have unknown : observed.loadConfig "\x7b\"tie_brake\":\"none\"\x7d" =
        .error (.config (.unknownField "tie_brake"
          ["max_items", "max_capacity", "weight_policy", "tie_break"]) (some ⟨1, 12⟩)) := rfl
    exact ⟨accepted, told.configFirst _ _ rfl (.load unknown), told.oneLine rfl⟩
  case overflow =>
    have accepted : CommandLine.ofArguments? ["solve", "2\n1:2147483647 1:1\n"] =
        some ⟨false, .solve "2\n1:2147483647 1:1\n" none false⟩ := rfl
    have told := (outcome_of_command observed lawful_log_observed).1 _ _ _ _ _ accepted
    have ended : observed.solve "2\n1:2147483647 1:1\n" none =
        .error (.unsolved (.refused (.valueOverflow 1 2))) := rfl
    have failed : (observed.outcome ["solve", "2\n1:2147483647 1:1\n"]).exitCode ≠ 0 := by
      rw [outcome_of_accepted observed accepted, exitCode_run,
        Invocation.outcome_solve_of_error false ended]
      exact Nat.one_ne_zero
    refine ⟨?_, not_not.mp fun none => failed (told.consistent.errorLine.mpr none)⟩
    have logs : observed.logged ⟨false, .solve "2\n1:2147483647 1:1\n" none false⟩ =
        "2026-01-01T00:00:00.000000Z  INFO knapsack: solving 2 items with capacity 2\n" := by
      decide +kernel
    rw [outcome_of_accepted observed accepted, run, Invocation.outcome_solve_of_error false ended,
      logs]
    rfl

end Host

end Knapsack
