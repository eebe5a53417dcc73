import Knapsack.Command.Invocation
import Knapsack.Command.Log
import Knapsack.Load
import Knapsack.Report

/-!
What the program does with its arguments. `solve` reports a solution; `verify` checks that a given
solution is well formed, feasible and of the best value. Settings are loaded first, so that their
errors come before those of the other sources. A failure is told on the error output, after what is
logged there, and with `--json` on the standard output as well.

What is said about arguments that are not accepted, and the help, are texts of the argument parser;
they are taken from the host as they are.
-/

namespace Knapsack

inductive CommandError where
  | noCommand
  | inputTwice
  | config (cause : Refusal)
  | load (error : LoadError)
  | unsolved (failure : Failure)
  | flawed (flaw : Flaw)
  | notOptimal (value optimum : Int32)
deriving DecidableEq, Repr

def CommandError.message : CommandError → String
  | .noCommand => "Invalid subcommand"
  | .inputTwice => "INPUT and SOLUTION cannot both be read from stdin"
  | .config cause => cause.message
  | .load error => error.message
  | .unsolved failure => s!"Knapsack solve failed: {failure.message}"
  | .flawed flaw => s!"Invalid solution: {flaw.message}"
  | .notOptimal value optimum =>
    s!"Invalid solution: value ({value.toInt}) is not the optimum ({optimum.toInt})"

structure Outcome where
  exitCode : Nat
  output : String := ""
  errorOutput : String := ""
deriving DecidableEq, Repr

/-- The outcome of a failed command, with what it wrote before. -/
def Outcome.failed (error : CommandError) (output : String) : Outcome :=
  { exitCode := 1
    output := output
    errorOutput := s!"Error: {error.message}\n" }

/-- Arguments that are rejected end the program before it does anything. -/
def Outcome.rejected (complaint : String) : Outcome :=
  { exitCode := 2
    errorOutput := complaint }

namespace Surroundings

def solver (surroundings : Surroundings) (config : Option String) : Except CommandError Solver :=
  match config with
  | none => .ok .default
  | some source => do
    let config ← (surroundings.loadConfig source).mapError .load
    (Solver.ofConfig config).mapError .config

def solve (surroundings : Surroundings) (input : String) (config : Option String) :
    Except CommandError Solution := do
  let solver ← surroundings.solver config
  let inst ← (surroundings.loadInstance input).mapError .load
  (inst.solve solver).mapError .unsolved

def verify (surroundings : Surroundings) (input solution : String) (config : Option String) :
    Except CommandError Unit := do
  if input = "-" ∧ solution = "-" then
    throw .inputTwice
  let solver ← surroundings.solver config
  let inst ← (surroundings.loadInstance input).mapError .load
  let solution ← (surroundings.loadSolution solution).mapError .load
  (inst.check solution).mapError .flawed
  let optimum ← (inst.solve solver).mapError .unsolved
  if solution.optimalValue ≠ optimum.optimalValue then
    throw (.notOptimal solution.optimalValue optimum.optimalValue)

/-- What a `solve` records: nothing until both its sources are loaded. -/
def solveRecords (surroundings : Surroundings) (input : String) (config : Option String) :
    List LogRecord :=
  match surroundings.solver config, surroundings.loadInstance input with
  | .ok solver, .ok inst =>
    .solving inst.items.length inst.capacity ::
      (solver.run (some inst.items) inst.capacity).records
  | _, _ => []

/-- What a `verify` records: the solve of the instance, if the solution passes the check before. -/
def verifyRecords (surroundings : Surroundings) (input solution : String)
    (config : Option String) : List LogRecord :=
  if input = "-" ∧ solution = "-" then
    []
  else
    match surroundings.solver config, surroundings.loadInstance input,
        surroundings.loadSolution solution with
    | .ok solver, .ok inst, .ok solution =>
      match inst.check solution with
      | .ok () => (solver.run (some inst.items) inst.capacity).records
      | .error _ => []
    | _, _, _ => []

end Surroundings

namespace Invocation

/-- What an invocation does itself, its log left out. -/
def outcome (surroundings : Surroundings) : Invocation → Outcome
  | .noCommand => .failed .noCommand ""
  | .solve input config json =>
    match surroundings.solve input config, json with
    | .ok solution, true => { exitCode := 0, output := Report.line (Report.json solution) }
    | .ok solution, false => { exitCode := 0, output := String.ofList (Report.text solution) }
    | .error error, true => .failed error (Report.line (Report.error error.message))
    | .error error, false => .failed error ""
  | .verify input solution config =>
    match surroundings.verify input solution config with
    | .ok () => { exitCode := 0, output := "Solution is valid\n" }
    | .error error => .failed error ""

def records (surroundings : Surroundings) : Invocation → List LogRecord
  | .noCommand => []
  | .solve input config _ => surroundings.solveRecords input config
  | .verify input solution config => surroundings.verifyRecords input solution config

end Invocation

/-- What the program is started in: its surroundings, its log, and the texts of its argument
parser. -/
structure Host extends Surroundings where
  log : Log
  /-- The help, if it is what the arguments get. -/
  help? : List String → Option String
  /-- What is said of arguments that are rejected. -/
  complaint : List String → String

namespace Host

/-- What a command line logs. -/
def logged (host : Host) (commandLine : CommandLine) : String :=
  host.log.text commandLine.verbose (commandLine.invocation.records host.toSurroundings)

/-- The outcome of a command line: what is logged stands before the error. -/
def run (host : Host) (commandLine : CommandLine) : Outcome :=
  let outcome := commandLine.invocation.outcome host.toSurroundings
  { outcome with errorOutput := host.logged commandLine ++ outcome.errorOutput }

/-- The outcome of the program when it is started with these arguments. -/
def outcome (host : Host) (arguments : List String) : Outcome :=
  match CommandLine.ofArguments? arguments, host.help? arguments with
  | some commandLine, _ => host.run commandLine
  | none, some help => { exitCode := 0, output := help }
  | none, none => .rejected (host.complaint arguments)

end Host

end Knapsack
