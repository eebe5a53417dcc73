/-!
Command lines. `solve` takes one operand and `verify` two; options stand anywhere before `--`, after
which everything is an operand. Each option is given at most once, `--verbose` once before and once
after the command, and in either place it asks for the whole log. The value of `--config` may be
missing, and is then no value.
-/

namespace Knapsack

inductive Invocation where
  | solve (input : String) (config : Option String) (json : Bool)
  | verify (input solution : String) (config : Option String)
  | noCommand
deriving DecidableEq, Repr

/-- What the arguments of the program mean: what it is to do, and whether it logs all of it. -/
structure CommandLine where
  verbose : Bool
  invocation : Invocation
deriving DecidableEq, Repr

namespace Invocation

inductive Command where
  | solve
  | verify
deriving DecidableEq, Repr

/-- What was gathered from the arguments of a command; a configuration may be given without value. -/
structure Gathered where
  verbose : Bool := false
  json : Bool := false
  config : Option (Option String) := none
  operands : List String := []
deriving DecidableEq, Repr

def looksLikeOption (argument : String) : Bool :=
  ['-'].isPrefixOf argument.toList && argument != "-"

/-- The value in `--config=value`. -/
def attachedConfig? (argument : String) : Option String :=
  let mark := "--config=".toList
  if mark.isPrefixOf argument.toList then
    some (String.ofList (argument.toList.drop mark.length))
  else
    none

namespace Gathered

def setConfig (gathered : Gathered) (value : Option String) : Option Gathered :=
  if gathered.config.isNone then some { gathered with config := some value } else none

/-- Notes one argument other than `--` and `--config`. -/
def note (command : Command) (gathered : Gathered) (argument : String) : Option Gathered :=
  if argument = "--verbose" then
    if gathered.verbose then none else some { gathered with verbose := true }
  else if argument = "--json" ∧ command = .solve then
    if gathered.json then none else some { gathered with json := true }
  else
    match attachedConfig? argument with
    | some value => gathered.setConfig (some value)
    | none =>
      if looksLikeOption argument then none
      else some { gathered with operands := gathered.operands ++ [argument] }

def gather (command : Command) (gathered : Gathered) : List String → Option Gathered
  | [] => some gathered
  | argument :: rest =>
    if argument = "--" then
      some { gathered with operands := gathered.operands ++ rest }
    else if argument = "--config" then
      match rest with
      | [] => gathered.setConfig none
      | value :: rest' =>
        if looksLikeOption value then
          (gathered.setConfig none).bind fun gathered => gather command gathered (value :: rest')
        else
          (gathered.setConfig (some value)).bind fun gathered => gather command gathered rest'
    else
      (gathered.note command argument).bind fun gathered => gather command gathered rest

end Gathered

def ofGathered? : Command → Gathered → Option Invocation
  | .solve, { operands := [input], config, json, .. } => some (.solve input config.join json)
  | .verify, { operands := [input, solution], config, .. } =>
    some (.verify input solution config.join)
  | _, _ => none

/-- The sources that an invocation reads. -/
def sources : Invocation → List String
  | .solve input config _ => input :: config.toList
  | .verify input solution config => input :: solution :: config.toList
  | .noCommand => []

end Invocation

namespace CommandLine

open Invocation (Command Gathered)

def ofCommand? (verbose : Bool) (command : Command) (arguments : List String) :
    Option CommandLine := do
  let gathered ← Gathered.gather command {} arguments
  let invocation ← Invocation.ofGathered? command gathered
  return ⟨verbose || gathered.verbose, invocation⟩

/-- Reads the arguments up to the command. -/
def ofArgumentsFrom? (verbose : Bool) : List String → Option CommandLine
  | [] => if verbose then some ⟨true, .noCommand⟩ else none
  | argument :: rest =>
    if argument = "--" then
      if verbose ∧ rest = [] then some ⟨true, .noCommand⟩ else none
    else if argument = "--verbose" then
      if verbose then none else ofArgumentsFrom? true rest
    else if argument = "solve" then
      ofCommand? verbose .solve rest
    else if argument = "verify" then
      ofCommand? verbose .verify rest
    else
      none

/-- What the arguments of the program mean, unless they are not accepted. -/
def ofArguments? (arguments : List String) : Option CommandLine :=
  ofArgumentsFrom? false arguments

end CommandLine

end Knapsack
