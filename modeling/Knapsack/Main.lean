import Knapsack.Command.Run

/-!
The program: what the arguments name is read, and the outcome is written. Errors in JSON are told
without their places. The log is written without the time, and only `--verbose` asks for it. A path
counts as that of a file if it can be opened, so that devices count too.
-/

namespace Knapsack.Main

/-- The content of a file, which may be unreadable, unless there is none. -/
def readFile? (path : String) : IO (Option (Option ByteArray)) := do
  match ← (IO.FS.readBinFile path).toBaseIO with
  | .ok content => return some (some content)
  | .error (.permissionDenied ..) => return some none
  | .error (.hardwareFault ..) => return some none
  | .error (.resourceExhausted ..) => return some none
  | .error _ => return none

def readFiles (paths : List String) : IO (List (String × Option ByteArray)) :=
  paths.filterMapM fun path => do
    return (← readFile? path).map fun content => (path, content)

def readInput : IO (Option ByteArray) := do
  match ← (← IO.getStdin).readBinToEnd.toBaseIO with
  | .ok content => return some content
  | .error _ => return none

def usage : String :=
  "Usage: knapsack [--verbose] solve [--json] [--config [CONFIG]] <INPUT>\n" ++
  "       knapsack [--verbose] verify [--config [CONFIG]] <INPUT> <SOLUTION>\n"

def asksForHelp (arguments : List String) : Bool :=
  arguments.head? = some "help" || arguments.contains "--help" || arguments.contains "-h"

def host (arguments : List String) : IO Host := do
  let sources := (CommandLine.ofArguments? arguments).elim [] fun commandLine =>
    commandLine.invocation.sources
  let input ← if sources.contains "-" then readInput else pure (some .empty)
  let files ← readFiles (sources.filter fun source => source ≠ "-")
  return {
    input
    isFile := fun path => (files.lookup path).isSome
    content? := fun path => (files.lookup path).join
    log := .plain
    help? := fun arguments => if asksForHelp arguments then some usage else none
    complaint := fun _ => usage }

end Knapsack.Main

def main (arguments : List String) : IO UInt32 := do
  let outcome := (← Knapsack.Main.host arguments).outcome arguments
  IO.print outcome.output
  IO.eprint outcome.errorOutput
  return UInt32.ofNat outcome.exitCode
