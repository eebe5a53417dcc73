import Knapsack.Solver

/-!
Calls that answer with a status and leave their solution in a place the caller holds. The place is
emptied before a solve begins and filled only if the status is `ok`; a call without a place does
nothing but say so.
-/

namespace Knapsack.Session

inductive Call where
  | solve (solver : Solver) (items : Option (List Item)) (capacity : Int32) (output : Bool)
  | release

/-- What a call answers; a release has no status. -/
structure Reply where
  status : Option Status
  events : List Event

/-- The answer to a call, and the solution held after it. -/
def answer (held : Solution) : Call → Except StrayCell (Reply × Solution)
  | .release => .ok (⟨none, []⟩, .empty)
  | .solve _ _ _ false => .ok (⟨some Refusal.missingOutput.status, []⟩, held)
  | .solve solver items capacity true =>
    let run := solver.run items capacity
    match run.outcome with
    | .ok solution => .ok (⟨some .ok, run.events⟩, solution)
    | .error (.refused cause) =>
      .ok (⟨some cause.status, run.events ++ [.rejected cause]⟩, .empty)
    | .error (.stray stray) => .error stray

/-- The answers to a sequence of calls, each with the solution held after it. -/
def answers (held : Solution) : List Call → Except StrayCell (List (Reply × Solution))
  | [] => .ok []
  | call :: calls => do
    let (reply, held) ← answer held call
    let rest ← answers held calls
    return (reply, held) :: rest

end Knapsack.Session
