import Knapsack.Config
import Knapsack.Event
import Knapsack.Table.Fill
import Knapsack.Table.Walk

/-!
The exact solver. An instance is checked against the limits first, in a fixed order, and the first
rule it breaks is reported; only then is a table made, filled and read.
-/

namespace Knapsack

/-- Settings whose limits do not exceed the ceilings. -/
structure Solver where
  config : Config := {}
  admitsItems : config.AdmitsItems := by decide
  admitsCapacity : config.AdmitsCapacity := by decide

/-- How a solve went: what it recorded, and its solution or the reason that there is none. -/
structure Run where
  records : List LogRecord
  outcome : Except Failure Solution

def Run.events (run : Run) : List Event :=
  run.records.filterMap LogRecord.event?

namespace Solver

def ofConfig (config : Config) : Except Refusal Solver :=
  if items : config.AdmitsItems then
    if capacity : config.AdmitsCapacity then
      .ok ⟨config, items, capacity⟩
    else
      .error (.config
        s!"max_capacity must be in [0, {capacityCeiling.toInt}], got {config.maxCapacity.toInt}")
  else
    .error (.config s!"max_items must be in [1, {itemCeiling}], got {config.maxItems}")

def default : Solver := {}

/-- The first item whose weight the policy rejects. -/
def badWeight? (policy : WeightPolicy) (items : List Item) : Option (Item × Nat) :=
  items.zipIdx.find? fun (item, _) => !policy.accepts item.weight

/-- The items of an instance that keeps to the limits. -/
def validate (solver : Solver) (items : Option (List Item)) (capacity : Int32) :
    Except Refusal (List Item) :=
  match items with
  | none => .error .missingItems
  | some items =>
    if items.isEmpty then
      .error .noItems
    else if solver.config.maxItems < items.length then
      .error (.tooManyItems items.length solver.config.maxItems)
    else if capacity < 0 ∨ solver.config.maxCapacity < capacity then
      .error (.capacity capacity solver.config.maxCapacity)
    else
      match badWeight? solver.config.weightPolicy items with
      | some (item, index) => .error (.itemWeight index item.weight)
      | none => .ok items

def run (solver : Solver) (items : Option (List Item)) (capacity : Int32) : Run :=
  match solver.validate items capacity with
  | .error cause => ⟨[.timed .run], .error (.refused cause)⟩
  | .ok items =>
    let tracked := solver.config.tieBreak.tracksWeight
    let cells := capacity.toNatClampNeg
    let opening := (Table.allocationEvents items.length cells tracked).map .event
    match Table.allocate items.length cells tracked with
    | .error cause => ⟨opening ++ [.timed .run], .error (.refused cause)⟩
    | .ok table =>
      match table.fill items with
      | (_, some failure) => ⟨opening ++ [.timed .fill, .timed .run], .error failure⟩
      | (table, none) =>
        let terminal := table.terminal
        ⟨opening ++ [.timed .fill, .event (.selected terminal.cell terminal.value),
            .timed .reconstruct, .timed .run],
          table.decisions.solution items terminal⟩

def solve (solver : Solver) (items : List Item) (capacity : Int32) : Except Failure Solution :=
  (solver.run (some items) capacity).outcome

end Solver

end Knapsack
