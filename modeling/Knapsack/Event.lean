import Knapsack.Table.Basic

/-!
What is recorded of the course of a solve, in order. A log has these events, the ends of the work
that is timed, and what a command records of its own.
-/

namespace Knapsack

inductive Event where
  | allocating (count width : Nat) (tracked : Bool)
  | selected (cell : Nat) (value : Int32)
  | rejected (cause : Refusal)
deriving DecidableEq, Repr

def Event.message : Event → String
  | .allocating count width tracked =>
    s!"allocating workspace: {count} items x {width} cells (weight rows: {tracked})"
  | .selected cell value => s!"selected terminal cell {cell} with value {value.toInt}"
  | .rejected cause => s!"solve rejected: {cause.message}"

/-- Work that is timed; its end is recorded however it ends. -/
inductive Work where
  | run
  | fill
  | reconstruct
deriving DecidableEq, Repr

def Work.name : Work → String
  | .run => "run"
  | .fill => "fill"
  | .reconstruct => "reconstruct"

inductive LogRecord where
  | solving (count : Nat) (capacity : Int32)
  | event (event : Event)
  | timed (work : Work)
deriving DecidableEq, Repr

def LogRecord.event? : LogRecord → Option Event
  | .event inner => some inner
  | _ => none

/-- The text of a record. How long timed work took is added where the record is written. -/
def LogRecord.message : LogRecord → String
  | .solving count capacity => s!"solving {count} items with capacity {capacity.toInt}"
  | .event inner => inner.message
  | .timed work => work.name

/-- What is recorded of making a table: nothing if its dimensions are refused. -/
def Table.allocationEvents (count capacity : Nat) (tracked : Bool) : List Event :=
  match Table.checkDimensions count capacity with
  | .error _ => []
  | .ok () => [.allocating count (capacity + 1) tracked]

end Knapsack
