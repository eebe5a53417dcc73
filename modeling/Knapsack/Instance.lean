import Knapsack.Solver

/-!
Instances, and the check of a proposed solution against one: the positions ascend strictly, none is
out of bounds, the items fit and have the reported value. Whether the value is the best is not
checked here.
-/

namespace Knapsack

structure Instance where
  capacity : Int32
  items : List Item
deriving DecidableEq, Repr

/-- The summed weight and value of a selection, in 64 bits. -/
structure Totals where
  weight : Int64 := 0
  value : Int64 := 0
deriving DecidableEq, Repr

def Totals.add (totals : Totals) (item : Item) : Totals :=
  ⟨totals.weight + item.weight.toInt64, totals.value + item.value.toInt64⟩

/-- What is wrong with a selection or with the solution that holds it. -/
inductive Flaw where
  | outOfBounds (index : Nat)
  | repeated (index : Nat)
  | unordered
  | tooHeavy (weight : Int64) (capacity : Int32)
  | wrongValue (reported : Int32) (value : Int64)
deriving DecidableEq, Repr

def Flaw.message : Flaw → String
  | .outOfBounds index => s!"Item ({index}) is out of bounds"
  | .repeated index => s!"Item ({index}) is selected more than once"
  | .unordered => "Selected indices are not strictly ascending"
  | .tooHeavy weight capacity =>
    s!"Total weight ({weight.toInt}) exceeded capacity ({capacity.toInt})"
  | .wrongValue reported value =>
    s!"Reported value ({reported.toInt}) does not match the value of the selection ({value.toInt})"

namespace Instance

def solve (inst : Instance) (solver : Solver) : Except Failure Solution :=
  solver.solve inst.items inst.capacity

/-- Adds up the items at `indices`; `seen` holds the positions that came before. -/
def totalsFrom (items : List Item) (seen : List Nat) (totals : Totals) :
    List Nat → Except Flaw Totals
  | [] => .ok totals
  | index :: indices =>
    match items[index]? with
    | none => .error (.outOfBounds index)
    | some item =>
      if index ∈ seen then
        .error (.repeated index)
      else
        totalsFrom items (index :: seen) (totals.add item) indices

def totals (inst : Instance) (indices : List Nat) : Except Flaw Totals :=
  totalsFrom inst.items [] {} indices

/-- Each position is less than the one after it. -/
def ascends : List Nat → Bool
  | first :: second :: rest => first < second && ascends (second :: rest)
  | _ => true

def check (inst : Instance) (solution : Solution) : Except Flaw Unit :=
  if ascends solution.selected then
    match inst.totals solution.selected with
    | .error flaw => .error flaw
    | .ok totals =>
      if inst.capacity.toInt64 < totals.weight then
        .error (.tooHeavy totals.weight inst.capacity)
      else if totals.value ≠ solution.optimalValue.toInt64 then
        .error (.wrongValue solution.optimalValue totals.value)
      else
        .ok ()
  else
    .error .unordered

end Instance

end Knapsack
