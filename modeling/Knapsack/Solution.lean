/-!
The outcome of a solve: the value reached and the positions of the items that reach it.
-/

namespace Knapsack

structure Solution where
  optimalValue : Int32 := 0
  selected : List Nat := []
deriving DecidableEq, Repr

/-- The value zero and no items. -/
def Solution.empty : Solution := {}

end Knapsack
