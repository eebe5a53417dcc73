import Knapsack.Item
import Knapsack.Solution
import Knapsack.Word
import Knapsack.Table.Basic
import Knapsack.Table.Terminal

/-!
Reading a selection off the decisions: from the last item to the first, an item whose flag is set in
the current cell is selected, and the walk goes on in the cell its weight below. The positions come
out in ascending order.
-/

namespace Knapsack.Decisions

variable {rows width : Nat}

/-- Walks over numbered items, the highest number first, and puts those taken before `found`. -/
def walk (decisions : Decisions rows width) :
    List (Item × Nat) → Nat → List Nat → Except StrayCell (List Nat)
  | [], _, found => .ok found
  | (item, index) :: below, cell, found =>
    match decisions.isTaken index cell with
    | .error stray => .error stray
    | .ok true => walk decisions below (cellBelow cell item.weight) (index :: found)
    | .ok false => walk decisions below cell found

def selection (decisions : Decisions rows width) (items : List Item) (cell : Nat) :
    Except StrayCell (List Nat) :=
  decisions.walk items.zipIdx.reverse cell []

/-- The solution that the walk from a terminal cell selects. -/
def solution (decisions : Decisions rows width) (items : List Item) (terminal : Terminal) :
    Except Failure Solution :=
  match decisions.selection items terminal.cell with
  | .error stray => .error (.stray stray)
  | .ok selected =>
    match Table.checkBuffer .selectedIndices 8 selected.length with
    | .error cause => .error (.refused cause)
    | .ok () => .ok ⟨terminal.value, selected⟩

end Knapsack.Decisions
