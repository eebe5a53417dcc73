import Knapsack.Table.Basic

/-!
The cell from which the selection is read off. With weights it is the first cell of least weight
among those of largest value; without them it is the cell of the whole capacity.
-/

namespace Knapsack

structure Terminal where
  cell : Nat
  value : Int32
deriving DecidableEq, Repr

namespace Table

variable {rows capacity : Nat}

/-- The best of `best` and the last `count` cells; of equally good cells the first. -/
def bestCell (table : Table rows capacity) :
    (count : Nat) → count ≤ capacity → Fin (capacity + 1) → Fin (capacity + 1)
  | 0, _, best => best
  | count + 1, within, best =>
    let cell : Fin (capacity + 1) := ⟨capacity - count, by omega⟩
    let better := (table.lastEntry cell).beats (table.lastEntry best)
    bestCell table count (by omega) (if better then cell else best)

def terminalCell (table : Table rows capacity) : Fin (capacity + 1) :=
  match table.weights with
  | none => Fin.last capacity
  | some _ => table.bestCell capacity (Nat.le_refl capacity) 0

def terminal (table : Table rows capacity) : Terminal :=
  let cell := table.terminalCell
  ⟨cell, table.values.last[cell]⟩

end Table

end Knapsack
