/-!
Two rows of one width: the row of the last completed item and the row being built for the next.
-/

namespace Knapsack

structure RowPair (α : Type) (width : Nat) where
  last : Vector α width
  next : Vector α width

namespace RowPair

variable {α : Type} {width : Nat}

def fill (x : α) : RowPair α width :=
  ⟨Vector.replicate width x, Vector.replicate width x⟩

/-- Starts the next row from the last one, so that a cell an item cannot reach keeps its entry. -/
def carry (rows : RowPair α width) : RowPair α width :=
  ⟨rows.last, rows.last⟩

def swap (rows : RowPair α width) : RowPair α width :=
  ⟨rows.next, rows.last⟩

/-- Writes a cell of the next row. -/
@[inline]
def put (rows : RowPair α width) (cell : Fin width) (x : α) : RowPair α width :=
  match rows with
  | ⟨last, next⟩ => ⟨last, next.set cell x⟩

end RowPair

end Knapsack
