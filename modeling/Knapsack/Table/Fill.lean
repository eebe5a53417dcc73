import Knapsack.Table.Basic

/-!
Filling the table item by item. An item of weight `w` offers each cell `c ≥ w` the last row's entry
at `c - w` with its own value and weight added. The offer is taken if it beats the entry carried
forward, and the flag of a taken offer is set. A sum that is no 32-bit value, or a flag outside the
matrix, ends the filling at once, and the table is left as it is at that cell: the rows of that item
are not swapped in.
-/

namespace Knapsack.Table

variable {rows capacity : Nat}

/-- Writes an entry that beats what was there, and sets the flag of the item that made it. -/
def take (index : Nat) (cell : Fin (capacity + 1)) (entry : Entry) (table : Table rows capacity) :
    Table rows capacity × Option Failure :=
  match (table.put cell entry).mark index cell with
  | (table, none) => (table, none)
  | (table, some stray) => (table, some (.stray stray))

theorem take_of_inside {index : Nat} (cell : Fin (capacity + 1)) (entry : Entry)
    (table : Table rows capacity) (inside : index < rows) :
    table.take index cell entry = (((table.put cell entry).mark index cell).1, none) := by
  have unhindered : ((table.put cell entry).mark index cell).2 = none :=
    (table.put cell entry).decisions.mark_snd_of_inside ⟨inside, cell.isLt⟩
  unfold take
  split
  · next marked => rw [marked]
  · next marked =>
    rw [marked] at unhindered
    cases unhindered

theorem take_of_outside {index : Nat} (cell : Fin (capacity + 1)) (entry : Entry)
    (table : Table rows capacity) (outside : rows ≤ index) :
    table.take index cell entry =
      (table.put cell entry, some (.stray ⟨index, cell, rows, capacity + 1⟩)) := by
  have missing : ¬(index < rows ∧ (cell : Nat) < capacity + 1) := by omega
  simp only [take, mark, Decisions.mark_of_outside _ missing]

@[simp]
theorem lastEntry_take (index : Nat) (cell : Fin (capacity + 1)) (entry : Entry)
    (table : Table rows capacity) :
    (table.take index cell entry).1.lastEntry = table.lastEntry := by
  rcases Nat.lt_or_ge index rows with inside | outside
  · rw [take_of_inside cell entry table inside]
    exact funext (lastEntry_put table cell · entry)
  · rw [take_of_outside cell entry table outside]
    exact funext (lastEntry_put table cell · entry)

/-- Offers item number `index` to `cell`, from the cell `base` of the last rows. -/
def offer (index : Nat) (value : Int32) (base cell : Fin (capacity + 1))
    (table : Table rows capacity) : Table rows capacity × Option Failure :=
  match (table.lastEntry base).add? value (cell - base) with
  | none => (table, some (.refused (.valueOverflow index cell)))
  | some entry =>
    if entry.beats (table.nextEntry cell) then table.take index cell entry else (table, none)

/-- An offer leaves the last rows alone, however it ends. -/
@[simp]
theorem lastEntry_offer (index : Nat) (value : Int32) (base cell : Fin (capacity + 1))
    (table : Table rows capacity) :
    (table.offer index value base cell).1.lastEntry = table.lastEntry := by
  unfold offer
  cases (table.lastEntry base).add? value (cell - base) with
  | none => rfl
  | some entry =>
    by_cases better : entry.beats (table.nextEntry cell)
    · simp only [if_pos better, lastEntry_take]
    · simp only [if_neg better]

/-- Offers an item of weight `load` to the last `count` cells, in ascending order. -/
def sweep (index : Nat) (value : Int32) (load : Nat) :
    (count : Nat) → load + count ≤ capacity + 1 → Table rows capacity →
      Table rows capacity × Option Failure
  | 0, _, table => (table, none)
  | count + 1, within, table =>
    let base : Fin (capacity + 1) := ⟨capacity - count - load, by omega⟩
    let cell : Fin (capacity + 1) := ⟨capacity - count, by omega⟩
    match table.offer index value base cell with
    | (table, none) => sweep index value load count (by omega) table
    | (table, some failure) => (table, some failure)

/-- Builds the row of one item and makes it the last row. -/
def advance (index : Nat) (item : Item) (table : Table rows capacity) :
    Table rows capacity × Option Failure :=
  match item.load? with
  | none => (table.carry.swap, none)
  | some load =>
    if fits : load ≤ capacity then
      have whole : load + (capacity + 1 - load) ≤ capacity + 1 :=
        Nat.le_of_eq (Nat.add_sub_cancel' (Nat.le_succ_of_le fits))
      match sweep index item.value load (capacity + 1 - load) whole table.carry with
      | (table, none) => (table.swap, none)
      | (table, some failure) => (table, some failure)
    else
      (table.carry.swap, none)

/-- Advances over items whose first has number `index`. -/
def fillFrom (index : Nat) :
    List Item → Table rows capacity → Table rows capacity × Option Failure
  | [], table => (table, none)
  | item :: items, table =>
    match table.advance index item with
    | (table, none) => fillFrom (index + 1) items table
    | (table, some failure) => (table, some failure)

def fill (items : List Item) (table : Table rows capacity) :
    Table rows capacity × Option Failure :=
  fillFrom 0 items table

end Knapsack.Table
