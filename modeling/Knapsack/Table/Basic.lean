import Knapsack.Refusal
import Knapsack.Word
import Knapsack.Table.Entry
import Knapsack.Table.RowPair
import Knapsack.Table.Decisions

/-!
The table of one solve: a pair of value rows, a pair of weight rows if ties are broken by weight, and
the decisions. A row has a cell for each capacity from zero to the given one. A table is made only
if its dimensions are words and none of its buffers is too large; dimensions come first.
-/

namespace Knapsack

structure Table (rows capacity : Nat) where
  values : RowPair Int32 (capacity + 1)
  weights : Option (RowPair UInt64 (capacity + 1))
  decisions : Decisions rows (capacity + 1)

namespace Table

/-- The entries of the rows of the last completed item. -/
structure Rows where
  values : List Int32
  weights : Option (List UInt64)
deriving DecidableEq, Repr

variable {rows capacity : Nat}

def blank (tracked : Bool) : Table rows capacity :=
  ⟨.fill 0, if tracked then some (.fill 0) else none, .blank⟩

def last (table : Table rows capacity) : Rows :=
  ⟨table.values.last.toList, table.weights.map fun weights => weights.last.toList⟩

def tracked (table : Table rows capacity) : Bool :=
  table.weights.isSome

def checkDimensions (count capacity : Nat) : Except Refusal Unit :=
  if wordCount ≤ capacity + 1 then
    .error (.dimensions count capacity)
  else if count = 0 ∨ wordCount ≤ count * (capacity + 1) then
    .error (.dimensions count (capacity + 1))
  else
    .ok ()

def checkBuffer (buffer : Buffer) (bytesEach length : Nat) : Except Refusal Unit :=
  if bufferLimit < bytesEach * length then .error (.bufferSize buffer length) else .ok ()

def checkBuffers (count capacity : Nat) (tracked : Bool) : Except Refusal Unit := do
  checkBuffer .valueRow 4 (capacity + 1)
  if tracked then
    checkBuffer .weightRow 8 (capacity + 1)
  checkBuffer .decisionMatrix 1 (count * (capacity + 1))

def allocate (count capacity : Nat) (tracked : Bool) : Except Refusal (Table count capacity) := do
  checkDimensions count capacity
  checkBuffers count capacity tracked
  return blank tracked

def carry (table : Table rows capacity) : Table rows capacity :=
  ⟨table.values.carry, table.weights.map RowPair.carry, table.decisions⟩

def swap (table : Table rows capacity) : Table rows capacity :=
  ⟨table.values.swap, table.weights.map RowPair.swap, table.decisions⟩

/-- The entry of the last rows in a cell. -/
@[inline]
def lastEntry (table : Table rows capacity) (cell : Fin (capacity + 1)) : Entry :=
  ⟨table.values.last[cell], table.weights.map fun pair => pair.last[cell]⟩

/-- The entry of the next rows in a cell. -/
@[inline]
def nextEntry (table : Table rows capacity) (cell : Fin (capacity + 1)) : Entry :=
  ⟨table.values.next[cell], table.weights.map fun pair => pair.next[cell]⟩

/-- Writes an entry into the next rows. A weight is written only if weights are tracked. -/
@[inline]
def put (table : Table rows capacity) (cell : Fin (capacity + 1)) (entry : Entry) :
    Table rows capacity :=
  match table, entry.weight with
  | ⟨values, some weights, decisions⟩, some weight =>
    ⟨values.put cell entry.value, some (weights.put cell weight), decisions⟩
  | ⟨values, weights, decisions⟩, _ => ⟨values.put cell entry.value, weights, decisions⟩

def mark (table : Table rows capacity) (item cell : Nat) :
    Table rows capacity × Option StrayCell :=
  match table with
  | ⟨values, weights, decisions⟩ =>
    let (decisions, stray) := decisions.mark item cell
    (⟨values, weights, decisions⟩, stray)

@[simp]
theorem lastEntry_carry (table : Table rows capacity) (cell : Fin (capacity + 1)) :
    table.carry.lastEntry cell = table.lastEntry cell := by
  obtain ⟨values, weights, decisions⟩ := table
  cases weights <;> rfl

/-- The rule for one cell, as a rule for the row. -/
@[simp]
theorem lastEntry_carry' (table : Table rows capacity) : table.carry.lastEntry = table.lastEntry :=
  funext table.lastEntry_carry

@[simp]
theorem nextEntry_carry (table : Table rows capacity) (cell : Fin (capacity + 1)) :
    table.carry.nextEntry cell = table.lastEntry cell := by
  obtain ⟨values, weights, decisions⟩ := table
  cases weights <;> rfl

@[simp]
theorem lastEntry_swap (table : Table rows capacity) (cell : Fin (capacity + 1)) :
    table.swap.lastEntry cell = table.nextEntry cell := by
  obtain ⟨values, weights, decisions⟩ := table
  cases weights <;> rfl

@[simp]
theorem nextEntry_swap (table : Table rows capacity) (cell : Fin (capacity + 1)) :
    table.swap.nextEntry cell = table.lastEntry cell := by
  obtain ⟨values, weights, decisions⟩ := table
  cases weights <;> rfl

@[simp]
theorem lastEntry_put (table : Table rows capacity) (cell other : Fin (capacity + 1))
    (entry : Entry) : (table.put cell entry).lastEntry other = table.lastEntry other := by
  obtain ⟨values, weights, decisions⟩ := table
  obtain ⟨value, weight⟩ := entry
  cases weights <;> cases weight <;> rfl

/-- An entry that has a weight exactly if the table has is read back as it was written. -/
theorem nextEntry_put (table : Table rows capacity) (cell other : Fin (capacity + 1))
    (entry : Entry) (fits : entry.weight.isSome = table.tracked) :
    (table.put cell entry).nextEntry other =
      if cell = other then entry else table.nextEntry other := by
  obtain ⟨values, weights, decisions⟩ := table
  obtain ⟨value, weight⟩ := entry
  cases weights <;> cases weight <;>
    simp_all [put, tracked, nextEntry, RowPair.put, Vector.getElem_set, Fin.ext_iff] <;>
    split <;> rfl

@[simp]
theorem lastEntry_mark (table : Table rows capacity) (item cell : Nat)
    (other : Fin (capacity + 1)) : (table.mark item cell).1.lastEntry other = table.lastEntry other :=
  rfl

@[simp]
theorem nextEntry_mark (table : Table rows capacity) (item cell : Nat)
    (other : Fin (capacity + 1)) : (table.mark item cell).1.nextEntry other = table.nextEntry other :=
  rfl

@[simp]
theorem tracked_blank (tracked : Bool) :
    (blank tracked : Table rows capacity).tracked = tracked := by
  cases tracked <;> rfl

@[simp]
theorem tracked_carry (table : Table rows capacity) : table.carry.tracked = table.tracked :=
  Option.isSome_map

@[simp]
theorem tracked_swap (table : Table rows capacity) : table.swap.tracked = table.tracked :=
  Option.isSome_map

@[simp]
theorem tracked_put (table : Table rows capacity) (cell : Fin (capacity + 1)) (entry : Entry) :
    (table.put cell entry).tracked = table.tracked := by
  obtain ⟨values, weights, decisions⟩ := table
  obtain ⟨value, weight⟩ := entry
  cases weights <;> cases weight <;> rfl

@[simp]
theorem decisions_put (table : Table rows capacity) (cell : Fin (capacity + 1)) (entry : Entry) :
    (table.put cell entry).decisions = table.decisions := by
  obtain ⟨values, weights, decisions⟩ := table
  obtain ⟨value, weight⟩ := entry
  cases weights <;> cases weight <;> rfl

@[simp]
theorem isSome_weight_lastEntry (table : Table rows capacity) (cell : Fin (capacity + 1)) :
    (table.lastEntry cell).weight.isSome = table.tracked :=
  Option.isSome_map

end Table

end Knapsack
