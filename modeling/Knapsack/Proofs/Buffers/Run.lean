import Knapsack.Table.Step

/-!
# A table in plain buffers

The rows of a table have their width in their type, so no cell of them can be missing. Here the same
steps are done on buffers whose lengths nothing guarantees:

* a cell is reached by its number, and a number that the buffer does not have stops the step;
* a row is copied onto another cell by cell, and two rows of different lengths stop the step;
* a flag is asked for by its item and its cell, which are checked against the dimensions of the
  matrix, and is then reached by its place in the one buffer of all flags.

Words wrap around: a weight taken as a word, the sum of two weights and the place of a flag. A step
that is stopped leaves the buffers as they are at that point.
-/

namespace Knapsack

/-- Two rows, each of a length of its own. -/
structure RowBuffers (α : Type) where
  last : Array α
  next : Array α

/-- Flags in one buffer, and the dimensions by which they are found. -/
structure FlagBuffer where
  rows : Nat
  width : Nat
  flags : Array Bool

/-- The buffers of one solve, and the width that its loops go by. -/
structure Buffers where
  width : Nat
  values : RowBuffers Int32
  weights : Option (RowBuffers UInt64)
  decisions : FlagBuffer

/-- The weight of an item as a word. A negative one is so much below the number of words. -/
def Item.word (item : Item) : Nat :=
  (item.weight.toInt % wordCount).toNat

namespace Buffers

/-- What stops a step on buffers: a row that does not fit, or a failure of the step itself. -/
inductive Stop where
  | misfit (misfit : Table.Misfit)
  | failed (failure : Failure)

def Stop.reply : Stop → Table.Reply
  | .misfit reason => .misfit reason
  | .failed reason => .failed reason

/-- Work on buffers. If it is stopped, what it has written by then stays. -/
abbrev Action := EStateM Stop Buffers

end Buffers

open Buffers (Stop Action)

/-! ## One buffer -/

section OneBuffer

variable {α : Type}

def readCell (row : Array α) (number : Nat) : Except Stop α :=
  if inside : number < row.size then .ok row[number] else .error (.misfit (.cell number row.size))

def writeCell (row : Array α) (number : Nat) (x : α) : Except Stop (Array α) :=
  if inside : number < row.size then .ok (row.set number x)
  else .error (.misfit (.cell number row.size))

/-- What a row is after another was copied onto it. -/
def copyOnto (row source : Array α) : Except Stop (Array α) :=
  if source.size = row.size then .ok source else .error (.misfit (.length source.size row.size))

namespace RowBuffers

def fill (width : Nat) (x : α) : RowBuffers α :=
  ⟨.replicate width x, .replicate width x⟩

def carry (rows : RowBuffers α) : Except Stop (RowBuffers α) := do
  return ⟨rows.last, ← copyOnto rows.next rows.last⟩

def swap (rows : RowBuffers α) : RowBuffers α :=
  ⟨rows.next, rows.last⟩

def put (rows : RowBuffers α) (number : Nat) (x : α) : Except Stop (RowBuffers α) := do
  return ⟨rows.last, ← writeCell rows.next number x⟩

def load (rows : RowBuffers α) (entries : List α) : Except Stop (RowBuffers α) := do
  return ⟨← copyOnto rows.last entries.toArray, rows.next⟩

end RowBuffers

end OneBuffer

namespace FlagBuffer

/-- The place of a flag, if the matrix has it. -/
def place (decisions : FlagBuffer) (item cell : Nat) : Except Stop Nat :=
  if item < decisions.rows ∧ cell < decisions.width then
    .ok ((item * decisions.width + cell) % wordCount)
  else
    .error (.failed (.stray ⟨item, cell, decisions.rows, decisions.width⟩))

def isTaken (decisions : FlagBuffer) (item cell : Nat) : Except Stop Bool := do
  readCell decisions.flags (← decisions.place item cell)

def mark (decisions : FlagBuffer) (item cell : Nat) : Except Stop FlagBuffer := do
  let flags ← writeCell decisions.flags (← decisions.place item cell) true
  return ⟨decisions.rows, decisions.width, flags⟩

def firstRows (decisions : FlagBuffer) (count : Nat) : Except Stop (List (List Bool)) :=
  (List.range count).mapM fun item =>
    (List.range decisions.width).mapM fun cell => decisions.isTaken item cell

def walk (decisions : FlagBuffer) : List (Item × Nat) → Nat → List Nat → Except Stop (List Nat)
  | [], _, found => .ok found
  | (item, index) :: below, cell, found => do
    if ← decisions.isTaken index cell then
      walk decisions below (cellBelow cell item.weight) (index :: found)
    else
      walk decisions below cell found

def solution (decisions : FlagBuffer) (items : List Item) (start : Terminal) :
    Except Stop Solution := do
  let selected ← decisions.walk items.zipIdx.reverse start.cell []
  (Table.checkBuffer .selectedIndices 8 selected.length).mapError fun cause =>
    .failed (.refused cause)
  return ⟨start.value, selected⟩

end FlagBuffer

namespace Buffers

/-- The buffers of a new table. -/
def allocate (count capacity : Nat) (tracked : Bool) : Except Refusal Buffers := do
  Table.checkDimensions count capacity
  Table.checkBuffers count capacity tracked
  return ⟨capacity + 1, .fill (capacity + 1) 0,
    if tracked then some (.fill (capacity + 1) 0) else none,
    ⟨count, capacity + 1, .replicate (count * (capacity + 1)) false⟩⟩

/-- The entries of the rows of the last completed item. -/
def last (buffers : Buffers) : Table.Rows :=
  ⟨buffers.values.last.toList, buffers.weights.map fun weights => weights.last.toList⟩

/-! ## The buffers together -/

/-- What is made of the buffers alone, without changing them. -/
def ask {α : Type} (question : Buffers → Except Stop α) : Action α := fun buffers =>
  match question buffers with
  | .ok answer => .ok answer buffers
  | .error stop => .error stop buffers

def onValues (change : RowBuffers Int32 → Except Stop (RowBuffers Int32)) : Action Unit :=
  fun buffers =>
    match change buffers.values with
    | .ok values => .ok () { buffers with values }
    | .error stop => .error stop buffers

/-- Without weight rows there is nothing to change. -/
def onWeights (change : RowBuffers UInt64 → Except Stop (RowBuffers UInt64)) : Action Unit :=
  fun buffers =>
    match buffers.weights.mapM change with
    | .ok weights => .ok () { buffers with weights }
    | .error stop => .error stop buffers

def onDecisions (change : FlagBuffer → Except Stop FlagBuffer) : Action Unit := fun buffers =>
  match change buffers.decisions with
  | .ok decisions => .ok () { buffers with decisions }
  | .error stop => .error stop buffers

def load (values : List Int32) (weights : List UInt64) : Action Unit := do
  onValues (·.load values)
  onWeights (·.load weights)

def putValue (cell : Nat) (value : Int32) : Action Unit :=
  onValues (·.put cell value)

def putWeight (cell : Nat) : Option UInt64 → Action Unit
  | none => pure ()
  | some weight => onWeights (·.put cell weight)

/-- Writes an entry into the next rows, its weight first. -/
def poke (cell : Nat) (entry : Entry) : Action Unit := do
  putWeight cell entry.weight
  putValue cell entry.value

def carry : Action Unit := do
  onValues (·.carry)
  onWeights (·.carry)

def swap : Action Unit := do
  onValues fun rows => .ok rows.swap
  onWeights fun rows => .ok rows.swap

def mark (item cell : Nat) : Action Unit :=
  onDecisions (·.mark item cell)

/-! ## Filling -/

/-- The value that an item makes of the value in the cell that is its weight below. -/
def sumAt (index : Nat) (item : Item) (cell : Nat) (buffers : Buffers) : Except Stop Int32 := do
  match addValue? (← readCell buffers.values.last (cell - item.word)) item.value with
  | none => .error (.failed (.refused (.valueOverflow index cell)))
  | some value => .ok value

/-- The weight that comes with it, if there are weight rows. -/
def weightAt (item : Item) (cell : Nat) (buffers : Buffers) : Except Stop (Option UInt64) :=
  buffers.weights.mapM fun weights => do
    return (← readCell weights.last (cell - item.word)) + UInt64.ofNat item.word

/-- Whether an entry is better than that of the next rows, whose value is `current`. The weight there
is looked at only if the values are equal. -/
def improves (cell : Nat) (current : Int32) (entry : Entry) (buffers : Buffers) :
    Except Stop Bool := do
  match buffers.weights, entry.weight with
  | some weights, some weight =>
    if current < entry.value then return true
    else if entry.value = current then return weight < (← readCell weights.next cell)
    else return false
  | _, _ => return current < entry.value

/-- Writes an entry that is better, and sets the flag of the item that made it. -/
def take (index cell : Nat) (entry : Entry) : Action Unit := do
  poke cell entry
  mark index cell

/-- Offers item number `index` to a cell that is not below its weight. -/
def offer (index : Nat) (item : Item) (cell : Nat) : Action Unit := do
  let value ← ask (sumAt index item cell)
  let current ← ask fun buffers => readCell buffers.values.next cell
  let weight ← ask (weightAt item cell)
  if ← ask (improves cell current ⟨value, weight⟩) then
    take index cell ⟨value, weight⟩

/-- Offers an item to cells in the given order. -/
def sweep (index : Nat) (item : Item) : List Nat → Action Unit
  | [] => pure ()
  | cell :: cells => do
    offer index item cell
    sweep index item cells

/-- Builds the row of one item in the cells from its weight up to the width. -/
def advance (width index : Nat) (item : Item) : Action Unit := do
  carry
  sweep index item (List.range' item.word (width - item.word))
  swap

def fillFrom (width index : Nat) : List Item → Action Unit
  | [] => pure ()
  | item :: items => do
    advance width index item
    fillFrom width (index + 1) items

/-- The width is the one at the start. -/
def fill (items : List Item) : Action Unit := do
  fillFrom (← get).width 0 items

/-! ## Reading the answer -/

/-- Whether a cell is better than another. The weights are looked at only if the values are equal. -/
def better (values : Array Int32) (weights : Array UInt64) (cell other : Nat) :
    Except Stop Bool := do
  let value ← readCell values cell
  let otherValue ← readCell values other
  if otherValue < value then return true
  else if value = otherValue then return (← readCell weights cell) < (← readCell weights other)
  else return false

/-- The best of a cell and of the cells to come, of equally good ones the first. -/
def scan (values : Array Int32) (weights : Array UInt64) : List Nat → Nat → Except Stop Nat
  | [], best => .ok best
  | cell :: cells, best => do
    if ← better values weights cell best then scan values weights cells cell
    else scan values weights cells best

def terminalCell (buffers : Buffers) : Except Stop Nat :=
  match buffers.weights with
  | none => .ok (buffers.width - 1)
  | some weights =>
    scan buffers.values.last weights.last (List.range' 1 (buffers.width - 1)) 0

def terminal (buffers : Buffers) : Except Stop Terminal := do
  let cell ← buffers.terminalCell
  return ⟨cell, ← readCell buffers.values.last cell⟩

/-! ## Steps -/

/-- The rows after work on them. -/
def rowsAfter (action : Action Unit) : Action Table.Reply := do
  action
  return .rows (← get).last

/-- Does a step and answers it, if nothing stops it. -/
def answer : Table.Step → Action Table.Reply
  | .load values weights => rowsAfter (load values weights)
  | .poke cell entry => rowsAfter (poke cell entry)
  | .carry => rowsAfter carry
  | .swap => rowsAfter swap
  | .mark item cell => do
    mark item cell
    return .marked
  | .isTaken item cell => ask fun buffers => .taken <$> buffers.decisions.isTaken item cell
  | .decisions count => ask fun buffers => .decisions <$> buffers.decisions.firstRows count
  | .fill items => rowsAfter (fill items)
  | .terminal => ask fun buffers => .terminal <$> buffers.terminal
  | .walk items start => ask fun buffers => .solution <$> buffers.decisions.solution items start

/-- The buffers after a step, and the step's answer. -/
def perform (buffers : Buffers) (step : Table.Step) : Buffers × Table.Reply :=
  match answer step buffers with
  | .ok reply after => (after, reply)
  | .error stop after => (after, stop.reply)

/-- The answers to a sequence of steps, and the buffers after the last. -/
def performAll (buffers : Buffers) : List Table.Step → Buffers × List Table.Reply
  | [] => (buffers, [])
  | step :: steps =>
    let (buffers, reply) := buffers.perform step
    let (buffers, replies) := buffers.performAll steps
    (buffers, reply :: replies)

end Buffers

end Knapsack
