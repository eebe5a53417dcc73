import Knapsack.Solver

/-!
# A run with every check on

The solver writes cells without asking whether they exist, and its words wrap around. A checked run
does the same work with a check before each step that relies on a fact from elsewhere, and stops at
the first check that fails:

* a cell number is one of the row before the row is read or written there;
* the weight of an item is at most the cell from which it is subtracted, in the filling and in the
  walk;
* the sum of a tracked weight and a load is a word;
* a flag is inside the matrix, and so is its offset inside the words.

The loops go over cell numbers, which nothing but these checks keeps inside the rows.
-/

namespace Knapsack

/-- What a checked run can stop at. -/
inductive Defect where
  | cell (number width : Nat)
  | difference (number : Nat) (weight : Int32)
  | sum (weight : UInt64) (load : Nat)
  | offset (item number width : Nat)
  | stray (cell : StrayCell)
deriving DecidableEq, Repr

namespace Checked

/-- What follows a check that passes. -/
theorem ok_bind {α β : Type} (x : α) (next : α → Except Defect β) :
    (Except.ok x >>= next) = next x :=
  rfl

variable {rows capacity : Nat}

/-! ## Single steps -/

def cell (capacity number : Nat) : Except Defect (Fin (capacity + 1)) :=
  if inside : number < capacity + 1 then .ok ⟨number, inside⟩
  else .error (.cell number (capacity + 1))

/-- The number of the cell that is the weight of the item below. -/
def subtract (number : Nat) (item : Item) : Except Defect Nat :=
  if item.Reaches number then .ok (number - item.load)
  else .error (.difference number item.weight)

def addWeight (load : Nat) (weight : UInt64) : Except Defect UInt64 :=
  if weight.toNat + load < wordCount then .ok (weight + UInt64.ofNat load)
  else .error (.sum weight load)

/-- The entry with an item added, if the value stays a 32-bit number. -/
def add? (entry : Entry) (item : Item) : Except Defect (Option Entry) :=
  match addValue? entry.value item.value, entry.weight with
  | none, _ => .ok none
  | some value, none => .ok (some ⟨value, none⟩)
  | some value, some weight => do
    let sum ← addWeight item.load weight
    return some ⟨value, some sum⟩

/-- Lets a flag be reached only through an offset that is a word. -/
def flag {α : Type} (item number width : Nat) (access : Except StrayCell α) : Except Defect α :=
  match access with
  | .error stray => .error (.stray stray)
  | .ok x => if item * width + number < wordCount then .ok x else .error (.offset item number width)

def mark (table : Table rows capacity) (item number : Nat) :
    Except Defect (Table rows capacity) :=
  flag item number (capacity + 1) <|
    match table.mark item number with
    | (table, none) => .ok table
    | (_, some stray) => .error stray

/-! ## Filling -/

def offer (index : Nat) (item : Item) (number : Nat) (table : Table rows capacity) :
    Except Defect (Table rows capacity × Option Failure) := do
  let base ← cell capacity (← subtract number item)
  let target ← cell capacity number
  match ← add? (table.lastEntry base) item with
  | none => return (table, some (.refused (.valueOverflow index number)))
  | some entry =>
    if entry.beats (table.nextEntry target) then
      return (← mark (table.put target entry) index number, none)
    else
      return (table, none)

/-- Offers an item to cells in the given order. -/
def sweep (index : Nat) (item : Item) :
    List Nat → Table rows capacity → Except Defect (Table rows capacity × Option Failure)
  | [], table => .ok (table, none)
  | number :: numbers, table => do
    match ← offer index item number table with
    | (table, none) => sweep index item numbers table
    | stopped => return stopped

/-- Offers an item to the cells from its weight up to the last. A negative weight is a word beyond
all cells. -/
def advance (index : Nat) (item : Item) (table : Table rows capacity) :
    Except Defect (Table rows capacity × Option Failure) := do
  let numbers := match item.load? with
    | none => []
    | some load => List.range' load (capacity + 1 - load)
  match ← sweep index item numbers table.carry with
  | (table, none) => return (table.swap, none)
  | stopped => return stopped

def fillFrom (index : Nat) :
    List Item → Table rows capacity → Except Defect (Table rows capacity × Option Failure)
  | [], table => .ok (table, none)
  | item :: items, table => do
    match ← advance index item table with
    | (table, none) => fillFrom (index + 1) items table
    | stopped => return stopped

/-! ## Reading the answer -/

/-- The best of a cell and of the cells to come, of equally good ones the first. -/
def scan (table : Table rows capacity) : List Nat → Nat → Except Defect Nat
  | [], best => .ok best
  | number :: numbers, best => do
    let entry := table.lastEntry (← cell capacity number)
    let bestEntry := table.lastEntry (← cell capacity best)
    scan table numbers (if entry.beats bestEntry then number else best)

def terminal (table : Table rows capacity) : Except Defect Terminal := do
  let number ← match table.weights with
    | none => .ok capacity
    | some _ => scan table (List.range' 1 capacity) 0
  return ⟨number, (table.lastEntry (← cell capacity number)).value⟩

def walk (decisions : Decisions rows (capacity + 1)) :
    List (Item × Nat) → Nat → List Nat → Except Defect (List Nat)
  | [], _, found => .ok found
  | (item, index) :: below, number, found => do
    if ← flag index number (capacity + 1) (decisions.isTaken index number) then
      walk decisions below (← subtract number item) (index :: found)
    else
      walk decisions below number found

/-! ## The run -/

def run (solver : Solver) (items : Option (List Item)) (capacity : Int32) : Except Defect Run :=
  match solver.validate items capacity with
  | .error cause => .ok ⟨[.timed .run], .error (.refused cause)⟩
  | .ok items =>
    let tracked := solver.config.tieBreak.tracksWeight
    let cells := capacity.toNatClampNeg
    let opening := (Table.allocationEvents items.length cells tracked).map .event
    match Table.allocate items.length cells tracked with
    | .error cause => .ok ⟨opening ++ [.timed .run], .error (.refused cause)⟩
    | .ok table => do
      match ← fillFrom 0 items table with
      | (_, some failure) => return ⟨opening ++ [.timed .fill, .timed .run], .error failure⟩
      | (table, none) =>
        let terminal ← terminal table
        let selected ← walk table.decisions items.zipIdx.reverse terminal.cell []
        let outcome := match Table.checkBuffer .selectedIndices 8 selected.length with
          | .error cause => .error (.refused cause)
          | .ok () => .ok ⟨terminal.value, selected⟩
        return ⟨opening ++ [.timed .fill, .event (.selected terminal.cell terminal.value),
          .timed .reconstruct, .timed .run], outcome⟩

end Checked

end Knapsack
