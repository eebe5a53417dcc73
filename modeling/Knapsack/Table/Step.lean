import Knapsack.Table.Fill
import Knapsack.Table.Walk

/-!
Single steps on a table: overwriting rows, moving them, marking and reading decisions, filling,
selecting and reading off a selection. Each step answers and leaves a table, also when it fails.
-/

namespace Knapsack

namespace Decisions

variable {rows width : Nat}

/-- The flags of the first `count` rows. -/
def firstRows (decisions : Decisions rows width) (count : Nat) :
    Except StrayCell (List (List Bool)) :=
  (List.range count).mapM fun item =>
    (List.range width).mapM fun cell => decisions.isTaken item cell

end Decisions

namespace Table

inductive Step where
  | load (values : List Int32) (weights : List UInt64)
  | poke (cell : Nat) (entry : Entry)
  | carry
  | swap
  | mark (item cell : Nat)
  | isTaken (item cell : Nat)
  | decisions (rows : Nat)
  | fill (items : List Item)
  | terminal
  | walk (items : List Item) (start : Terminal)
deriving DecidableEq, Repr

/-- A row of the wrong length, or a cell that a row does not have. -/
inductive Misfit where
  | length (given width : Nat)
  | cell (given width : Nat)
deriving DecidableEq, Repr

def Misfit.message : Misfit → String
  | .length given width => s!"row of {given} cells for a table of width {width}"
  | .cell given width => s!"row cell {given} outside width {width}"

inductive Reply where
  | rows (last : Rows)
  | marked
  | taken (flag : Bool)
  | decisions (flags : List (List Bool))
  | terminal (cell : Terminal)
  | solution (solution : Solution)
  | failed (failure : Failure)
  | misfit (misfit : Misfit)
deriving DecidableEq, Repr

/-- The row with these entries, if there are as many as it has cells. -/
def rowOfList {α : Type} (width : Nat) (entries : List α) : Except Misfit (Vector α width) :=
  if same : entries.toArray.size = width then
    .ok ⟨entries.toArray, same⟩
  else
    .error (.length entries.length width)

variable {rows capacity : Nat}

/-- Overwrites the last rows; without weight rows the given weights are ignored. -/
def load (table : Table rows capacity) (values : List Int32) (weights : List UInt64) :
    Table rows capacity × Option Misfit :=
  match rowOfList (capacity + 1) values with
  | .error misfit => (table, some misfit)
  | .ok values =>
    let table := { table with values := { table.values with last := values } }
    match table.weights with
    | none => (table, none)
    | some pair =>
      match rowOfList (capacity + 1) weights with
      | .error misfit => (table, some misfit)
      | .ok weights => ({ table with weights := some { pair with last := weights } }, none)

/-- Overwrites one cell of the next rows. -/
def poke (table : Table rows capacity) (cell : Nat) (entry : Entry) :
    Table rows capacity × Option Misfit :=
  if inside : cell < capacity + 1 then
    (table.put ⟨cell, inside⟩ entry, none)
  else
    (table, some (.cell cell (capacity + 1)))

def replyRows (table : Table rows capacity) : Option Misfit → Reply
  | none => .rows table.last
  | some misfit => .misfit misfit

/-- The table after a step, and the step's answer. -/
def perform (table : Table rows capacity) : Step → Table rows capacity × Reply
  | .load values weights =>
    let (table, misfit) := table.load values weights
    (table, table.replyRows misfit)
  | .poke cell entry =>
    let (table, misfit) := table.poke cell entry
    (table, table.replyRows misfit)
  | .carry => (table.carry, .rows table.carry.last)
  | .swap => (table.swap, .rows table.swap.last)
  | .mark item cell =>
    match table.mark item cell with
    | (table, none) => (table, .marked)
    | (table, some stray) => (table, .failed (.stray stray))
  | .isTaken item cell =>
    match table.decisions.isTaken item cell with
    | .ok flag => (table, .taken flag)
    | .error stray => (table, .failed (.stray stray))
  | .decisions count =>
    match table.decisions.firstRows count with
    | .ok flags => (table, .decisions flags)
    | .error stray => (table, .failed (.stray stray))
  | .fill items =>
    match table.fill items with
    | (table, none) => (table, .rows table.last)
    | (table, some failure) => (table, .failed failure)
  | .terminal => (table, .terminal table.terminal)
  | .walk items start =>
    match table.decisions.solution items start with
    | .ok solution => (table, .solution solution)
    | .error failure => (table, .failed failure)

/-- The answers to a sequence of steps, and the table after the last. -/
def performAll (table : Table rows capacity) : List Step → Table rows capacity × List Reply
  | [] => (table, [])
  | step :: steps =>
    let (table, reply) := table.perform step
    let (table, replies) := table.performAll steps
    (table, reply :: replies)

end Table

end Knapsack
