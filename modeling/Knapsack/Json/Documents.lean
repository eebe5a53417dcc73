import Knapsack.Instance
import Knapsack.Json.Record
import Knapsack.Text.Numeral

/-!
The JSON form of items, instances, solutions and settings: compact objects with the fields in a fixed
order when written, records as `Json.Record` describes them when read. Settings are a closed record.
-/

namespace Knapsack

namespace Json

/-- Writes entries between two marks, with commas between them. -/
def enclosed (left right : Char) (entries : List (List Char)) : List Char :=
  left :: [','].intercalate entries ++ [right]

def array (entries : List (List Char)) : List Char :=
  enclosed '[' ']' entries

/-- Writes a member whose key needs no escape. -/
def entry (name : String) (value : List Char) : List Char :=
  '"' :: name.toList ++ '"' :: ':' :: value

def object (entries : List (List Char)) : List Char :=
  enclosed '\x7b' '\x7d' entries

/-- Writes a string that needs no escape. -/
def name (name : String) : List Char :=
  '"' :: name.toList ++ ['"']

/-- The name that stands for `x`. -/
def nameOf {α : Type} [BEq α] (choice : List (String × α)) (x : α) : String :=
  ((choice.find? fun (_, y) => y == x).map Prod.fst).getD ""

end Json

open Json

namespace Item

structure Draft where
  weight : Option Int32 := none
  value : Option Int32 := none

def record : Record Draft Item where
  name := "Item"
  fields := [
    .of "weight" int32 Draft.weight fun draft x => { draft with weight := some x },
    .of "value" int32 Draft.value fun draft x => { draft with value := some x }]
  closed := false
  start := {}
  finish
    | { weight := none, .. } => .error (.missingField "weight")
    | { value := none, .. } => .error (.missingField "value")
    | { weight := some weight, value := some value } => .ok ⟨weight, value⟩

def toJson (item : Item) : List Char :=
  object [
    entry "weight" (Numeral.ofInt item.weight.toInt),
    entry "value" (Numeral.ofInt item.value.toInt)]

end Item

namespace Instance

structure Draft where
  capacity : Option Int32 := none
  items : Option (List Item) := none

def record : Record Draft Instance where
  name := "Instance"
  fields := [
    .of "capacity" int32 Draft.capacity fun draft x => { draft with capacity := some x },
    .of "items" (list Item.record.read) Draft.items fun draft x => { draft with items := some x }]
  closed := false
  start := {}
  finish
    | { capacity := none, .. } => .error (.missingField "capacity")
    | { items := none, .. } => .error (.missingField "items")
    | { capacity := some capacity, items := some items } => .ok ⟨capacity, items⟩

def toJson (inst : Instance) : List Char :=
  object [
    entry "capacity" (Numeral.ofInt inst.capacity.toInt),
    entry "items" (array (inst.items.map Item.toJson))]

end Instance

namespace Solution

structure Draft where
  optimalValue : Option Int32 := none
  selected : Option (List Nat) := none

def record : Record Draft Solution where
  name := "Solution"
  fields := [
    .of "optimal_value" int32 Draft.optimalValue fun draft x =>
      { draft with optimalValue := some x },
    .of "selected_indices" (list word) Draft.selected fun draft x =>
      { draft with selected := some x }]
  closed := false
  start := {}
  finish
    | { optimalValue := none, .. } => .error (.missingField "optimal_value")
    | { selected := none, .. } => .error (.missingField "selected_indices")
    | { optimalValue := some optimalValue, selected := some selected } =>
      .ok ⟨optimalValue, selected⟩

/-- The members of a solution's object. -/
def entries (solution : Solution) : List (List Char) := [
  entry "optimal_value" (Numeral.ofInt solution.optimalValue.toInt),
  entry "selected_indices" (array (solution.selected.map Numeral.ofNat))]

def toJson (solution : Solution) : List Char :=
  object solution.entries

end Solution

namespace WeightPolicy

def names : List (String × WeightPolicy) :=
  [("positive", .positive), ("non_negative", .nonNegative)]

def toJson (policy : WeightPolicy) : List Char :=
  name (nameOf names policy)

end WeightPolicy

namespace TieBreak

def names : List (String × TieBreak) :=
  [("min_weight", .lightest), ("none", .valueOnly)]

def toJson (tieBreak : TieBreak) : List Char :=
  name (nameOf names tieBreak)

end TieBreak

namespace Config

structure Draft where
  maxItems : Option Nat := none
  maxCapacity : Option Int32 := none
  weightPolicy : Option WeightPolicy := none
  tieBreak : Option TieBreak := none

/-- The settings of a draft, with the usual ones for those not given. -/
def ofDraft (draft : Draft) : Config :=
  let usual : Config := {}
  { maxItems := draft.maxItems.getD usual.maxItems
    maxCapacity := draft.maxCapacity.getD usual.maxCapacity
    weightPolicy := draft.weightPolicy.getD usual.weightPolicy
    tieBreak := draft.tieBreak.getD usual.tieBreak }

def record : Record Draft Config where
  name := "SolverConfig"
  fields := [
    .of "max_items" word Draft.maxItems fun draft x => { draft with maxItems := some x },
    .of "max_capacity" int32 Draft.maxCapacity fun draft x =>
      { draft with maxCapacity := some x },
    .of "weight_policy" (variant WeightPolicy.names) Draft.weightPolicy fun draft x =>
      { draft with weightPolicy := some x },
    .of "tie_break" (variant TieBreak.names) Draft.tieBreak fun draft x =>
      { draft with tieBreak := some x }]
  closed := true
  start := {}
  finish draft := .ok (ofDraft draft)

def toJson (config : Config) : List Char :=
  object [
    entry "max_items" (Numeral.ofNat config.maxItems),
    entry "max_capacity" (Numeral.ofInt config.maxCapacity.toInt),
    entry "weight_policy" config.weightPolicy.toJson,
    entry "tie_break" config.tieBreak.toJson]

end Config

end Knapsack
