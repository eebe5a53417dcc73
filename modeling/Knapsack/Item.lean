import Knapsack.Word

/-!
Items: a weight and a value, both 32-bit numbers, and the sum of two values when it is one again.
-/

namespace Knapsack

structure Item where
  weight : Int32
  value : Int32
deriving DecidableEq, Repr

/-- The room an item takes in a row of cells. An item of negative weight fits into no cell. -/
def Item.load? (item : Item) : Option Nat :=
  if item.weight < 0 then none else some item.weight.toNatClampNeg

/-- The exact sum of two values, if it is a 32-bit number. -/
def addValue? (a b : Int32) : Option Int32 :=
  int32? (a.toInt + b.toInt)

/-- The room an item takes if its weight is not negative. -/
def Item.load (item : Item) : Nat :=
  item.weight.toNatClampNeg

/-- Whether a room is large enough for the item. -/
def Item.Reaches (item : Item) (room : Nat) : Prop :=
  0 ≤ item.weight ∧ item.load ≤ room

instance (item : Item) (room : Nat) : Decidable (item.Reaches room) :=
  inferInstanceAs (Decidable (_ ∧ _))

theorem Item.cast_load {item : Item} (nonneg : 0 ≤ item.weight) :
    (item.load : Int) = item.weight.toInt :=
  Int32.cast_toNatClampNeg item.weight nonneg

theorem Item.load?_of_nonneg {item : Item} (nonneg : 0 ≤ item.weight) :
    item.load? = some item.load :=
  if_neg (Int32.not_lt.mpr nonneg)

theorem Item.load?_of_neg {item : Item} (negative : ¬ 0 ≤ item.weight) : item.load? = none :=
  if_pos (Int32.not_le.mp negative)

theorem addValue?_eq_some_iff {a b sum : Int32} :
    addValue? a b = some sum ↔ sum.toInt = a.toInt + b.toInt :=
  int32?_eq_some_iff

end Knapsack
