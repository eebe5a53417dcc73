/-!
Settings of a solver: which weights it accepts, how it chooses among selections of equal value, and
the largest instance it takes. The limits may be tightened below the ceilings, never raised above.
-/

namespace Knapsack

inductive WeightPolicy where
  | positive
  | nonNegative
deriving DecidableEq, Repr

def WeightPolicy.accepts : WeightPolicy → Int32 → Bool
  | .positive, weight => 0 < weight
  | .nonNegative, weight => 0 ≤ weight

/-- Among selections of the best value, `lightest` asks for one of least weight; `valueOnly` keeps no
weights and asks for nothing more. -/
inductive TieBreak where
  | lightest
  | valueOnly
deriving DecidableEq, Repr

def TieBreak.tracksWeight : TieBreak → Bool
  | .lightest => true
  | .valueOnly => false

def itemCeiling : Nat := 100

def capacityCeiling : Int32 := 100000

structure Config where
  maxItems : Nat := itemCeiling
  maxCapacity : Int32 := capacityCeiling
  weightPolicy : WeightPolicy := .positive
  tieBreak : TieBreak := .lightest
deriving DecidableEq, Repr

def Config.AdmitsItems (config : Config) : Prop :=
  1 ≤ config.maxItems ∧ config.maxItems ≤ itemCeiling

def Config.AdmitsCapacity (config : Config) : Prop :=
  0 ≤ config.maxCapacity ∧ config.maxCapacity ≤ capacityCeiling

instance (config : Config) : Decidable config.AdmitsItems :=
  inferInstanceAs (Decidable (_ ∧ _))

instance (config : Config) : Decidable config.AdmitsCapacity :=
  inferInstanceAs (Decidable (_ ∧ _))

end Knapsack
