import Knapsack.Item

/-!
What a cell of a row holds: a value, and a weight if weights are tracked. Weights are words and their
sum wraps around.
-/

namespace Knapsack

structure Entry where
  value : Int32
  weight : Option UInt64
deriving DecidableEq, Repr

namespace Entry

/-- Whether both weights are tracked and the first is less. -/
@[inline]
def lighter : Option UInt64 → Option UInt64 → Bool
  | some weight, some other => weight < other
  | _, _ => false

/-- A larger value wins, then a smaller weight. An entry does not beat its equal. -/
@[inline]
def beats (entry other : Entry) : Bool :=
  other.value < entry.value ||
    (entry.value == other.value && lighter entry.weight other.weight)

/-- Weights are compared only if the values are equal. -/
theorem beats_eq_ite (value other : Int32) (weight otherWeight : UInt64) :
    beats ⟨value, some weight⟩ ⟨other, some otherWeight⟩ =
      if other < value then true
      else if value = other then decide (weight < otherWeight)
      else false := by
  unfold beats lighter
  by_cases more : other < value
  · rw [if_pos more, decide_eq_true more, Bool.true_or]
  · rw [if_neg more, decide_eq_false more, Bool.false_or]
    by_cases same : value = other
    · rw [if_pos same, beq_iff_eq.mpr same, Bool.true_and]
    · rw [if_neg same, beq_eq_false_iff_ne.mpr same, Bool.false_and]

/-- The entry with an item of this value and weight added, if the value stays a 32-bit number. -/
@[inline]
def add? (entry : Entry) (value : Int32) (weight : Nat) : Option Entry :=
  match addValue? entry.value value with
  | none => none
  | some value => some ⟨value, entry.weight.map fun sum => sum + UInt64.ofNat weight⟩

theorem add?_eq_none_iff {entry : Entry} {value : Int32} {weight : Nat} :
    entry.add? value weight = none ↔ addValue? entry.value value = none := by
  unfold add?
  cases addValue? entry.value value <;> simp

theorem add?_eq_some_iff {entry sum : Entry} {value : Int32} {weight : Nat} :
    entry.add? value weight = some sum ↔
      addValue? entry.value value = some sum.value ∧
        sum.weight = entry.weight.map fun total => total + UInt64.ofNat weight := by
  obtain ⟨newValue, newWeight⟩ := sum
  unfold add?
  cases addValue? entry.value value with
  | none => simp
  | some total =>
    rw [Option.some_inj, Option.some_inj, Entry.mk.injEq]
    exact and_congr_right fun _ => eq_comm

/-- An entry keeps no weight where the entry it was made from kept none. -/
theorem weight_isSome_of_add? {entry sum : Entry} {value : Int32} {weight : Nat}
    (added : entry.add? value weight = some sum) : sum.weight.isSome = entry.weight.isSome := by
  rw [(add?_eq_some_iff.mp added).2, Option.isSome_map]

end Entry

end Knapsack
