import Mathlib.Order.Bounds.Basic
import Knapsack.Solver
import Knapsack.Proofs.Choice

/-!
# What passes the check

`Admits` lists the rules that an instance keeps to if a solver does not refuse it before it makes a
table, and `Refuses` the reasons to refuse it, each of which applies only where none before it does.
`validate_outcome` says that the check finds the one or the other; `validate_eq_ok_iff` is the
exactness of the rules. The ceilings above the limits make an
admitted instance small: its weights are not negative, its capacity is a number of cells, and none
of its buffers is too large.
-/

namespace Knapsack

theorem WeightPolicy.nonneg_of_accepts {policy : WeightPolicy} {weight : Int32}
    (accepted : policy.accepts weight) : 0 ≤ weight := by
  cases policy with
  | positive => exact Int32.le_of_lt (of_decide_eq_true accepted)
  | nonNegative => exact of_decide_eq_true accepted

namespace Solver

/-- The instances that a solver does not refuse before it makes a table. -/
structure Admits (solver : Solver) (items : List Item) (capacity : Int32) : Prop where
  nonempty : items ≠ []
  few : items.length ≤ solver.config.maxItems
  lower : 0 ≤ capacity
  upper : capacity ≤ solver.config.maxCapacity
  weights : ∀ item ∈ items, solver.config.weightPolicy.accepts item.weight

/-- The positions of items whose weight the policy rejects. -/
def rejected (policy : WeightPolicy) (items : List Item) : Set Nat :=
  {position | ∃ item, items[position]? = some item ∧ ¬ policy.accepts item.weight}

/-- Why a solver refuses an instance before it makes a table: the first reason in a fixed order. -/
inductive Refuses (solver : Solver) (capacity : Int32) : Option (List Item) → Refusal → Prop where
  | missing : Refuses solver capacity none .missingItems
  | empty : Refuses solver capacity (some []) .noItems
  | many {items : List Item} (nonempty : items ≠ [])
      (many : solver.config.maxItems < items.length) :
      Refuses solver capacity (some items) (.tooManyItems items.length solver.config.maxItems)
  | capacity {items : List Item} (nonempty : items ≠ [])
      (few : items.length ≤ solver.config.maxItems)
      (outside : ¬(0 ≤ capacity ∧ capacity ≤ solver.config.maxCapacity)) :
      Refuses solver capacity (some items) (.capacity capacity solver.config.maxCapacity)
  | weight {items : List Item} {item : Item} {index : Nat} (nonempty : items ≠ [])
      (few : items.length ≤ solver.config.maxItems)
      (inside : 0 ≤ capacity ∧ capacity ≤ solver.config.maxCapacity)
      (least : IsLeast (rejected solver.config.weightPolicy items) index)
      (found : items[index]? = some item) :
      Refuses solver capacity (some items) (.itemWeight index item.weight)

/-- What a check of an instance can come to. -/
inductive Validation (solver : Solver) (capacity : Int32) :
    Option (List Item) → Except Refusal (List Item) → Prop where
  | refused {items : Option (List Item)} {cause : Refusal}
      (refuses : solver.Refuses capacity items cause) :
      Validation solver capacity items (.error cause)
  | accepted {items : List Item} (admits : solver.Admits items capacity) :
      Validation solver capacity (some items) (.ok items)

theorem badWeight?_eq_none_iff {policy : WeightPolicy} {items : List Item} :
    badWeight? policy items = none ↔ ∀ item ∈ items, policy.accepts item.weight := by
  rw [badWeight?, List.find?_eq_none]
  constructor
  · intro accepted item member
    obtain ⟨index, inside, rfl⟩ := List.getElem_of_mem member
    have numbered : (items[index], index) ∈ items.zipIdx :=
      List.mk_mem_zipIdx_iff_getElem?.mpr (List.getElem?_eq_getElem inside)
    simpa using accepted _ numbered
  · rintro accepted ⟨item, index⟩ numbered
    have member := List.mem_of_getElem? (List.mk_mem_zipIdx_iff_getElem?.mp numbered)
    simpa using accepted item member

/-- The item that is found is the first of those rejected. -/
theorem isLeast_of_badWeight? {policy : WeightPolicy} {items : List Item} {item : Item}
    {index : Nat} (bad : badWeight? policy items = some (item, index)) :
    items[index]? = some item ∧ IsLeast (rejected policy items) index := by
  obtain ⟨fails, position, inside, numbered, first⟩ := List.find?_eq_some_iff_getElem.mp bad
  rw [List.getElem_zipIdx, Nat.zero_add, Prod.mk.injEq] at numbered
  obtain ⟨rfl, rfl⟩ := numbered
  rw [List.length_zipIdx] at inside
  have found : items[position]? = some items[position] := List.getElem?_eq_getElem inside
  refine ⟨found, ⟨_, found, by simpa using fails⟩, ?_⟩
  rintro other ⟨item, foundOther, rejected⟩
  by_contra earlier
  have accepted := first other (Nat.lt_of_not_le earlier)
  rw [List.getElem_zipIdx] at accepted
  have same := (List.getElem?_eq_some_iff.mp foundOther).2
  simp [same, rejected] at accepted

theorem validate_outcome (solver : Solver) (items : Option (List Item)) (capacity : Int32) :
    Validation solver capacity items (solver.validate items capacity) := by
  cases items with
  | none => exact .refused .missing
  | some items =>
    simp only [validate]
    -- Past each refusal its rule is known to hold.
    split
    · next empty =>
      rw [List.isEmpty_iff.mp empty]
      exact .refused .empty
    next notEmpty =>
    have nonempty : items ≠ [] := fun empty => notEmpty (List.isEmpty_iff.mpr empty)
    split
    · next many => exact .refused (.many nonempty many)
    next notMany =>
    have few : items.length ≤ solver.config.maxItems := Nat.le_of_not_lt notMany
    split
    · next outside =>
      refine .refused (.capacity nonempty few fun inside => ?_)
      rcases outside with negative | large
      · exact Int32.not_lt.mpr inside.1 negative
      · exact Int32.not_lt.mpr inside.2 large
    next notOutside =>
    obtain ⟨lower, upper⟩ := not_or.mp notOutside
    rw [Int32.not_lt] at lower upper
    cases bad : badWeight? solver.config.weightPolicy items with
    | some numbered =>
      obtain ⟨item, index⟩ := numbered
      obtain ⟨found, least⟩ := isLeast_of_badWeight? bad
      exact .refused (.weight nonempty few ⟨lower, upper⟩ least found)
    | none => exact .accepted ⟨nonempty, few, lower, upper, badWeight?_eq_none_iff.mp bad⟩

/-- No reason to refuse an instance applies to one that is admitted. -/
theorem Refuses.not_admits {solver : Solver} {items : List Item} {capacity : Int32}
    {cause : Refusal} (refuses : solver.Refuses capacity (some items) cause) :
    ¬ solver.Admits items capacity := by
  intro admits
  cases refuses with
  | empty => exact admits.nonempty rfl
  | many _ many => exact Nat.not_lt_of_le admits.few many
  | capacity _ _ outside => exact outside ⟨admits.lower, admits.upper⟩
  | weight _ _ _ least =>
    obtain ⟨item, found, rejected⟩ := least.1
    exact rejected (admits.weights item (List.mem_of_getElem? found))

theorem validate_eq_ok_iff {solver : Solver} {items accepted : List Item} {capacity : Int32} :
    solver.validate (some items) capacity = .ok accepted ↔
      accepted = items ∧ solver.Admits items capacity := by
  have outcome := validate_outcome solver (some items) capacity
  generalize solver.validate (some items) capacity = result at outcome
  cases outcome with
  | refused refuses => exact iff_of_false nofun fun both => refuses.not_admits both.2
  | accepted admits =>
    constructor
    · rintro ⟨⟩
      exact ⟨rfl, admits⟩
    · rintro ⟨rfl, -⟩
      rfl

namespace Admits

variable {solver : Solver} {items : List Item} {capacity : Int32}

theorem nonNegative (admits : solver.Admits items capacity) : NonNegative items :=
  fun item member => WeightPolicy.nonneg_of_accepts (admits.weights item member)

theorem length_le (admits : solver.Admits items capacity) : items.length ≤ itemCeiling :=
  Nat.le_trans admits.few solver.admitsItems.2

/-- The capacity counts the cells of a row but the first. -/
theorem cast_capacity (admits : solver.Admits items capacity) :
    (capacity.toNatClampNeg : Int) = capacity.toInt :=
  Int32.cast_toNatClampNeg capacity admits.lower

theorem capacity_le (admits : solver.Admits items capacity) :
    capacity.toNatClampNeg ≤ 100000 := by
  have le := Int32.le_trans admits.upper solver.admitsCapacity.2
  rw [Int32.le_iff_toInt_le, ← admits.cast_capacity] at le
  exact Int.ofNat_le.mp le

theorem word (admits : solver.Admits items capacity) : capacity.toNatClampNeg < wordCount :=
  Nat.lt_of_le_of_lt admits.capacity_le (by decide)

end Admits

end Solver

end Knapsack
