import Mathlib.Algebra.BigOperators.Group.Finset.Basic
import Mathlib.Algebra.Order.BigOperators.Group.Finset
import Knapsack.Item

/-!
# Choices of items

A choice is a finite set of positions in an item list. Its weight and its value are summed over the
integers, so that no bound of the machine numbers enters.

`Fits items room chosen` says that the positions lie in the list and their items weigh at most
`room`. How a choice sees one more item at the end of the list is the step of every induction over
the list: `Fits.insertLast` adds that item, `Fits.casesLast` tells the choices with it from those
without it.
-/

namespace Knapsack

/-- Sums one part of the items at `chosen`. A position past the end adds nothing. -/
def sumOver (part : Item → Int32) (items : List Item) (chosen : Finset Nat) : Int :=
  ∑ position ∈ chosen, items[position]?.elim 0 fun item => (part item).toInt

abbrev weightOf : List Item → Finset Nat → Int :=
  sumOver Item.weight

abbrev valueOf : List Item → Finset Nat → Int :=
  sumOver Item.value

/-- A set of positions of the list whose items weigh at most `room` together. -/
structure Fits (items : List Item) (room : Int) (chosen : Finset Nat) : Prop where
  inside : ∀ position ∈ chosen, position < items.length
  light : weightOf items chosen ≤ room

/-- No item weighs less than nothing. -/
def NonNegative (items : List Item) : Prop :=
  ∀ item ∈ items, 0 ≤ item.weight

instance (items : List Item) : Decidable (NonNegative items) :=
  inferInstanceAs (Decidable (∀ item ∈ items, 0 ≤ item.weight))

theorem NonNegative.init {items more : List Item} (nonneg : NonNegative (items ++ more)) :
    NonNegative items :=
  fun item member => nonneg item (List.mem_append_left more member)

theorem NonNegative.last {items : List Item} {item : Item}
    (nonneg : NonNegative (items ++ [item])) : 0 ≤ item.weight :=
  nonneg item (List.mem_append_right items (List.mem_singleton_self item))

theorem NonNegative.upTo {items : List Item} (nonneg : NonNegative items) {index : Nat}
    (inside : index < items.length) : NonNegative (items.take index ++ [items[index]]) := by
  rw [← List.take_succ_eq_append_getElem inside]
  exact fun item member => nonneg item (List.mem_of_mem_take member)

/-! ## Sums -/

section Sums

variable {part : Item → Int32} {items : List Item} {chosen : Finset Nat}

theorem card_le_length (inside : ∀ position ∈ chosen, position < items.length) :
    chosen.card ≤ items.length := by
  have subset : chosen ⊆ Finset.range items.length :=
    fun position member => Finset.mem_range.mpr (inside position member)
  exact le_trans (Finset.card_le_card subset) (le_of_eq (Finset.card_range _))

theorem sumOver_append (more : List Item)
    (inside : ∀ position ∈ chosen, position < items.length) :
    sumOver part (items ++ more) chosen = sumOver part items chosen := by
  apply Finset.sum_congr rfl
  intro position member
  rw [List.getElem?_append_left (inside position member)]

theorem sumOver_insert {position : Nat} {item : Item} (part : Item → Int32)
    (found : items[position]? = some item) (fresh : position ∉ chosen) :
    sumOver part items (insert position chosen) =
      sumOver part items chosen + (part item).toInt := by
  rw [sumOver, Finset.sum_insert fresh, found, Option.elim_some, add_comm]
  rfl

theorem sumOver_insertLast (item : Item)
    (inside : ∀ position ∈ chosen, position < items.length) :
    sumOver part (items ++ [item]) (insert items.length chosen) =
      sumOver part items chosen + (part item).toInt := by
  have fresh : items.length ∉ chosen := fun member => Nat.lt_irrefl _ (inside _ member)
  rw [sumOver_insert part List.getElem?_concat_length fresh, sumOver_append [item] inside]

theorem weightOf_nonneg (nonneg : NonNegative items) : 0 ≤ weightOf items chosen := by
  apply Finset.sum_nonneg
  intro position _
  cases found : items[position]? with
  | none => exact le_refl 0
  | some item =>
    have heavy := nonneg item (List.mem_of_getElem? found)
    rw [Int32.le_iff_toInt_le] at heavy
    exact heavy

end Sums

/-! ## Choices that fit -/

namespace Fits

variable {items : List Item} {item : Item} {room : Int} {chosen : Finset Nat}

theorem empty (positive : 0 ≤ room) : Fits items room ∅ :=
  ⟨fun _ member => absurd member (Finset.notMem_empty _), positive⟩

theorem mono {larger : Int} (fits : Fits items room chosen) (le : room ≤ larger) :
    Fits items larger chosen :=
  ⟨fits.inside, le_trans fits.light le⟩

theorem append (more : List Item) (fits : Fits items room chosen) :
    Fits (items ++ more) room chosen := by
  constructor
  · intro position member
    have := fits.inside position member
    rw [List.length_append]
    omega
  · rw [weightOf, sumOver_append more fits.inside]
    exact fits.light

theorem roomNonneg (nonneg : NonNegative items) (fits : Fits items room chosen) : 0 ≤ room :=
  le_trans (weightOf_nonneg nonneg) fits.light

theorem insertLast (fits : Fits items (room - item.weight.toInt) chosen) :
    Fits (items ++ [item]) room (insert items.length chosen) := by
  constructor
  · intro position member
    rw [List.length_append, List.length_singleton]
    rcases Finset.mem_insert.mp member with rfl | member
    · omega
    · have := fits.inside position member
      omega
  · rw [weightOf, sumOver_insertLast item fits.inside]
    exact Int.add_le_of_le_sub_right fits.light

/-- A choice from a list with one more item leaves that item out, or adds it to a choice from the
list that fits into what the item leaves free. -/
theorem casesLast (fits : Fits (items ++ [item]) room chosen) :
    Fits items room chosen ∨
      ∃ rest, chosen = insert items.length rest ∧ Fits items (room - item.weight.toInt) rest := by
  have bound : ∀ position ∈ chosen, position ≠ items.length → position < items.length := by
    intro position member other
    have := fits.inside position member
    rw [List.length_append, List.length_singleton] at this
    omega
  by_cases last : items.length ∈ chosen
  · right
    have inside : ∀ position ∈ chosen.erase items.length, position < items.length := by
      intro position member
      obtain ⟨other, member⟩ := Finset.mem_erase.mp member
      exact bound position member other
    -- The rest is written as a choice that the item was added to, so that its sum splits.
    have whole := Finset.insert_erase last
    have light := fits.light
    rw [weightOf, ← whole, sumOver_insertLast item inside] at light
    exact ⟨chosen.erase items.length, whole.symm, inside, Int.le_sub_right_of_add_le light⟩
  · left
    have inside : ∀ position ∈ chosen, position < items.length := by
      intro position member
      exact bound position member (fun same => last (same ▸ member))
    have light := fits.light
    rw [weightOf, sumOver_append [item] inside] at light
    exact ⟨inside, light⟩

end Fits

end Knapsack
