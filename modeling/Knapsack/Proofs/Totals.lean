import Mathlib.Algebra.Order.BigOperators.Group.Finset
import Mathlib.Algebra.Ring.Int.Defs
import Mathlib.Data.Finset.Dedup
import Mathlib.Data.List.Chain
import Knapsack.Instance
import Knapsack.Proofs.Choice

/-!
# Summing a selection in 64 bits

The totals of a selection are kept in 64 bits. A list of at most `itemBound` items is short enough
for every sum over a choice from it to be exact (`sumOver_range`), and the loop only ever sums over
a choice: it has refused a position that came before. So distinct positions inside the list are
summed exactly (`totalsFrom_exact`), and `check` accepts exactly what is certified over the integers
(`check_eq_ok_iff`).
-/

namespace Knapsack

/-- So many items can be summed in 64 bits, whatever their weights and values. -/
def itemBound : Nat := 2 ^ 32

/-- The totals are the exact sums over a choice. -/
structure Totals.Exact (totals : Totals) (items : List Item) (chosen : Finset Nat) : Prop where
  weight : totals.weight.toInt = weightOf items chosen
  value : totals.value.toInt = valueOf items chosen

section Sums

variable {items : List Item} {chosen : Finset Nat} {position : Nat} {item : Item}

/-- A sum of 32-bit numbers over a choice from a short list is a 64-bit number. -/
theorem sumOver_range (part : Item → Int32) (few : items.length ≤ itemBound)
    (inside : ∀ position ∈ chosen, position < items.length) :
    -2 ^ 63 ≤ sumOver part items chosen ∧ sumOver part items chosen < 2 ^ 63 := by
  have card : chosen.card ≤ 2 ^ 32 := le_trans (card_le_length inside) few
  have lower : chosen.card • (-2 ^ 31 : Int) ≤ sumOver part items chosen := by
    apply Finset.card_nsmul_le_sum
    intro position member
    rw [List.getElem?_eq_getElem (inside position member)]
    exact Int32.le_toInt _
  have upper : sumOver part items chosen ≤ chosen.card • (2 ^ 31 - 1 : Int) := by
    apply Finset.sum_le_card_nsmul
    intro position member
    rw [List.getElem?_eq_getElem (inside position member)]
    exact Int.le_sub_one_of_lt (Int32.toInt_lt _)
  rw [nsmul_eq_mul] at lower upper
  constructor <;> omega

/-- One more number of a sum over a choice is added exactly. -/
theorem toInt_add_part (part : Item → Int32) {total : Int64}
    (exact : total.toInt = sumOver part items chosen) (few : items.length ≤ itemBound)
    (inside : ∀ other ∈ insert position chosen, other < items.length)
    (found : items[position]? = some item) (fresh : position ∉ chosen) :
    (total + (part item).toInt64).toInt = sumOver part items (insert position chosen) := by
  have range := sumOver_range part few inside
  rw [sumOver_insert part found fresh, ← exact] at range ⊢
  -- The wrapped sum is congruent to the exact one, and both are 64-bit numbers.
  rw [Int64.toInt_add, Int32.toInt_toInt64]
  apply Int.bmod_eq_of_le <;> omega

end Sums

/-- Adding one more item of a choice keeps the totals exact. -/
theorem Totals.Exact.add {totals : Totals} {items : List Item} {chosen : Finset Nat}
    {position : Nat} {item : Item} (exact : totals.Exact items chosen)
    (few : items.length ≤ itemBound)
    (inside : ∀ other ∈ insert position chosen, other < items.length)
    (found : items[position]? = some item) (fresh : position ∉ chosen) :
    (totals.add item).Exact items (insert position chosen) :=
  ⟨toInt_add_part Item.weight exact.weight few inside found fresh,
    toInt_add_part Item.value exact.value few inside found fresh⟩

namespace Instance

variable {items : List Item}

/-- Distinct positions inside the list, none of them seen before, are summed exactly. -/
theorem totalsFrom_exact (few : items.length ≤ itemBound) {indices seen : List Nat}
    {totals : Totals} (exact : totals.Exact items seen.toFinset)
    (distinct : (indices ++ seen).Nodup) (inside : ∀ index ∈ indices ++ seen, index < items.length) :
    ∃ sums, totalsFrom items seen totals indices = .ok sums ∧
      sums.Exact items (indices.toFinset ∪ seen.toFinset) := by
  -- What was summed so far is a sum over `seen`, which the positions to come extend.
  induction indices generalizing seen totals with
  | nil => exact ⟨totals, rfl, by rwa [List.toFinset_nil, Finset.empty_union]⟩
  | cons index indices ih =>
    have bound : index < items.length := inside index (List.mem_append_left _ List.mem_cons_self)
    have found : items[index]? = some items[index] := List.getElem?_eq_getElem bound
    obtain ⟨fresh, rest⟩ := List.nodup_cons.mp distinct
    have unseen : index ∉ seen := fun member => fresh (List.mem_append_right indices member)
    have moved : ∀ other ∈ indices ++ index :: seen, other < items.length :=
      fun other member => inside other (List.perm_middle.mem_iff.mp member)
    have added : (totals.add items[index]).Exact items (index :: seen).toFinset := by
      rw [List.toFinset_cons]
      refine exact.add few (fun other member => ?_) found fun member =>
        unseen (List.mem_toFinset.mp member)
      rw [← List.toFinset_cons, List.mem_toFinset] at member
      exact moved other (List.mem_append_right indices member)
    obtain ⟨sums, summed, exactSums⟩ := ih added (List.nodup_middle.mpr distinct) moved
    refine ⟨sums, ?_, ?_⟩
    · simp only [totalsFrom, found, if_neg unseen, summed]
    · rw [List.toFinset_cons, Finset.insert_union, ← Finset.union_insert, ← List.toFinset_cons]
      exact exactSums

theorem ascends_iff {indices : List Nat} : ascends indices ↔ indices.Pairwise (· < ·) := by
  rw [← List.isChain_iff_pairwise]
  fun_induction ascends indices with
  | case1 first second rest ih =>
    rw [Bool.and_eq_true, decide_eq_true_eq, List.isChain_cons_cons, ih]
  | case2 indices short =>
    refine iff_of_true rfl ?_
    match indices with
    | [] => exact List.IsChain.nil
    | [index] => exact List.IsChain.singleton index
    | first :: second :: rest => exact (short first second rest rfl).elim

/-- A position that was added up is one of the list. -/
theorem inside_of_totalsFrom {indices seen : List Nat} {totals sums : Totals}
    (summed : totalsFrom items seen totals indices = .ok sums) :
    ∀ index ∈ indices, index < items.length := by
  induction indices generalizing seen totals with
  | nil => exact fun index member => absurd member List.not_mem_nil
  | cons index indices ih =>
    cases found : items[index]? with
    | none =>
      simp only [totalsFrom, found] at summed
      cases summed
    | some item =>
      simp only [totalsFrom, found] at summed
      split at summed
      · cases summed
      · rw [List.forall_mem_cons]
        exact ⟨(List.getElem?_eq_some_iff.mp found).1, ih summed⟩

/-- Distinct positions of the list are summed exactly. -/
theorem totals_exact {inst : Instance} {indices : List Nat} (few : inst.items.length ≤ itemBound)
    (distinct : indices.Nodup) (inside : ∀ index ∈ indices, index < inst.items.length) :
    ∃ sums, inst.totals indices = .ok sums ∧ sums.Exact inst.items indices.toFinset := by
  have start : ({} : Totals).Exact inst.items ([] : List Nat).toFinset := ⟨rfl, rfl⟩
  obtain ⟨sums, summed, exact⟩ := totalsFrom_exact few start
    (by rwa [List.append_nil]) (by rwa [List.append_nil])
  rw [List.toFinset_nil, Finset.union_empty] at exact
  exact ⟨sums, summed, exact⟩

theorem check_of_unordered {inst : Instance} {solution : Solution}
    (unordered : ¬ solution.selected.Pairwise (· < ·)) : inst.check solution = .error .unordered :=
  if_neg fun ascends => unordered (ascends_iff.mp ascends)

theorem check_of_totals_eq_error {inst : Instance} {solution : Solution} {flaw : Flaw}
    (ascending : solution.selected.Pairwise (· < ·))
    (refused : inst.totals solution.selected = .error flaw) : inst.check solution = .error flaw := by
  rw [check, if_pos (ascends_iff.mpr ascending), refused]

/-- Positions that ascend are judged by their exact sums, first the weight and then the value. -/
theorem check_of_exact {inst : Instance} {solution : Solution} {sums : Totals}
    (ascending : solution.selected.Pairwise (· < ·))
    (summed : inst.totals solution.selected = .ok sums)
    (exact : sums.Exact inst.items solution.selected.toFinset) :
    inst.check solution =
      if inst.capacity.toInt < weightOf inst.items solution.selected.toFinset then
        .error (.tooHeavy sums.weight inst.capacity)
      else if valueOf inst.items solution.selected.toFinset ≠ solution.optimalValue.toInt then
        .error (.wrongValue solution.optimalValue sums.value)
      else
        .ok () := by
  have heavy : inst.capacity.toInt64 < sums.weight ↔
      inst.capacity.toInt < weightOf inst.items solution.selected.toFinset := by
    rw [Int64.lt_iff_toInt_lt, Int32.toInt_toInt64, exact.weight]
  have same : sums.value = solution.optimalValue.toInt64 ↔
      valueOf inst.items solution.selected.toFinset = solution.optimalValue.toInt := by
    rw [← Int64.toInt_inj, Int32.toInt_toInt64, exact.value]
  rw [check, if_pos (ascends_iff.mpr ascending), summed]
  simp only [heavy, ne_eq, same]

/-- The check accepts exactly the selections whose positions ascend, whose items fit and whose value is
the reported one. -/
theorem check_eq_ok_iff {inst : Instance} {solution : Solution}
    (few : inst.items.length ≤ itemBound) :
    inst.check solution = .ok () ↔
      solution.selected.Pairwise (· < ·) ∧
        Fits inst.items inst.capacity.toInt solution.selected.toFinset ∧
        valueOf inst.items solution.selected.toFinset = solution.optimalValue.toInt := by
  by_cases ascending : solution.selected.Pairwise (· < ·)
  case neg =>
    rw [check_of_unordered ascending]
    exact iff_of_false nofun fun certified => ascending certified.1
  cases summed : inst.totals solution.selected with
  | error flaw =>
    rw [check_of_totals_eq_error ascending summed]
    refine iff_of_false nofun fun certified => ?_
    obtain ⟨sums, exactly, -⟩ := totals_exact few ascending.nodup fun index member =>
      certified.2.1.inside index (List.mem_toFinset.mpr member)
    rw [summed] at exactly
    cases exactly
  | ok sums =>
    have inside := inside_of_totalsFrom summed
    obtain ⟨sums, exactly, exact⟩ := totals_exact few ascending.nodup inside
    rw [summed, Except.ok.injEq] at exactly
    subst exactly
    rw [check_of_exact ascending summed exact]
    constructor
    · intro accepted
      split at accepted
      · cases accepted
      next light =>
      split at accepted
      · cases accepted
      next value =>
      exact ⟨ascending, ⟨fun index member => inside index (List.mem_toFinset.mp member),
        not_lt.mp light⟩, not_not.mp value⟩
    · rintro ⟨-, fits, value⟩
      rw [if_neg (not_lt.mpr fits.light), if_neg (not_not.mpr value)]

/-- A selection whose positions ascend, whose items fit and whose value is the reported one is
accepted. -/
theorem check_of_certified {inst : Instance} {solution : Solution}
    (few : inst.items.length ≤ itemBound) (ascending : solution.selected.Pairwise (· < ·))
    (fits : Fits inst.items inst.capacity.toInt solution.selected.toFinset)
    (value : valueOf inst.items solution.selected.toFinset = solution.optimalValue.toInt) :
    inst.check solution = .ok () :=
  (check_eq_ok_iff few).mpr ⟨ascending, fits, value⟩

end Instance

end Knapsack
