import Mathlib.Order.Bounds.Basic
import Knapsack.Proofs.Totals

/-!
# What is found wrong with a selection

Positions are added up one after the other, until one is out of bounds or came before. So the sum
fails exactly if some position offends, and it names the first that does
(`totals_exact_or_first_offender`). Otherwise the sums are exact, and the order of the positions has
no part in them.

The check of a solution asks for ascending positions before it adds them up, so no position that it
adds up came before, and of several flaws it names the first in the order of the conditions
(`check_names_first_flaw`).
-/

namespace Knapsack

/-- The exact sums over a choice are one pair of numbers. -/
theorem Totals.Exact.unique {totals other : Totals} {items : List Item} {chosen : Finset Nat}
    (exact : totals.Exact items chosen) (otherExact : other.Exact items chosen) : totals = other := by
  have weight : totals.weight = other.weight :=
    Int64.toInt_inj.mp (exact.weight.trans otherExact.weight.symm)
  have value : totals.value = other.value :=
    Int64.toInt_inj.mp (exact.value.trans otherExact.value.symm)
  cases totals
  cases other
  exact congrArg₂ Totals.mk weight value

namespace Instance

variable {inst : Instance} {items : List Item} {indices earlier seen : List Nat}
  {index : Nat} {flaw : Flaw}

/-! ## Which positions can be added up -/

/-- Positions that are all in the list, and none twice. -/
structure Addable (items : List Item) (indices : List Nat) : Prop where
  inside : ∀ index ∈ indices, index < items.length
  distinct : indices.Nodup

/-- Why the position `index` is not added up after those of `earlier`. One that is out of bounds is not
asked whether it came before. -/
inductive Refused (items : List Item) (earlier : List Nat) (index : Nat) : Flaw → Prop where
  | outOfBounds (outside : items.length ≤ index) : Refused items earlier index (.outOfBounds index)
  | repeated (inside : index < items.length) (again : index ∈ earlier) :
      Refused items earlier index (.repeated index)

/-- What is found at some place of the list of positions: a position that is out of bounds, or one
that came before. -/
def Offends (items : List Item) (indices : List Nat) (place : Nat) : Prop :=
  ∃ index, indices[place]? = some index ∧ (items.length ≤ index ∨ index ∈ indices.take place)

theorem Addable.perm {other : List Nat} (addable : Addable items indices)
    (same : other.Perm indices) : Addable items other :=
  ⟨fun index member => addable.inside index (same.mem_iff.mp member),
    same.nodup_iff.mpr addable.distinct⟩

theorem Refused.perm {other : List Nat} (refused : Refused items earlier index flaw)
    (same : other.Perm earlier) : Refused items other index flaw := by
  cases refused with
  | outOfBounds outside => exact .outOfBounds outside
  | repeated inside again => exact .repeated inside (same.mem_iff.mpr again)

theorem Refused.offends (refused : Refused items earlier index flaw) :
    items.length ≤ index ∨ index ∈ earlier := by
  cases refused with
  | outOfBounds outside => exact .inl outside
  | repeated inside again => exact .inr again

theorem Refused.flaw_eq (refused : Refused items earlier index flaw) :
    flaw = if items.length ≤ index then .outOfBounds index else .repeated index := by
  cases refused with
  | outOfBounds outside => rw [if_pos outside]
  | repeated inside again => rw [if_neg (Nat.not_le_of_lt inside)]

theorem Addable.not_offends (addable : Addable items indices) (place : Nat) :
    ¬ Offends items indices place := by
  rintro ⟨index, found, outside | again⟩
  · exact Nat.not_le_of_lt (addable.inside index (List.mem_of_getElem? found)) outside
  · have later : index ∈ indices.drop place := by
      rw [← List.head?_drop] at found
      exact List.mem_of_mem_head? found
    exact List.disjoint_take_drop addable.distinct le_rfl again later

/-- Behind positions that can be added up, the one that is refused is the first that offends. -/
theorem isLeast_offends {before after : List Nat} (addable : Addable items before)
    (refused : Refused items before index flaw) :
    (before ++ index :: after)[before.length]? = some index ∧
      IsLeast {place | Offends items (before ++ index :: after) place} before.length := by
  have found : (before ++ index :: after)[before.length]? = some index := by
    rw [List.getElem?_append_right le_rfl, Nat.sub_self, List.getElem?_cons_zero]
  refine ⟨found, ⟨index, found, ?_⟩, ?_⟩
  · rw [List.take_left]
    exact refused.offends
  · rintro place ⟨other, found, offends⟩
    by_contra early
    have early : place < before.length := Nat.lt_of_not_le early
    rw [List.getElem?_append_left early] at found
    rw [List.take_append_of_le_length (Nat.le_of_lt early)] at offends
    exact addable.not_offends place ⟨other, found, offends⟩

/-! ## Adding up -/

/-- How adding up positions after those of `seen` ends: all are added, or it stops at one that cannot
be added to those before it. -/
inductive TotalsOutcome (items : List Item) (seen indices : List Nat) :
    Except Flaw Totals → Prop where
  | summed {sums : Totals} (addable : Addable items (indices ++ seen)) :
      TotalsOutcome items seen indices (.ok sums)
  | stopped {before after : List Nat} {index : Nat} {flaw : Flaw}
      (split : indices = before ++ index :: after) (addable : Addable items (before ++ seen))
      (refused : Refused items (before ++ seen) index flaw) :
      TotalsOutcome items seen indices (.error flaw)

theorem totalsFrom_outcome (addable : Addable items seen) (totals : Totals) :
    TotalsOutcome items seen indices (totalsFrom items seen totals indices) := by
  -- The positions still to come get fewer, and those seen can be added up all along.
  induction indices generalizing seen totals with
  | nil => exact .summed addable
  | cons index indices ih =>
    cases found : items[index]? with
    | none =>
      simp only [totalsFrom, found]
      have outside : items.length ≤ index := List.getElem?_eq_none_iff.mp found
      exact .stopped (List.nil_append _).symm addable (.outOfBounds outside)
    | some item =>
      simp only [totalsFrom, found]
      have inside : index < items.length := (List.getElem?_eq_some_iff.mp found).1
      split
      · next again => exact .stopped (List.nil_append _).symm addable (.repeated inside again)
      · next fresh =>
        have more : Addable items (index :: seen) :=
          ⟨List.forall_mem_cons.mpr ⟨inside, addable.inside⟩,
            List.nodup_cons.mpr ⟨fresh, addable.distinct⟩⟩
        have outcome := ih more (totals.add item)
        generalize totalsFrom items (index :: seen) _ indices = result at outcome
        cases outcome with
        | summed addable => exact .summed (addable.perm List.perm_middle.symm)
        | stopped split addable refused =>
          subst split
          exact .stopped (List.cons_append ..).symm (addable.perm List.perm_middle.symm)
            (refused.perm List.perm_middle.symm)

theorem totals_outcome (inst : Instance) (indices : List Nat) :
    TotalsOutcome inst.items [] indices (inst.totals indices) :=
  totalsFrom_outcome ⟨fun _ member => absurd member List.not_mem_nil, List.nodup_nil⟩ {}

theorem addable_of_totals {sums : Totals} (summed : inst.totals indices = .ok sums) :
    Addable inst.items indices := by
  have outcome := inst.totals_outcome indices
  rw [summed] at outcome
  cases outcome with
  | summed addable => rwa [List.append_nil] at addable

theorem exists_split_of_totals (failed : inst.totals indices = .error flaw) :
    ∃ before index after, indices = before ++ index :: after ∧ Addable inst.items before ∧
      Refused inst.items before index flaw := by
  have outcome := inst.totals_outcome indices
  rw [failed] at outcome
  cases outcome with
  | @stopped before after index flaw split addable refused =>
    rw [List.append_nil] at addable refused
    exact ⟨before, index, after, split, addable, refused⟩

theorem Addable.exists_totals (addable : Addable inst.items indices)
    (few : inst.items.length ≤ itemBound) :
    ∃ sums, inst.totals indices = .ok sums ∧ sums.Exact inst.items indices.toFinset :=
  totals_exact few addable.distinct addable.inside

theorem exists_least_of_totals (failed : inst.totals indices = .error flaw) :
    ∃ place index, IsLeast {place | Offends inst.items indices place} place ∧
      indices[place]? = some index ∧
      flaw = if inst.items.length ≤ index then .outOfBounds index else .repeated index := by
  obtain ⟨before, index, after, rfl, addable, refused⟩ := exists_split_of_totals failed
  obtain ⟨found, least⟩ := isLeast_offends addable refused
  exact ⟨before.length, index, least, found, refused.flaw_eq⟩

/-- Positions are added up exactly if all are in the list and none comes twice. The sums are those over
the integers then, also on the way there, and in whatever order the positions come. Otherwise the
first place decides at which a position is out of bounds or came before. -/
theorem totals_exact_or_first_offender {inst : Instance} (few : inst.items.length ≤ itemBound)
    (indices : List Nat) :
    ((∃ sums, inst.totals indices = .ok sums) ↔
        (∀ index ∈ indices, index < inst.items.length) ∧ indices.Nodup) ∧
      (∀ sums, inst.totals indices = .ok sums →
        sums.Exact inst.items indices.toFinset ∧
        (∀ count, ∃ part, inst.totals (indices.take count) = .ok part ∧
          part.Exact inst.items (indices.take count).toFinset) ∧
        ∀ other, other.Perm indices → inst.totals other = .ok sums) ∧
      ∀ flaw, inst.totals indices = .error flaw ↔
        ∃ place index,
          IsLeast {place | Offends inst.items indices place} place ∧
          indices[place]? = some index ∧
          flaw = if inst.items.length ≤ index then .outOfBounds index else .repeated index := by
  refine ⟨⟨?_, ?_⟩, fun sums summed => ?_, fun flaw => ⟨exists_least_of_totals, ?_⟩⟩
  · rintro ⟨sums, summed⟩
    exact ⟨(addable_of_totals summed).inside, (addable_of_totals summed).distinct⟩
  · rintro ⟨inside, distinct⟩
    obtain ⟨sums, summed, -⟩ := totals_exact few distinct inside
    exact ⟨sums, summed⟩
  · have addable := addable_of_totals summed
    obtain ⟨exactly, same, exact⟩ := addable.exists_totals few
    obtain rfl : sums = exactly := Except.ok.inj (summed.symm.trans same)
    refine ⟨exact, fun count => ?_, fun other permuted => ?_⟩
    · have part : Addable inst.items (indices.take count) :=
        ⟨fun index member => addable.inside index (List.mem_of_mem_take member),
          addable.distinct.sublist (List.take_sublist count indices)⟩
      exact part.exists_totals few
    · obtain ⟨others, summedOthers, exactOthers⟩ := (addable.perm permuted).exists_totals few
      rw [List.toFinset_eq_of_perm _ _ permuted] at exactOthers
      rw [summedOthers, exactOthers.unique exact]
  · rintro ⟨place, index, least, found, rfl⟩
    cases failed : inst.totals indices with
    | ok sums => exact absurd least.1 ((addable_of_totals failed).not_offends place)
    | error flaw =>
      obtain ⟨other, otherIndex, otherLeast, otherFound, rfl⟩ := exists_least_of_totals failed
      obtain rfl : place = other := least.unique otherLeast
      obtain rfl : index = otherIndex := Option.some.inj (found.symm.trans otherFound)
      rfl

/-- Two of the largest weights are summed in either order. A position that comes twice is told before a
later one that is out of bounds. -/
theorem totals_exact_or_first_offender_large_weights :
    ∃ inst : Instance, inst.items = [⟨2147483647, -5⟩, ⟨-1, 9⟩, ⟨2147483647, 1⟩] ∧
      inst.totals [2, 0] = .ok ⟨4294967294, -4⟩ ∧
      weightOf inst.items [2, 0].toFinset = 4294967294 ∧
      inst.totals [0, 2] = .ok ⟨4294967294, -4⟩ ∧
      inst.totals [1, 2, 1, 7] = .error (.repeated 1) ∧
      ∃ place, IsLeast {place | Offends inst.items [1, 2, 1, 7] place} place ∧
        [1, 2, 1, 7][place]? = some 1 := by
  obtain ⟨inst, items, summed, repeated⟩ : ∃ inst : Instance,
      inst.items = [⟨2147483647, -5⟩, ⟨-1, 9⟩, ⟨2147483647, 1⟩] ∧
      inst.totals [2, 0] = .ok ⟨4294967294, -4⟩ ∧
      inst.totals [1, 2, 1, 7] = .error (.repeated 1) :=
    ⟨⟨0, [⟨2147483647, -5⟩, ⟨-1, 9⟩, ⟨2147483647, 1⟩]⟩, rfl, rfl, rfl⟩
  have few : inst.items.length ≤ itemBound := by
    rw [items]
    decide
  obtain ⟨exact, -, permuted⟩ := (totals_exact_or_first_offender few [2, 0]).2.1 _ summed
  obtain ⟨place, index, least, found, same⟩ :=
    ((totals_exact_or_first_offender few [1, 2, 1, 7]).2.2 _).mp repeated
  have named : index = 1 := by
    split at same
    · cases same
    · exact (Flaw.repeated.inj same).symm
  exact ⟨inst, items, summed, exact.weight.symm, permuted [0, 2] (List.Perm.swap 2 0 []), repeated,
    place, least, named ▸ found⟩

/-! ## Checking a solution -/

/-- Of distinct positions only one that is out of bounds is refused. -/
theorem Refused.outside {after : List Nat} (refused : Refused items earlier index flaw)
    (distinct : (earlier ++ index :: after).Nodup) :
    items.length ≤ index ∧ flaw = .outOfBounds index := by
  cases refused with
  | outOfBounds outside => exact ⟨outside, rfl⟩
  | repeated inside again =>
    have fresh := (List.nodup_cons.mp (List.nodup_middle.mp distinct)).1
    exact absurd (List.mem_append_left after again) fresh

theorem totals_eq_outOfBounds (distinct : indices.Nodup)
    (first : indices.find? (inst.items.length ≤ ·) = some index) :
    inst.totals indices = .error (.outOfBounds index) := by
  cases summed : inst.totals indices with
  | ok sums =>
    have inside := (addable_of_totals summed).inside index (List.mem_of_find?_eq_some first)
    have outside : inst.items.length ≤ index := by simpa using List.find?_some first
    exact absurd inside (Nat.not_lt_of_le outside)
  | error flaw =>
    obtain ⟨before, other, after, rfl, addable, refused⟩ := exists_split_of_totals summed
    obtain ⟨outside, rfl⟩ := refused.outside distinct
    have none : before.find? (inst.items.length ≤ ·) = none := by
      rw [List.find?_eq_none]
      intro earlier member
      rw [decide_eq_true_eq]
      exact Nat.not_le_of_lt (addable.inside earlier member)
    rw [List.find?_append, none, Option.none_or,
      List.find?_cons_of_pos (by rwa [decide_eq_true_eq])] at first
    rw [Option.some.inj first]

theorem check_ne_repeated (solution : Solution) : inst.check solution ≠ .error (.repeated index) := by
  intro failed
  by_cases ascending : solution.selected.Pairwise (· < ·)
  case neg =>
    rw [check_of_unordered ascending] at failed
    cases failed
  cases summed : inst.totals solution.selected with
  | error flaw =>
    obtain ⟨before, other, after, split, -, refused⟩ := exists_split_of_totals summed
    obtain ⟨-, rfl⟩ := refused.outside (split ▸ ascending.nodup)
    rw [check_of_totals_eq_error ascending summed] at failed
    cases failed
  | ok sums =>
    rw [check, if_pos (ascends_iff.mpr ascending), summed] at failed
    dsimp only at failed
    split at failed
    · cases failed
    · split at failed <;> cases failed

/-- A solution is accepted exactly if its positions ascend and are all in the list, their items weigh at
most the capacity and have the reported value, by exact sums. If several of these fail, the order of
the positions is told first, then the first position out of bounds, then the weight, then the value.
No position is ever told to come twice. -/
theorem check_names_first_flaw {inst : Instance} (few : inst.items.length ≤ itemBound)
    (solution : Solution) :
    (inst.check solution = .ok () ↔
        solution.selected.Pairwise (· < ·) ∧
        (∀ index ∈ solution.selected, index < inst.items.length) ∧
        weightOf inst.items solution.selected.toFinset ≤ inst.capacity.toInt ∧
        valueOf inst.items solution.selected.toFinset = solution.optimalValue.toInt) ∧
      (¬ solution.selected.Pairwise (· < ·) → inst.check solution = .error .unordered) ∧
      (solution.selected.Pairwise (· < ·) →
        (∀ index, solution.selected.find? (inst.items.length ≤ ·) = some index →
          inst.check solution = .error (.outOfBounds index)) ∧
        ((∀ index ∈ solution.selected, index < inst.items.length) →
          (inst.capacity.toInt < weightOf inst.items solution.selected.toFinset →
            ∃ weight : Int64, weight.toInt = weightOf inst.items solution.selected.toFinset ∧
              inst.check solution = .error (.tooHeavy weight inst.capacity)) ∧
          (weightOf inst.items solution.selected.toFinset ≤ inst.capacity.toInt →
            valueOf inst.items solution.selected.toFinset ≠ solution.optimalValue.toInt →
            ∃ value : Int64, value.toInt = valueOf inst.items solution.selected.toFinset ∧
              inst.check solution = .error (.wrongValue solution.optimalValue value)))) ∧
      ∀ index, inst.check solution ≠ .error (.repeated index) := by
  refine ⟨?_, check_of_unordered, fun ascending => ⟨fun index first => ?_, fun inside => ?_⟩,
    fun index => check_ne_repeated solution⟩
  · rw [check_eq_ok_iff few]
    constructor
    · rintro ⟨ascending, fits, value⟩
      exact ⟨ascending, fun index member => fits.inside index (List.mem_toFinset.mpr member),
        fits.light, value⟩
    · rintro ⟨ascending, inside, light, value⟩
      exact ⟨ascending, ⟨fun index member => inside index (List.mem_toFinset.mp member), light⟩,
        value⟩
  · exact check_of_totals_eq_error ascending (totals_eq_outOfBounds ascending.nodup first)
  · obtain ⟨sums, summed, exact⟩ := totals_exact few ascending.nodup inside
    rw [check_of_exact ascending summed exact]
    constructor
    · intro heavy
      exact ⟨sums.weight, exact.weight, if_pos heavy⟩
    · intro light different
      exact ⟨sums.value, exact.value, by rw [if_neg (not_lt.mpr light), if_pos different]⟩

/-- A solution with every flaw there is loses one after the other. -/
theorem check_names_first_flaw_in_turn :
    ∃ inst : Instance, inst.capacity = 4 ∧ inst.items = [⟨3, 2147483647⟩, ⟨2, 2147483647⟩] ∧
      inst.check ⟨5, [9, 1, 0, 1, 8]⟩ = .error .unordered ∧
      inst.check ⟨5, [0, 1, 8, 9]⟩ = .error (.outOfBounds 8) ∧
      (∃ weight : Int64, weight.toInt = 5 ∧
        inst.check ⟨5, [0, 1]⟩ = .error (.tooHeavy weight 4)) ∧
      (∃ value : Int64, value.toInt = 2147483647 ∧
        inst.check ⟨5, [1]⟩ = .error (.wrongValue 5 value)) ∧
      inst.check ⟨2147483647, [1]⟩ = .ok () := by
  have few : ([⟨3, 2147483647⟩, ⟨2, 2147483647⟩] : List Item).length ≤ itemBound := by decide
  have spec := fun solution : Solution =>
    @check_names_first_flaw ⟨4, [⟨3, 2147483647⟩, ⟨2, 2147483647⟩]⟩ few solution
  refine ⟨⟨4, [⟨3, 2147483647⟩, ⟨2, 2147483647⟩]⟩, rfl, rfl, ?_, ?_, ?_, ?_, ?_⟩
  · exact (spec ⟨5, [9, 1, 0, 1, 8]⟩).2.1 (by decide)
  · exact ((spec ⟨5, [0, 1, 8, 9]⟩).2.2.1 (by decide)).1 8 rfl
  · exact (((spec ⟨5, [0, 1]⟩).2.2.1 (by decide)).2 (by decide)).1 (by decide)
  · exact (((spec ⟨5, [1]⟩).2.2.1 (by decide)).2 (by decide)).2 (by decide) (by decide)
  · exact (spec ⟨2147483647, [1]⟩).1.mpr (by decide)

end Instance

end Knapsack
