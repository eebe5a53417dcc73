import Mathlib.Combinatorics.Colex
import Knapsack.Proofs.Optimum

/-!
# The foremost of the best choices

Several choices may have the best score. They are compared from the highest position downwards: the
one that lacks the highest position on which two of them differ comes first. This is the
colexicographic order of finite sets, and `IsForemost` is the first of the best choices in it.

An optimum that leaves the last item out comes before all that have it, and two that have it compare
as what they add it to. So a foremost choice of a longer list is made of a foremost choice of the
shorter one (`IsForemost.skipLast`, `IsForemost.takeLast`).
-/

namespace Knapsack

/-- A best choice that comes before all other best choices. -/
structure IsForemost (tracked : Bool) (items : List Item) (room : Nat) (chosen : Finset Nat) :
    Prop extends IsBest tracked items room chosen where
  foremost : ∀ other, IsBest tracked items room other → toColex chosen ≤ toColex other

/-- The same position added on both sides does not matter. -/
theorem toColex_insert_le_toColex_insert {position : Nat} {chosen other : Finset Nat}
    (fresh : position ∉ chosen) (freshOther : position ∉ other) :
    toColex (insert position chosen) ≤ toColex (insert position other) ↔
      toColex chosen ≤ toColex other := by
  have added : ∀ more : Finset Nat, {position} ⊆ insert position more := fun more =>
    Finset.singleton_subset_iff.mpr (Finset.mem_insert_self position more)
  rw [← Finset.Colex.toColex_sdiff_le_toColex_sdiff (added chosen) (added other),
    Finset.sdiff_singleton_eq_erase, Finset.sdiff_singleton_eq_erase, Finset.erase_insert fresh,
    Finset.erase_insert freshOther]

variable {tracked : Bool} {items : List Item} {item : Item} {room : Nat} {chosen : Finset Nat}

/-- A best choice from a list with one more item is best without it, and then the item gains nothing,
or it adds the item to a best choice of what the item leaves free. -/
theorem IsBest.casesLast (nonneg : NonNegative (items ++ [item]))
    (isBest : IsBest tracked (items ++ [item]) room chosen) :
    (IsBest tracked items room chosen ∧
        best tracked items room = best tracked (items ++ [item]) room) ∨
      ∃ rest, chosen = insert items.length rest ∧
        IsBest tracked items (room - item.load) rest := by
  rcases isBest.fits.casesLast with without | ⟨rest, rfl, fitsRest⟩
  · left
    have score := isBest.score
    rw [scoreOf_append [item] without.inside] at score
    have same : best tracked items room = best tracked (items ++ [item]) room :=
      le_antisymm (best_le_best_append [item]) (score ▸ scoreOf_le_best without)
    exact ⟨⟨without, score.trans same.symm⟩, same⟩
  · right
    have reached := reaches_of_fits nonneg fitsRest
    have score := isBest.score
    rw [scoreOf_insertLast item fitsRest.inside, best_append_of_reaches reached] at score
    rw [← cast_sub_load reached] at fitsRest
    have bound : best tracked items (room - item.load) + item.score tracked ≤
        scoreOf tracked items rest + item.score tracked := score ▸ le_max_right _ _
    exact ⟨rest, rfl, fitsRest,
      le_antisymm (scoreOf_le_best fitsRest) (le_of_add_le_add_right bound)⟩

/-- The last item improves on the optimum without it exactly if every best choice has it. -/
theorem best_lt_append_iff (nonneg : NonNegative (items ++ [item])) :
    best tracked items room < best tracked (items ++ [item]) room ↔
      ∀ chosen, IsBest tracked (items ++ [item]) room chosen → items.length ∈ chosen := by
  constructor
  · intro gain chosen isBest
    rcases isBest.casesLast nonneg with ⟨-, same⟩ | ⟨rest, rfl, -⟩
    · exact absurd same (ne_of_lt gain)
    · exact Finset.mem_insert_self _ rest
  · intro needed
    by_contra noGain
    obtain ⟨chosen, isBest⟩ := exists_isBest tracked items room
    exact Nat.lt_irrefl _ (isBest.fits.inside _ (needed chosen (isBest.skipLast noGain)))

namespace IsForemost

theorem nil (tracked : Bool) (room : Nat) : IsForemost tracked [] room ∅ :=
  ⟨isBest_nil tracked room, fun other _ => Finset.Colex.toColex_mono (Finset.empty_subset other)⟩

/-- Where the last item gains nothing, every choice that has it comes later. -/
theorem skipLast (nonneg : NonNegative (items ++ [item]))
    (isForemost : IsForemost tracked items room chosen)
    (noGain : ¬ best tracked items room < best tracked (items ++ [item]) room) :
    IsForemost tracked (items ++ [item]) room chosen := by
  refine ⟨isForemost.toIsBest.skipLast noGain, fun other isBest => ?_⟩
  rcases isBest.casesLast nonneg with ⟨without, -⟩ | ⟨rest, rfl, -⟩
  · exact isForemost.foremost other without
  · calc
      toColex chosen ≤ toColex {items.length} :=
        (Finset.Colex.toColex_lt_singleton.mpr isForemost.fits.inside).le
      _ ≤ toColex (insert items.length rest) :=
        Finset.Colex.toColex_mono (Finset.singleton_subset_iff.mpr (Finset.mem_insert_self _ _))

/-- Where the last item gains something, every best choice has it. -/
theorem takeLast (nonneg : NonNegative (items ++ [item])) (reached : item.Reaches room)
    (isForemost : IsForemost tracked items (room - item.load) chosen)
    (gain : best tracked items room < best tracked (items ++ [item]) room) :
    IsForemost tracked (items ++ [item]) room (insert items.length chosen) := by
  refine ⟨isForemost.toIsBest.takeLast reached gain, fun other isBest => ?_⟩
  rcases isBest.casesLast nonneg with ⟨-, same⟩ | ⟨rest, rfl, isBestRest⟩
  · exact absurd same (ne_of_lt gain)
  · have fresh : items.length ∉ chosen := fun member =>
      Nat.lt_irrefl _ (isForemost.fits.inside _ member)
    have freshRest : items.length ∉ rest := fun member =>
      Nat.lt_irrefl _ (isBestRest.fits.inside _ member)
    rw [toColex_insert_le_toColex_insert fresh freshRest]
    exact isForemost.foremost rest isBestRest

/-- A foremost choice has no item that could be left out for nothing. -/
theorem value_pos (nonneg : NonNegative items) (isForemost : IsForemost tracked items room chosen)
    {position : Nat} (member : position ∈ chosen) :
    ∃ item, items[position]? = some item ∧ 0 < item.value := by
  have inside := isForemost.fits.inside position member
  have found : items[position]? = some items[position] := List.getElem?_eq_getElem inside
  refine ⟨items[position], found, Int32.not_le.mp fun worthless => ?_⟩
  have whole : insert position (chosen.erase position) = chosen := Finset.insert_erase member
  have fresh : position ∉ chosen.erase position := Finset.notMem_erase position chosen
  have free : 0 ≤ items[position].weight := nonneg _ (List.getElem_mem inside)
  have fits : Fits items room (chosen.erase position) := by
    refine ⟨fun other present => ?_, ?_⟩
    · exact isForemost.fits.inside other (Finset.mem_of_mem_erase present)
    · have light := isForemost.fits.light
      rw [← whole, weightOf, sumOver_insert Item.weight found fresh] at light
      rw [Int32.le_iff_toInt_le] at free
      exact le_trans (Int.le_add_of_nonneg_right free) light
  have bound : scoreOf tracked items chosen ≤ scoreOf tracked items (chosen.erase position) := by
    rw [← whole, scoreOf_insert found fresh, whole]
    exact Item.add_score_le free worthless _
  have isBest : IsBest tracked items room (chosen.erase position) :=
    ⟨fits, le_antisymm (scoreOf_le_best fits) (isForemost.score ▸ bound)⟩
  -- What is left is as good and comes before the whole.
  have before : toColex (chosen.erase position) < toColex chosen :=
    Finset.Colex.toColex_strictMono (Finset.erase_ssubset member)
  exact absurd (isForemost.foremost _ isBest) (not_le.mpr before)

/-- A foremost choice stays foremost in a larger room if no more choices are best there. -/
theorem widen {larger : Nat} (isForemost : IsForemost tracked items room chosen)
    (le : room ≤ larger) (same : best tracked items room = best tracked items larger)
    (narrow : ∀ other, IsBest tracked items larger other → IsBest tracked items room other) :
    IsForemost tracked items larger chosen :=
  ⟨isForemost.toIsBest.widen le same,
    fun other isBest => isForemost.foremost other (narrow other isBest)⟩

end IsForemost

end Knapsack
