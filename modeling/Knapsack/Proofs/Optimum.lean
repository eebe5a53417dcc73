import Mathlib.Algebra.Order.Group.Int
import Mathlib.Algebra.Order.Monoid.Prod
import Mathlib.Data.Finset.Lattice.Fold
import Mathlib.Data.Finset.Powerset
import Knapsack.Proofs.Choice

/-!
# The best score within a room

The score of a choice orders choices as the solver does: by value, and among equal values the
lighter one first if weights are tracked. Scores are pairs under the lexicographic order, and
adding an item adds its own score, so an optimum over a longer list is made of optima over the
shorter one: `best_append_of_reaches` and `best_append_of_not_reaches`.

`best` is the maximum over all choices that fit, taken by enumeration and not by any recurrence.
-/

namespace Knapsack

/-- A value, and a negated weight or zero. The larger value wins, then the larger second part. -/
abbrev Score := Int ×ₗ Int

def Item.score (tracked : Bool) (item : Item) : Score :=
  toLex (item.value.toInt, if tracked then -item.weight.toInt else 0)

def scoreOf (tracked : Bool) (items : List Item) (chosen : Finset Nat) : Score :=
  toLex (valueOf items chosen, if tracked then -weightOf items chosen else 0)

/-- All choices from the list that fit into `room`. -/
def choices (items : List Item) (room : Nat) : Finset (Finset Nat) :=
  (Finset.range items.length).powerset.filter fun chosen => weightOf items chosen ≤ room

theorem mem_choices {items : List Item} {room : Nat} {chosen : Finset Nat} :
    chosen ∈ choices items room ↔ Fits items room chosen := by
  rw [choices, Finset.mem_filter, Finset.mem_powerset]
  constructor
  · rintro ⟨inside, light⟩
    exact ⟨fun _ member => Finset.mem_range.mp (inside member), light⟩
  · rintro ⟨inside, light⟩
    exact ⟨fun _ member => Finset.mem_range.mpr (inside _ member), light⟩

theorem choices_nonempty (items : List Item) (room : Nat) : (choices items room).Nonempty :=
  ⟨∅, mem_choices.mpr (.empty (Int.natCast_nonneg room))⟩

/-- The largest score of a choice that fits into `room`. -/
def best (tracked : Bool) (items : List Item) (room : Nat) : Score :=
  (choices items room).sup' (choices_nonempty items room) (scoreOf tracked items)

/-- A choice that fits and that no other choice outscores. -/
structure IsBest (tracked : Bool) (items : List Item) (room : Nat) (chosen : Finset Nat) :
    Prop where
  fits : Fits items room chosen
  score : scoreOf tracked items chosen = best tracked items room

variable {tracked : Bool} {items : List Item} {item : Item} {room : Nat} {chosen : Finset Nat}

/-! ## Scores -/

@[simp]
theorem scoreOf_empty (tracked : Bool) (items : List Item) :
    scoreOf tracked items ∅ = toLex (0, 0) := by
  cases tracked <;> rfl

theorem scoreOf_append (more : List Item)
    (inside : ∀ position ∈ chosen, position < items.length) :
    scoreOf tracked (items ++ more) chosen = scoreOf tracked items chosen := by
  simp only [scoreOf, weightOf, valueOf, sumOver_append more inside]

theorem scoreOf_insert {position : Nat} (found : items[position]? = some item)
    (fresh : position ∉ chosen) :
    scoreOf tracked items (insert position chosen) =
      scoreOf tracked items chosen + item.score tracked := by
  simp only [scoreOf, Item.score, weightOf, valueOf, sumOver_insert _ found fresh]
  rw [← toLex_add, Prod.mk_add_mk]
  cases tracked with
  | false => rfl
  | true => simp only [if_true, neg_add]

theorem scoreOf_insertLast (item : Item)
    (inside : ∀ position ∈ chosen, position < items.length) :
    scoreOf tracked (items ++ [item]) (insert items.length chosen) =
      scoreOf tracked items chosen + item.score tracked := by
  have fresh : items.length ∉ chosen := fun member => Nat.lt_irrefl _ (inside _ member)
  rw [scoreOf_insert List.getElem?_concat_length fresh, scoreOf_append [item] inside]

/-- An item worth nothing or less adds nothing to a score. -/
theorem Item.add_score_le (free : 0 ≤ item.weight) (worthless : item.value ≤ 0) (score : Score) :
    score + item.score tracked ≤ score := by
  rw [Int32.le_iff_toInt_le] at free worthless
  refine add_le_of_nonpos_right (Prod.Lex.toLex_mono ⟨worthless, ?_⟩)
  cases tracked with
  | false => exact le_rfl
  | true => exact neg_nonpos.mpr free

theorem value_le_of_score_le {score other : Score} (le : score ≤ other) : score.1 ≤ other.1 :=
  Prod.Lex.monotone_fst score other le

/-- Of two choices of one value the better one is lighter, if weights are tracked. -/
theorem weightOf_le_of_scoreOf_le {other : Finset Nat}
    (le : scoreOf true items chosen ≤ scoreOf true items other)
    (same : valueOf items chosen = valueOf items other) :
    weightOf items other ≤ weightOf items chosen := by
  rcases Prod.Lex.le_iff.mp le with less | ⟨-, lighter⟩
  · exact absurd same (ne_of_lt less)
  · exact neg_le_neg_iff.mp lighter

/-! ## The maximum -/

theorem scoreOf_le_best (fits : Fits items room chosen) :
    scoreOf tracked items chosen ≤ best tracked items room :=
  Finset.le_sup' (scoreOf tracked items) (mem_choices.mpr fits)

theorem exists_isBest (tracked : Bool) (items : List Item) (room : Nat) :
    ∃ chosen, IsBest tracked items room chosen := by
  obtain ⟨chosen, member, score⟩ :=
    Finset.exists_mem_eq_sup' (choices_nonempty items room) (scoreOf tracked items)
  exact ⟨chosen, mem_choices.mp member, score.symm⟩

theorem best_le {bound : Score}
    (le : ∀ chosen, Fits items room chosen → scoreOf tracked items chosen ≤ bound) :
    best tracked items room ≤ bound :=
  Finset.sup'_le _ _ fun chosen member => le chosen (mem_choices.mp member)

theorem valueOf_le_best (tracked : Bool) (fits : Fits items room chosen) :
    valueOf items chosen ≤ (best tracked items room).1 :=
  value_le_of_score_le (scoreOf_le_best fits)

/-- The empty choice always fits, so no optimum is negative. -/
theorem best_value_nonneg (tracked : Bool) (items : List Item) (room : Nat) :
    0 ≤ (best tracked items room).1 :=
  valueOf_le_best tracked (.empty (Int.natCast_nonneg room))

theorem best_mono {larger : Nat} (le : room ≤ larger) :
    best tracked items room ≤ best tracked items larger :=
  best_le fun _ fits => scoreOf_le_best (fits.mono (Int.ofNat_le.mpr le))

/-- The tracked weight of an optimum is that of a choice that fits. -/
theorem best_weight_le (items : List Item) (room : Nat) : -(best true items room).2 ≤ room := by
  obtain ⟨chosen, fits, score⟩ := exists_isBest true items room
  have weight : -weightOf items chosen = (best true items room).2 := congrArg Prod.snd score
  have := fits.light
  omega

theorem IsBest.unbeaten {other : Finset Nat} (isBest : IsBest tracked items room chosen)
    (fits : Fits items room other) :
    scoreOf tracked items other ≤ scoreOf tracked items chosen :=
  isBest.score ▸ scoreOf_le_best fits

theorem IsBest.value (isBest : IsBest tracked items room chosen) :
    valueOf items chosen = (best tracked items room).1 :=
  congrArg Prod.fst isBest.score

/-- A choice with the best score of a larger room that happens to fit into less is best there. -/
theorem IsBest.widen {larger : Nat} (isBest : IsBest tracked items room chosen)
    (le : room ≤ larger) (same : best tracked items room = best tracked items larger) :
    IsBest tracked items larger chosen :=
  ⟨isBest.fits.mono (Int.ofNat_le.mpr le), isBest.score.trans same⟩

@[simp]
theorem best_nil (tracked : Bool) (room : Nat) : best tracked [] room = toLex (0, 0) := by
  obtain ⟨chosen, fits, score⟩ := exists_isBest tracked [] room
  have none : chosen = ∅ :=
    Finset.eq_empty_of_forall_notMem fun position member =>
      absurd (fits.inside position member) (Nat.not_lt_zero position)
  rw [← score, none, scoreOf_empty]

theorem isBest_nil (tracked : Bool) (room : Nat) : IsBest tracked [] room ∅ :=
  ⟨.empty (Int.natCast_nonneg room), by rw [scoreOf_empty, best_nil]⟩

/-! ## One more item -/

theorem best_le_best_append (more : List Item) :
    best tracked items room ≤ best tracked (items ++ more) room := by
  apply best_le
  intro chosen fits
  rw [← scoreOf_append more fits.inside]
  exact scoreOf_le_best (fits.append more)

/-- An item that leaves room for some choice fits itself. -/
theorem reaches_of_fits (nonneg : NonNegative (items ++ [item]))
    (fits : Fits items (room - item.weight.toInt) chosen) : item.Reaches room := by
  have weight := Item.cast_load nonneg.last
  have roomLeft := fits.roomNonneg nonneg.init
  exact ⟨nonneg.last, by omega⟩

/-- An item that does not fit changes no optimum. -/
theorem best_append_of_not_reaches (nonneg : NonNegative (items ++ [item]))
    (unreached : ¬ item.Reaches room) :
    best tracked (items ++ [item]) room = best tracked items room := by
  refine le_antisymm (best_le fun chosen fits => ?_) (best_le_best_append [item])
  rcases fits.casesLast with without | ⟨rest, -, fitsRest⟩
  · rw [scoreOf_append [item] without.inside]
    exact scoreOf_le_best without
  · exact absurd (reaches_of_fits nonneg fitsRest) unreached

/-- An item that improves on the optimum without it fits. -/
theorem reaches_of_gain (nonneg : NonNegative (items ++ [item]))
    (gain : best tracked items room < best tracked (items ++ [item]) room) : item.Reaches room := by
  by_contra unreached
  rw [best_append_of_not_reaches nonneg unreached] at gain
  exact lt_irrefl _ gain

theorem cast_sub_load (reached : item.Reaches room) :
    ((room - item.load : Nat) : Int) = room - item.weight.toInt := by
  have weight := Item.cast_load reached.1
  have le := reached.2
  omega

/-- The optimum with one more item that fits: without the item, or with it in what it leaves free. -/
theorem best_append_of_reaches (reached : item.Reaches room) :
    best tracked (items ++ [item]) room =
      max (best tracked items room)
        (best tracked items (room - item.load) + item.score tracked) := by
  apply le_antisymm
  · apply best_le
    intro chosen fits
    rcases fits.casesLast with without | ⟨rest, rfl, fitsRest⟩
    · rw [scoreOf_append [item] without.inside]
      exact le_max_of_le_left (scoreOf_le_best without)
    · rw [scoreOf_insertLast item fitsRest.inside]
      rw [← cast_sub_load reached] at fitsRest
      exact le_max_of_le_right (add_le_add_left (scoreOf_le_best fitsRest) _)
  · apply max_le (best_le_best_append [item])
    obtain ⟨rest, fitsRest, score⟩ := exists_isBest tracked items (room - item.load)
    rw [← score, ← scoreOf_insertLast item fitsRest.inside]
    rw [cast_sub_load reached] at fitsRest
    exact scoreOf_le_best fitsRest.insertLast

/-- An item that improves on the optimum without it is worth something. -/
theorem value_pos_of_gain (nonneg : NonNegative (items ++ [item]))
    (gain : best tracked items room < best tracked (items ++ [item]) room) : 0 < item.value := by
  have reached := reaches_of_gain nonneg gain
  rw [best_append_of_reaches reached] at gain
  refine Int32.not_le.mp fun worthless => ?_
  have bound : best tracked items (room - item.load) + item.score tracked ≤
      best tracked items room :=
    le_trans (Item.add_score_le reached.1 worthless _) (best_mono (Nat.sub_le _ _))
  exact absurd gain (not_lt.mpr (max_le le_rfl bound))

/-- Where the item does not improve on the optimum without it, it may be left out. -/
theorem IsBest.skipLast (isBest : IsBest tracked items room chosen)
    (noGain : ¬ best tracked items room < best tracked (items ++ [item]) room) :
    IsBest tracked (items ++ [item]) room chosen := by
  refine ⟨isBest.fits.append [item], ?_⟩
  rw [scoreOf_append [item] isBest.fits.inside, isBest.score]
  exact le_antisymm (best_le_best_append [item]) (not_lt.mp noGain)

/-- Where the item improves on the optimum without it, it joins an optimum of what it leaves free. -/
theorem IsBest.takeLast (reached : item.Reaches room)
    (isBest : IsBest tracked items (room - item.load) chosen)
    (gain : best tracked items room < best tracked (items ++ [item]) room) :
    IsBest tracked (items ++ [item]) room (insert items.length chosen) := by
  constructor
  · have fits := isBest.fits
    rw [cast_sub_load reached] at fits
    exact fits.insertLast
  · rw [scoreOf_insertLast item isBest.fits.inside, isBest.score]
    -- The optimum without the item is not the larger of the two, so the other one is.
    rw [best_append_of_reaches reached] at gain ⊢
    rcases lt_max_iff.mp gain with self | more
    · exact absurd self (lt_irrefl _)
    · exact (max_eq_right (le_of_lt more)).symm

end Knapsack
