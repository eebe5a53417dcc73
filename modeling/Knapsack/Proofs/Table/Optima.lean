import Mathlib.Order.Bounds.Basic
import Knapsack.Proofs.Canonical
import Knapsack.Proofs.Table.Tabulation

/-!
# What a filled table holds

A table of any dimensions that can be made at all, filled with items of which none weighs less than
nothing:

1. Every cell of the last value row is the largest value of a choice that fits into the cell, and a
   tracked weight is the least weight of the choices of that value (`fill_rows_optimal`).
2. A flag is set exactly if its item is in every best choice of the items up to it
   (`fill_flags_needed`). So it is clear where the item does not fit or is worth nothing.

Both are about all cells, not only those from which an answer is read.
-/

namespace Knapsack.Table

variable {count capacity : Nat} {tracked : Bool} {items : List Item}
  {table filled : Table count capacity}

theorem checkDimensions_eq_ok_iff : checkDimensions count capacity = .ok () ↔
    capacity + 1 < wordCount ∧ 0 < count ∧ count * (capacity + 1) < wordCount := by
  unfold checkDimensions
  split
  · next large => exact iff_of_false nofun fun small => absurd small.1 (Nat.not_lt_of_le large)
  · next width =>
    split
    · next large =>
      refine iff_of_false nofun fun small => ?_
      rcases large with none | large
      · exact absurd small.2.1 (Nat.not_lt_of_le (Nat.le_of_eq none))
      · exact absurd small.2.2 (Nat.not_lt_of_le large)
    · next small =>
      rw [not_or, Nat.not_le] at small
      exact iff_of_true rfl ⟨Nat.lt_of_not_le width, Nat.pos_of_ne_zero small.1, small.2⟩

theorem allocate_eq_ok_iff : allocate count capacity tracked = .ok table ↔
    checkDimensions count capacity = .ok () ∧ checkBuffers count capacity tracked = .ok () ∧
      blank tracked = table := by
  unfold allocate
  cases checkDimensions count capacity with
  | error cause => exact iff_of_false nofun fun both => nomatch both.1
  | ok =>
    cases checkBuffers count capacity tracked with
    | error cause => exact iff_of_false nofun fun both => nomatch both.2.1
    | ok =>
      constructor
      · rintro ⟨⟩
        exact ⟨rfl, rfl, rfl⟩
      · rintro ⟨-, -, rfl⟩
        rfl

/-- A table is made blank, and the number of its cells is a word. -/
theorem blank_of_allocate (allocated : allocate count capacity tracked = .ok table) :
    table = blank tracked ∧ capacity + 1 < wordCount := by
  obtain ⟨dimensions, -, made⟩ := allocate_eq_ok_iff.mp allocated
  exact ⟨made.symm, (checkDimensions_eq_ok_iff.mp dimensions).1⟩

/-- A filling that is completed leaves a table that tabulates its items. -/
theorem Tabulates.of_allocate (allocated : allocate count capacity tracked = .ok table)
    (enough : items.length ≤ count) (nonneg : NonNegative items)
    (completed : table.fill items = (filled, none)) :
    filled.Tabulates items ∧ filled.tracked = tracked := by
  obtain ⟨rfl, word⟩ := blank_of_allocate allocated
  have outcome : FillOutcome tracked items ((blank tracked : Table count capacity).fill items) :=
    fill_outcome tracked (Nat.lt_of_succ_lt word) enough nonneg
  rw [completed] at outcome
  cases outcome with
  | done tabulates kept => exact ⟨tabulates, kept⟩

theorem lastEntry_of_weights {weights : RowPair UInt64 (capacity + 1)}
    (found : filled.weights = some weights) (cell : Fin (capacity + 1)) :
    filled.lastEntry cell = ⟨filled.values.last.get cell, some (weights.last.get cell)⟩ := by
  rw [lastEntry, found]
  rfl

theorem weight_lastEntry_of_weights {weights : RowPair UInt64 (capacity + 1)}
    (found : filled.weights = some weights) (cell : Fin (capacity + 1)) :
    (filled.lastEntry cell).weight = some (weights.last.get cell) :=
  congrArg Entry.weight (lastEntry_of_weights found cell)

theorem tracked_of_weight_lastEntry {weight : UInt64} {cell : Fin (capacity + 1)}
    (found : (filled.lastEntry cell).weight = some weight) : filled.tracked = true := by
  rw [← isSome_weight_lastEntry filled cell, found]
  rfl

/-! ## The rows -/

/-- The value in a cell is the largest of a choice that fits into the cell. -/
theorem Tabulates.value_isGreatest (tabulates : filled.Tabulates items)
    (cell : Fin (capacity + 1)) :
    IsGreatest (valueOf items '' {chosen | Fits items cell chosen})
      (filled.lastEntry cell).value.toInt := by
  have value : (filled.lastEntry cell).value.toInt = (best filled.tracked items cell).1 :=
    tabulates.value_lastEntry cell
  rw [value]
  constructor
  · obtain ⟨chosen, isBest⟩ := exists_isBest filled.tracked items cell
    exact ⟨chosen, isBest.fits, isBest.value⟩
  · rintro _ ⟨chosen, fits, rfl⟩
    exact valueOf_le_best filled.tracked fits

/-- A best choice for a cell has the weight there, if there is one. -/
theorem Tabulates.weightOf_eq (tabulates : filled.Tabulates items) {chosen : Finset Nat}
    {weight : UInt64} {cell : Fin (capacity + 1)}
    (isBest : IsBest filled.tracked items cell chosen)
    (found : (filled.lastEntry cell).weight = some weight) :
    weightOf items chosen = weight.toNat := by
  rw [tracked_of_weight_lastEntry found] at isBest
  have least : -weightOf items chosen = (best true items cell).2 := congrArg Prod.snd isBest.score
  exact neg_inj.mp (least.trans (tabulates.weight_lastEntry found).symm)

/-- The weight in a cell is the least of a choice that fits into it and has the value there. -/
theorem Tabulates.weight_isLeast (tabulates : filled.Tabulates items) {weight : UInt64}
    {cell : Fin (capacity + 1)} (found : (filled.lastEntry cell).weight = some weight) :
    IsLeast (weightOf items '' {chosen |
        Fits items cell chosen ∧ valueOf items chosen = (filled.lastEntry cell).value.toInt})
      weight.toNat := by
  obtain ⟨chosen, isBest⟩ := exists_isBest filled.tracked items cell
  rw [tabulates.value_lastEntry cell, ← tabulates.weightOf_eq isBest found]
  constructor
  · exact ⟨chosen, ⟨isBest.fits, isBest.value⟩, rfl⟩
  · rintro _ ⟨other, ⟨fits, otherValue⟩, rfl⟩
    have unbeaten := isBest.unbeaten fits
    rw [tracked_of_weight_lastEntry found] at unbeaten
    exact weightOf_le_of_scoreOf_le unbeaten (otherValue.trans isBest.value.symm)

/-- Whatever the dimensions, every cell of the last rows holds the optimum of the choices that fit
into it: the largest value, and the least weight with which it is reached if weights are tracked. -/
theorem fill_rows_optimal (allocated : allocate count capacity tracked = .ok table)
    (enough : items.length ≤ count) (nonneg : NonNegative items)
    (completed : table.fill items = (filled, none)) (cell : Fin (capacity + 1)) :
    IsGreatest (valueOf items '' {chosen | Fits items cell chosen})
        filled.values.last[cell].toInt ∧
      (tracked = true → ∃ weights, filled.weights = some weights ∧
        weights.last[cell].toNat ≤ (cell : Nat) ∧
        IsLeast (weightOf items '' {chosen |
            Fits items cell chosen ∧ valueOf items chosen = filled.values.last[cell].toInt})
          weights.last[cell].toNat) := by
  obtain ⟨tabulates, kept⟩ := Tabulates.of_allocate allocated enough nonneg completed
  refine ⟨tabulates.value_isGreatest cell, fun isTracked => ?_⟩
  obtain ⟨weights, found⟩ := Option.isSome_iff_exists.mp (kept.trans isTracked)
  have entry : (filled.lastEntry cell).weight = some weights.last[cell] := by
    rw [lastEntry, found]
    rfl
  exact ⟨weights, found, tabulates.weight_lastEntry_le entry, tabulates.weight_isLeast entry⟩

/-- Two items that fit together into the last cell, and each alone into fewer. -/
theorem fill_rows_optimal_two_items :
    ∃ filled : Table 2 5, allocate 2 5 true = .ok (blank true) ∧
      (blank true : Table 2 5).fill [⟨2, 3⟩, ⟨3, 4⟩] = (filled, none) ∧
      filled.last = ⟨[0, 0, 3, 4, 4, 7], some [0, 0, 2, 3, 3, 5]⟩ ∧
      IsGreatest (valueOf [⟨2, 3⟩, ⟨3, 4⟩] ''
          {chosen | Fits [⟨2, 3⟩, ⟨3, 4⟩] (4 : Fin 6) chosen})
        filled.values.last[(4 : Fin 6)].toInt := by
  obtain ⟨filled, completed, last⟩ : ∃ filled : Table 2 5,
      (blank true : Table 2 5).fill [⟨2, 3⟩, ⟨3, 4⟩] = (filled, none) ∧
      filled.last = ⟨[0, 0, 3, 4, 4, 7], some [0, 0, 2, 3, 3, 5]⟩ := ⟨_, rfl, rfl⟩
  have allocated : allocate 2 5 true = .ok (blank true) := rfl
  have optimal := fill_rows_optimal allocated (by decide) (by decide) completed 4
  exact ⟨filled, allocated, completed, last, optimal.1⟩

/-! ## The flags -/

namespace Tabulates

variable {index : Nat}

/-- The flag of an item tells whether it improves on the optimum of the items before it. -/
theorem isTaken_eq (tabulates : filled.Tabulates items) (enough : items.length ≤ count)
    (inside : index < items.length) (cell : Fin (capacity + 1)) :
    filled.decisions.isTaken index cell =
      .ok (decide (best filled.tracked (items.take index) cell <
        best filled.tracked (items.take index ++ [items[index]]) cell)) := by
  rw [tabulates.taken index (Nat.lt_of_lt_of_le inside enough),
    List.take_succ_eq_append_getElem inside]

theorem isTaken_of_length_le (tabulates : filled.Tabulates items) (after : items.length ≤ index)
    (row : index < count) (cell : Fin (capacity + 1)) :
    filled.decisions.isTaken index cell = .ok false := by
  rw [tabulates.taken index row, List.take_of_length_le after,
    List.take_of_length_le (Nat.le_succ_of_le after), decide_eq_false (lt_irrefl _)]

end Tabulates

/-- A flag is set exactly if every best choice of the items up to its own has that item. Rows that
belong to no item stay clear, and so do the cells into which an item does not fit, and all cells of
an item that is worth nothing. -/
theorem fill_flags_needed (allocated : allocate count capacity tracked = .ok table)
    (enough : items.length ≤ count) (nonneg : NonNegative items)
    (completed : table.fill items = (filled, none)) :
    (∀ index < items.length, ∀ cell : Fin (capacity + 1), ∃ flag,
        filled.decisions.isTaken index cell = .ok flag ∧
        (flag = true ↔ ∀ chosen, IsBest tracked (items.take (index + 1)) cell chosen →
          index ∈ chosen)) ∧
      (∀ index, items.length ≤ index → index < count → ∀ cell : Fin (capacity + 1),
        filled.decisions.isTaken index cell = .ok false) ∧
      ∀ index item, items[index]? = some item → ∀ cell : Fin (capacity + 1),
        filled.decisions.isTaken index cell = .ok true →
          0 < item.value ∧ item.weight.toInt ≤ ((cell : Nat) : Int) := by
  obtain ⟨tabulates, rfl⟩ := Tabulates.of_allocate allocated enough nonneg completed
  refine ⟨fun index inside cell => ?needed, fun index after row cell => ?unset,
    fun index item found cell set => ?marked⟩
  case needed =>
    have position : (items.take index).length = index :=
      List.length_take_of_le (Nat.le_of_lt inside)
    refine ⟨_, tabulates.isTaken_eq enough inside cell, ?_⟩
    rw [decide_eq_true_iff, best_lt_append_iff (nonneg.upTo inside), position,
      List.take_succ_eq_append_getElem inside]
  case unset => exact tabulates.isTaken_of_length_le after row cell
  case marked =>
    obtain ⟨inside, rfl⟩ := List.getElem?_eq_some_iff.mp found
    rw [tabulates.isTaken_eq enough inside, Except.ok.injEq, decide_eq_true_iff] at set
    have upTo := nonneg.upTo inside
    have reached := reaches_of_gain upTo set
    refine ⟨value_pos_of_gain upTo set, ?_⟩
    rw [← Item.cast_load reached.1]
    exact Int.ofNat_le.mpr reached.2

/-- Of two items of one value the lighter one is in every best choice where weights are tracked. The
third row belongs to no item. -/
theorem fill_flags_needed_lighter :
    ∃ filled : Table 3 3, allocate 3 3 true = .ok (blank true) ∧
      (blank true : Table 3 3).fill [⟨3, 5⟩, ⟨2, 5⟩] = (filled, none) ∧
      filled.decisions.isTaken 1 3 = .ok true ∧ filled.decisions.isTaken 2 3 = .ok false ∧
      ∀ chosen, IsBest true [⟨3, 5⟩, ⟨2, 5⟩] 3 chosen → 1 ∈ chosen := by
  obtain ⟨filled, completed, taken⟩ : ∃ filled : Table 3 3,
      (blank true : Table 3 3).fill [⟨3, 5⟩, ⟨2, 5⟩] = (filled, none) ∧
      filled.decisions.isTaken 1 3 = .ok true := ⟨_, rfl, rfl⟩
  have allocated : allocate 3 3 true = .ok (blank true) := rfl
  obtain ⟨needed, unset, -⟩ := fill_flags_needed allocated (by decide) (by decide) completed
  obtain ⟨flag, same, mem⟩ := needed 1 (by decide) 3
  refine ⟨filled, allocated, completed, taken, unset 2 (by decide) (by decide) 3, mem.mp ?_⟩
  exact Except.ok.inj (same.symm.trans taken)

end Knapsack.Table
