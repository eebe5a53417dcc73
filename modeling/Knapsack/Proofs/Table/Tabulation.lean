import Knapsack.Proofs.Optimum
import Knapsack.Proofs.Table.Sweep

/-!
# Filling a table computes optima

`Tabulates table done` is the invariant of the filling: every cell of the last rows holds the best
score that the items of `done` reach within the cell, and a flag is set exactly where its item
raised that score. `Tabulates.advance` keeps it over one item, and `Tabulates.fillFrom` over a list.

A filling ends early exactly if some choice is worth more than the largest value (`Exceeds`), and
then at the first item and the first cell for which there is such a choice (`OverflowAt`). A sum
below the smallest value cannot arise, as no entry of a row is negative.
-/

namespace Knapsack

/-- The score that an entry stands for. -/
def Entry.score (entry : Entry) : Score :=
  toLex (entry.value.toInt, entry.weight.elim 0 fun weight => -(weight.toNat : Int))

/-- Some choice that fits into `room` is worth more than the largest 32-bit number. -/
def Exceeds (items : List Item) (room : Int) : Prop :=
  ∃ chosen, Fits items room chosen ∧ 2147483647 < valueOf items chosen

/-- The first item with which, and then the least room in which, a value becomes too large. -/
structure OverflowAt (items : List Item) (capacity item cell : Nat) : Prop where
  firstItem : IsLeast {index : Nat | Exceeds (items.take (index + 1)) capacity} item
  leastRoom : IsLeast {room : Nat | Exceeds (items.take (item + 1)) room} cell

/-! ## Entries and their scores -/

namespace Entry

theorem lighter_iff {weight other : Option UInt64} (alike : weight.isSome = other.isSome) :
    lighter weight other ↔
      (other.elim 0 fun weight => -(weight.toNat : Int)) <
        weight.elim 0 fun weight => -(weight.toNat : Int) := by
  cases weight <;> cases other
  case none.none => simp [lighter]
  case none.some => cases alike
  case some.none => cases alike
  case some.some weight other =>
    simp only [lighter, decide_eq_true_eq, UInt64.lt_iff_toNat_lt, Option.elim_some]
    omega

theorem beats_iff {entry other : Entry} (alike : entry.weight.isSome = other.weight.isSome) :
    entry.beats other ↔ other.score < entry.score := by
  rw [Prod.Lex.lt_iff]
  simp only [beats, Bool.or_eq_true, Bool.and_eq_true, decide_eq_true_eq, beq_iff_eq]
  refine or_congr Int32.lt_iff_toInt_lt (and_congr ?_ (lighter_iff alike))
  rw [← Int32.toInt_inj]
  exact eq_comm

theorem score_settle {entry offer : Entry} (alike : offer.weight.isSome = entry.weight.isSome) :
    (entry.settle (some offer)).score = max entry.score offer.score := by
  by_cases better : offer.beats entry
  · rw [settle, if_pos better]
    exact (max_eq_right (le_of_lt ((beats_iff alike).mp better))).symm
  · rw [settle, if_neg better]
    exact (max_eq_left (not_lt.mp fun lt => better ((beats_iff alike).mpr lt))).symm

/-- Adding an item to an entry adds their scores, as long as the weights do not wrap around. -/
theorem score_add? {entry sum : Entry} {item : Item} (nonneg : 0 ≤ item.weight)
    (word : ∀ weight, entry.weight = some weight → weight.toNat + item.load < wordCount)
    (added : entry.add? item.value item.load = some sum) :
    sum.score = entry.score + item.score entry.weight.isSome := by
  obtain ⟨value, weight⟩ := entry
  obtain ⟨sumValue, sumWeight⟩ := sum
  obtain ⟨valueAdded, weightAdded⟩ := add?_eq_some_iff.mp added
  have values := addValue?_eq_some_iff.mp valueAdded
  simp only at values weightAdded word
  cases weight with
  | none =>
    subst weightAdded
    simp only [score, Item.score, values, ← toLex_add, Prod.mk_add_mk]
    rfl
  | some weight =>
    subst weightAdded
    have small := word weight rfl
    have weights : (weight + UInt64.ofNat item.load).toNat = weight.toNat + item.load := by
      rw [UInt64.toNat_add, UInt64.toNat_ofNat', Nat.add_mod_mod]
      exact Nat.mod_eq_of_lt small
    simp only [score, Item.score, values, ← toLex_add, Prod.mk_add_mk, Option.map_some,
      Option.elim_some, Option.isSome_some, if_true, weights, ← Item.cast_load nonneg,
      Int.natCast_add, neg_add]

end Entry

/-! ## Choices of too large a value -/

theorem Exceeds.mono {items : List Item} {room larger : Int} (exceeds : Exceeds items room)
    (le : room ≤ larger) : Exceeds items larger := by
  obtain ⟨chosen, fits, large⟩ := exceeds
  exact ⟨chosen, fits.mono le, large⟩

theorem Exceeds.append {items : List Item} {room : Int} (exceeds : Exceeds items room)
    (more : List Item) : Exceeds (items ++ more) room := by
  obtain ⟨chosen, fits, large⟩ := exceeds
  refine ⟨chosen, fits.append more, ?_⟩
  rwa [valueOf, sumOver_append more fits.inside]

/-- The longer a prefix of the items, the more choices there are from it. -/
theorem Exceeds.take_mono {items : List Item} {room : Int} {count larger : Nat}
    (exceeds : Exceeds (items.take count) room) (le : count ≤ larger) :
    Exceeds (items.take larger) room := by
  have split : items.take larger = items.take count ++ (items.drop count).take (larger - count) := by
    rw [← List.take_add, Nat.add_sub_cancel' le]
  rw [split]
  exact exceeds.append _

namespace Table

variable {rows capacity : Nat}

/-- The last rows hold the best scores of the items of `done`, and the flags tell which item raised
the best score of the items before it. -/
structure Tabulates (table : Table rows capacity) (done : List Item) : Prop where
  score : ∀ cell : Fin (capacity + 1), (table.lastEntry cell).score = best table.tracked done cell
  taken : ∀ item < rows, ∀ cell : Fin (capacity + 1),
    table.decisions.isTaken item cell =
      .ok (decide (best table.tracked (done.take item) cell <
        best table.tracked (done.take (item + 1)) cell))

theorem tabulates_blank (tracked : Bool) :
    (blank tracked : Table rows capacity).Tabulates [] := by
  constructor
  · intro cell
    rw [best_nil]
    cases tracked <;> simp [blank, lastEntry, RowPair.fill, Entry.score]
  · intro item inside cell
    have within : item < rows ∧ (cell : Nat) < capacity + 1 := ⟨inside, cell.isLt⟩
    simp only [blank, Decisions.isTaken, dif_pos within, Decisions.get_blank, List.take_nil,
      lt_irrefl, decide_false]

section Step

variable {table after : Table rows capacity} {done : List Item} {item : Item}
  {cell : Fin (capacity + 1)}

namespace Tabulates

theorem value_lastEntry (tabulates : table.Tabulates done) (cell : Fin (capacity + 1)) :
    (table.lastEntry cell).value.toInt = (best table.tracked done cell).1 :=
  congrArg Prod.fst (tabulates.score cell)

/-- A value that a row holds is not too large. -/
theorem not_exceeds (tabulates : table.Tabulates done) (cell : Fin (capacity + 1)) :
    ¬ Exceeds done cell := by
  rintro ⟨chosen, fits, large⟩
  have bound := valueOf_le_best table.tracked fits
  have upper := (table.lastEntry cell).value.toInt_lt
  rw [tabulates.value_lastEntry] at upper
  omega

/-- An item can be entered in a cell unless it makes a choice of too large a value possible there.
The sum cannot be too small, for no entry is negative. -/
theorem exceeds_append_iff (tabulates : table.Tabulates done)
    (nonneg : NonNegative (done ++ [item])) (cell : Fin (capacity + 1)) :
    Exceeds (done ++ [item]) cell ↔
      item.Reaches cell ∧ Row.extend? table.lastEntry item cell = none := by
  have base := tabulates.value_lastEntry (below item.load cell)
  have free : (below item.load cell : Nat) = cell - item.load := rfl
  rw [Row.extend?, Row.offer?, Entry.add?_eq_none_iff, addValue?, int32?_eq_none_iff, base, free]
  constructor
  · rintro ⟨chosen, fits, large⟩
    rcases fits.casesLast with without | ⟨rest, rfl, fitsRest⟩
    · rw [valueOf, sumOver_append [item] without.inside] at large
      exact absurd ⟨chosen, without, large⟩ (tabulates.not_exceeds cell)
    · have reached := reaches_of_fits nonneg fitsRest
      rw [valueOf, sumOver_insertLast item fitsRest.inside] at large
      rw [← cast_sub_load reached] at fitsRest
      have bound := valueOf_le_best table.tracked fitsRest
      exact ⟨reached, Or.inr (lt_of_lt_of_le large (add_le_add_left bound _))⟩
  · rintro ⟨reached, outside⟩
    have lower := item.value.le_toInt
    have positive := best_value_nonneg table.tracked done (cell - item.load)
    obtain ⟨rest, isBest⟩ := exists_isBest table.tracked done (cell - item.load)
    have fitsRest := isBest.fits
    rw [cast_sub_load reached] at fitsRest
    refine ⟨insert done.length rest, fitsRest.insertLast, ?_⟩
    rw [valueOf, sumOver_insertLast item fitsRest.inside]
    rw [← isBest.value] at outside positive
    rcases outside with small | large
    · -- The least value of an item on top of an optimum, which is not negative, is in range.
      omega
    · exact large

theorem weight_lastEntry (tabulates : table.Tabulates done) {weight : UInt64}
    (found : (table.lastEntry cell).weight = some weight) :
    -(weight.toNat : Int) = (best true done cell).2 := by
  have tracked := isSome_weight_lastEntry table cell
  rw [found] at tracked
  have second := congrArg Prod.snd (tabulates.score cell)
  rw [← tracked, Entry.score, found] at second
  exact second

/-- A tracked weight is that of a choice that fits into its cell. -/
theorem weight_lastEntry_le (tabulates : table.Tabulates done) {weight : UInt64}
    (found : (table.lastEntry cell).weight = some weight) : weight.toNat ≤ cell := by
  have bound := best_weight_le done cell
  have same := tabulates.weight_lastEntry found
  omega

/-- A tracked weight and the load of an item that is added to it have a word as their sum. -/
theorem weight_add_load_lt (tabulates : table.Tabulates done) (word : capacity < wordCount)
    (reached : item.Reaches cell) {weight : UInt64}
    (found : (table.lastEntry (below item.load cell)).weight = some weight) :
    weight.toNat + item.load < wordCount := by
  have bound : weight.toNat ≤ cell - item.load := tabulates.weight_lastEntry_le found
  have := reached.2
  omega

/-- An offer has the score of the best choice with the item. Its weight does not wrap around, for
it is at most the cell. -/
theorem score_extend (tabulates : table.Tabulates done) (word : capacity < wordCount)
    (reached : item.Reaches cell) {offer : Entry}
    (offered : Row.extend? table.lastEntry item cell = some offer) :
    offer.score = best table.tracked done (cell - item.load) + item.score table.tracked := by
  have base := tabulates.score (below item.load cell)
  have tracked := isSome_weight_lastEntry table (below item.load cell)
  have small : ∀ weight, (table.lastEntry (below item.load cell)).weight = some weight →
      weight.toNat + item.load < wordCount :=
    fun _ found => tabulates.weight_add_load_lt word reached found
  rw [Entry.score_add? reached.1 small offered, base, tracked]
  rfl

theorem isSome_weight_extend {offer : Entry}
    (offered : Row.extend? table.lastEntry item cell = some offer) :
    offer.weight.isSome = (table.lastEntry cell).weight.isSome := by
  rw [Entry.weight_isSome_of_add? offered, isSome_weight_lastEntry, isSome_weight_lastEntry]

/-- Entering an item: the new entry of a cell, and whether the cell is marked for the item. -/
theorem entered (tabulates : table.Tabulates done) (word : capacity < wordCount)
    (nonneg : NonNegative (done ++ [item]))
    (offered : item.Reaches cell → Row.extend? table.lastEntry item cell ≠ none) :
    (if item.Reaches cell then
        (table.lastEntry cell).settle (Row.extend? table.lastEntry item cell)
      else
        table.lastEntry cell).score = best table.tracked (done ++ [item]) cell ∧
    (item.Reaches cell ∧ (table.lastEntry cell).yields (Row.extend? table.lastEntry item cell) ↔
      best table.tracked done cell < best table.tracked (done ++ [item]) cell) := by
  by_cases reached : item.Reaches cell
  · obtain ⟨offer, made⟩ := Option.ne_none_iff_exists'.mp (offered reached)
    have alike := isSome_weight_extend made
    have scores := tabulates.score_extend word reached made
    rw [if_pos reached, made, Entry.score_settle alike, Entry.yields, Entry.beats_iff alike,
      scores, tabulates.score, best_append_of_reaches reached]
    exact ⟨rfl, by rw [and_iff_right reached, lt_max_iff, or_iff_right (lt_irrefl _)]⟩
  · rw [if_neg reached, best_append_of_not_reaches nonneg reached]
    exact ⟨tabulates.score cell, iff_of_false (fun hit => reached hit.1) (lt_irrefl _)⟩

/-- Once its item is entered, a row of flags tells where that item raised the best score. -/
theorem taken_entered (tabulates : table.Tabulates done)
    (marked : Marked done.length item (capacity + 1) table after)
    (gain : ∀ cell : Fin (capacity + 1),
      item.Reaches cell ∧ (table.lastEntry cell).yields (Row.extend? table.lastEntry item cell) ↔
        best table.tracked done cell < best table.tracked (done ++ [item]) cell)
    {other : Nat} (inside : other < rows) (cell : Fin (capacity + 1)) :
    after.decisions.isTaken other cell =
      .ok (decide (best table.tracked ((done ++ [item]).take other) cell <
        best table.tracked ((done ++ [item]).take (other + 1)) cell)) := by
  rw [marked, tabulates.taken other inside]
  -- Only the row of the new item is marked, and it alone sees the list end with that item.
  rcases Nat.lt_trichotomy other done.length with earlier | rfl | later
  · rw [if_neg fun hit => Nat.ne_of_lt earlier hit.1,
      List.take_append_of_le_length (Nat.le_of_lt earlier),
      List.take_append_of_le_length (Nat.succ_le_of_lt earlier)]
  · have whole : (done ++ [item]).take (done.length + 1) = done ++ [item] :=
      List.take_of_length_le (by rw [List.length_append, List.length_singleton])
    rw [List.take_left, whole, List.take_length, List.take_of_length_le (Nat.le_succ _)]
    by_cases gained : best table.tracked done cell < best table.tracked (done ++ [item]) cell
    · obtain ⟨reached, better⟩ := (gain cell).mpr gained
      rw [if_pos ⟨rfl, ⟨reached, cell.isLt⟩, better⟩, decide_eq_true gained]
    · rw [if_neg fun hit => gained ((gain cell).mp ⟨hit.2.1.1, hit.2.2⟩), decide_eq_false gained,
        decide_eq_false (lt_irrefl _)]
  · have longer : (done ++ [item]).length ≤ other := by
      rw [List.length_append, List.length_singleton]
      exact Nat.succ_le_of_lt later
    rw [if_neg fun hit => Nat.ne_of_gt later hit.1, List.take_of_length_le longer,
      List.take_of_length_le (Nat.le_succ_of_le longer),
      List.take_of_length_le (Nat.le_of_lt later),
      List.take_of_length_le (Nat.le_succ_of_le (Nat.le_of_lt later))]
    simp only [lt_irrefl, decide_false]

/-- Entering an item that overflows nowhere extends the tabulated items by it. -/
theorem advance (tabulates : table.Tabulates done) (word : capacity < wordCount)
    (nonneg : NonNegative (done ++ [item]))
    (offered : ∀ cell : Fin (capacity + 1), item.Reaches cell →
      Row.extend? table.lastEntry item cell ≠ none)
    (last : ∀ cell : Fin (capacity + 1), after.lastEntry cell =
      if item.Reaches cell then
        (table.lastEntry cell).settle (Row.extend? table.lastEntry item cell)
      else
        table.lastEntry cell)
    (marked : Marked done.length item (capacity + 1) table after)
    (tracked : after.tracked = table.tracked) : after.Tabulates (done ++ [item]) := by
  have entered := fun cell => tabulates.entered word nonneg (offered cell)
  constructor
  · intro cell
    rw [last, tracked]
    exact (entered cell).1
  · intro other inside cell
    rw [tracked]
    exact tabulates.taken_entered marked (fun cell => (entered cell).2) inside cell

/-- The first cell in which an item cannot be entered is the least room in which a choice with it
is worth too much. -/
theorem overflowAt (tabulates : table.Tabulates done) {later : List Item}
    (nonneg : NonNegative (done ++ [item])) (reached : item.Reaches cell)
    (offered : ∀ earlier : Fin (capacity + 1), item.Reaches earlier → earlier < cell →
      Row.extend? table.lastEntry item earlier ≠ none)
    (refused : Row.extend? table.lastEntry item cell = none) :
    OverflowAt (done ++ item :: later) capacity done.length cell := by
  have upTo : (done ++ item :: later).take (done.length + 1) = done ++ [item] := by
    rw [List.append_cons]
    exact List.take_left' (by rw [List.length_append, List.length_singleton])
  have exceeds : Exceeds (done ++ [item]) cell :=
    (tabulates.exceeds_append_iff nonneg cell).mpr ⟨reached, refused⟩
  refine ⟨⟨?_, ?_⟩, ⟨?_, ?_⟩⟩
  · show Exceeds _ _
    rw [upTo]
    exact exceeds.mono (Int.ofNat_le.mpr (Nat.le_of_lt_succ cell.isLt))
  · -- With fewer items the whole capacity would be too much already, but its cell is filled.
    intro index exceeds
    by_contra earlier
    have before : Exceeds ((done ++ item :: later).take done.length) capacity :=
      exceeds.take_mono (Nat.lt_of_not_le earlier)
    rw [List.take_left] at before
    exact tabulates.not_exceeds (Fin.last capacity) before
  · show Exceeds _ _
    rw [upTo]
    exact exceeds
  · -- A smaller room is a cell before this one, and there the item was entered.
    intro room exceeds
    by_contra smaller
    have inside : room < capacity + 1 := Nat.lt_trans (Nat.lt_of_not_le smaller) cell.isLt
    have within : Exceeds (done ++ [item]) room := upTo ▸ exceeds
    obtain ⟨reachedEarlier, refusedEarlier⟩ :=
      (tabulates.exceeds_append_iff nonneg ⟨room, inside⟩).mp within
    exact offered ⟨room, inside⟩ reachedEarlier (Nat.lt_of_not_le smaller) refusedEarlier

end Tabulates

/-- How filling a table that tracks weights or not with all of `items` ends. -/
inductive FillOutcome (tracked : Bool) (items : List Item) :
    Table rows capacity × Option Failure → Prop where
  | done {after : Table rows capacity} (tabulates : after.Tabulates items)
      (kept : after.tracked = tracked) : FillOutcome tracked items (after, none)
  | overflow {after : Table rows capacity} {item cell : Nat}
      (overflowAt : OverflowAt items capacity item cell) :
      FillOutcome tracked items (after, some (.refused (.valueOverflow item cell)))

/-- An item that was entered extends the tabulated items. -/
theorem Tabulates.of_advance_eq (tabulates : table.Tabulates done) (word : capacity < wordCount)
    (nonneg : NonNegative (done ++ [item]))
    (advanced : table.advance done.length item = (after, none)) :
    after.Tabulates (done ++ [item]) := by
  have outcome := advance_outcome done.length item table
  rw [advanced] at outcome
  cases outcome with
  | done offered last marked tracked =>
    exact tabulates.advance word nonneg offered last marked tracked

theorem Tabulates.fillFrom (items : List Item) (tabulates : table.Tabulates done)
    (word : capacity < wordCount) (enough : done.length + items.length ≤ rows)
    (nonneg : NonNegative (done ++ items)) :
    FillOutcome table.tracked (done ++ items) (table.fillFrom done.length items) := by
  -- The items still to come get fewer; the invariant is about those already done.
  induction items generalizing done table with
  | nil =>
    rw [List.append_nil]
    exact .done tabulates rfl
  | cons item items ih =>
    have inside : done.length < rows := by
      rw [List.length_cons] at enough
      omega
    have soFar : NonNegative (done ++ [item]) := by
      rw [List.append_cons] at nonneg
      exact nonneg.init
    have outcome := advance_outcome done.length item table
    rw [Table.fillFrom]
    generalize table.advance done.length item = result at outcome
    cases outcome with
    | @done after offered last marked tracked =>
      have next := tabulates.advance word soFar offered last marked tracked
      have length : (done ++ [item]).length = done.length + 1 := List.length_append
      rw [List.append_cons] at nonneg ⊢
      have rest := ih next (by rw [length]; rw [List.length_cons] at enough; omega) nonneg
      rw [length, tracked] at rest
      exact rest
    | overflow cell reached offered refused last marked tracked =>
      exact .overflow (tabulates.overflowAt soFar reached offered refused)
    | stray cell reached outside =>
      exact absurd inside (Nat.not_lt_of_le outside)

/-- Filling a blank table. -/
theorem fill_outcome (tracked : Bool) {items : List Item} (word : capacity < wordCount)
    (enough : items.length ≤ rows) (nonneg : NonNegative items) :
    FillOutcome tracked items ((blank tracked : Table rows capacity).fill items) := by
  have start : (blank tracked : Table rows capacity).Tabulates [] := tabulates_blank tracked
  have outcome := start.fillFrom items word (by rwa [List.length_nil, Nat.zero_add]) nonneg
  rw [tracked_blank] at outcome
  exact outcome

end Step

end Table

end Knapsack
