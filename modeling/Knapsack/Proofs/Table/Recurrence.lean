import Knapsack.Proofs.Table.Sweep

/-!
# Filling is a recurrence of rows

A filling works in place on two rows that change their parts after each item. What it computes is
said here without them: `nextRow` makes a new row from an old one and an item, cell by cell, and a
filling that is completed leaves the row that these steps make of its first one, one step for each
item (`holdings_fillFrom`). Values are integers here, as no sum of a completed filling is out of
range; weights are words, and their sums wrap around.

Each item first overwrites the row that it builds, so nothing that stood there before has a part in
how a filling ends or in what it leaves (`advance_congr`).

The tables are arbitrary: nothing is assumed of what their rows and flags hold.
-/

namespace Knapsack

/-- What a cell holds: a value without bounds, and a weight if weights are tracked. -/
structure Holding where
  value : Int
  weight : Option UInt64
deriving DecidableEq, Repr

namespace Holding

/-- A larger value is better; of two equal values the smaller weight is, if both are tracked. -/
def IsBetter (holding other : Holding) : Prop :=
  other.value < holding.value ∨
    holding.value = other.value ∧
      ∃ weight ∈ holding.weight, ∃ otherWeight ∈ other.weight, weight < otherWeight

instance (holding other : Holding) : Decidable (holding.IsBetter other) :=
  inferInstanceAs (Decidable (_ ∨ _))

/-- The better of two holdings; the first if neither is. -/
def orBetter (kept offer : Holding) : Holding :=
  if offer.IsBetter kept then offer else kept

/-- What becomes of a holding when an item is added. -/
def withItem (holding : Holding) (item : Item) : Holding :=
  ⟨holding.value + item.value.toInt,
    holding.weight.map fun weight => weight + UInt64.ofNat item.load⟩

end Holding

/-- The row that an item makes of a row. A cell that the item does not reach keeps what it holds;
any other holds the better of that and of what the item makes of the cell that is its weight
below. -/
def nextRow {capacity : Nat} (row : Fin (capacity + 1) → Holding) (item : Item) :
    Fin (capacity + 1) → Holding :=
  fun cell =>
    if item.weight < 0 ∨ ((cell : Nat) : Int) < item.weight.toInt then row cell
    else (row cell).orBetter ((row (below item.load cell)).withItem item)

theorem Item.not_reaches_iff {item : Item} {room : Nat} :
    ¬ item.Reaches room ↔ item.weight < 0 ∨ (room : Int) < item.weight.toInt := by
  unfold Item.Reaches
  by_cases nonneg : 0 ≤ item.weight
  · rw [and_iff_right nonneg, or_iff_right (Int32.not_lt.mpr nonneg), ← Item.cast_load nonneg]
    omega
  · exact iff_of_true (fun reached => nonneg reached.1) (.inl (Int32.not_le.mp nonneg))

section NextRow

variable {capacity : Nat} {row : Fin (capacity + 1) → Holding} {item : Item}
  {cell : Fin (capacity + 1)}

theorem nextRow_of_reaches (reached : item.Reaches cell) :
    nextRow row item cell =
      (row cell).orBetter ((row (below item.load cell)).withItem item) :=
  if_neg (mt Item.not_reaches_iff.mpr (not_not_intro reached))

theorem nextRow_of_not_reaches (unreached : ¬ item.Reaches cell) :
    nextRow row item cell = row cell :=
  if_pos (Item.not_reaches_iff.mp unreached)

end NextRow

/-! ## Entries and what they stand for -/

namespace Entry

def holding (entry : Entry) : Holding :=
  ⟨entry.value.toInt, entry.weight⟩

theorem lighter_iff_exists {weight other : Option UInt64} :
    lighter weight other ↔ ∃ less ∈ weight, ∃ more ∈ other, less < more := by
  cases weight <;> cases other <;> simp [lighter]

theorem beats_iff_isBetter {entry other : Entry} :
    entry.beats other ↔ entry.holding.IsBetter other.holding := by
  simp only [beats, Bool.or_eq_true, Bool.and_eq_true, decide_eq_true_eq, beq_iff_eq]
  refine or_congr Int32.lt_iff_toInt_lt (and_congr ?_ lighter_iff_exists)
  exact Int32.toInt_inj.symm

theorem holding_settle (entry offer : Entry) :
    (entry.settle (some offer)).holding = entry.holding.orBetter offer.holding := by
  by_cases better : offer.beats entry
  · rw [settle, if_pos better, Holding.orBetter, if_pos (beats_iff_isBetter.mp better)]
  · rw [settle, if_neg better, Holding.orBetter, if_neg (mt beats_iff_isBetter.mpr better)]

theorem holding_add? {entry sum : Entry} {item : Item}
    (added : entry.add? item.value item.load = some sum) :
    sum.holding = entry.holding.withItem item := by
  obtain ⟨value, weight⟩ := add?_eq_some_iff.mp added
  rw [holding, addValue?_eq_some_iff.mp value, weight]
  rfl

end Entry

namespace Table

variable {rows capacity : Nat} {table other after filled : Table rows capacity}
  {index : Nat} {item : Item} {items : List Item}

/-- What the last rows hold. -/
def holdings (table : Table rows capacity) (cell : Fin (capacity + 1)) : Holding :=
  ⟨(table.values.last.get cell).toInt, table.weights.map fun weights => weights.last.get cell⟩

/-! ## The row that an item makes -/

theorem holdings_advance (advanced : table.advance index item = (after, none)) :
    after.holdings = nextRow table.holdings item := by
  have outcome := advance_outcome index item table
  rw [advanced] at outcome
  cases outcome with
  | done offered last marked tracked =>
    funext cell
    have entry : after.holdings cell = (after.lastEntry cell).holding := rfl
    rw [entry, last]
    by_cases reached : item.Reaches cell
    · obtain ⟨offer, made⟩ := Option.ne_none_iff_exists'.mp (offered cell reached)
      rw [if_pos reached, nextRow_of_reaches reached, made, Entry.holding_settle,
        Entry.holding_add? made]
      rfl
    · rw [if_neg reached, nextRow_of_not_reaches reached]
      rfl

/-- A filling that is completed has advanced over its first item. -/
theorem exists_advance_of_fillFrom
    (completed : table.fillFrom index (item :: items) = (filled, none)) :
    ∃ after, table.advance index item = (after, none) ∧
      after.fillFrom (index + 1) items = (filled, none) := by
  rw [fillFrom] at completed
  cases advanced : table.advance index item with
  | mk after failure =>
    rw [advanced] at completed
    cases failure with
    | none => exact ⟨after, rfl, completed⟩
    | some failure => cases completed

theorem holdings_fillFrom (completed : table.fillFrom index items = (filled, none)) :
    filled.holdings = items.foldl nextRow table.holdings := by
  induction items generalizing table index with
  | nil =>
    cases completed
    rfl
  | cons item items ih =>
    obtain ⟨after, advanced, rest⟩ := exists_advance_of_fillFrom completed
    rw [List.foldl_cons, ← holdings_advance advanced]
    exact ih rest

/-! ## The row that is built -/

/-- Tables that differ in the rows to be built alone are one table when these rows are begun. -/
theorem carry_congr (last : other.last = table.last)
    (decisions : other.decisions = table.decisions) : other.carry = table.carry := by
  obtain ⟨values, weights, flags⟩ := table
  obtain ⟨otherValues, otherWeights, otherFlags⟩ := other
  obtain ⟨valuesSame, weightsSame⟩ := Rows.mk.inj last
  have value : otherValues.last = values.last := Vector.toList_inj.mp valuesSame
  have carried : otherWeights.map RowPair.carry = weights.map RowPair.carry := by
    cases weights <;> cases otherWeights
    case none.none => rfl
    case none.some => cases weightsSame
    case some.none => cases weightsSame
    case some.some pair otherPair =>
      have weight : otherPair.last = pair.last := Vector.toList_inj.mp (Option.some.inj weightsSame)
      simp only [Option.map_some, RowPair.carry, weight]
  simp only at decisions
  simp only [carry, RowPair.carry, value, decisions] at carried ⊢
  rw [carried]

theorem advance_congr (index : Nat) (item : Item) (last : other.last = table.last)
    (decisions : other.decisions = table.decisions) :
    other.advance index item = table.advance index item := by
  simp only [advance, carry_congr last decisions]

/-- A completed filling leaves the rows that the recurrence makes of the rows before it. With at
least one item, how a filling ends and the whole table that it leaves depend on the last rows and the
flags alone, and not on the rows that were there to be built. -/
theorem fill_recurrence (table : Table rows capacity) (items : List Item) :
    (∀ filled, table.fill items = (filled, none) →
        filled.holdings = items.foldl nextRow table.holdings) ∧
      (items ≠ [] → ∀ other : Table rows capacity, other.last = table.last →
        other.decisions = table.decisions → other.fill items = table.fill items) := by
  refine ⟨fun filled completed => holdings_fillFrom completed, ?_⟩
  intro nonempty other last decisions
  cases items with
  | nil => exact absurd rfl nonempty
  | cons item items => simp only [fill, fillFrom, advance_congr 0 item last decisions]

/-- A weightless item, one of negative weight and one whose weight wraps a sum around to zero, which
is less than the weight that ties with it. The rows to be built hold anything. -/
theorem fill_recurrence_wrapped_weight :
    ∃ table other filled : Table 3 2,
      table.last = ⟨[5, 5, 0], some [18446744073709551615, 3, 9]⟩ ∧
      other.values.next ≠ table.values.next ∧
      table.fill [⟨0, 1⟩, ⟨-1, 3⟩, ⟨1, 0⟩] = (filled, none) ∧
      filled.last = ⟨[6, 6, 6], some [18446744073709551615, 0, 4]⟩ ∧
      filled.holdings = [⟨0, 1⟩, ⟨-1, 3⟩, ⟨1, 0⟩].foldl nextRow table.holdings ∧
      other.fill [⟨0, 1⟩, ⟨-1, 3⟩, ⟨1, 0⟩] = (filled, none) := by
  obtain ⟨table, other, filled, before, stale, last, decisions, completed, after⟩ :
      ∃ table other filled : Table 3 2,
        table.last = ⟨[5, 5, 0], some [18446744073709551615, 3, 9]⟩ ∧
        other.values.next ≠ table.values.next ∧
        other.last = table.last ∧ other.decisions = table.decisions ∧
        table.fill [⟨0, 1⟩, ⟨-1, 3⟩, ⟨1, 0⟩] = (filled, none) ∧
        filled.last = ⟨[6, 6, 6], some [18446744073709551615, 0, 4]⟩ :=
    ⟨⟨⟨#v[5, 5, 0], #v[7, 7, 7]⟩, some ⟨#v[18446744073709551615, 3, 9], #v[1, 1, 1]⟩, .blank⟩,
      ⟨⟨#v[5, 5, 0], #v[-1, 0, 8]⟩, some ⟨#v[18446744073709551615, 3, 9], #v[0, 0, 0]⟩, .blank⟩,
      _, rfl, by decide, rfl, rfl, rfl, rfl⟩
  obtain ⟨recurs, forgets⟩ := fill_recurrence table [⟨0, 1⟩, ⟨-1, 3⟩, ⟨1, 0⟩]
  exact ⟨table, other, filled, before, stale, completed, after, recurs filled completed,
    (forgets (by decide) other last decisions).trans completed⟩

end Table

end Knapsack
