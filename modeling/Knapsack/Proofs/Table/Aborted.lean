import Knapsack.Proofs.Table.Sweep

/-!
# What an aborted filling leaves

A sum that is no value ends a filling in the middle of an item. By then some cells of the next rows
are written and some flags of the item are set. The rows are not swapped in, so what was written is
not seen: the table is that of the shorter filling which stops before the item, up to flags in one
stretch of one row (`FlagsAdded`).

1. `FlagsAdded.of_advance` says this of the one item that could not be entered.
2. `exists_shorter_of_fillFrom` says it of the item at which a filling is stopped, once those before
   are entered.
3. `fill_overflow_leaves_shorter` says it of a whole filling, of tables that hold anything.
-/

namespace Knapsack.Table

variable {rows capacity : Nat} {table before after filled aborted : Table rows capacity}
  {index failed cell : Nat} {item : Item} {items : List Item}

/-- The entries of the last rows make up the rows. -/
theorem last_eq_of_lastEntry_eq (same : after.lastEntry = before.lastEntry) :
    after.last = before.last := by
  obtain ⟨values, weights, flags⟩ := before
  obtain ⟨otherValues, otherWeights, otherFlags⟩ := after
  have value : otherValues.last = values.last := Vector.ext fun cell inside =>
    congrArg Entry.value (congrFun same ⟨cell, inside⟩)
  have weight : ∀ cell : Fin (capacity + 1),
      (otherWeights.map fun pair => pair.last[cell]) = weights.map fun pair => pair.last[cell] :=
    fun cell => congrArg Entry.weight (congrFun same cell)
  cases weights <;> cases otherWeights
  case none.none => simp only [last, value, Option.map_none]
  case none.some => cases weight 0
  case some.none => cases weight 0
  case some.some pair otherPair =>
    have row : otherPair.last = pair.last := Vector.ext fun cell inside =>
      Option.some.inj (weight ⟨cell, inside⟩)
    simp only [last, value, Option.map_some, row]

/-- `after` is `before` up to flags of row `index` that were set in cells from `start` up to
`stop`. -/
structure FlagsAdded (index start stop : Nat) (before after : Table rows capacity) : Prop where
  last : after.last = before.last
  otherRows : ∀ row cell, row ≠ index →
    after.decisions.isTaken row cell = before.decisions.isTaken row cell
  added : ∀ cell, after.decisions.isTaken index cell ≠ before.decisions.isTaken index cell →
    start ≤ cell ∧ cell < stop ∧ before.decisions.isTaken index cell = .ok false ∧
      after.decisions.isTaken index cell = .ok true

/-- The flags that an item sets before it stops are in its own row, in cells that it reaches. -/
theorem FlagsAdded.of_marked (last : after.lastEntry = before.lastEntry)
    (marked : Marked index item cell before after) :
    FlagsAdded index item.load cell before after := by
  refine ⟨last_eq_of_lastEntry_eq last, fun row other different => ?_, fun other differs => ?_⟩
  · cases read : before.decisions.isTaken row other with
    | error stray => exact Decisions.isTaken_eq_error read _
    | ok flag =>
      have inside := (Decisions.inside_of_isTaken read).2
      rw [marked row ⟨other, inside⟩, if_neg fun hit => different hit.1, read]
  · cases read : before.decisions.isTaken index other with
    | error stray =>
      rw [read, Decisions.isTaken_eq_error read] at differs
      exact absurd rfl differs
    | ok flag =>
      have inside := (Decisions.inside_of_isTaken read).2
      have flags := marked index ⟨other, inside⟩
      split at flags
      · next hit =>
        obtain ⟨-, ⟨reached, early⟩, -⟩ := hit
        rw [flags, read] at differs
        cases flag with
        | true => exact absurd rfl differs
        | false => exact ⟨reached.2, early, rfl, flags⟩
      · exact absurd flags differs

/-- An item that cannot be entered stops in a cell that it reaches. -/
theorem FlagsAdded.of_advance
    (stopped : table.advance index item = (aborted, some (.refused (.valueOverflow failed cell)))) :
    failed = index ∧ item.Reaches cell ∧ cell < capacity + 1 ∧
      FlagsAdded index item.load cell table aborted := by
  have outcome := advance_outcome index item table
  rw [stopped] at outcome
  cases outcome with
  | overflow cell reached offered refused last marked =>
    exact ⟨rfl, reached, cell.isLt, .of_marked last marked⟩

/-- The items before the one that cannot be entered make a filling of their own. -/
theorem exists_shorter_of_fillFrom
    (stopped : table.fillFrom index items =
      (aborted, some (.refused (.valueOverflow failed cell)))) :
    ∃ position item filled, failed = index + position ∧ items[position]? = some item ∧
      item.Reaches cell ∧ cell < capacity + 1 ∧
      table.fillFrom index (items.take position) = (filled, none) ∧
      FlagsAdded failed item.load cell filled aborted := by
  obtain ⟨position, item, filled, member, shorter, ended⟩ := exists_advance_of_stopped stopped
  obtain ⟨rfl, reached, inside, flags⟩ := FlagsAdded.of_advance ended
  exact ⟨position, item, filled, rfl, member, reached, inside, shorter, flags⟩

/-- A filling that ends with an overflow leaves the rows of the shorter filling that stops before the
item it names, and the flags of that filling with more of them set in the row of that item alone,
between its weight and the cell that it names. The shorter filling is completed. -/
theorem fill_overflow_leaves_shorter
    (stopped : table.fill items = (aborted, some (.refused (.valueOverflow failed cell)))) :
    ∃ item, items[failed]? = some item ∧ 0 ≤ item.weight.toInt ∧ item.weight.toInt ≤ cell ∧
      cell < capacity + 1 ∧
      ∃ filled, table.fill (items.take failed) = (filled, none) ∧ aborted.last = filled.last ∧
        (∀ row other, row ≠ failed →
          aborted.decisions.isTaken row other = filled.decisions.isTaken row other) ∧
        ∀ other, aborted.decisions.isTaken failed other ≠ filled.decisions.isTaken failed other →
          item.weight.toInt ≤ other ∧ other < cell ∧
            filled.decisions.isTaken failed other = .ok false ∧
            aborted.decisions.isTaken failed other = .ok true := by
  obtain ⟨position, item, filled, named, member, reached, inside, shorter, flags⟩ :=
    exists_shorter_of_fillFrom stopped
  rw [Nat.zero_add] at named
  subst named
  have weight := Item.cast_load reached.1
  refine ⟨item, member, ?_, ?_, inside, filled, shorter, flags.last, flags.otherRows, ?_⟩
  · exact weight ▸ Int.natCast_nonneg item.load
  · exact weight ▸ Int.ofNat_le.mpr reached.2
  · intro other differs
    obtain ⟨late, early, unset, set⟩ := flags.added other differs
    exact ⟨weight ▸ Int.ofNat_le.mpr late, early, unset, set⟩

/-- The first item is entered. The second one is taken in two cells before its sum is too large in the
third, where the first item has made room for it. -/
theorem fill_overflow_leaves_shorter_two_flags :
    ∃ table filled aborted : Table 2 3,
      table.last = ⟨[0, 5, 3, 0], some [8, 9, 8, 9]⟩ ∧
      table.fill [⟨2, 6⟩, ⟨1, 2147483642⟩] = (aborted, some (.refused (.valueOverflow 1 3))) ∧
      table.fill [⟨2, 6⟩] = (filled, none) ∧
      filled.last = ⟨[0, 5, 6, 11], some [8, 9, 10, 11]⟩ ∧ aborted.last = filled.last ∧
      filled.decisions.isTaken 1 2 = .ok false ∧ aborted.decisions.isTaken 1 2 = .ok true ∧
      aborted.decisions.isTaken 0 2 = filled.decisions.isTaken 0 2 ∧
      ∀ other, aborted.decisions.isTaken 1 other ≠ filled.decisions.isTaken 1 other →
        (1 : Int) ≤ other ∧ other < 3 := by
  obtain ⟨table, filled, aborted, before, stopped, completed, after, clear, set⟩ :
      ∃ table filled aborted : Table 2 3,
        table.last = ⟨[0, 5, 3, 0], some [8, 9, 8, 9]⟩ ∧
        table.fill [⟨2, 6⟩, ⟨1, 2147483642⟩] = (aborted, some (.refused (.valueOverflow 1 3))) ∧
        table.fill [⟨2, 6⟩] = (filled, none) ∧
        filled.last = ⟨[0, 5, 6, 11], some [8, 9, 10, 11]⟩ ∧
        filled.decisions.isTaken 1 2 = .ok false ∧ aborted.decisions.isTaken 1 2 = .ok true :=
    ⟨⟨⟨#v[0, 5, 3, 0], #v[7, 7, 7, 7]⟩, some ⟨#v[8, 9, 8, 9], #v[1, 1, 1, 1]⟩, .blank⟩,
      _, _, rfl, rfl, rfl, rfl, rfl, rfl⟩
  obtain ⟨item, found, -, -, -, shorter, ended, rows, others, added⟩ :=
    fill_overflow_leaves_shorter stopped
  obtain rfl : ⟨1, 2147483642⟩ = item := Option.some.inj found
  obtain rfl : filled = shorter := congrArg Prod.fst (completed.symm.trans ended)
  exact ⟨table, filled, aborted, before, stopped, completed, after, rows, clear, set,
    others 0 2 (by decide), fun other differs => ⟨(added other differs).1, (added other differs).2.1⟩⟩

end Knapsack.Table
