import Knapsack.Table.Fill

/-!
# What one item does to a table

An item offers its sum to the cells of the next rows one after the other. `Swept` says what has
happened once the cells from `start` up to `stop` have had their offer: the last rows are as before,
each of these cells holds the better of its entry and its offer, and its flag is set exactly if the
offer was better. One offer extends this by one cell, so `Swept.sweep` follows by induction on the
number of cells left and says in one statement how a sweep can end; `advance_outcome` says the same
of a whole item. A filling is stopped by one item (`exists_advance_of_stopped`).

Nothing here depends on what the rows mean: the tables are arbitrary.
-/

namespace Knapsack

/-- The entries of a row by cell. -/
abbrev Row (capacity : Nat) := Fin (capacity + 1) → Entry

/-- The cell that is `load` below, or the first. -/
def below {capacity : Nat} (load : Nat) (cell : Fin (capacity + 1)) : Fin (capacity + 1) :=
  ⟨cell - load, Nat.lt_of_le_of_lt (Nat.sub_le _ _) cell.isLt⟩

/-- What an item of this value and load can make of the row in `cell`. -/
def Row.offer? {capacity : Nat} (row : Row capacity) (value : Int32) (load : Nat)
    (cell : Fin (capacity + 1)) : Option Entry :=
  (row (below load cell)).add? value load

/-- Whether an offer is made and beats the entry. -/
def Entry.yields (entry : Entry) : Option Entry → Bool
  | none => false
  | some offer => offer.beats entry

/-- The offer if it beats the entry, and the entry otherwise. -/
def Entry.settle (entry : Entry) : Option Entry → Entry
  | none => entry
  | some offer => if offer.beats entry then offer else entry

namespace Table

variable {rows capacity : Nat}

/-- `after` is `before` once item number `index` was offered to the cells from `start` up to
`stop`. -/
structure Swept (index : Nat) (value : Int32) (load start stop : Nat)
    (before after : Table rows capacity) : Prop where
  last : after.lastEntry = before.lastEntry
  next : ∀ cell : Fin (capacity + 1), after.nextEntry cell =
    if start ≤ cell ∧ cell < stop then
      (before.nextEntry cell).settle (Row.offer? before.lastEntry value load cell)
    else
      before.nextEntry cell
  taken : ∀ (item : Nat) (cell : Fin (capacity + 1)), after.decisions.isTaken item cell =
    if item = index ∧ (start ≤ cell ∧ cell < stop) ∧
        (before.nextEntry cell).yields (Row.offer? before.lastEntry value load cell) then
      .ok true
    else
      before.decisions.isTaken item cell
  tracked : after.tracked = before.tracked

/-- How an item of this load that is offered to all cells from `start` leaves a table. -/
inductive SweepOutcome (index : Nat) (value : Int32) (load start : Nat)
    (before : Table rows capacity) : Table rows capacity × Option Failure → Prop where
  | done {after : Table rows capacity}
      (offered : ∀ cell : Fin (capacity + 1), start ≤ cell →
        Row.offer? before.lastEntry value load cell ≠ none)
      (swept : Swept index value load start (capacity + 1) before after) :
      SweepOutcome index value load start before (after, none)
  | overflow {after : Table rows capacity} (cell : Fin (capacity + 1)) (reached : start ≤ cell)
      (offered : ∀ earlier : Fin (capacity + 1), start ≤ earlier → earlier < cell →
        Row.offer? before.lastEntry value load earlier ≠ none)
      (refused : Row.offer? before.lastEntry value load cell = none)
      (swept : Swept index value load start cell before after) :
      SweepOutcome index value load start before
        (after, some (.refused (.valueOverflow index cell)))
  | stray {after : Table rows capacity} (cell : Fin (capacity + 1)) (reached : start ≤ cell)
      (outside : rows ≤ index)
      (better : (before.nextEntry cell).yields (Row.offer? before.lastEntry value load cell))
      (last : after.lastEntry = before.lastEntry)
      (taken : ∀ (item : Nat) (other : Fin (capacity + 1)),
        after.decisions.isTaken item other = before.decisions.isTaken item other) :
      SweepOutcome index value load start before
        (after, some (.stray ⟨index, cell, rows, capacity + 1⟩))

section Sweeps

variable {index load start : Nat} {value : Int32} {before table : Table rows capacity}
  {cell : Fin (capacity + 1)}

theorem Swept.refl (table : Table rows capacity) :
    Swept index value load start start table table := by
  have never : ∀ cell : Nat, ¬(start ≤ cell ∧ cell < start) := by
    intro cell
    omega
  refine ⟨rfl, fun cell => ?_, fun item cell => ?_, rfl⟩
  · rw [if_neg (never cell)]
  · rw [if_neg fun hit => never cell hit.2.1]

/-- The next cell still holds what it held before the sweep. -/
theorem Swept.nextEntry_stop (swept : Swept index value load start cell before table) :
    table.nextEntry cell = before.nextEntry cell := by
  rw [swept.next, if_neg fun within => Nat.lt_irrefl _ within.2]

/-- Other cells than `cell` do not notice that the range now ends after it. -/
theorem range_succ_iff {other : Fin (capacity + 1)} (different : other ≠ cell) :
    (start ≤ (other : Nat) ∧ (other : Nat) < cell + 1) ↔
      (start ≤ (other : Nat) ∧ (other : Nat) < cell) := by
  have := Fin.val_ne_of_ne different
  omega

/-- An offer that is not better changes nothing. -/
theorem Swept.keep (swept : Swept index value load start cell before table)
    {entry : Entry} (offered : Row.offer? before.lastEntry value load cell = some entry)
    (worse : ¬ entry.beats (before.nextEntry cell)) :
    Swept index value load start (cell + 1) before table := by
  refine ⟨swept.last, fun other => ?_, fun item other => ?_, swept.tracked⟩
  · by_cases same : other = cell
    · subst same
      simp only [swept.nextEntry_stop, offered, Entry.settle, if_neg worse, ite_self]
    · simp only [swept.next, range_succ_iff same]
  · by_cases same : other = cell
    · subst same
      simp only [swept.taken, offered, Entry.yields, worse, Bool.false_eq_true, and_false, if_false]
    · simp only [swept.taken, range_succ_iff same]

/-- A better offer is written into its cell and sets the flag. -/
theorem Swept.take (swept : Swept index value load start cell before table)
    (reached : start ≤ cell) (inside : index < rows) {entry : Entry}
    (offered : Row.offer? before.lastEntry value load cell = some entry)
    (better : entry.beats (before.nextEntry cell)) :
    Swept index value load start (cell + 1) before
      ((table.put cell entry).mark index cell).1 := by
  have within : start ≤ (cell : Nat) ∧ (cell : Nat) < cell + 1 := ⟨reached, Nat.lt_succ_self _⟩
  have fits : entry.weight.isSome = table.tracked := by
    rw [Entry.weight_isSome_of_add? offered, isSome_weight_lastEntry, swept.tracked]
  have marked : ∀ item (other : Fin (capacity + 1)),
      ((table.put cell entry).mark index cell).1.decisions.isTaken item other =
        if item = index ∧ other = cell then .ok true else table.decisions.isTaken item other := by
    intro item other
    show ((table.put cell entry).decisions.mark index cell).1.isTaken item other = _
    rw [Decisions.isTaken_mark _ _ _ ⟨inside, cell.isLt⟩, decisions_put]
    simp only [Fin.ext_iff]
  refine ⟨?_, fun other => ?_, fun item other => ?_, ?_⟩
  · funext other
    rw [lastEntry_mark, lastEntry_put, swept.last]
  · rw [nextEntry_mark, nextEntry_put _ _ _ _ fits]
    by_cases same : other = cell
    · subst same
      simp only [if_true, if_pos within, offered, Entry.settle, if_pos better]
    · simp only [if_neg (Ne.symm same), swept.next, range_succ_iff same]
  · rw [marked]
    by_cases same : other = cell
    · subst same
      simp only [swept.taken, offered, Entry.yields, better, within, and_true, Nat.lt_irrefl,
        and_false, if_false]
    · simp only [same, and_false, if_false, swept.taken, range_succ_iff same]
  · exact (tracked_put table cell entry).trans swept.tracked

/-- Without a row for the item no flag is set. -/
theorem Swept.taken_of_outside (swept : Swept index value load start cell before table)
    (outside : rows ≤ index) (item : Nat) (other : Fin (capacity + 1)) :
    table.decisions.isTaken item other = before.decisions.isTaken item other := by
  by_cases same : item = index
  · have missing : ¬(item < rows ∧ (other : Nat) < capacity + 1) := by omega
    rw [Decisions.isTaken_of_outside _ missing, Decisions.isTaken_of_outside _ missing]
  · rw [swept.taken, if_neg fun hit => same hit.1]

/-! ## The ways an offer can end -/

theorem offer_refused (level : load ≤ cell)
    (refused : Row.offer? table.lastEntry value load cell = none) :
    table.offer index value (below load cell) cell =
      (table, some (.refused (.valueOverflow index cell))) := by
  have distance : (cell : Nat) - (below load cell : Nat) = load := Nat.sub_sub_self level
  unfold Row.offer? at refused
  simp only [offer, distance, refused]

theorem offer_made (index : Nat) (level : load ≤ cell) {entry : Entry}
    (offered : Row.offer? table.lastEntry value load cell = some entry) :
    table.offer index value (below load cell) cell =
      if entry.beats (table.nextEntry cell) then table.take index cell entry
      else (table, none) := by
  have distance : (cell : Nat) - (below load cell : Nat) = load := Nat.sub_sub_self level
  unfold Row.offer? at offered
  simp only [offer, distance, offered]

/-! ## The sweep -/

theorem sweep_succ_passed {count : Nat} {after : Table rows capacity}
    (within : load + (count + 1) ≤ capacity + 1) (position : (cell : Nat) = capacity - count)
    (passed : table.offer index value (below load cell) cell = (after, none)) :
    table.sweep index value load (count + 1) within =
      after.sweep index value load count (by omega) := by
  have same : cell = ⟨capacity - count, Nat.lt_succ_of_le (Nat.sub_le _ _)⟩ := Fin.ext position
  subst same
  simp only [below] at passed
  simp only [sweep, passed]

theorem sweep_succ_stopped {count : Nat} {after : Table rows capacity} {failure : Failure}
    (within : load + (count + 1) ≤ capacity + 1) (position : (cell : Nat) = capacity - count)
    (stopped : table.offer index value (below load cell) cell = (after, some failure)) :
    table.sweep index value load (count + 1) within = (after, some failure) := by
  have same : cell = ⟨capacity - count, Nat.lt_succ_of_le (Nat.sub_le _ _)⟩ := Fin.ext position
  subst same
  simp only [below] at stopped
  simp only [sweep, stopped]

end Sweeps

/-- Offering an item to the last `count` cells, when the cells before them have had their offer. -/
theorem Swept.sweep {index load start : Nat} {value : Int32} {before : Table rows capacity}
    (count : Nat) (within : load + count ≤ capacity + 1) (table : Table rows capacity)
    (started : start ≤ capacity + 1 - count)
    (offered : ∀ earlier : Fin (capacity + 1), start ≤ earlier → earlier < capacity + 1 - count →
      Row.offer? before.lastEntry value load earlier ≠ none)
    (swept : Swept index value load start (capacity + 1 - count) before table) :
    SweepOutcome index value load start before (table.sweep index value load count within) := by
  -- The number of cells left goes down while the swept range grows upwards by the cell at hand.
  induction count generalizing table with
  | zero => exact .done (fun cell reached => offered cell reached cell.isLt) swept
  | succ count ih =>
    obtain ⟨cell, position⟩ : ∃ cell : Fin (capacity + 1), (cell : Nat) = capacity - count :=
      ⟨⟨capacity - count, by omega⟩, rfl⟩
    have reached : capacity + 1 - (count + 1) = cell := by omega
    have following : capacity + 1 - count = cell + 1 := by omega
    have level : load ≤ cell := by omega
    rw [reached] at started offered swept
    simp only [following] at ih
    cases outcome : Row.offer? before.lastEntry value load cell with
    | none =>
      rw [← swept.last] at outcome
      rw [sweep_succ_stopped within position (offer_refused level outcome)]
      rw [swept.last] at outcome
      exact .overflow cell started offered outcome swept
    | some entry =>
      have advanced : ∀ earlier : Fin (capacity + 1), start ≤ earlier → earlier < cell.val + 1 →
          Row.offer? before.lastEntry value load earlier ≠ none := by
        intro earlier later early
        by_cases same : earlier = cell
        · rw [same, outcome]
          exact Option.some_ne_none entry
        · have := Fin.val_ne_of_ne same
          exact offered earlier later (by omega)
      have made := offer_made index level (swept.last ▸ outcome)
      by_cases better : entry.beats (before.nextEntry cell)
      · rw [swept.nextEntry_stop, if_pos better] at made
        rcases Nat.lt_or_ge index rows with inside | outside
        · rw [take_of_inside cell entry table inside] at made
          rw [sweep_succ_passed within position made]
          exact ih (by omega) _ (by omega) advanced (swept.take started inside outcome better)
        · -- The better entry is written before its flag is refused.
          rw [take_of_outside cell entry table outside] at made
          rw [sweep_succ_stopped within position made]
          have unmarked : ∀ (item : Nat) (other : Fin (capacity + 1)),
              (table.put cell entry).decisions.isTaken item other =
                before.decisions.isTaken item other := by
            intro item other
            rw [decisions_put, swept.taken_of_outside outside]
          refine .stray cell started outside ?_ ?_ unmarked
          · rw [outcome]
            exact better
          · rw [← swept.last]
            exact funext (lastEntry_put table cell · entry)
      · rw [swept.nextEntry_stop, if_neg better] at made
        rw [sweep_succ_passed within position made]
        exact ih (by omega) _ (by omega) advanced (swept.keep outcome better)

/-! ## The whole item -/

end Table

/-- What an item can make of the row in a cell that it reaches. -/
def Row.extend? {capacity : Nat} (row : Row capacity) (item : Item) (cell : Fin (capacity + 1)) :
    Option Entry :=
  row.offer? item.value item.load cell

namespace Table

/-- `after` has the flags of `before`, and those of item number `index` set where the item improved
on a cell before `stop`. -/
def Marked (index : Nat) (item : Item) (stop : Nat) (before after : Table rows capacity) : Prop :=
  ∀ (other : Nat) (cell : Fin (capacity + 1)), after.decisions.isTaken other cell =
    if other = index ∧ (item.Reaches cell ∧ cell < stop) ∧
        (before.lastEntry cell).yields (Row.extend? before.lastEntry item cell) then
      .ok true
    else
      before.decisions.isTaken other cell

/-- How a table is left when its rows are advanced over an item: with new last rows, or with the old
ones and the first cell at which the item could not be entered. -/
inductive AdvanceOutcome (index : Nat) (item : Item) (before : Table rows capacity) :
    Table rows capacity × Option Failure → Prop where
  | done {after : Table rows capacity}
      (offered : ∀ cell : Fin (capacity + 1), item.Reaches cell →
        Row.extend? before.lastEntry item cell ≠ none)
      (last : ∀ cell : Fin (capacity + 1), after.lastEntry cell =
        if item.Reaches cell then
          (before.lastEntry cell).settle (Row.extend? before.lastEntry item cell)
        else
          before.lastEntry cell)
      (marked : Marked index item (capacity + 1) before after)
      (tracked : after.tracked = before.tracked) :
      AdvanceOutcome index item before (after, none)
  | overflow {after : Table rows capacity} (cell : Fin (capacity + 1))
      (reached : item.Reaches cell)
      (offered : ∀ earlier : Fin (capacity + 1), item.Reaches earlier → earlier < cell →
        Row.extend? before.lastEntry item earlier ≠ none)
      (refused : Row.extend? before.lastEntry item cell = none)
      (last : after.lastEntry = before.lastEntry)
      (marked : Marked index item cell before after)
      (tracked : after.tracked = before.tracked) :
      AdvanceOutcome index item before (after, some (.refused (.valueOverflow index cell)))
  | stray {after : Table rows capacity} (cell : Fin (capacity + 1))
      (reached : item.Reaches cell)
      (outside : rows ≤ index)
      (better : (before.lastEntry cell).yields (Row.extend? before.lastEntry item cell))
      (last : after.lastEntry = before.lastEntry)
      (taken : ∀ (other : Nat) (cell : Fin (capacity + 1)),
        after.decisions.isTaken other cell = before.decisions.isTaken other cell) :
      AdvanceOutcome index item before
        (after, some (.stray ⟨index, cell, rows, capacity + 1⟩))

theorem advanceOutcome_of_unreached {index : Nat} {item : Item} (before : Table rows capacity)
    (unreached : ∀ cell : Fin (capacity + 1), ¬ item.Reaches cell) :
    AdvanceOutcome index item before (before.carry.swap, none) := by
  refine .done (fun cell reached => absurd reached (unreached cell)) (fun cell => ?_)
    (fun other cell => ?_) ?_
  · rw [lastEntry_swap, nextEntry_carry, if_neg (unreached cell)]
  · rw [if_neg fun hit => unreached cell hit.2.1.1]
    rfl
  · rw [tracked_swap, tracked_carry]

theorem Swept.marked {index : Nat} {item : Item} {stop : Nat} {before after : Table rows capacity}
    (nonneg : 0 ≤ item.weight)
    (swept : Swept index item.value item.load item.load stop before.carry after) :
    Marked index item stop before after := by
  intro other cell
  have reaches : item.Reaches cell ↔ item.load ≤ cell := and_iff_right nonneg
  have kept : before.carry.decisions = before.decisions := rfl
  rw [swept.taken, lastEntry_carry', nextEntry_carry, kept]
  simp only [reaches, Row.extend?]

theorem advance_outcome (index : Nat) (item : Item) (before : Table rows capacity) :
    AdvanceOutcome index item before (before.advance index item) := by
  -- An item of negative weight and one that is too large both leave all cells as they were.
  by_cases nonneg : 0 ≤ item.weight
  case neg =>
    simp only [advance, Item.load?_of_neg nonneg]
    exact advanceOutcome_of_unreached before fun cell reached => nonneg reached.1
  case pos =>
    by_cases fits : item.load ≤ capacity
    case neg =>
      simp only [advance, Item.load?_of_nonneg nonneg, dif_neg fits]
      apply advanceOutcome_of_unreached
      rintro cell ⟨-, reached⟩
      omega
    case pos =>
      have whole : capacity + 1 - (capacity + 1 - item.load) = item.load := by omega
      have outcome : SweepOutcome index item.value item.load item.load before.carry
          (before.carry.sweep index item.value item.load (capacity + 1 - item.load) (by omega)) := by
        refine Swept.sweep _ _ _ (by omega) (fun earlier reached early => ?_) ?_
        · omega
        · rw [whole]
          exact Swept.refl before.carry
      simp only [advance, Item.load?_of_nonneg nonneg, dif_pos fits]
      generalize before.carry.sweep _ _ _ _ _ = result at outcome
      cases outcome with
      | @done after offered swept =>
        rw [lastEntry_carry'] at offered
        refine .done (fun cell reached => offered cell reached.2) (fun cell => ?_)
          (fun other cell => swept.marked nonneg other cell) ?_
        · have reaches : item.Reaches cell ↔ item.load ≤ cell ∧ (cell : Nat) < capacity + 1 :=
            (and_iff_right nonneg).trans (and_iff_left cell.isLt).symm
          rw [lastEntry_swap, swept.next, lastEntry_carry', nextEntry_carry]
          simp only [reaches, Row.extend?]
        · rw [tracked_swap, swept.tracked, tracked_carry]
      | overflow cell reached offered refused swept =>
        rw [lastEntry_carry'] at offered refused
        refine .overflow cell ⟨nonneg, reached⟩ (fun earlier reached => offered earlier reached.2)
          refused ?_ (swept.marked nonneg) ?_
        · rw [swept.last, lastEntry_carry']
        · rw [swept.tracked, tracked_carry]
      | stray cell reached outside better last taken =>
        rw [lastEntry_carry', nextEntry_carry] at better
        rw [lastEntry_carry'] at last
        exact .stray cell ⟨nonneg, reached⟩ outside better last taken

/-! ## The filling -/

/-- A filling that is stopped is stopped at one item, after it has entered those before. -/
theorem exists_advance_of_stopped {index : Nat} {items : List Item}
    {table stopped : Table rows capacity} {failure : Failure}
    (ended : table.fillFrom index items = (stopped, some failure)) :
    ∃ position item before, items[position]? = some item ∧
      table.fillFrom index (items.take position) = (before, none) ∧
      before.advance (index + position) item = (stopped, some failure) := by
  induction items generalizing table index with
  | nil => cases ended
  | cons item items ih =>
    rw [fillFrom] at ended
    cases advanced : table.advance index item with
    | mk after other =>
      rw [advanced] at ended
      cases other with
      | none =>
        obtain ⟨position, found, before, member, entered, stop⟩ := ih ended
        refine ⟨position + 1, found, before, member, ?_, ?_⟩
        · rw [List.take_succ_cons, fillFrom, advanced]
          exact entered
        · rwa [Nat.add_comm position, ← Nat.add_assoc]
      | some other =>
        cases ended
        exact ⟨0, item, table, rfl, rfl, advanced⟩

end Table

end Knapsack
