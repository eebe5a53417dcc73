import Knapsack.Proofs.Buffers.Steps
import Knapsack.Proofs.Table.Marks
import Knapsack.Proofs.Table.Recurrence

/-!
# What every step keeps

Steps on a table may come in any order, and each may be stopped: a row or a cell may not fit, a sum
may be no value, a flag may be asked for that the matrix does not have. `StepOutcome` says once how a
step can end and what it keeps then, so the same follows for every sequence of steps: weights stay
tracked or untracked, no flag is cleared, and what stops a step is in the step itself (`Step.Fits`)
or in the flag it asks for (`Strays`).

`run_keeps_shape` says this of the buffers that are made for a table, whose lengths nothing but the
steps themselves could keep.
-/

namespace Knapsack

/-- Both rows have this many cells. -/
structure RowBuffers.Wide {α : Type} (width : Nat) (rows : RowBuffers α) : Prop where
  last : rows.last.size = width
  next : rows.next.size = width

/-- A flag that is set in the first is set in the second. -/
def FlagBuffer.KeptIn (before after : FlagBuffer) : Prop :=
  ∀ place : Nat, before.flags[place]? = some true → after.flags[place]? = some true

/-- All rows have the width, and there is a flag for each item and each cell. -/
structure Buffers.Shaped (count width : Nat) (tracked : Bool) (buffers : Buffers) : Prop where
  dimensions : buffers.width = width ∧ buffers.decisions.rows = count ∧
    buffers.decisions.width = width
  values : buffers.values.Wide width
  tracked : buffers.weights.isSome = tracked
  weights : ∀ rows ∈ buffers.weights, rows.Wide width
  flags : buffers.decisions.flags.size = count * width

namespace Table

/-- Whether the rows that are loaded have the width, and a cell that is written is one of a row. -/
def Step.Fits (width : Nat) (tracked : Bool) : Step → Prop
  | .load values weights => values.length = width ∧ (tracked = true → weights.length = width)
  | .poke cell _ => cell < width
  | _ => True

def Reply.isAnswer : Reply → Bool
  | .misfit _ => false
  | .failed _ => false
  | _ => true

variable {rows capacity : Nat}

/-- Whether the item makes of the cell that is its weight below something better than what the last
rows hold in the cell. -/
def Improves (table : Table rows capacity) (item : Item) (cell : Fin (capacity + 1)) : Prop :=
  item.Reaches cell ∧
    ((table.holdings (below item.load cell)).withItem item).IsBetter (table.holdings cell)

/-- A step, and the flag that it asks for although the matrix does not have it. -/
inductive Strays (table : Table rows capacity) : Step → StrayCell → Prop where
  | mark {item cell : Nat} (outside : rows ≤ item ∨ capacity + 1 ≤ cell) :
      Strays table (.mark item cell) ⟨item, cell, rows, capacity + 1⟩
  | isTaken {item cell : Nat} (outside : rows ≤ item ∨ capacity + 1 ≤ cell) :
      Strays table (.isTaken item cell) ⟨item, cell, rows, capacity + 1⟩
  | fill {items : List Item} {position : Nat} {item : Item} {cell : Fin (capacity + 1)}
      {before : Table rows capacity} (member : items[position]? = some item)
      (beyond : rows ≤ position) (entered : table.fill (items.take position) = (before, none))
      (improves : before.Improves item cell) :
      Strays table (.fill items) ⟨position, cell, rows, capacity + 1⟩
  | decisions {count item cell : Nat} (asked : item < count) (beyond : rows ≤ item) :
      Strays table (.decisions count) ⟨item, cell, rows, capacity + 1⟩
  | walk {items : List Item} {start : Terminal} {item cell : Nat}
      (outside : rows ≤ item ∨ capacity + 1 ≤ cell) :
      Strays table (.walk items start) ⟨item, cell, rows, capacity + 1⟩

/-- Weights are tracked after as before, and no flag is cleared. -/
structure Kept (before after : Table rows capacity) : Prop where
  tracked : after.tracked = before.tracked
  flags : ∀ item cell, before.decisions.isTaken item cell = .ok true →
    after.decisions.isTaken item cell = .ok true

/-- How a step can end, and what it keeps then. -/
inductive StepOutcome (table : Table rows capacity) (step : Step) :
    Table rows capacity × Reply → Prop where
  | done {after : Table rows capacity} {reply : Reply}
      (fits : step.Fits (capacity + 1) table.tracked) (answer : reply.isAnswer)
      (kept : table.Kept after) : StepOutcome table step (after, reply)
  | misfit {after : Table rows capacity} {misfit : Misfit}
      (unfit : ¬ step.Fits (capacity + 1) table.tracked) (kept : table.Kept after) :
      StepOutcome table step (after, .misfit misfit)
  | refused {after : Table rows capacity} {cause : Refusal}
      (fits : step.Fits (capacity + 1) table.tracked) (kept : table.Kept after) :
      StepOutcome table step (after, .failed (.refused cause))
  | stray {after : Table rows capacity} {stray : StrayCell}
      (fits : step.Fits (capacity + 1) table.tracked) (strays : table.Strays step stray)
      (kept : table.Kept after) : StepOutcome table step (after, .failed (.stray stray))

variable {table before after last : Table rows capacity} {index item cell : Nat}

/-! ## What is kept -/

theorem Kept.refl (table : Table rows capacity) : table.Kept table :=
  ⟨rfl, fun _ _ set => set⟩

theorem Kept.trans (first : before.Kept after) (later : after.Kept last) : before.Kept last :=
  ⟨later.tracked.trans first.tracked,
    fun item cell set => later.flags item cell (first.flags item cell set)⟩

theorem Kept.of_decisions_eq (tracked : after.tracked = before.tracked)
    (same : after.decisions = before.decisions) : before.Kept after :=
  ⟨tracked, fun _ _ set => same ▸ set⟩

theorem Kept.of_mark (table : Table rows capacity) (item cell : Nat) :
    table.Kept (table.mark item cell).1 := by
  refine ⟨rfl, fun other otherCell set => ?_⟩
  show (table.decisions.mark item cell).1.isTaken other otherCell = .ok true
  by_cases inside : item < rows ∧ cell < capacity + 1
  · rw [Decisions.isTaken_mark _ _ _ inside, set, ite_self]
  · rw [Decisions.mark_of_outside _ inside]
    exact set

/-- The flags of an item that is entered, or stopped at some cell. -/
theorem Marked.kept {stop : Nat} {entered : Item} (marked : Marked index entered stop before after)
    (tracked : after.tracked = before.tracked) : before.Kept after := by
  refine ⟨tracked, fun item cell set => ?_⟩
  have inside := (Decisions.inside_of_isTaken set).2
  rw [marked item ⟨cell, inside⟩, set, ite_self]

theorem Kept.of_advance (table : Table rows capacity) (index : Nat) (item : Item) :
    table.Kept (table.advance index item).1 := by
  have outcome := advance_outcome index item table
  generalize table.advance index item = result at outcome
  cases outcome with
  | done offered last marked tracked => exact marked.kept tracked
  | overflow cell reached offered refused last marked tracked => exact marked.kept tracked
  | @stray after cell reached outside better last taken =>
    -- An item without a row of flags sets none, and the rows are not swapped yet.
    refine ⟨?_, fun item other set => ?_⟩
    · rw [← isSome_weight_lastEntry after cell, last, isSome_weight_lastEntry]
    · have inside := (Decisions.inside_of_isTaken set).2
      rw [taken item ⟨other, inside⟩, set]

theorem Kept.of_fillFrom (table : Table rows capacity) (index : Nat) (items : List Item) :
    table.Kept (table.fillFrom index items).1 := by
  induction items generalizing table index with
  | nil => exact .refl table
  | cons item items ih =>
    have advanced := Kept.of_advance table index item
    rw [Table.fillFrom]
    cases ended : table.advance index item with
    | mk after failure =>
      rw [ended] at advanced
      cases failure with
      | none => exact advanced.trans (ih after (index + 1))
      | some failure => exact advanced

/-! ## What stops a step -/

theorem rowOfList_of_length {α : Type} {width : Nat} {entries : List α}
    (same : entries.length = width) :
    rowOfList width entries = .ok ⟨entries.toArray, entries.size_toArray.trans same⟩ :=
  dif_pos (entries.size_toArray.trans same)

theorem rowOfList_of_length_ne {α : Type} {width : Nat} {entries : List α}
    (other : entries.length ≠ width) :
    rowOfList width entries = .error (.length entries.length width) :=
  dif_neg fun same => other (entries.size_toArray.symm.trans same)

theorem StepOutcome.of_load (table : Table rows capacity) (values : List Int32)
    (weights : List UInt64) :
    StepOutcome table (.load values weights) (table.perform (.load values weights)) := by
  obtain ⟨valueRows, pairs, decisions⟩ := table
  by_cases sized : values.length = capacity + 1
  case neg =>
    simp only [perform, load, rowOfList_of_length_ne sized]
    exact .misfit (fun fits => sized fits.1) (.refl _)
  case pos =>
    cases pairs with
    | none =>
      simp only [perform, load, rowOfList_of_length sized]
      exact .done ⟨sized, fun tracked => absurd tracked Bool.false_ne_true⟩ rfl
        (.of_decisions_eq rfl rfl)
    | some pair =>
      by_cases weighed : weights.length = capacity + 1
      · simp only [perform, load, rowOfList_of_length sized, rowOfList_of_length weighed]
        exact .done ⟨sized, fun _ => weighed⟩ rfl (.of_decisions_eq rfl rfl)
      · simp only [perform, load, rowOfList_of_length sized, rowOfList_of_length_ne weighed]
        exact .misfit (fun fits => weighed (fits.2 rfl)) (.of_decisions_eq rfl rfl)

theorem StepOutcome.of_poke (table : Table rows capacity) (cell : Nat) (entry : Entry) :
    StepOutcome table (.poke cell entry) (table.perform (.poke cell entry)) := by
  by_cases inside : cell < capacity + 1
  · simp only [perform, poke, dif_pos inside]
    exact .done inside rfl (.of_decisions_eq (tracked_put _ _ _) (decisions_put _ _ _))
  · simp only [perform, poke, dif_neg inside]
    exact .misfit inside (.refl _)

theorem stray_of_isTaken {decisions : Decisions rows (capacity + 1)} {stray : StrayCell}
    (missing : decisions.isTaken item cell = .error stray) :
    (rows ≤ item ∨ capacity + 1 ≤ cell) ∧ stray = ⟨item, cell, rows, capacity + 1⟩ := by
  unfold Decisions.isTaken at missing
  split at missing
  · cases missing
  · next outside =>
    cases missing
    exact ⟨outside_iff.mpr outside, rfl⟩

theorem StepOutcome.of_mark (table : Table rows capacity) (item cell : Nat) :
    StepOutcome table (.mark item cell) (table.perform (.mark item cell)) := by
  have kept := Kept.of_mark table item cell
  rw [perform_mark, markReply]
  by_cases inside : item < rows ∧ cell < capacity + 1
  · rw [if_pos inside]
    exact .done trivial rfl kept
  · rw [if_neg inside]
    exact .stray trivial (.mark (outside_iff.mpr inside)) kept

theorem StepOutcome.of_isTaken (table : Table rows capacity) (item cell : Nat) :
    StepOutcome table (.isTaken item cell) (table.perform (.isTaken item cell)) := by
  rw [perform]
  cases read : table.decisions.isTaken item cell with
  | ok flag => exact .done trivial rfl (.refl table)
  | error stray =>
    obtain ⟨outside, rfl⟩ := stray_of_isTaken read
    exact .stray trivial (.isTaken outside) (.refl table)

theorem exists_error_of_mapM {α β ε : Type} {f : α → Except ε β} {list : List α} {e : ε}
    (failed : list.mapM f = .error e) : ∃ x ∈ list, f x = .error e := by
  induction list with
  | nil => cases failed
  | cons x list ih =>
    rw [List.mapM_cons] at failed
    cases first : f x with
    | error other =>
      rw [first] at failed
      cases failed
      exact ⟨x, List.mem_cons_self, first⟩
    | ok y =>
      rw [first] at failed
      cases rest : list.mapM f with
      | error other =>
        rw [rest] at failed
        cases failed
        obtain ⟨z, member, found⟩ := ih rest
        exact ⟨z, List.mem_cons_of_mem x member, found⟩
      | ok ys =>
        rw [rest] at failed
        cases failed

theorem StepOutcome.of_decisions (table : Table rows capacity) (count : Nat) :
    StepOutcome table (.decisions count) (table.perform (.decisions count)) := by
  rw [perform]
  cases read : table.decisions.firstRows count with
  | ok flags => exact .done trivial rfl (.refl table)
  | error stray =>
    obtain ⟨item, asked, failed⟩ := exists_error_of_mapM read
    obtain ⟨cell, present, missing⟩ := exists_error_of_mapM failed
    obtain ⟨outside, rfl⟩ := stray_of_isTaken missing
    have beyond := outside.resolve_right (Nat.not_le_of_lt (List.mem_range.mp present))
    exact .stray trivial (.decisions (List.mem_range.mp asked) beyond) (.refl table)

theorem exists_stray_of_walk {decisions : Decisions rows (capacity + 1)} {stray : StrayCell}
    {below : List (Item × Nat)} {found : List Nat}
    (failed : decisions.walk below cell found = .error stray) :
    ∃ item cell, decisions.isTaken item cell = .error stray := by
  induction below generalizing cell found with
  | nil => cases failed
  | cons last below ih =>
    obtain ⟨item, index⟩ := last
    rw [Decisions.walk] at failed
    cases read : decisions.isTaken index cell with
    | error other =>
      rw [read] at failed
      cases failed
      exact ⟨index, cell, read⟩
    | ok flag =>
      rw [read] at failed
      cases flag with
      | true => exact ih failed
      | false => exact ih failed

theorem StepOutcome.of_walk (table : Table rows capacity) (items : List Item) (start : Terminal) :
    StepOutcome table (.walk items start) (table.perform (.walk items start)) := by
  rw [perform, Decisions.solution, Decisions.selection]
  cases walked : table.decisions.walk items.zipIdx.reverse start.cell [] with
  | error stray =>
    obtain ⟨item, cell, missing⟩ := exists_stray_of_walk walked
    obtain ⟨outside, rfl⟩ := stray_of_isTaken missing
    exact .stray trivial (.walk outside) (.refl table)
  | ok selected =>
    simp only
    cases checkBuffer .selectedIndices 8 selected.length with
    | error cause => exact .refused trivial (.refl table)
    | ok => exact .done trivial rfl (.refl table)

/-- An offer that beats the entry of a cell is better than what the cell holds. -/
theorem improves_of_yields {item : Item} {cell : Fin (capacity + 1)} (reached : item.Reaches cell)
    (better : (table.lastEntry cell).yields (Row.extend? table.lastEntry item cell)) :
    table.Improves item cell := by
  refine ⟨reached, ?_⟩
  cases made : Row.extend? table.lastEntry item cell with
  | none =>
    rw [made] at better
    cases better
  | some offer =>
    rw [made] at better
    have holding := Entry.holding_add? made
    have isBetter := Entry.beats_iff_isBetter.mp better
    rw [holding] at isBetter
    exact isBetter

theorem strays_of_fill {items : List Item} {stray : StrayCell}
    (ended : table.fill items = (after, some (.stray stray))) :
    table.Strays (.fill items) stray := by
  obtain ⟨position, item, before, member, entered, stopped⟩ := exists_advance_of_stopped ended
  have outcome := advance_outcome (0 + position) item before
  rw [stopped] at outcome
  cases outcome with
  | stray cell reached outside better =>
    rw [Nat.zero_add] at outside ⊢
    exact .fill member outside entered (improves_of_yields reached better)

theorem StepOutcome.of_fill (table : Table rows capacity) (items : List Item) :
    StepOutcome table (.fill items) (table.perform (.fill items)) := by
  have kept := Kept.of_fillFrom table 0 items
  rw [perform, fill]
  cases ended : table.fillFrom 0 items with
  | mk after failure =>
    rw [ended] at kept
    cases failure with
    | none => exact .done trivial rfl kept
    | some failure =>
      cases failure with
      | refused cause => exact .refused trivial kept
      | stray stray => exact .stray trivial (strays_of_fill ended) kept

theorem perform_outcome (table : Table rows capacity) (step : Step) :
    StepOutcome table step (table.perform step) := by
  cases step with
  | load values weights => exact .of_load table values weights
  | poke cell entry => exact .of_poke table cell entry
  | carry => exact .done trivial rfl (.of_decisions_eq (tracked_carry table) rfl)
  | swap => exact .done trivial rfl (.of_decisions_eq (tracked_swap table) rfl)
  | mark item cell => exact .of_mark table item cell
  | isTaken item cell => exact .of_isTaken table item cell
  | decisions count => exact .of_decisions table count
  | fill items => exact .of_fill table items
  | terminal => exact .done trivial rfl (.refl table)
  | walk items start => exact .of_walk table items start

/-! ## What follows for a step and for a run -/

theorem perform_eq_misfit_iff (table : Table rows capacity) (step : Step) :
    (∃ misfit, (table.perform step).2 = .misfit misfit) ↔
      ¬ step.Fits (capacity + 1) table.tracked := by
  have outcome := perform_outcome table step
  generalize table.perform step = result at outcome
  cases outcome with
  | done fits answer kept =>
    refine iff_of_false ?_ (not_not_intro fits)
    rintro ⟨misfit, rfl⟩
    cases answer
  | misfit unfit kept => exact iff_of_true ⟨_, rfl⟩ unfit
  | refused fits kept =>
    refine iff_of_false ?_ (not_not_intro fits)
    rintro ⟨misfit, ⟨⟩⟩
  | stray fits strays kept =>
    refine iff_of_false ?_ (not_not_intro fits)
    rintro ⟨misfit, ⟨⟩⟩

theorem strays_of_perform {step : Step} {stray : StrayCell}
    (told : (table.perform step).2 = .failed (.stray stray)) : table.Strays step stray := by
  have outcome := perform_outcome table step
  generalize table.perform step = result at told outcome
  cases outcome with
  | done fits answer kept =>
    cases told
    cases answer
  | misfit unfit kept => cases told
  | refused fits kept => cases told
  | stray fits strays kept =>
    cases told
    exact strays

theorem Kept.of_perform (table : Table rows capacity) (step : Step) :
    table.Kept (table.perform step).1 := by
  have outcome := perform_outcome table step
  generalize table.perform step = result at outcome
  cases outcome <;> assumption

theorem Kept.of_performAll (table : Table rows capacity) (steps : List Step) :
    table.Kept (table.performAll steps).1 := by
  induction steps generalizing table with
  | nil => exact .refl table
  | cons step steps ih => exact (Kept.of_perform table step).trans (ih _)

/-! ## The buffers -/

theorem shaped_buffers (table : Table rows capacity) :
    table.buffers.Shaped rows (capacity + 1) table.tracked := by
  have wide : ∀ {α : Type} (pair : RowPair α (capacity + 1)), pair.buffers.Wide (capacity + 1) :=
    fun pair => ⟨pair.last.size_toArray, pair.next.size_toArray⟩
  refine ⟨⟨rfl, rfl, rfl⟩, wide table.values, Option.isSome_map, fun pair found => ?_,
    table.decisions.flags.size_toArray⟩
  obtain ⟨weights, -, rfl⟩ := Option.map_eq_some_iff.mp found
  exact wide weights

/-- Every place in the buffer is that of some item and some cell. -/
theorem Kept.keptIn_buffers (kept : before.Kept after) :
    before.buffers.decisions.KeptIn after.buffers.decisions := by
  intro place set
  have flag (table : Table rows capacity) (inside : place < rows * (capacity + 1)) :
      table.decisions.isTaken (place / (capacity + 1)) (place % (capacity + 1)) = .ok true ↔
        table.buffers.decisions.flags[place]? = some true := by
    have cell := Nat.mod_lt place (Nat.succ_pos capacity)
    have item := Nat.div_lt_of_lt_mul (Nat.mul_comm rows _ ▸ inside)
    rw [Decisions.isTaken_eq_ok_iff _ ⟨item, cell⟩, Nat.div_add_mod', Vector.getElem?_toList,
      ← Vector.getElem?_toArray]
    rfl
  have inside : place < rows * (capacity + 1) := by
    have reached := (Array.getElem?_eq_some_iff.mp set).1
    exact before.decisions.flags.size_toArray ▸ reached
  exact (flag after inside).mp (kept.flags _ _ ((flag before inside).mpr set))

variable {count : Nat} {tracked : Bool}

theorem allocate_buffers (count capacity : Nat) (tracked : Bool) :
    Buffers.allocate count capacity tracked = (allocate count capacity tracked).map buffers := by
  unfold Buffers.allocate allocate
  cases checkDimensions count capacity with
  | error cause => rfl
  | ok =>
    cases checkBuffers count capacity tracked with
    | error cause => rfl
    | ok => cases tracked <;> rfl

/-- The rows are buffers, and these are much smaller than the words. -/
theorem addressed_of_allocate {made : Table count capacity}
    (allocated : allocate count capacity tracked = .ok made) : Addressed count capacity := by
  obtain ⟨addressable, fits⟩ := exists_allocate_iff.mp ⟨made, allocated⟩
  have rowSize := (find?_requests_eq_none_iff.mp fits).1
  refine ⟨?_, Nat.le_of_lt addressable.flags⟩
  unfold bufferLimit at rowSize
  unfold wordCount
  omega

theorem perform_mark_buffers_iff (addressed : Addressed rows capacity)
    (table : Table rows capacity) :
    table.buffers.perform (.mark item cell) =
        (table.buffers, .failed (.stray ⟨item, cell, rows, capacity + 1⟩)) ↔
      rows ≤ item ∨ capacity + 1 ≤ cell := by
  rw [table.perform_buffers addressed]
  constructor
  · intro told
    cases strays_of_perform (Prod.mk.inj told).2 with
    | mark outside => exact outside
  · intro outside
    rw [(perform_mark_eq_stray_iff table).mpr outside]

theorem perform_isTaken_buffers_iff (addressed : Addressed rows capacity)
    (table : Table rows capacity) :
    table.buffers.perform (.isTaken item cell) =
        (table.buffers, .failed (.stray ⟨item, cell, rows, capacity + 1⟩)) ↔
      rows ≤ item ∨ capacity + 1 ≤ cell := by
  rw [table.perform_buffers addressed]
  constructor
  · intro told
    cases strays_of_perform (Prod.mk.inj told).2 with
    | isTaken outside => exact outside
  · intro outside
    rw [(perform_isTaken_eq_stray_iff table).mpr outside]

/-- A run on buffers that are made is the run on the table that is made. -/
theorem exists_table_of_run {start buffers : Buffers} {replies : List Reply}
    (made : Buffers.allocate count capacity tracked = .ok start) {steps : List Step}
    (ran : start.performAll steps = (buffers, replies)) :
    ∃ new table : Table count capacity, allocate count capacity tracked = .ok new ∧
      new.performAll steps = (table, replies) ∧ table.buffers = buffers ∧
      table.tracked = tracked ∧ Addressed count capacity := by
  rw [allocate_buffers] at made
  cases allocated : allocate count capacity tracked with
  | error cause =>
    rw [allocated] at made
    cases made
  | ok new =>
    rw [allocated] at made
    cases made
    have addressed := addressed_of_allocate allocated
    have kept := Kept.of_performAll new steps
    rw [new.performAll_buffers addressed] at ran
    obtain ⟨same, rfl⟩ := Prod.mk.inj ran
    refine ⟨new, _, rfl, rfl, same, ?_, addressed⟩
    rw [kept.tracked, (blank_of_allocate allocated).1, tracked_blank]

end Table

namespace Buffers

open Table (Step Reply)

variable {count capacity : Nat} {tracked : Bool} {start buffers : Buffers} {replies : List Reply}

/-- The buffers that are made for a table, after any steps on them, whatever these are and however
they ended: all rows have the width, and there is a flag for each item and each cell. A flag that is
set stays set whatever follows. A step is stopped by a row of the wrong length or a missing cell
exactly if it brings this row or names this cell. A mark or a reading of a flag is refused exactly
outside the matrix, and a filling only where an item without a row of flags improves a cell, once the
items before it are entered. The steps on a table do the same and give the same answers. -/
theorem run_keeps_shape (made : allocate count capacity tracked = .ok start) (steps : List Step)
    (ran : start.performAll steps = (buffers, replies)) :
    buffers.Shaped count (capacity + 1) tracked ∧
      (∀ more, buffers.decisions.KeptIn (buffers.performAll more).1.decisions) ∧
      (∀ step, (∃ misfit, (buffers.perform step).2 = .misfit misfit) ↔
        ¬ step.Fits (capacity + 1) tracked) ∧
      (∀ item cell,
        (buffers.perform (.mark item cell) =
            (buffers, .failed (.stray ⟨item, cell, count, capacity + 1⟩)) ↔
          count ≤ item ∨ capacity + 1 ≤ cell) ∧
        (buffers.perform (.isTaken item cell) =
            (buffers, .failed (.stray ⟨item, cell, count, capacity + 1⟩)) ↔
          count ≤ item ∨ capacity + 1 ≤ cell)) ∧
      ∃ new table : Table count capacity, Table.allocate count capacity tracked = .ok new ∧
        new.performAll steps = (table, replies) ∧ table.buffers = buffers ∧
        ∀ step stray, (buffers.perform step).2 = .failed (.stray stray) →
          table.Strays step stray := by
  obtain ⟨new, table, allocated, told, rfl, rfl, addressed⟩ := Table.exists_table_of_run made ran
  refine ⟨table.shaped_buffers, fun more => ?kept, fun step => ?misfit,
    fun item cell => ⟨?mark, ?read⟩, new, table, allocated, told, rfl,
    fun step stray refused => ?stray⟩
  case kept =>
    rw [table.performAll_buffers addressed]
    exact (Table.Kept.of_performAll table more).keptIn_buffers
  case misfit =>
    rw [table.perform_buffers addressed]
    exact table.perform_eq_misfit_iff step
  case mark => exact Table.perform_mark_buffers_iff addressed table
  case read => exact Table.perform_isTaken_buffers_iff addressed table
  case stray =>
    rw [table.perform_buffers addressed] at refused
    exact Table.strays_of_perform refused

/-- A row that is too short, a flag that the matrix does not have, and a filling that is stopped since
its second item, which has no row of flags, improves the last cell. The flag that is set before stays
set, also in a filling that is stopped by a sum that is no value. -/
theorem run_keeps_shape_stopped_fillings :
    ∃ start buffers : Buffers,
      allocate 1 2 true = .ok start ∧
      start.performAll [.load [0, 5, 3] [8, 9, 8], .mark 0 2, .load [1] [], .mark 1 0,
          .fill [⟨-1, 9⟩, ⟨1, 4⟩]] =
        (buffers, [.rows ⟨[0, 5, 3], some [8, 9, 8]⟩, .marked, .misfit (.length 1 3),
          .failed (.stray ⟨1, 0, 1, 3⟩), .failed (.stray ⟨1, 2, 1, 3⟩)]) ∧
      buffers.Shaped 1 3 true ∧
      buffers.decisions.flags[2]? = some true ∧
      (buffers.performAll [.swap, .fill [⟨1, 2147483647⟩]]).1.decisions.flags[2]? = some true ∧
      buffers.perform (.isTaken 0 3) = (buffers, .failed (.stray ⟨0, 3, 1, 3⟩)) ∧
      ∃ table : Table 1 2, table.Strays (.fill [⟨-1, 9⟩, ⟨1, 4⟩]) ⟨1, 2, 1, 3⟩ := by
  obtain ⟨start, buffers, made, ran, set, stopped⟩ : ∃ start buffers : Buffers,
      allocate 1 2 true = .ok start ∧
      start.performAll [.load [0, 5, 3] [8, 9, 8], .mark 0 2, .load [1] [], .mark 1 0,
          .fill [⟨-1, 9⟩, ⟨1, 4⟩]] =
        (buffers, [.rows ⟨[0, 5, 3], some [8, 9, 8]⟩, .marked, .misfit (.length 1 3),
          .failed (.stray ⟨1, 0, 1, 3⟩), .failed (.stray ⟨1, 2, 1, 3⟩)]) ∧
      buffers.decisions.flags[2]? = some true ∧
      (buffers.perform (.fill [⟨-1, 9⟩, ⟨1, 4⟩])).2 = .failed (.stray ⟨1, 2, 1, 3⟩) :=
    ⟨_, _, rfl, rfl, rfl, rfl⟩
  obtain ⟨shaped, kept, -, outside, new, table, -, -, -, strays⟩ := run_keeps_shape made _ ran
  exact ⟨start, buffers, made, ran, shaped, set, kept _ 2 set, (outside 0 3).2.mpr (by decide),
    table, strays _ _ stopped⟩

end Buffers

end Knapsack
