import Knapsack.Proofs.Buffers.Agreement
import Knapsack.Proofs.Table.Sweep

/-!
# A run on the buffers of a table

Every step on the buffers of a table is the step on the table, answer and all (`perform_buffers`), and
so is every sequence of steps (`performAll_buffers`). A filling reads and writes only cells that the
rows have: it offers an item to the cells from its weight on, and a negative weight is a word beyond
them all. The scan for the terminal goes over the cells of the rows.
-/

namespace Knapsack

open Buffers (Stop)

/-- The places of the flags are words, and no cell is a word that a negative weight is. -/
structure Addressed (rows capacity : Nat) : Prop where
  cells : capacity + 1 + 2147483648 ≤ wordCount
  flags : rows * (capacity + 1) ≤ wordCount

/-! ## Filling -/

theorem Item.word_of_nonneg {item : Item} (nonneg : 0 ≤ item.weight) : item.word = item.load := by
  have cast := item.cast_load nonneg
  have upper := item.weight.toInt_lt
  unfold word wordCount
  omega

/-- No cell is reached by an item of negative weight. -/
theorem Item.lt_word_of_neg {item : Item} {rows capacity : Nat}
    (addressed : Addressed rows capacity) (negative : ¬ 0 ≤ item.weight) :
    capacity + 1 ≤ item.word := by
  have lower := item.weight.le_toInt
  have below : item.weight.toInt < 0 := Int32.lt_iff_toInt_lt.mp (Int32.not_le.mp negative)
  have cells := addressed.cells
  unfold word
  unfold wordCount at cells ⊢
  omega

namespace Table

section Filling

variable {rows capacity : Nat} (table : Table rows capacity) {item : Item}
  {cell : Fin (capacity + 1)}

theorem readCell_last_values (word : item.word = item.load) :
    readCell table.buffers.values.last (cell - item.word) =
      .ok (table.lastEntry (below item.load cell)).value := by
  rw [word]
  exact readCell_toArray table.values.last (below item.load cell)

theorem sumAt_buffers_of_none (index : Nat) (word : item.word = item.load)
    (refused : addValue? (table.lastEntry (below item.load cell)).value item.value = none) :
    Buffers.sumAt index item cell table.buffers =
      .error (.failed (.refused (.valueOverflow index cell))) := by
  rw [Buffers.sumAt, bind_of_ok (table.readCell_last_values word), refused]

theorem sumAt_buffers_of_some (index : Nat) (word : item.word = item.load) {sum : Int32}
    (added : addValue? (table.lastEntry (below item.load cell)).value item.value = some sum) :
    Buffers.sumAt index item cell table.buffers = .ok sum := by
  rw [Buffers.sumAt, bind_of_ok (table.readCell_last_values word), added]

theorem weightAt_buffers (cell : Fin (capacity + 1)) (word : item.word = item.load) :
    Buffers.weightAt item cell table.buffers =
      .ok ((table.lastEntry (below item.load cell)).weight.map
        fun sum => sum + UInt64.ofNat item.load) := by
  obtain ⟨values, weights, decisions⟩ := table
  rw [Buffers.weightAt, word]
  cases weights with
  | none => rfl
  | some pair =>
    have read : readCell pair.last.toArray (cell - item.load) = .ok pair.last[below item.load cell] :=
      readCell_toArray pair.last (below item.load cell)
    simp only [buffers, Option.map_some, Option.mapM_some, RowPair.buffers, bind_of_ok read]
    rfl

theorem improves_buffers (cell : Fin (capacity + 1)) {entry : Entry}
    (fits : entry.weight.isSome = table.tracked) :
    Buffers.improves cell (table.nextEntry cell).value entry table.buffers =
      .ok (entry.beats (table.nextEntry cell)) := by
  obtain ⟨values, weights, decisions⟩ := table
  obtain ⟨value, weight⟩ := entry
  cases weights <;> cases weight
  case none.none =>
    simp only [Buffers.improves, buffers, Option.map_none, Entry.beats, Entry.lighter, nextEntry,
      Bool.and_false, Bool.or_false]
    rfl
  case none.some => cases fits
  case some.none => cases fits
  case some.some pair weight =>
    have read := readCell_toArray pair.next cell
    have beats := Entry.beats_eq_ite value values.next[cell] weight pair.next[cell]
    simp only [Buffers.improves, buffers, Option.map_some, RowPair.buffers, read, nextEntry, beats,
      apply_ite Except.ok]
    rfl

theorem offer_buffers (addressed : Addressed rows capacity) (index : Nat)
    (reached : item.Reaches cell) :
    Buffers.offer index item cell table.buffers =
      outcome .failed (table.offer index item.value (below item.load cell) cell) := by
  have word := Item.word_of_nonneg reached.1
  have weighed := table.weightAt_buffers cell word
  have current : readCell table.buffers.values.next cell = .ok (table.nextEntry cell).value :=
    readCell_toArray table.values.next cell
  cases offered : Row.offer? table.lastEntry item.value item.load cell with
  | none =>
    have refused := table.sumAt_buffers_of_none index word (Entry.add?_eq_none_iff.mp offered)
    rw [offer_refused reached.2 offered]
    exact Buffers.bind_of_stop (Buffers.ask_of_error refused)
  | some entry =>
    obtain ⟨value, weight⟩ := entry
    obtain ⟨added, sum⟩ := Entry.add?_eq_some_iff.mp offered
    have summed := table.sumAt_buffers_of_some index word added
    have fits : (Entry.mk value weight).weight.isSome = table.tracked :=
      (Entry.weight_isSome_of_add? offered).trans (isSome_weight_lastEntry table _)
    have compared := table.improves_buffers cell fits
    rw [← sum] at weighed
    rw [offer_made index reached.2 offered, Buffers.offer,
      Buffers.bind_of_run (Buffers.ask_of_ok summed),
      Buffers.bind_of_run (Buffers.ask_of_ok current),
      Buffers.bind_of_run (Buffers.ask_of_ok weighed),
      Buffers.bind_of_run (Buffers.ask_of_ok compared)]
    by_cases better : Entry.beats ⟨value, weight⟩ (table.nextEntry cell)
    · rw [if_pos better, if_pos better]
      exact table.take_buffers addressed.flags index cell _
    · rw [if_neg better, if_neg better]
      rfl

theorem sweep_buffers (addressed : Addressed rows capacity) (index : Nat)
    (nonneg : 0 ≤ item.weight) (count : Nat) (within : item.load + count ≤ capacity + 1) :
    Buffers.sweep index item (List.range' (capacity + 1 - count) count) table.buffers =
      outcome .failed (table.sweep index item.value item.load count within) := by
  induction count generalizing table with
  | zero => rfl
  | succ count ih =>
    -- The cells go up from the load while `count`, the cells to come, goes down.
    obtain ⟨cell, position⟩ : ∃ cell : Fin (capacity + 1), (cell : Nat) = capacity - count :=
      ⟨⟨capacity - count, by omega⟩, rfl⟩
    have first : capacity + 1 - (count + 1) = cell := by omega
    have following : (cell : Nat) + 1 = capacity + 1 - count := by omega
    have reached : item.Reaches cell := ⟨nonneg, by omega⟩
    have done := table.offer_buffers addressed index reached
    rw [first, List.range'_succ, following, Buffers.sweep]
    cases offered : table.offer index item.value (below item.load cell) cell with
    | mk after failure =>
      rw [offered] at done
      cases failure with
      | none =>
        rw [sweep_succ_passed within position offered, Buffers.bind_of_run done]
        exact ih after _
      | some failure =>
        rw [sweep_succ_stopped within position offered]
        exact Buffers.bind_of_stop done

theorem advance_buffers (addressed : Addressed rows capacity) (index : Nat) (item : Item) :
    Buffers.advance (capacity + 1) index item table.buffers =
      outcome .failed (table.advance index item) := by
  have carried := table.carry_buffers
  -- Without a cell to offer it to, an item leaves the carried rows.
  have unreached (none : capacity + 1 - item.word = 0) :
      Buffers.advance (capacity + 1) index item table.buffers =
        .ok () table.carry.swap.buffers := by
    rw [Buffers.advance, Buffers.bind_of_run carried, none]
    exact table.carry.swap_buffers
  by_cases nonneg : 0 ≤ item.weight
  case neg =>
    have beyond := Item.lt_word_of_neg addressed nonneg
    rw [unreached (Nat.sub_eq_zero_of_le beyond), advance, Item.load?_of_neg nonneg]
    rfl
  case pos =>
    have word := Item.word_of_nonneg nonneg
    by_cases fits : item.load ≤ capacity
    case neg =>
      rw [unreached (by omega), advance, Item.load?_of_nonneg nonneg]
      simp only [dif_neg fits]
      rfl
    case pos =>
      have whole : capacity + 1 - (capacity + 1 - item.load) = item.load := by omega
      have swept := table.carry.sweep_buffers addressed index nonneg (capacity + 1 - item.load)
        (by omega)
      rw [whole] at swept
      simp only [Buffers.advance, Buffers.bind_of_run carried, word, advance,
        Item.load?_of_nonneg nonneg, dif_pos fits]
      cases ended : table.carry.sweep index item.value item.load (capacity + 1 - item.load) _ with
      | mk after failure =>
        rw [ended] at swept
        cases failure with
        | none =>
          rw [Buffers.bind_of_run swept]
          exact after.swap_buffers
        | some failure => exact Buffers.bind_of_stop swept

theorem fillFrom_buffers (addressed : Addressed rows capacity) (index : Nat) (items : List Item) :
    Buffers.fillFrom (capacity + 1) index items table.buffers =
      outcome .failed (table.fillFrom index items) := by
  induction items generalizing table index with
  | nil => rfl
  | cons item items ih =>
    have advanced := table.advance_buffers addressed index item
    rw [Buffers.fillFrom, fillFrom]
    cases ended : table.advance index item with
    | mk after failure =>
      rw [ended] at advanced
      cases failure with
      | none =>
        rw [Buffers.bind_of_run advanced]
        exact ih after (index + 1)
      | some failure => exact Buffers.bind_of_stop advanced

theorem fill_buffers (addressed : Addressed rows capacity) (items : List Item) :
    Buffers.fill items table.buffers = outcome .failed (table.fill items) :=
  table.fillFrom_buffers addressed 0 items

end Filling

/-! ## Reading the answer -/

section Reading

variable {rows capacity : Nat} (table : Table rows capacity)
  {weights : RowPair UInt64 (capacity + 1)}

theorem better_toArray (found : table.weights = some weights) (cell other : Fin (capacity + 1)) :
    Buffers.better table.values.last.toArray weights.last.toArray cell other =
      .ok ((table.lastEntry cell).beats (table.lastEntry other)) := by
  obtain ⟨values, pair, decisions⟩ := table
  cases found
  have beats := Entry.beats_eq_ite values.last[cell] values.last[other] weights.last[cell]
    weights.last[other]
  simp only [Buffers.better, readCell_toArray, lastEntry, Option.map_some, beats,
    apply_ite Except.ok]
  rfl

theorem scan_toArray (found : table.weights = some weights) (count : Nat)
    (within : count ≤ capacity) (best : Fin (capacity + 1)) :
    Buffers.scan table.values.last.toArray weights.last.toArray
        (List.range' (capacity + 1 - count) count) best =
      .ok (table.bestCell count within best : Nat) := by
  induction count generalizing best with
  | zero => rfl
  | succ count ih =>
    have first : capacity + 1 - (count + 1) = capacity - count := by omega
    have following : capacity - count + 1 = capacity + 1 - count := by omega
    have compared := table.better_toArray found ⟨capacity - count, by omega⟩ best
    rw [first, List.range'_succ, following, Buffers.scan, bind_of_ok compared, bestCell]
    by_cases better : (table.lastEntry ⟨capacity - count, by omega⟩).beats (table.lastEntry best)
    · rw [if_pos better]
      simp only [if_pos better]
      exact ih (by omega) ⟨capacity - count, by omega⟩
    · rw [if_neg better]
      simp only [if_neg better]
      exact ih (by omega) best

theorem terminal_buffers : table.buffers.terminal = .ok table.terminal := by
  have ended : table.buffers.terminalCell = .ok (table.terminalCell : Nat) := by
    unfold Buffers.terminalCell terminalCell
    cases found : table.weights with
    | none =>
      simp only [buffers, found, Option.map_none]
      rfl
    | some weights =>
      have scanned := table.scan_toArray found capacity (Nat.le_refl capacity) 0
      rw [Nat.add_sub_cancel_left] at scanned
      simp only [buffers, found, Option.map_some]
      exact scanned
  have value := readCell_toArray table.values.last table.terminalCell
  rw [Buffers.terminal, bind_of_ok ended]
  exact bind_of_ok value _

end Reading

end Table

/-! ## Steps -/

namespace Buffers

variable {α : Type} {buffers : Buffers} {x : α} {stop : Stop} {question : Buffers → Except Stop α}
  {step : Table.Step} {reply : α → Table.Reply}

theorem perform_of_ask_ok (answered : answer step = ask fun buffers => reply <$> question buffers)
    (found : question buffers = .ok x) : buffers.perform step = (buffers, reply x) := by
  rw [perform, answered, ask_of_ok (congrArg (reply <$> ·) found)]

theorem perform_of_ask_error
    (answered : answer step = ask fun buffers => reply <$> question buffers)
    (found : question buffers = .error stop) : buffers.perform step = (buffers, stop.reply) := by
  rw [perform, answered, ask_of_error (congrArg (reply <$> ·) found)]

end Buffers

namespace Table

section Steps

variable {rows capacity : Nat} (table : Table rows capacity)

theorem last_buffers : table.buffers.last = table.last := by
  obtain ⟨values, weights, decisions⟩ := table
  cases weights <;> rfl

/-- Work that ends as the work on a table does is answered with the rows of that table. -/
theorem perform_buffers_of_rows {ε : Type} {table : Table rows capacity} {stop : ε → Stop}
    {step : Step} {action : Buffers.Action Unit} {result : Table rows capacity × Option ε}
    (answered : Buffers.answer step = Buffers.rowsAfter action)
    (ran : action table.buffers = outcome stop result) :
    table.buffers.perform step =
      (result.1.buffers, result.2.elim (.rows result.1.last) fun failure => (stop failure).reply) := by
  obtain ⟨after, failure⟩ := result
  rw [Buffers.perform, answered, Buffers.rowsAfter]
  cases failure with
  | none =>
    rw [Buffers.bind_of_run ran, ← last_buffers]
    rfl
  | some failure =>
    rw [Buffers.bind_of_stop ran]
    rfl

theorem perform_buffers (addressed : Addressed rows capacity) (step : Step) :
    table.buffers.perform step = ((table.perform step).1.buffers, (table.perform step).2) := by
  cases step with
  | load values weights =>
    rw [perform_buffers_of_rows rfl (table.load_buffers values weights), perform]
    cases table.load values weights with
    | mk after misfit => cases misfit <;> rfl
  | poke cell entry =>
    rw [perform_buffers_of_rows rfl (table.poke_buffers cell entry), perform]
    cases table.poke cell entry with
    | mk after misfit => cases misfit <;> rfl
  | carry =>
    have ran : Buffers.carry table.buffers = outcome .misfit (table.carry, none) :=
      table.carry_buffers
    rw [perform_buffers_of_rows rfl ran]
    rfl
  | swap =>
    have ran : Buffers.swap table.buffers = outcome .misfit (table.swap, none) :=
      table.swap_buffers
    rw [perform_buffers_of_rows rfl ran]
    rfl
  | mark item cell =>
    have ran := table.mark_buffers addressed.flags item cell
    rw [Buffers.perform, Buffers.answer, perform]
    cases marked : table.mark item cell with
    | mk after stray =>
      rw [marked] at ran
      cases stray with
      | none =>
        rw [Buffers.bind_of_run ran]
        rfl
      | some stray =>
        rw [Buffers.bind_of_stop ran]
        rfl
  | isTaken item cell =>
    have read := table.decisions.isTaken_buffer addressed.flags item cell
    have asked : Buffers.answer (.isTaken item cell) =
        Buffers.ask fun buffers => .taken <$> buffers.decisions.isTaken item cell := rfl
    rw [perform]
    cases flag : table.decisions.isTaken item cell with
    | ok flag =>
      rw [flag] at read
      rw [Buffers.perform_of_ask_ok asked read]
    | error stray =>
      rw [flag] at read
      rw [Buffers.perform_of_ask_error asked read]
      rfl
  | decisions count =>
    have read := table.decisions.firstRows_buffer addressed.flags count
    have asked : Buffers.answer (.decisions count) =
        Buffers.ask fun buffers => .decisions <$> buffers.decisions.firstRows count := rfl
    rw [perform]
    cases flags : table.decisions.firstRows count with
    | ok flags =>
      rw [flags] at read
      rw [Buffers.perform_of_ask_ok asked read]
    | error stray =>
      rw [flags] at read
      rw [Buffers.perform_of_ask_error asked read]
      rfl
  | fill items =>
    rw [perform_buffers_of_rows rfl (table.fill_buffers addressed items), perform]
    cases table.fill items with
    | mk after failure => cases failure <;> rfl
  | terminal =>
    have asked : Buffers.answer .terminal =
        Buffers.ask fun buffers => .terminal <$> buffers.terminal := rfl
    rw [Buffers.perform_of_ask_ok asked table.terminal_buffers]
    rfl
  | walk items start =>
    have walked := table.decisions.solution_buffer addressed.flags items start
    have asked : Buffers.answer (.walk items start) =
        Buffers.ask fun buffers => .solution <$> buffers.decisions.solution items start := rfl
    rw [perform]
    cases found : table.decisions.solution items start with
    | ok solution =>
      rw [found] at walked
      rw [Buffers.perform_of_ask_ok asked walked]
    | error failure =>
      rw [found] at walked
      rw [Buffers.perform_of_ask_error asked walked]
      rfl

theorem performAll_buffers (addressed : Addressed rows capacity) (steps : List Step) :
    table.buffers.performAll steps =
      ((table.performAll steps).1.buffers, (table.performAll steps).2) := by
  induction steps generalizing table with
  | nil => rfl
  | cons step steps ih =>
    rw [Buffers.performAll, table.perform_buffers addressed step]
    simp only [ih]
    rfl

end Steps

end Table

end Knapsack
