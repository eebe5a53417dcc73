import Knapsack.Proofs.Buffers.Run

/-!
# The buffers of a table

A table without the lengths in its type is its buffers (`Table.buffers`). Loading, carrying, swapping,
writing and marking do to these buffers what they do to the table: no cell is missed, no row has the
wrong length, and no place of a flag wraps around. What stops such work on the table stops it on the
buffers, and leaves those of the table that is left (`Table.outcome`).
-/

namespace Knapsack

open Buffers (Stop Action)

def RowPair.buffers {α : Type} {width : Nat} (pair : RowPair α width) : RowBuffers α :=
  ⟨pair.last.toArray, pair.next.toArray⟩

def Decisions.buffer {rows width : Nat} (decisions : Decisions rows width) : FlagBuffer :=
  ⟨rows, width, decisions.flags.toArray⟩

def Table.buffers {rows capacity : Nat} (table : Table rows capacity) : Buffers :=
  ⟨capacity + 1, table.values.buffers, table.weights.map RowPair.buffers, table.decisions.buffer⟩

theorem bind_of_ok {ε α β : Type} {x : Except ε α} {a : α} (found : x = .ok a)
    (next : α → Except ε β) : (x >>= next) = next a := by
  rw [found]
  rfl

/-! ## One buffer -/

section OneBuffer

variable {α : Type} {width : Nat}

theorem readCell_toArray (row : Vector α width) (cell : Fin width) :
    readCell row.toArray cell = .ok (row.get cell) := by
  have inside : (cell : Nat) < row.toArray.size := by
    rw [row.size_toArray]
    exact cell.isLt
  exact dif_pos inside

theorem writeCell_toArray (row : Vector α width) (cell : Fin width) (x : α) :
    writeCell row.toArray cell x = .ok (row.set cell x cell.isLt).toArray := by
  have inside : (cell : Nat) < row.toArray.size := by
    rw [row.size_toArray]
    exact cell.isLt
  exact dif_pos inside

theorem copyOnto_toArray (row source : Vector α width) :
    copyOnto row.toArray source.toArray = .ok source.toArray :=
  if_pos (source.size_toArray.trans row.size_toArray.symm)

theorem copyOnto_of_size_ne (row : Vector α width) {source : Array α}
    (other : source.size ≠ width) :
    copyOnto row.toArray source = .error (.misfit (.length source.size width)) := by
  rw [copyOnto, row.size_toArray, if_neg other]

variable (pair : RowPair α width)

theorem RowPair.carry_buffers : pair.buffers.carry = .ok pair.carry.buffers := by
  simp only [RowBuffers.carry, buffers, copyOnto_toArray]
  rfl

theorem RowPair.put_buffers (cell : Fin width) (x : α) :
    pair.buffers.put cell x = .ok (pair.put cell x).buffers := by
  simp only [RowBuffers.put, buffers, writeCell_toArray]
  rfl

theorem RowPair.put_buffers_of_outside {number : Nat} (outside : ¬ number < width) (x : α) :
    pair.buffers.put number x = .error (.misfit (.cell number width)) := by
  have missing : ¬ number < pair.next.toArray.size := by
    rw [pair.next.size_toArray]
    exact outside
  simp only [RowBuffers.put, buffers, writeCell, dif_neg missing, pair.next.size_toArray]
  rfl

theorem RowPair.load_buffers (entries : List α) :
    pair.buffers.load entries =
      ((Table.rowOfList width entries).map fun row => RowPair.buffers ⟨row, pair.next⟩).mapError
        .misfit := by
  by_cases same : entries.toArray.size = width
  · have loaded := copyOnto_toArray pair.last ⟨entries.toArray, same⟩
    simp only [RowBuffers.load, buffers, loaded, Table.rowOfList, dif_pos same]
    rfl
  · simp only [RowBuffers.load, buffers, copyOnto_of_size_ne pair.last same, Table.rowOfList,
      dif_neg same]
    rfl

end OneBuffer

/-! ## The flags -/

/-- A cell that the matrix does not have stops a step. -/
def Buffers.Stop.ofStray (stray : StrayCell) : Stop :=
  .failed (.stray stray)

section Flags

variable {rows width : Nat} (decisions : Decisions rows width) {item cell : Nat}

theorem Decisions.place_buffer (words : rows * width ≤ wordCount)
    (inside : item < rows ∧ cell < width) :
    decisions.buffer.place item cell = .ok (item * width + cell) := by
  have word := Nat.lt_of_lt_of_le (offset_lt inside.1 inside.2) words
  exact (if_pos inside).trans (congrArg Except.ok (Nat.mod_eq_of_lt word))

theorem Decisions.place_buffer_of_outside (outside : ¬(item < rows ∧ cell < width)) :
    decisions.buffer.place item cell = .error (.ofStray ⟨item, cell, rows, width⟩) :=
  if_neg outside

theorem Decisions.isTaken_buffer (words : rows * width ≤ wordCount) (item cell : Nat) :
    decisions.buffer.isTaken item cell = (decisions.isTaken item cell).mapError .ofStray := by
  by_cases inside : item < rows ∧ cell < width
  · have read := readCell_toArray decisions.flags ⟨_, offset_lt inside.1 inside.2⟩
    rw [FlagBuffer.isTaken, decisions.place_buffer words inside, isTaken, dif_pos inside]
    exact read
  · rw [FlagBuffer.isTaken, decisions.place_buffer_of_outside inside, isTaken_of_outside _ inside]
    rfl

theorem Decisions.mark_buffer (words : rows * width ≤ wordCount)
    (inside : item < rows ∧ cell < width) :
    decisions.buffer.mark item cell = .ok (decisions.mark item cell).1.buffer := by
  have written := writeCell_toArray decisions.flags ⟨_, offset_lt inside.1 inside.2⟩ true
  rw [FlagBuffer.mark, decisions.place_buffer words inside, mark, dif_pos inside]
  exact congrArg (Except.map fun flags => FlagBuffer.mk rows width flags) written

theorem Decisions.mark_buffer_of_outside (outside : ¬(item < rows ∧ cell < width)) :
    decisions.buffer.mark item cell = .error (.ofStray ⟨item, cell, rows, width⟩) := by
  rw [FlagBuffer.mark, decisions.place_buffer_of_outside outside]
  rfl

theorem mapM_mapError {α β ε ε' : Type} (f : α → Except ε β) (g : ε → ε') (list : List α) :
    list.mapM (fun x => (f x).mapError g) = (list.mapM f).mapError g := by
  induction list with
  | nil => rfl
  | cons x list ih =>
    rw [List.mapM_cons, List.mapM_cons, ih]
    cases f x with
    | error e => rfl
    | ok y => cases list.mapM f <;> rfl

theorem Decisions.firstRows_buffer (words : rows * width ≤ wordCount) (count : Nat) :
    decisions.buffer.firstRows count = (decisions.firstRows count).mapError .ofStray := by
  have row : ∀ item, ((List.range width).mapM fun cell => decisions.buffer.isTaken item cell) =
      ((List.range width).mapM fun cell => decisions.isTaken item cell).mapError .ofStray := by
    intro item
    simp only [decisions.isTaken_buffer words, mapM_mapError]
  exact (congrArg (List.range count).mapM (funext row)).trans (mapM_mapError _ _ _)

theorem Decisions.walk_buffer (words : rows * width ≤ wordCount) (below : List (Item × Nat))
    (cell : Nat) (found : List Nat) :
    decisions.buffer.walk below cell found =
      (decisions.walk below cell found).mapError .ofStray := by
  induction below generalizing cell found with
  | nil => rfl
  | cons last below ih =>
    obtain ⟨item, index⟩ := last
    rw [FlagBuffer.walk, walk, decisions.isTaken_buffer words]
    cases decisions.isTaken index cell with
    | error stray => rfl
    | ok flag =>
      cases flag with
      | true => exact ih _ _
      | false => exact ih _ _

theorem Decisions.solution_buffer (words : rows * width ≤ wordCount) (items : List Item)
    (start : Terminal) :
    decisions.buffer.solution items start = (decisions.solution items start).mapError .failed := by
  have walked := decisions.walk_buffer words items.zipIdx.reverse start.cell []
  rw [solution, selection]
  cases found : decisions.walk items.zipIdx.reverse start.cell [] with
  | error stray =>
    rw [found] at walked
    rw [FlagBuffer.solution, walked]
    rfl
  | ok selected =>
    rw [found] at walked
    rw [FlagBuffer.solution, bind_of_ok walked]
    simp only
    cases Table.checkBuffer .selectedIndices 8 selected.length <;> rfl

end Flags

/-! ## Work one after the other -/

namespace Buffers

section Actions

variable {α β : Type} {action : Action α} {next : α → Action β} {buffers after : Buffers} {x : α}
  {stop : Stop} {question : Buffers → Except Stop α}

theorem bind_of_run (ran : action buffers = .ok x after) :
    (action >>= next) buffers = next x after := by
  change EStateM.bind action next buffers = _
  rw [EStateM.bind, ran]

theorem bind_of_stop (stopped : action buffers = .error stop after) :
    (action >>= next) buffers = .error stop after := by
  change EStateM.bind action next buffers = _
  rw [EStateM.bind, stopped]

theorem ask_of_ok (found : question buffers = .ok x) : ask question buffers = .ok x buffers := by
  rw [ask, found]

theorem ask_of_error (found : question buffers = .error stop) :
    ask question buffers = .error stop buffers := by
  rw [ask, found]

end Actions

end Buffers

/-! ## The work on a table -/

namespace Table

variable {rows capacity : Nat} (table : Table rows capacity)

/-- How work on a table ends, as work on its buffers. -/
def outcome {ε : Type} (stop : ε → Stop) :
    Table rows capacity × Option ε → EStateM.Result Stop Buffers Unit
  | (table, none) => .ok () table.buffers
  | (table, some failure) => .error (stop failure) table.buffers

theorem onValues_buffers {change : RowBuffers Int32 → Except Stop (RowBuffers Int32)}
    {pair : RowPair Int32 (capacity + 1)}
    (changed : change table.values.buffers = .ok pair.buffers) :
    Buffers.onValues change table.buffers =
      .ok () (buffers ⟨pair, table.weights, table.decisions⟩) := by
  unfold Buffers.onValues
  split
  · next found =>
    rw [buffers, changed] at found
    cases found
    rfl
  · next found =>
    rw [buffers, changed] at found
    cases found

theorem onValues_buffers_stop {change : RowBuffers Int32 → Except Stop (RowBuffers Int32)}
    {stop : Stop} (stopped : change table.values.buffers = .error stop) :
    Buffers.onValues change table.buffers = .error stop table.buffers := by
  unfold Buffers.onValues
  split
  · next found =>
    rw [buffers, stopped] at found
    cases found
  · next found =>
    rw [buffers, stopped] at found
    cases found
    rfl

theorem onWeights_buffers {change : RowBuffers UInt64 → Except Stop (RowBuffers UInt64)}
    (change' : RowPair UInt64 (capacity + 1) → RowPair UInt64 (capacity + 1))
    (changed : ∀ pair, change pair.buffers = .ok (change' pair).buffers) :
    Buffers.onWeights change table.buffers =
      .ok () (buffers ⟨table.values, table.weights.map change', table.decisions⟩) := by
  obtain ⟨values, weights, decisions⟩ := table
  have all : (weights.map RowPair.buffers).mapM change =
      .ok ((weights.map change').map RowPair.buffers) := by
    cases weights with
    | none => rfl
    | some pair => exact congrArg (Except.map some) (changed pair)
  unfold Buffers.onWeights
  simp only [buffers, all]

theorem carry_buffers : Buffers.carry table.buffers = .ok () table.carry.buffers := by
  rw [Buffers.carry, Buffers.bind_of_run (table.onValues_buffers table.values.carry_buffers)]
  exact onWeights_buffers _ RowPair.carry RowPair.carry_buffers

theorem swap_buffers : Buffers.swap table.buffers = .ok () table.swap.buffers := by
  have swapped : ∀ {α : Type} (pair : RowPair α (capacity + 1)),
      (Except.ok pair.buffers.swap : Except Stop _) = .ok pair.swap.buffers := fun _ => rfl
  rw [Buffers.swap, Buffers.bind_of_run (table.onValues_buffers (swapped table.values))]
  exact onWeights_buffers _ RowPair.swap swapped

theorem load_buffers (values : List Int32) (weights : List UInt64) :
    Buffers.load values weights table.buffers = outcome .misfit (table.load values weights) := by
  have loaded := table.values.load_buffers values
  unfold load
  cases made : rowOfList (capacity + 1) values with
  | error misfit =>
    rw [made] at loaded
    exact Buffers.bind_of_stop (table.onValues_buffers_stop loaded)
  | ok row =>
    rw [made] at loaded
    rw [Buffers.load, Buffers.bind_of_run (table.onValues_buffers loaded)]
    obtain ⟨values, pairs, decisions⟩ := table
    cases pairs with
    | none => rfl
    | some pair =>
      have loadedToo := pair.load_buffers weights
      unfold Buffers.onWeights
      simp only [buffers, Option.map_some, Option.mapM_some, loadedToo]
      cases rowOfList (capacity + 1) weights <;> rfl

theorem put_eq (cell : Fin (capacity + 1)) (entry : Entry) :
    table.put cell entry =
      ⟨table.values.put cell entry.value,
        entry.weight.elim table.weights fun weight => table.weights.map (·.put cell weight),
        table.decisions⟩ := by
  obtain ⟨values, weights, decisions⟩ := table
  obtain ⟨value, weight⟩ := entry
  cases weights <;> cases weight <;> rfl

theorem putValue_buffers (cell : Fin (capacity + 1)) (value : Int32) :
    Buffers.putValue cell value table.buffers =
      .ok () (buffers ⟨table.values.put cell value, table.weights, table.decisions⟩) :=
  table.onValues_buffers (table.values.put_buffers cell value)

theorem putWeight_buffers (cell : Fin (capacity + 1)) (weight : Option UInt64) :
    Buffers.putWeight cell weight table.buffers =
      .ok () (buffers ⟨table.values,
        weight.elim table.weights fun weight => table.weights.map (·.put cell weight),
        table.decisions⟩) := by
  cases weight with
  | none => rfl
  | some weight => exact table.onWeights_buffers _ fun pair => pair.put_buffers cell weight

theorem putWeight_buffers_stop {number : Nat} (outside : ¬ number < capacity + 1)
    (weight : Option UInt64) :
    Buffers.putWeight number weight table.buffers = .ok () table.buffers ∨
      Buffers.putWeight number weight table.buffers =
        .error (.misfit (.cell number (capacity + 1))) table.buffers := by
  obtain ⟨values, weights, decisions⟩ := table
  cases weight with
  | none => exact .inl rfl
  | some weight =>
    cases weights with
    | none => exact .inl rfl
    | some pair =>
      have refused := pair.put_buffers_of_outside outside weight
      unfold Buffers.putWeight Buffers.onWeights
      simp only [buffers, Option.map_some, Option.mapM_some, refused]
      exact .inr rfl

/-- The weight is written before the value here, which makes no difference. -/
theorem poke_buffers (number : Nat) (entry : Entry) :
    Buffers.poke number entry table.buffers = outcome .misfit (table.poke number entry) := by
  by_cases inside : number < capacity + 1
  · have weighed := table.putWeight_buffers ⟨number, inside⟩ entry.weight
    rw [Buffers.poke, Buffers.bind_of_run weighed, poke, dif_pos inside, put_eq]
    exact putValue_buffers _ ⟨number, inside⟩ entry.value
  · have refused : Buffers.putValue number entry.value table.buffers =
        .error (.misfit (.cell number (capacity + 1))) table.buffers :=
      table.onValues_buffers_stop (table.values.put_buffers_of_outside inside entry.value)
    rw [Buffers.poke, poke, dif_neg inside]
    rcases table.putWeight_buffers_stop inside entry.weight with passed | stopped
    · rw [Buffers.bind_of_run passed]
      exact refused
    · exact Buffers.bind_of_stop stopped

theorem mark_buffers (words : rows * (capacity + 1) ≤ wordCount) (item cell : Nat) :
    Buffers.mark item cell table.buffers = outcome .ofStray (table.mark item cell) := by
  by_cases inside : item < rows ∧ cell < capacity + 1
  · have marked := table.decisions.mark_buffer words inside
    have unhindered := table.decisions.mark_snd_of_inside inside
    simp only [Buffers.mark, Buffers.onDecisions, buffers, marked, mark]
    rw [unhindered]
    rfl
  · have refused := table.decisions.mark_buffer_of_outside inside
    simp only [Buffers.mark, Buffers.onDecisions, buffers, refused, mark,
      Decisions.mark_of_outside _ inside]
    rfl

theorem take_buffers (words : rows * (capacity + 1) ≤ wordCount) (index : Nat)
    (cell : Fin (capacity + 1)) (entry : Entry) :
    Buffers.take index cell entry table.buffers = outcome .failed (table.take index cell entry) := by
  have poked := table.poke_buffers cell entry
  rw [poke, dif_pos cell.isLt] at poked
  rw [Buffers.take, Buffers.bind_of_run poked, mark_buffers _ words, take]
  cases (table.put cell entry).mark index cell with
  | mk after stray => cases stray <;> rfl

end Table

end Knapsack
