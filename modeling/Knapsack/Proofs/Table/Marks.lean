import Knapsack.Table.Step
import Knapsack.Proofs.Table.Allocation

/-!
# Which flags a sequence of marks sets

The flags are one buffer, row after row, and no two cells of the matrix share a place in it. So a
sequence of marks sets the flags of the cells that it names and of no other (`isTaken_markAll`). A
mark outside the matrix is told and changes nothing, wherever it stands in the sequence.

`marks_set_named_flags` says this of the tables that can be made, whose places are all words, and of
the single steps on them.
-/

namespace Knapsack

namespace Decisions

variable {rows width : Nat}

/-- The matrix after marks in these cells, one after the other. -/
def markAll (decisions : Decisions rows width) : List (Nat × Nat) → Decisions rows width
  | [] => decisions
  | (item, cell) :: cells => (decisions.mark item cell).1.markAll cells

/-- The flag of a cell is at its place in the buffer. -/
theorem isTaken_eq_ok_iff (decisions : Decisions rows width) {item cell : Nat} {flag : Bool}
    (inside : item < rows ∧ cell < width) :
    decisions.isTaken item cell = .ok flag ↔
      decisions.flags.toList[item * width + cell]? = some flag := by
  have place := offset_lt inside.1 inside.2
  rw [isTaken, dif_pos inside, Vector.getElem?_toList, Vector.getElem?_eq_getElem place]
  simp only [get, Except.ok.injEq, Option.some.injEq]

/-- After any marks a flag is set if its cell is named, and otherwise it is as before. -/
theorem isTaken_markAll (decisions : Decisions rows width) (cells : List (Nat × Nat))
    {item cell : Nat} (inside : item < rows ∧ cell < width) :
    (decisions.markAll cells).isTaken item cell =
      if (item, cell) ∈ cells then .ok true else decisions.isTaken item cell := by
  induction cells generalizing decisions with
  | nil => rfl
  | cons named cells ih =>
    obtain ⟨other, otherCell⟩ := named
    rw [markAll, ih]
    by_cases later : (item, cell) ∈ cells
    · rw [if_pos later, if_pos (List.mem_cons_of_mem _ later)]
    · rw [if_neg later]
      by_cases known : other < rows ∧ otherCell < width
      · simp only [isTaken_mark decisions item cell known, List.mem_cons, later, or_false,
          Prod.mk.injEq]
      · -- The cell that is named is not inside, so it is not this one.
        have different : ¬(item = other ∧ cell = otherCell) := by
          rintro ⟨rfl, rfl⟩
          exact known inside
        simp only [mark_of_outside decisions known, List.mem_cons, later, or_false, Prod.mk.injEq,
          if_neg different]

end Decisions

namespace Table

variable {count capacity : Nat} {tracked : Bool} {table marked : Table count capacity}
  {replies : List Reply} {item cell : Nat}

/-- Marks in these cells, as steps. -/
def marks (cells : List (Nat × Nat)) : List Step :=
  cells.map fun (item, cell) => .mark item cell

/-- What a mark answers. -/
def markReply (count capacity item cell : Nat) : Reply :=
  if item < count ∧ cell < capacity + 1 then .marked
  else .failed (.stray ⟨item, cell, count, capacity + 1⟩)

theorem perform_mark (table : Table count capacity) (item cell : Nat) :
    table.perform (.mark item cell) =
      (⟨table.values, table.weights, (table.decisions.mark item cell).1⟩,
        markReply count capacity item cell) := by
  by_cases inside : item < count ∧ cell < capacity + 1
  · simp only [perform, Table.mark, Decisions.mark, dif_pos inside, markReply, if_pos inside]
  · simp only [perform, Table.mark, Decisions.mark_of_outside _ inside, markReply, if_neg inside]

/-- Marks reach nothing but the flags, and each of them is answered by itself. -/
theorem performAll_marks (table : Table count capacity) (cells : List (Nat × Nat)) :
    table.performAll (marks cells) =
      (⟨table.values, table.weights, table.decisions.markAll cells⟩,
        cells.map fun (item, cell) => markReply count capacity item cell) := by
  induction cells generalizing table with
  | nil => rfl
  | cons named cells ih =>
    obtain ⟨item, cell⟩ := named
    show table.performAll (.mark item cell :: marks cells) = _
    simp only [performAll, perform_mark, ih]
    rfl

theorem outside_iff :
    count ≤ item ∨ capacity + 1 ≤ cell ↔ ¬(item < count ∧ cell < capacity + 1) := by
  rw [not_and_or, Nat.not_lt, Nat.not_lt]

theorem perform_mark_eq_stray_iff (table : Table count capacity) :
    table.perform (.mark item cell) =
        (table, .failed (.stray ⟨item, cell, count, capacity + 1⟩)) ↔
      count ≤ item ∨ capacity + 1 ≤ cell := by
  rw [perform_mark, outside_iff, markReply]
  constructor
  · intro told inside
    rw [if_pos inside] at told
    cases congrArg Prod.snd told
  · intro outside
    rw [if_neg outside, Decisions.mark_of_outside _ outside]

theorem perform_isTaken_eq_stray_iff (table : Table count capacity) :
    table.perform (.isTaken item cell) =
        (table, .failed (.stray ⟨item, cell, count, capacity + 1⟩)) ↔
      count ≤ item ∨ capacity + 1 ≤ cell := by
  rw [perform, outside_iff, Decisions.isTaken]
  constructor
  · intro told inside
    rw [dif_pos inside] at told
    cases congrArg Prod.snd told
  · intro outside
    rw [dif_neg outside]

/-- In a table that was made, after any marks, a flag is set exactly if its cell was named. -/
theorem isTaken_markAll_of_allocate (allocated : allocate count capacity tracked = .ok table)
    (cells : List (Nat × Nat)) (inside : item < count ∧ cell < capacity + 1) :
    (table.decisions.markAll cells).isTaken item cell = .ok (decide ((item, cell) ∈ cells)) := by
  obtain ⟨rfl, -⟩ := blank_of_allocate allocated
  rw [Decisions.isTaken_markAll _ cells inside,
    (zeroed_blank tracked).flags item inside.1 cell inside.2]
  by_cases named : (item, cell) ∈ cells
  · rw [if_pos named, decide_eq_true named]
  · rw [if_neg named, decide_eq_false named]

/-- However many marks are made in a table that was made, inside the matrix and outside of it, a flag
is set exactly if its cell was named, and its place in the buffer, which is a word, holds it. A mark
or a reading outside the matrix is told as such and changes nothing, and nothing else is. -/
theorem marks_set_named_flags (allocated : allocate count capacity tracked = .ok table)
    (cells : List (Nat × Nat))
    (ran : table.performAll (marks cells) = (marked, replies)) (item cell : Nat) :
    replies = cells.map (fun (item, cell) => markReply count capacity item cell) ∧
      (item < count ∧ cell < capacity + 1 →
        marked.perform (.isTaken item cell) = (marked, .taken (decide ((item, cell) ∈ cells))) ∧
        (marked.perform (.mark item cell)).2 = .marked ∧
        item * (capacity + 1) + cell < wordCount ∧
        marked.decisions.flags.toList[item * (capacity + 1) + cell]? =
          some (decide ((item, cell) ∈ cells))) ∧
      (marked.perform (.isTaken item cell) =
          (marked, .failed (.stray ⟨item, cell, count, capacity + 1⟩)) ↔
        count ≤ item ∨ capacity + 1 ≤ cell) ∧
      (marked.perform (.mark item cell) =
          (marked, .failed (.stray ⟨item, cell, count, capacity + 1⟩)) ↔
        count ≤ item ∨ capacity + 1 ≤ cell) := by
  rw [performAll_marks] at ran
  obtain ⟨rfl, rfl⟩ := Prod.mk.inj ran
  refine ⟨rfl, fun inside => ?_, perform_isTaken_eq_stray_iff _, perform_mark_eq_stray_iff _⟩
  have words := (checkDimensions_eq_ok_iff.mp (allocate_eq_ok_iff.mp allocated).1).2.2
  have flag := isTaken_markAll_of_allocate allocated cells inside
  refine ⟨?read, ?marked, ?word, ?place⟩
  case read => simp only [perform, flag]
  case marked => rw [perform_mark, markReply, if_pos inside]
  case word => exact Nat.lt_trans (Decisions.offset_lt inside.1 inside.2) words
  case place => exact (Decisions.isTaken_eq_ok_iff _ inside).mp flag

/-- The end of one row and the start of the next are apart, and two marks outside of the matrix are
told where they stand. -/
theorem marks_set_named_flags_two_rows :
    ∃ marked : Table 2 2, allocate 2 2 true = .ok (blank true) ∧
      (blank true : Table 2 2).performAll (marks [(1, 0), (0, 3), (0, 2), (2, 0)]) =
        (marked, [.marked, .failed (.stray ⟨0, 3, 2, 3⟩), .marked,
          .failed (.stray ⟨2, 0, 2, 3⟩)]) ∧
      marked.perform (.isTaken 1 0) = (marked, .taken true) ∧
      marked.perform (.isTaken 0 0) = (marked, .taken false) ∧
      marked.decisions.flags.toList[0 * (2 + 1) + 2]? = some true ∧
      marked.perform (.isTaken 0 3) = (marked, .failed (.stray ⟨0, 3, 2, 3⟩)) := by
  have allocated : allocate 2 2 true = .ok (blank true) := rfl
  obtain ⟨marked, ran⟩ : ∃ marked : Table 2 2,
      (blank true : Table 2 2).performAll (marks [(1, 0), (0, 3), (0, 2), (2, 0)]) =
        (marked, [.marked, .failed (.stray ⟨0, 3, 2, 3⟩), .marked,
          .failed (.stray ⟨2, 0, 2, 3⟩)]) := ⟨_, rfl⟩
  have flags := fun item cell => (marks_set_named_flags allocated _ ran item cell).2
  exact ⟨marked, allocated, ran, ((flags 1 0).1 (by decide)).1, ((flags 0 0).1 (by decide)).1,
    ((flags 0 2).1 (by decide)).2.2.2, (flags 0 3).2.1.mpr (by decide)⟩

end Table

end Knapsack
