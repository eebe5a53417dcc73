import Mathlib.Data.List.TakeWhile
import Knapsack.Text.Blank
import Knapsack.Text.Line

/-!
# White space and lines

White space at the end of a text makes no difference once the text is trimmed
(`trim_append_of_blank`), and so neither does the carriage return that belongs to the ending of a
line (`trim_dropReturn`). A text is empty, or it has no line feed, or a first line feed (`opening`).
A line is what comes before the first line feed, whether there is one (`nextLine?_append`) or not
(`nextLine?_alone`).
-/

namespace Knapsack.Text

/-! ## White space -/

theorem trimStart_of_shown {text : List Char} (shown : ∀ c ∈ text.head?, isBlank c = false) :
    trimStart text = text := by
  cases text with
  | nil => rfl
  | cons c rest => exact List.dropWhile_cons_of_neg (by simp [shown c rfl])

theorem trimEnd_of_shown {text : List Char} (shown : ∀ c ∈ text.getLast?, isBlank c = false) :
    trimEnd text = text := by
  rw [← List.head?_reverse] at shown
  change (trimStart text.reverse).reverse = text
  rw [trimStart_of_shown shown, List.reverse_reverse]

theorem trim_of_shown {text : List Char} (shown : ∀ c ∈ text, isBlank c = false) :
    trim text = text := by
  unfold trim
  rw [trimStart_of_shown fun c first => shown c (List.mem_of_mem_head? first)]
  exact trimEnd_of_shown fun c last => shown c (List.mem_of_mem_getLast? last)

theorem trimEnd_append_of_blank (text : List Char) {gap : List Char}
    (blank : ∀ c ∈ gap, isBlank c = true) : trimEnd (text ++ gap) = trimEnd text := by
  unfold trimEnd
  rw [List.reverse_append, List.dropWhile_append_of_pos]
  intro c member
  exact blank c (List.mem_reverse.mp member)

theorem trim_append_of_blank (text : List Char) {gap : List Char}
    (blank : ∀ c ∈ gap, isBlank c = true) : trim (text ++ gap) = trim text := by
  unfold trim trimStart
  rw [List.dropWhile_append]
  split
  · next empty =>
    -- Nothing but white space: both are trimmed from the start to nothing.
    rw [List.isEmpty_iff.mp empty, List.dropWhile_eq_nil_iff.mpr blank]
  · exact trimEnd_append_of_blank _ blank

/-! ## Lines -/

/-- Without its carriage return a line is the same but for carriage returns at its end. -/
theorem eq_dropReturn_append (line : List Char) :
    ∃ ending, line = dropReturn line ++ ending ∧ ∀ c ∈ ending, c = '\r' := by
  unfold dropReturn
  split
  · next last =>
    obtain ⟨front, rfl⟩ := List.getLast?_eq_some_iff.mp last
    exact ⟨['\r'], by rw [List.dropLast_concat], fun c member => List.mem_singleton.mp member⟩
  · exact ⟨[], (List.append_nil line).symm, fun c member => absurd member List.not_mem_nil⟩

theorem trim_dropReturn (line : List Char) : trim (dropReturn line) = trim line := by
  obtain ⟨ending, same, returns⟩ := eq_dropReturn_append line
  have blank : ∀ c ∈ ending, isBlank c = true := by
    intro c member
    rw [returns c member]
    rfl
  calc trim (dropReturn line)
      = trim (dropReturn line ++ ending) := (trim_append_of_blank _ blank).symm
    _ = trim line := by rw [← same]

/-- How a text begins: it is empty, it has no line feed, or a first line is ended by one. -/
inductive Opening : List Char → Prop where
  | empty : Opening []
  | alone {line : List Char} (nonempty : line ≠ []) (oneLine : '\n' ∉ line) : Opening line
  | ended {line : List Char} (oneLine : '\n' ∉ line) (rest : List Char) :
      Opening (line ++ '\n' :: rest)

theorem opening (text : List Char) : Opening text := by
  by_cases feed : '\n' ∈ text
  · obtain ⟨line, rest, rfl, oneLine⟩ := List.eq_append_cons_of_mem feed
    exact .ended oneLine rest
  · by_cases empty : text = []
    · exact empty ▸ .empty
    · exact .alone empty feed

/-- Looking for a character stops right before the first place where it stands. -/
theorem takeWhile_ne_append {front : List Char} {c : Char} (absent : c ∉ front) (rest : List Char) :
    (front ++ c :: rest).takeWhile (· ≠ c) = front := by
  have others : ∀ d ∈ front, decide (d ≠ c) = true := fun d member =>
    decide_eq_true fun same => absent (same ▸ member)
  rw [List.takeWhile_append_of_pos others, List.takeWhile_cons_of_neg (by simp), List.append_nil]

theorem dropWhile_ne_append {front : List Char} {c : Char} (absent : c ∉ front) (rest : List Char) :
    (front ++ c :: rest).dropWhile (· ≠ c) = c :: rest := by
  have others : ∀ d ∈ front, decide (d ≠ c) = true := fun d member =>
    decide_eq_true fun same => absent (same ▸ member)
  rw [List.dropWhile_append_of_pos others, List.dropWhile_cons_of_neg (by simp)]

section

variable {line : List Char} (oneLine : '\n' ∉ line)
include oneLine

theorem nextLine?_append (rest : List Char) :
    nextLine? (line ++ '\n' :: rest) = some (dropReturn line, rest) := by
  unfold nextLine?
  rw [if_neg (by simp), takeWhile_ne_append oneLine, dropWhile_ne_append oneLine]

theorem nextLine?_alone (nonempty : line ≠ []) : nextLine? line = some (line, []) := by
  have others : ∀ c ∈ line, decide (c ≠ '\n') = true := fun c member =>
    decide_eq_true fun feed => oneLine (feed ▸ member)
  unfold nextLine?
  rw [if_neg (by simpa using nonempty), List.takeWhile_eq_self_iff.mpr others,
    List.dropWhile_eq_nil_iff.mpr others]

end

/-- The first line is the beginning of the text, without the ending that it may have. -/
theorem exists_append_of_nextLine? {text line rest : List Char}
    (found : nextLine? text = some (line, rest)) : ∃ ending, text = line ++ ending := by
  cases opening text with
  | empty => cases found
  | alone nonempty oneLine =>
    rw [nextLine?_alone oneLine nonempty] at found
    cases found
    exact ⟨[], (List.append_nil _).symm⟩
  | @ended first oneLine rest =>
    rw [nextLine?_append oneLine] at found
    cases found
    obtain ⟨ending, whole, -⟩ := eq_dropReturn_append first
    refine ⟨ending ++ '\n' :: rest, ?_⟩
    rw [← List.append_assoc, ← whole]

end Knapsack.Text
