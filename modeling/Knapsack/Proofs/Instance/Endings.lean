import Knapsack.Proofs.Instance.Lines

/-!
# Line endings

A carriage return put before every line feed of a text leaves its lines as they are, but for
carriage returns at their ends (`sameLine_withReturns`). Neither the reading of a capacity nor that
of items is changed by those, so an instance is read alike from both texts (`read_withReturns`).
-/

namespace Knapsack

namespace Text

/-- The text with a carriage return put before each of its line feeds. -/
def withReturns (text : List Char) : List Char :=
  text.flatMap fun c => if c = '\n' then ['\r', '\n'] else [c]

variable {line : List Char}

theorem withReturns_of_oneLine (oneLine : '\n' ∉ line) : withReturns line = line := by
  unfold withReturns
  induction line with
  | nil => rfl
  | cons c line ih =>
    rw [List.mem_cons, not_or] at oneLine
    rw [List.flatMap_cons, if_neg (Ne.symm oneLine.1), ih oneLine.2]
    rfl

theorem withReturns_append (oneLine : '\n' ∉ line) (rest : List Char) :
    withReturns (line ++ '\n' :: rest) = (line ++ ['\r']) ++ '\n' :: withReturns rest := by
  have whole := withReturns_of_oneLine oneLine
  unfold withReturns at whole ⊢
  rw [List.flatMap_append, List.flatMap_cons, whole, if_pos rfl]
  simp only [List.append_assoc, List.cons_append, List.nil_append]

/-- The first line of a text and that of the text with carriage returns: there is none in either, or
the first is the second, with or without the carriage return of its ending. -/
inductive SameLine :
    Option (List Char × List Char) → Option (List Char × List Char) → Prop where
  | none : SameLine none none
  | some {line longer : List Char} (same : line = longer ∨ line = dropReturn longer)
      (rest : List Char) : SameLine (some (line, rest)) (some (longer, withReturns rest))

theorem sameLine_withReturns (text : List Char) :
    SameLine (nextLine? text) (nextLine? (withReturns text)) := by
  cases opening text with
  | empty => exact .none
  | alone nonempty oneLine =>
    rw [withReturns_of_oneLine oneLine, nextLine?_alone oneLine nonempty]
    exact .some (.inl rfl) []
  | @ended line oneLine rest =>
    have longerLine : '\n' ∉ line ++ ['\r'] := by simpa using oneLine
    rw [withReturns_append oneLine, nextLine?_append oneLine, nextLine?_append longerLine]
    have stripped : dropReturn (line ++ ['\r']) = line := by
      rw [dropReturn, if_pos List.getLast?_concat, List.dropLast_concat]
    rw [stripped]
    exact .some (.inr rfl) rest

/-- What does not depend on the carriage return of an ending is the same for both first lines. -/
theorem eq_of_sameLine {α : Type} {f : List Char → α} {longer : List Char}
    (unchanged : ∀ line, f (dropReturn line) = f line)
    (same : line = longer ∨ line = dropReturn longer) : f line = f longer := by
  obtain rfl | rfl := same
  · rfl
  · exact unchanged longer

end Text

namespace Instance.Lines

open Text (withReturns)

/-- A carriage return before every line feed makes no difference, neither to the instance that is
read nor to the error. -/
theorem read_withReturns (text : List Char) : read (withReturns text) = read text := by
  unfold read
  have first := Text.sameLine_withReturns text
  generalize Text.nextLine? text = line at first ⊢
  generalize Text.nextLine? (withReturns text) = longer at first ⊢
  cases first with
  | none => rfl
  | @some line longer same rest =>
    simp only [Text.eq_of_sameLine capacity_dropReturn same]
    have second := Text.sameLine_withReturns rest
    generalize Text.nextLine? rest = line at second ⊢
    generalize Text.nextLine? (withReturns rest) = longer at second ⊢
    cases second with
    | none => rfl
    | some same => simp only [Text.eq_of_sameLine items_dropReturn same]

example : read (withReturns "7 x\r\n1:2".toList) = .error (.badCapacity "7 x") := rfl

end Instance.Lines

end Knapsack
