import Knapsack.Report
import Knapsack.Proofs.Instance.Lines

/-!
# The report in words

A report shows three things: the value, the number of positions, and the positions. Between them stand
marks that no numeral has in it, so that each is found again: the value behind the first colon, the
number between the parentheses, and the positions as the words behind the colon after these. What is
found is what was written (`shownValue?_text`, `shownCount?_text`, `shownWords_text`), hence the
solution is read back (`solution?_text`), and no two solutions have the same report.
-/

namespace Knapsack.Report

/-! ## What a report shows -/

/-- What comes before the first `c`. -/
def before (c : Char) (report : List Char) : List Char :=
  report.takeWhile (· ≠ c)

/-- What comes after the first `c`. -/
def behind (c : Char) (report : List Char) : List Char :=
  (report.dropWhile (· ≠ c)).tail

/-- The value between the colon and the end of its line. -/
def shownValue? (report : List Char) : Option Int32 :=
  (Numeral.integer? (before '\n' (behind ' ' (behind ':' report)))).bind int32?

/-- The number in parentheses. -/
def shownCount? (report : List Char) : Option Nat :=
  Numeral.natural? (before ')' (behind '(' report))

/-- The words behind the colon after the parentheses. -/
def shownWords (report : List Char) : List (List Char) :=
  Instance.Lines.tokens (behind ':' (behind ')' report))

/-- The solution that a report shows. -/
def solution? (report : List Char) : Option Solution := do
  let optimalValue ← shownValue? report
  let selected ← (shownWords report).mapM Numeral.natural?
  return ⟨optimalValue, selected⟩

/-! ## What was written -/

section

variable {c : Char} {front : List Char} (absent : c ∉ front) (rest : List Char)
include absent

theorem before_append : before c (front ++ c :: rest) = front :=
  Text.takeWhile_ne_append absent rest

theorem behind_append : behind c (front ++ c :: rest) = rest := by
  rw [behind, Text.dropWhile_ne_append absent]
  rfl

end

/-- The positions as they are written, to the end of the report. -/
def positions (selected : List Nat) : List Char :=
  selected.flatMap (fun index => ' ' :: Numeral.ofNat index) ++ ['\n']

/-- The report, taken apart at the marks. -/
theorem text_eq (solution : Solution) :
    text solution = "Optimal value".toList ++ ':' :: ' ' ::
      (Numeral.ofInt solution.optimalValue.toInt ++ '\n' :: ("Selected indices ".toList ++ '(' ::
        (Numeral.ofNat solution.selected.length ++ ')' :: ':' :: positions solution.selected))) := by
  have opening : "Optimal value: ".toList = "Optimal value".toList ++ [':', ' '] := by decide
  have middle : "\nSelected indices (".toList = '\n' :: ("Selected indices ".toList ++ ['(']) := by
    decide
  have closing : "):".toList = [')', ':'] := by decide
  unfold text positions
  simp only [opening, middle, closing, List.append_assoc, List.cons_append, List.nil_append]

theorem not_mem_ofInt {c : Char} (n : Int) (noSign : c ≠ '-') (noDigit : c.isDigit = false) :
    c ∉ Numeral.ofInt n :=
  fun member => Numeral.ne_of_mem_ofInt member noSign noDigit rfl

variable (solution : Solution)

theorem shownValue?_text : shownValue? (text solution) = some solution.optimalValue := by
  have value := not_mem_ofInt (c := '\n') solution.optimalValue.toInt (by decide) rfl
  -- The space comes right after the colon, so nothing is in front of it.
  rw [text_eq, shownValue?, behind_append (by decide), ← List.nil_append (' ' :: _),
    behind_append List.not_mem_nil, before_append value, Numeral.integer?_ofInt]
  exact int32?_eq_some_iff.mpr rfl

/-- What comes before the opening parenthesis. -/
def untilCount (value : Int) : List Char :=
  "Optimal value".toList ++ ':' :: ' ' ::
    (Numeral.ofInt value ++ '\n' :: "Selected indices ".toList)

theorem text_eq_untilCount :
    text solution = untilCount solution.optimalValue.toInt ++ '(' ::
      (Numeral.ofNat solution.selected.length ++ ')' :: ':' :: positions solution.selected) := by
  rw [text_eq]
  unfold untilCount
  simp only [List.append_assoc, List.cons_append]

theorem not_mem_untilCount {c : Char} (value : Int) (noSign : c ≠ '-') (noDigit : c.isDigit = false)
    (other : c ∉ "Optimal value: \nSelected indices ".toList) : c ∉ untilCount value := by
  have shown : "Optimal value: \nSelected indices ".toList =
      "Optimal value".toList ++ ':' :: ' ' :: '\n' :: "Selected indices ".toList := by decide
  have numeral := not_mem_ofInt value noSign noDigit
  unfold untilCount
  simp only [shown, List.mem_append, List.mem_cons, not_or] at other ⊢
  exact ⟨other.1, other.2.1, other.2.2.1, numeral, other.2.2.2⟩

theorem shownCount?_text : shownCount? (text solution) = some solution.selected.length := by
  have opening := not_mem_untilCount (c := '(') solution.optimalValue.toInt (by decide) rfl
    (by decide)
  have count := not_mem_ofInt (c := ')') solution.selected.length (by decide) rfl
  rw [text_eq_untilCount, shownCount?, behind_append opening]
  exact (congrArg _ (before_append count _)).trans (Numeral.natural?_ofNat _)

/-- What is written for positions begins with a delimiter. -/
theorem isDelimiter_head?_positions (selected : List Nat) :
    ∀ c ∈ (positions selected).head?, Instance.Lines.isDelimiter c = true := by
  cases selected with
  | nil =>
    rintro c ⟨⟩
    rfl
  | cons index selected =>
    rintro c ⟨⟩
    rfl

theorem positions_cons (index : Nat) (selected : List Nat) :
    positions (index :: selected) = [' '] ++ (Numeral.ofNat index ++ positions selected) := by
  unfold positions
  simp only [List.flatMap_cons, List.cons_append, List.append_assoc, List.nil_append]

/-- The words of the positions are their numerals. -/
theorem tokens_positions (selected : List Nat) :
    Instance.Lines.tokens (positions selected) = selected.map Numeral.ofNat := by
  induction selected with
  | nil => rfl
  | cons index selected ih =>
    have space : ∀ c ∈ [' '], Instance.Lines.isDelimiter c = true := by
      intro c member
      rw [List.mem_singleton.mp member]
      rfl
    have plain : ∀ c ∈ Numeral.ofNat index, Instance.Lines.isDelimiter c = false := by
      intro c member
      simp only [Instance.Lines.isDelimiter, Bool.or_eq_false_iff, beq_eq_false_iff_ne]
      and_intros <;> exact Numeral.ne_of_mem_ofInt (n := index) member (by decide) rfl
    have nonempty : Numeral.ofNat index ≠ [] := Nat.toDigits_ne_nil
    rw [positions_cons, Instance.Lines.tokens_append_of_delimiters space,
      Instance.Lines.tokens_append nonempty plain (isDelimiter_head?_positions selected), ih,
      List.map_cons]

theorem shownWords_text : shownWords (text solution) = solution.selected.map Numeral.ofNat := by
  have parenthesis := not_mem_untilCount (c := ')') solution.optimalValue.toInt (by decide) rfl
    (by decide)
  have count := not_mem_ofInt (c := ')') solution.selected.length (by decide) rfl
  have front : ')' ∉ untilCount solution.optimalValue.toInt ++
      '(' :: Numeral.ofNat solution.selected.length := by
    rw [List.mem_append, List.mem_cons, not_or, not_or]
    exact ⟨parenthesis, by decide, count⟩
  have whole : text solution = (untilCount solution.optimalValue.toInt ++
      '(' :: Numeral.ofNat solution.selected.length) ++
        ')' :: ([] ++ ':' :: positions solution.selected) := by
    rw [text_eq_untilCount, List.append_assoc, List.cons_append]
    rfl
  rw [whole, shownWords, behind_append front, behind_append List.not_mem_nil, tokens_positions]

theorem mapM_natural?_map_ofNat (selected : List Nat) :
    (selected.map Numeral.ofNat).mapM Numeral.natural? = some selected := by
  induction selected with
  | nil => rfl
  | cons index selected ih =>
    rw [List.map_cons, List.mapM_cons, Numeral.natural?_ofNat, ih]
    rfl

theorem solution?_text : solution? (text solution) = some solution := by
  unfold solution?
  rw [shownValue?_text, shownWords_text]
  show ((solution.selected.map Numeral.ofNat).mapM Numeral.natural?).bind _ = _
  rw [mapM_natural?_map_ofNat]
  rfl

/-- Two reports are the same only if the solutions are, whatever their values and positions. The
number in parentheses is the number of the words behind the colon, and these are the positions. -/
theorem text_lossless (solution other : Solution) :
    (text solution = text other ↔ solution = other) ∧
      shownCount? (text solution) = some (shownWords (text solution)).length ∧
      shownWords (text solution) = solution.selected.map Numeral.ofNat := by
  refine ⟨⟨fun same => ?_, congrArg text⟩, ?_, shownWords_text solution⟩
  · have read := solution?_text solution
    rw [same, solution?_text other] at read
    exact (Option.some.inj read).symm
  · rw [shownCount?_text, shownWords_text, List.length_map]

end Knapsack.Report
