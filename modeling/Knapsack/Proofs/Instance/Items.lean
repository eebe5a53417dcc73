import Knapsack.Proofs.Instance.Lines

/-!
# Which lines show items

The tokens of a line are its longest runs of characters that are no delimiters. `Runs` says this by
the shape of the line, and every line has exactly one list of runs (`runs_iff`). A line is read as
items exactly if it has a token and all its tokens show items; if it is not, the first token that
shows none is named (`items_reads_grammar`).
-/

namespace Knapsack.Instance.Lines

/-- The characters that part tokens. -/
def delimiters : List Char :=
  [' ', ',', '\t', '\r', '\n']

/-- The longest runs of characters other than delimiters, in their order. A run begins at the start of
the line or behind a delimiter, and goes on to the next delimiter or to the end. -/
inductive Runs : List (List Char) → List Char → Prop where
  | nil : Runs [] []
  | skip {c : Char} {line : List Char} {words : List (List Char)} (delimiter : c ∈ delimiters)
      (later : Runs words line) : Runs words (c :: line)
  | run {word line : List Char} {words : List (List Char)} (nonempty : word ≠ [])
      (plain : ∀ c ∈ word, c ∉ delimiters) (ended : ∀ c ∈ line.head?, c ∈ delimiters)
      (later : Runs words line) : Runs (word :: words) (word ++ line)

variable {line : List Char} {words : List (List Char)} {c : Char}

theorem isDelimiter_iff : isDelimiter c ↔ c ∈ delimiters := by
  simp only [isDelimiter, delimiters, Bool.or_eq_true, beq_iff_eq, List.mem_cons, List.not_mem_nil,
    or_false, or_assoc]

theorem isDelimiter_eq_false_iff : isDelimiter c = false ↔ c ∉ delimiters := by
  rw [← isDelimiter_iff, Bool.not_eq_true]

theorem Runs.tokens_eq (runs : Runs words line) : tokens line = words := by
  induction runs with
  | nil => rfl
  | skip delimiter later ih =>
    rw [tokens, tokensFrom, if_pos (isDelimiter_iff.mpr delimiter)]
    exact ih
  | run nonempty plain ended later ih =>
    rw [tokens_append nonempty (fun c member => isDelimiter_eq_false_iff.mpr (plain c member))
      (fun c first => isDelimiter_iff.mpr (ended c first)), ih]

/-- What was read of a token makes one run with what is still to come of it. -/
theorem runs_tokensFrom {token : List Char} (plain : ∀ c ∈ token, c ∉ delimiters)
    (line : List Char) : Runs (tokensFrom token line) (token.reverse ++ line) := by
  induction line generalizing token with
  | nil =>
    rw [tokensFrom]
    cases token with
    | nil => exact .nil
    | cons d token =>
      refine .run (by simp) (fun c member => plain c (List.mem_reverse.mp member)) ?_ .nil
      intro c first
      cases first
  | cons c line ih =>
    rw [tokensFrom]
    split
    · next delimiter =>
      have delimiter : c ∈ delimiters := isDelimiter_iff.mp delimiter
      have later : Runs (tokensFrom [] line) (c :: line) :=
        .skip delimiter (ih (List.forall_mem_nil _))
      cases token with
      | nil => exact later
      | cons d token =>
        refine .run (by simp) (fun c member => plain c (List.mem_reverse.mp member)) ?_ later
        intro d first
        cases first
        exact delimiter
    · next other =>
      have longer : ∀ d ∈ c :: token, d ∉ delimiters :=
        List.forall_mem_cons.mpr ⟨mt isDelimiter_iff.mpr other, plain⟩
      have runs := ih longer
      rwa [List.reverse_cons, List.append_assoc] at runs

theorem runs_iff : Runs words line ↔ words = tokens line :=
  ⟨fun runs => runs.tokens_eq.symm, fun same => same ▸ runs_tokensFrom (List.forall_mem_nil _) line⟩

theorem items_of_no_tokens (none : tokens line = []) : items line = .error .noItems := by
  unfold items
  rw [none]
  rfl

theorem items_of_tokens (some : tokens line ≠ []) : items line = (tokens line).mapM item := by
  unfold items
  cases read : (tokens line).mapM item with
  | error error => rfl
  | ok list =>
    cases list with
    | nil => exact absurd (List.forall₂_nil_right_iff.mp (mapM_item_eq_ok_iff.mp read)) some
    | cons first others => rfl

theorem items_eq_ok_iff {list : List Item} :
    items line = .ok list ↔ tokens line ≠ [] ∧ List.Forall₂ Token (tokens line) list := by
  by_cases none : tokens line = []
  · rw [items_of_no_tokens none]
    exact iff_of_false nofun fun both => both.1 none
  · rw [items_of_tokens none, mapM_item_eq_ok_iff, and_iff_right none]

theorem items_eq_error_iff {error : Error} :
    items line = .error error ↔
      (tokens line = [] ∧ error = .noItems) ∨
        ∃ before token after, tokens line = before ++ token :: after ∧
          (∀ other ∈ before, ∃ shown, Token other shown) ∧ (¬ ∃ shown, Token token shown) ∧
          error = .badToken (String.ofList token) := by
  by_cases none : tokens line = []
  · rw [items_of_no_tokens none, Except.error.injEq, and_iff_right none, or_iff_left, eq_comm]
    rintro ⟨before, token, after, split, -⟩
    rw [none] at split
    exact List.append_ne_nil_of_right_ne_nil before (List.cons_ne_nil token after) split.symm
  · rw [items_of_tokens none, mapM_item_eq_error_iff, or_iff_right fun both => none both.1]

/-- Every line has one list of tokens, its longest runs without delimiters. It is read as items exactly
if it has a token and its tokens show these items one by one. It is refused for want of items if it
has no token, and otherwise with the name of the first token that shows no item. -/
theorem items_reads_grammar (line : List Char) :
    ∃ words, (∀ other, Runs other line ↔ other = words) ∧
      (∀ list, items line = .ok list ↔ words ≠ [] ∧ List.Forall₂ Token words list) ∧
      ∀ error, items line = .error error ↔
        (words = [] ∧ error = .noItems) ∨
          ∃ before token after, words = before ++ token :: after ∧
            (∀ other ∈ before, ∃ shown, Token other shown) ∧ (¬ ∃ shown, Token token shown) ∧
            error = .badToken (String.ofList token) :=
  ⟨tokens line, fun _ => runs_iff, fun _ => items_eq_ok_iff, fun _ => items_eq_error_iff⟩

example : items ", 000000000000000000000007:-2147483648\t+0:+5\r".toList =
    .ok [⟨7, -2147483648⟩, ⟨0, 5⟩] := rfl

example : items "1:2 3:4:5 -1:0".toList = .error (.badToken "3:4:5") := rfl

end Knapsack.Instance.Lines
