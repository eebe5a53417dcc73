import Mathlib.Data.List.Forall2
import Knapsack.Instance.Lines
import Knapsack.Proofs.Text
import Knapsack.Proofs.Text.Numeral

/-!
# The grammar of a token

A token is `weight:value`, two numerals of any length with a colon between them, whose integers are in
range (`Token`). A token is read exactly as the item that it shows (`item?_eq_some_iff`). A list of
tokens is read to its end if each of them shows an item (`mapM_item_eq_ok_iff`), and otherwise up to
the first that shows none (`mapM_item_eq_error_iff`).
-/

namespace Knapsack.Instance.Lines

open Numeral (Denotes)

/-- A token that shows an item: the weight as a numeral that is not negative, and the value as one
that may be, both within 32 bits. -/
inductive Token : List Char → Item → Prop where
  | intro {first second : List Char} {weight value : Int} (weighs : Denotes first weight)
      (amount : 0 ≤ weight ∧ weight ≤ 2147483647) (worth : Denotes second value)
      (range : -2147483648 ≤ value ∧ value ≤ 2147483647) :
      Token (first ++ ':' :: second) ⟨Int32.ofInt weight, Int32.ofInt value⟩

variable {text token : List Char} {words : List (List Char)} {x : Int32} {list : List Item}

theorem amount?_eq_some_iff :
    amount? text = some x ↔
      ∃ n, Denotes text n ∧ (0 ≤ n ∧ n ≤ 2147483647) ∧ x = Int32.ofInt n := by
  unfold amount?
  constructor
  · intro read
    split at read
    · cases read
    next n number =>
    split at read
    · cases read
    next nonneg =>
    obtain ⟨range, same⟩ := int32?_eq_some_ofInt_iff.mp read
    exact ⟨n, Numeral.integer?_eq_some_iff.mp number, ⟨Int.not_lt.mp nonneg, range.2⟩, same⟩
  · rintro ⟨n, denotes, ⟨nonneg, upper⟩, same⟩
    have range : -2147483648 ≤ n ∧ n ≤ 2147483647 := ⟨by omega, upper⟩
    simp only [Numeral.integer?_eq_some_iff.mpr denotes, if_neg (Int.not_lt.mpr nonneg)]
    exact int32?_eq_some_ofInt_iff.mpr ⟨range, same⟩

theorem int32?_integer?_eq_some_iff :
    (Numeral.integer? text).bind int32? = some x ↔
      ∃ n, Denotes text n ∧ (-2147483648 ≤ n ∧ n ≤ 2147483647) ∧ x = Int32.ofInt n := by
  rw [Option.bind_eq_some_iff]
  exact exists_congr fun n => and_congr Numeral.integer?_eq_some_iff int32?_eq_some_ofInt_iff

/-- No numeral has a colon in it, so the first one parts the token. -/
theorem colon_not_mem {n : Int} (denotes : Denotes text n) : ':' ∉ text := by
  intro member
  obtain same | same | digit := denotes.sign_or_digit ':' member
  · exact absurd same (by decide)
  · exact absurd same (by decide)
  · exact absurd digit (by decide)

/-- No numeral has white space in it. -/
theorem isBlank_of_denotes {n : Int} {c : Char} (denotes : Denotes text n) (member : c ∈ text) :
    Text.isBlank c = false := by
  obtain rfl | rfl | digit := denotes.sign_or_digit c member
  · rfl
  · rfl
  · obtain ⟨lower, upper⟩ := Char.isDigit_iff_toNat.mp digit
    change 48 ≤ c.toNat at lower
    change c.toNat ≤ 57 at upper
    simp [Text.isBlank]
    omega

theorem item?_eq_some_iff {item : Item} : item? token = some item ↔ Token token item := by
  constructor
  · intro read
    unfold item? at read
    split at read
    · cases read
    next c second parted =>
    have colon : c = ':' := by
      have last := List.head?_dropWhile_not (· ≠ ':') token
      rw [parted] at last
      simpa using last
    subst colon
    have whole := List.takeWhile_append_dropWhile (p := (· ≠ ':')) (l := token)
    split at read
    · next weight value first other =>
      cases read
      obtain ⟨n, weighs, amount, rfl⟩ := amount?_eq_some_iff.mp first
      obtain ⟨m, worth, range, rfl⟩ := int32?_integer?_eq_some_iff.mp other
      rw [← whole, parted]
      exact .intro weighs amount worth range
    · cases read
  · rintro @⟨first, second, weight, value, weighs, amount, worth, range⟩
    have parted := colon_not_mem weighs
    unfold item?
    rw [Text.dropWhile_ne_append parted, Text.takeWhile_ne_append parted]
    simp only [amount?_eq_some_iff.mpr ⟨weight, weighs, amount, rfl⟩,
      int32?_integer?_eq_some_iff.mpr ⟨value, worth, range, rfl⟩]

theorem item_eq_ok_iff {shown : Item} : item token = .ok shown ↔ Token token shown := by
  rw [← item?_eq_some_iff]
  unfold item
  cases item? token with
  | none => exact iff_of_false nofun nofun
  | some read => rw [Except.ok.injEq, Option.some_inj]

theorem item_of_not_token (invalid : ¬ ∃ shown, Token token shown) :
    item token = .error (.badToken (String.ofList token)) := by
  unfold item
  cases read : item? token with
  | none => rfl
  | some shown => exact absurd ⟨shown, item?_eq_some_iff.mp read⟩ invalid

theorem mapM_item_of_shows (shows : List.Forall₂ Token words list) : words.mapM item = .ok list := by
  induction shows with
  | nil => rfl
  | cons first rest ih =>
    rw [List.mapM_cons, item_eq_ok_iff.mpr first, ih]
    rfl

/-- Tokens are read from left to right up to one that shows no item. -/
theorem mapM_item_of_stop {before after : List (List Char)}
    (valid : ∀ other ∈ before, ∃ shown, Token other shown) (invalid : ¬ ∃ shown, Token token shown) :
    (before ++ token :: after).mapM item = .error (.badToken (String.ofList token)) := by
  induction before with
  | nil =>
    rw [List.nil_append, List.mapM_cons, item_of_not_token invalid]
    rfl
  | cons other before ih =>
    obtain ⟨⟨shown, first⟩, others⟩ := List.forall_mem_cons.mp valid
    rw [List.cons_append, List.mapM_cons, item_eq_ok_iff.mpr first, ih others]
    rfl

/-- Either all tokens show items, or there is a first one that shows none. -/
theorem exists_items_or_stop (words : List (List Char)) :
    (∃ list, List.Forall₂ Token words list) ∨
      ∃ before token after, words = before ++ token :: after ∧
        (∀ other ∈ before, ∃ shown, Token other shown) ∧ ¬ ∃ shown, Token token shown := by
  induction words with
  | nil => exact .inl ⟨[], .nil⟩
  | cons token words ih =>
    by_cases valid : ∃ shown, Token token shown
    case neg => exact .inr ⟨[], token, words, rfl, fun _ member => absurd member List.not_mem_nil, valid⟩
    obtain ⟨list, shows⟩ | ⟨before, stop, after, rfl, others, invalid⟩ := ih
    · obtain ⟨shown, first⟩ := valid
      exact .inl ⟨shown :: list, .cons first shows⟩
    · exact .inr ⟨token :: before, stop, after, rfl, List.forall_mem_cons.mpr ⟨valid, others⟩, invalid⟩

theorem mapM_item_eq_ok_iff : words.mapM item = .ok list ↔ List.Forall₂ Token words list := by
  refine ⟨fun read => ?_, mapM_item_of_shows⟩
  obtain ⟨others, shows⟩ | ⟨before, token, after, rfl, valid, invalid⟩ := exists_items_or_stop words
  · rw [mapM_item_of_shows shows, Except.ok.injEq] at read
    exact read ▸ shows
  · rw [mapM_item_of_stop valid invalid] at read
    cases read

theorem mapM_item_eq_error_iff {error : Error} :
    words.mapM item = .error error ↔
      ∃ before token after, words = before ++ token :: after ∧
        (∀ other ∈ before, ∃ shown, Token other shown) ∧ (¬ ∃ shown, Token token shown) ∧
        error = .badToken (String.ofList token) := by
  constructor
  · intro failed
    obtain ⟨list, shows⟩ | ⟨before, token, after, rfl, valid, invalid⟩ := exists_items_or_stop words
    · rw [mapM_item_of_shows shows] at failed
      cases failed
    · rw [mapM_item_of_stop valid invalid] at failed
      exact ⟨before, token, after, rfl, valid, invalid, (Except.error.inj failed).symm⟩
  · rintro ⟨before, token, after, rfl, valid, invalid, rfl⟩
    exact mapM_item_of_stop valid invalid

end Knapsack.Instance.Lines
