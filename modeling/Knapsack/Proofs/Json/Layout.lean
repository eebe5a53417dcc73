import Mathlib.Data.List.TakeWhile
import Knapsack.Json.Documents

/-!
# How lists and objects are laid out

A list or an object is its entries between two marks, with commas between them and white space
anywhere around them (`Bracketed`). What is written has no white space (`bracketed_enclosed`).
Wherever the white space is, a reader that looks for the next entry finds it, with the later ones
behind it (`Entries.exists_nextElement`, `Entries.exists_nextKey`).

A numeral does not say by itself where it ends, so that an entry is only read before a text with
which no number goes on, such as white space, a comma, a closing mark or the end.
-/

namespace Knapsack.Json

/-! ## Where values begin and end -/

/-- A text where a value may begin. -/
def Begins (text : List Char) : Prop :=
  ∃ c tail, text = c :: tail ∧ isSpace c = false ∧ c ≠ ']'

/-- A text with which no number goes on. -/
def Stops (text : List Char) : Prop :=
  ∀ c ∈ text.head?, c.isDigit = false ∧ c ≠ '.' ∧ c ≠ 'e' ∧ c ≠ 'E'

theorem stops_cons {c : Char} {text : List Char}
    (mark : c.isDigit = false ∧ c ≠ '.' ∧ c ≠ 'e' ∧ c ≠ 'E') : Stops (c :: text) := by
  intro first same
  cases same
  exact mark

theorem Begins.skipSpace {text : List Char} (begins : Begins text) (rest : List Char) :
    skipSpace (text ++ rest) = text ++ rest := by
  obtain ⟨c, tail, rfl, shown, _⟩ := begins
  exact List.dropWhile_cons_of_neg (by simp [shown])

theorem Begins.length_pos {text : List Char} (begins : Begins text) : 0 < text.length := by
  obtain ⟨c, tail, rfl, _⟩ := begins
  exact Nat.succ_pos _

theorem ne_of_sign_or_digit {c d : Char} (numeral : c = '-' ∨ c.isDigit = true) (noSign : d ≠ '-')
    (noDigit : d.isDigit = false) : c ≠ d := by
  rintro rfl
  rcases numeral with sign | digit
  · exact noSign sign
  · exact absurd (noDigit.symm.trans digit) (by decide)

theorem isSpace_of_sign_or_digit {c : Char} (numeral : c = '-' ∨ c.isDigit = true) :
    isSpace c = false := by
  have other {d : Char} := ne_of_sign_or_digit (d := d) numeral
  simp [isSpace, other (d := ' ') (by decide) rfl, other (d := '\t') (by decide) rfl,
    other (d := '\n') (by decide) rfl, other (d := '\r') (by decide) rfl]

/-- A number begins with a sign or a digit, which are neither white space nor marks. -/
theorem begins_of_sign_or_digit {c : Char} (numeral : c = '-' ∨ c.isDigit = true)
    (tail : List Char) : Begins (c :: tail) :=
  ⟨c, tail, rfl, isSpace_of_sign_or_digit numeral, ne_of_sign_or_digit numeral (by decide) rfl⟩

theorem startsWithDigit_of_stops {rest : List Char} (stops : Stops rest) :
    startsWithDigit rest = false := by
  cases rest with
  | nil => rfl
  | cons c rest => exact (stops c rfl).1

section

variable {digits rest : List Char} (all : ∀ c ∈ digits, c.isDigit = true)
  (ended : startsWithDigit rest = false)
include all ended

theorem takeWhile_digits : (digits ++ rest).takeWhile Char.isDigit = digits := by
  rw [List.takeWhile_append_of_pos all]
  cases rest with
  | nil => exact List.append_nil digits
  | cons c rest =>
    change c.isDigit = false at ended
    rw [List.takeWhile_cons_of_neg (by simp [ended]), List.append_nil]

theorem dropWhile_digits : (digits ++ rest).dropWhile Char.isDigit = rest := by
  rw [List.dropWhile_append_of_pos all]
  cases rest with
  | nil => rfl
  | cons c rest =>
    change c.isDigit = false at ended
    exact List.dropWhile_cons_of_neg (by simp [ended])

end

/-! ## White space -/

def Blank (gap : List Char) : Prop :=
  ∀ c ∈ gap, isSpace c = true

theorem blank_nil : Blank [] :=
  fun _ member => absurd member List.not_mem_nil

theorem skipSpace_gap {gap : List Char} (blank : Blank gap) (text : List Char) :
    skipSpace (gap ++ text) = skipSpace text :=
  List.dropWhile_append_of_pos blank

theorem skipSpace_blank {gap : List Char} (blank : Blank gap) : skipSpace gap = [] :=
  List.dropWhile_eq_nil_iff.mpr blank

theorem skipSpace_mark {gap : List Char} {c : Char} (blank : Blank gap)
    (shown : isSpace c = false) (text : List Char) : skipSpace (gap ++ c :: text) = c :: text := by
  rw [skipSpace_gap blank]
  exact List.dropWhile_cons_of_neg (by simp [shown])

theorem Begins.skipSpace_gap {text gap : List Char} (begins : Begins text) (blank : Blank gap)
    (rest : List Char) : Json.skipSpace (gap ++ (text ++ rest)) = text ++ rest := by
  rw [Json.skipSpace_gap blank, begins.skipSpace]

theorem stops_gap {gap text : List Char} (blank : Blank gap) (stops : Stops text) :
    Stops (gap ++ text) := by
  cases gap with
  | nil => exact stops
  | cons c gap =>
    have space := blank c List.mem_cons_self
    simp only [isSpace, Bool.or_eq_true, beq_iff_eq] at space
    apply stops_cons
    obtain ((rfl | rfl) | rfl) | rfl := space <;> decide

theorem stops_of_isSpace {text : List Char} (blank : ∀ c ∈ text, isSpace c = true) :
    Stops text := by
  have ended : Stops [] := fun _ none => by cases none
  have alone := stops_gap blank ended
  rwa [List.append_nil] at alone

/-! ## Entries -/

/-- The text of entries up to the closing mark; `first` tells that there was none before. -/
inductive Entries (close : Char) : (first : Bool) → List (List Char) → List Char → Prop where
  | closed {first : Bool} {gap : List Char} (blank : Blank gap) :
      Entries close first [] (gap ++ [close])
  | first {gap entry text : List Char} {entries : List (List Char)} (blank : Blank gap)
      (later : Entries close false entries text) :
      Entries close true (entry :: entries) (gap ++ (entry ++ text))
  | comma {before after entry text : List Char} {entries : List (List Char)}
      (blankBefore : Blank before) (blankAfter : Blank after)
      (later : Entries close false entries text) :
      Entries close false (entry :: entries) (before ++ ',' :: (after ++ (entry ++ text)))

/-- The text of entries between two marks. -/
def Bracketed (left right : Char) (entries : List (List Char)) (text : List Char) : Prop :=
  ∃ tail, text = left :: tail ∧ Entries right true entries tail

/-- No number goes on with what comes after an entry. -/
theorem Entries.stops {close : Char} {entries : List (List Char)} {text : List Char}
    (layout : Entries close false entries text)
    (mark : close.isDigit = false ∧ close ≠ '.' ∧ close ≠ 'e' ∧ close ≠ 'E')
    (rest : List Char) : Stops (text ++ rest) := by
  cases layout with
  | closed blank =>
    rw [List.append_assoc]
    exact stops_gap blank (stops_cons mark)
  | comma blankBefore blankAfter later =>
    rw [List.append_assoc]
    exact stops_gap blankBefore (stops_cons (by decide))

theorem Entries.exists_front {close : Char} {first : Bool} {entries : List (List Char)}
    {text : List Char} (layout : Entries close first entries text) :
    ∃ front, text = front ++ [close] := by
  induction layout with
  | closed _ => exact ⟨_, rfl⟩
  | @first gap entry _ _ _ _ ih =>
    obtain ⟨front, rfl⟩ := ih
    exact ⟨gap ++ (entry ++ front), by simp⟩
  | @comma before after entry _ _ _ _ _ ih =>
    obtain ⟨front, rfl⟩ := ih
    exact ⟨before ++ ',' :: (after ++ (entry ++ front)), by simp⟩

/-! ## What is written -/

/-- The entries that come after the first one, each behind a comma. -/
def following (entries : List (List Char)) : List Char :=
  entries.flatMap fun entry => ',' :: entry

theorem intercalate_cons (entry : List Char) (entries : List (List Char)) :
    [','].intercalate (entry :: entries) = entry ++ following entries := by
  induction entries generalizing entry with
  | nil => simp [following]
  | cons next entries ih => rw [List.intercalate_cons_cons, ih]; simp [following]

theorem entries_following (close : Char) (entries : List (List Char)) :
    Entries close false entries (following entries ++ [close]) := by
  induction entries with
  | nil => exact .closed blank_nil
  | cons entry entries ih =>
    have written : following (entry :: entries) ++ [close] =
        [] ++ ',' :: ([] ++ (entry ++ (following entries ++ [close]))) := by
      simp [following]
    rw [written]
    exact .comma blank_nil blank_nil ih

/-- What is written has no white space. -/
theorem bracketed_enclosed (left right : Char) (entries : List (List Char)) :
    Bracketed left right entries (enclosed left right entries) := by
  refine ⟨_, rfl, ?_⟩
  cases entries with
  | nil => exact .closed blank_nil
  | cons entry entries =>
    change Entries right true _ (List.intercalate _ _ ++ [right])
    rw [intercalate_cons, List.append_assoc]
    exact .first blank_nil (entries_following right entries)

/-! ## What comes next -/

section

variable {gap before after text : List Char}

theorem colon_gap (blank : Blank gap) (rest : List Char) :
    colon (gap ++ ':' :: rest) = .ok rest := by
  unfold colon
  rw [skipSpace_mark blank (by decide)]
  rfl

theorem closeList_gap (blank : Blank gap) (rest : List Char) :
    closeList (gap ++ ']' :: rest) = .ok rest := by
  unfold closeList
  rw [skipSpace_mark blank (by decide)]
  rfl

theorem nextElement_closed (first : Bool) (blank : Blank gap) (rest : List Char) :
    nextElement first (gap ++ ']' :: rest) = .ok (.closed rest) := by
  unfold nextElement
  rw [skipSpace_mark blank (by decide)]
  rfl

theorem nextElement_first (blank : Blank gap) (begins : Begins text) (rest : List Char) :
    nextElement true (gap ++ (text ++ rest)) = .ok (.entry (text ++ rest)) := by
  have here := begins.skipSpace_gap blank rest
  obtain ⟨c, tail, rfl, _, other⟩ := begins
  unfold nextElement
  rw [here]
  split
  · next empty => cases empty
  · next closed => exact absurd (List.cons.inj closed).1 other
  · next same => cases same; rfl

theorem nextElement_comma (blankBefore : Blank before) (blankAfter : Blank after)
    (begins : Begins text) (rest : List Char) :
    nextElement false (before ++ ',' :: (after ++ (text ++ rest))) =
      .ok (.entry (text ++ rest)) := by
  have here := begins.skipSpace_gap blankAfter rest
  obtain ⟨c, tail, rfl, _, other⟩ := begins
  unfold nextElement
  rw [skipSpace_mark blankBefore (by decide)]
  split
  · next empty => cases empty
  · next closed => exact absurd (List.cons.inj closed).1 (by decide)
  · next same =>
    cases same
    rw [if_neg Bool.false_ne_true, if_pos rfl, here]
    split
    · next empty => cases empty
    · next closed => exact absurd (List.cons.inj closed).1 other
    · rfl

theorem nextKey_closed (first : Bool) (blank : Blank gap) (rest : List Char) :
    nextKey first (gap ++ '\x7d' :: rest) = .ok (.closed rest) := by
  unfold nextKey
  rw [skipSpace_mark blank (by decide)]
  rfl

theorem nextKey_first (blank : Blank gap) (rest : List Char) :
    nextKey true (gap ++ '"' :: rest) = .ok (.entry rest) := by
  unfold nextKey
  rw [skipSpace_mark blank (by decide)]
  rfl

theorem nextKey_comma (blankBefore : Blank before) (blankAfter : Blank after)
    (rest : List Char) :
    nextKey false (before ++ ',' :: (after ++ '"' :: rest)) = .ok (.entry rest) := by
  have here : skipSpace (after ++ '"' :: rest) = '"' :: rest :=
    skipSpace_mark blankAfter (by decide) rest
  unfold nextKey
  rw [skipSpace_mark blankBefore (by decide)]
  simp [here]

end

namespace Entries

variable {first : Bool} {entry tail text : List Char} {entries : List (List Char)}

/-- After the last element the list is closed. -/
theorem nextElement_nil (layout : Entries ']' first [] text) (rest : List Char) :
    nextElement first (text ++ rest) = .ok (.closed rest) := by
  cases layout with
  | closed blank =>
    rw [List.append_assoc]
    exact nextElement_closed first blank rest

/-- The next element is ahead, with the later ones behind it. -/
theorem exists_nextElement (layout : Entries ']' first (entry :: entries) text)
    (begins : Begins entry) : ∃ later, Entries ']' false entries later ∧
      later.length < text.length ∧
      ∀ rest, nextElement first (text ++ rest) = .ok (.entry (entry ++ (later ++ rest))) := by
  have shown := begins.length_pos
  cases layout with
  | @first gap _ later _ blank layout =>
    refine ⟨later, layout, by simp only [List.length_append]; omega, fun rest => ?_⟩
    rw [List.append_assoc, List.append_assoc]
    exact nextElement_first blank begins _
  | @comma before after _ later _ blankBefore blankAfter layout =>
    refine ⟨later, layout, by simp only [List.length_append, List.length_cons]; omega,
      fun rest => ?_⟩
    rw [List.append_assoc, List.cons_append, List.append_assoc, List.append_assoc]
    exact nextElement_comma blankBefore blankAfter begins _

/-- After the last member the object is closed. -/
theorem nextKey_nil (layout : Entries '\x7d' first [] text) (rest : List Char) :
    nextKey first (text ++ rest) = .ok (.closed rest) := by
  cases layout with
  | closed blank =>
    rw [List.append_assoc]
    exact nextKey_closed first blank rest

/-- The next member is ahead, behind the quote of its key, with the later ones behind it. -/
theorem exists_nextKey (layout : Entries '\x7d' first (('"' :: tail) :: entries) text) :
    ∃ later, Entries '\x7d' false entries later ∧ later.length < text.length ∧
      ∀ rest, nextKey first (text ++ rest) = .ok (.entry (tail ++ (later ++ rest))) := by
  cases layout with
  | @first gap _ later _ blank layout =>
    refine ⟨later, layout, by simp only [List.length_append, List.length_cons]; omega,
      fun rest => ?_⟩
    rw [List.append_assoc, List.append_assoc]
    exact nextKey_first blank _
  | @comma before after _ later _ blankBefore blankAfter layout =>
    refine ⟨later, layout, by simp only [List.length_append, List.length_cons]; omega,
      fun rest => ?_⟩
    rw [List.append_assoc, List.cons_append, List.append_assoc, List.append_assoc]
    exact nextKey_comma blankBefore blankAfter _

end Entries

end Knapsack.Json
