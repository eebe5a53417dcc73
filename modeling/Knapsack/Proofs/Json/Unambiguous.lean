import Knapsack.Proofs.Json.Members

/-!
# An object has one list of members

What a reader takes off the front of a text leaves one rest. So two values that begin a text are the
same value (`Value.eq_of_append_eq`), and so are two members (`Member.Written.eq_of_append_eq`), and
by induction on the members of an object they are determined by its text, in their order
(`ObjectOf.unique`). The values must be well formed, for the grammar of objects itself takes any text
as a value.
-/

namespace Knapsack.Json

section

variable {text other gap otherGap rest otherRest : List Char}

/-- Of two values in front of the same text, each stopped by what comes after it, one is the other. -/
theorem Value.eq_of_append_eq (value : Value text) (otherValue : Value other)
    (blank : Blank gap) (blankOther : Blank otherGap) (stops : Stops rest)
    (stopsOther : Stops otherRest)
    (same : gap ++ (text ++ rest) = otherGap ++ (other ++ otherRest)) :
    text = other ∧ rest = otherRest := by
  have skipped := value.skipValue blank stops
  rw [same, otherValue.skipValue blankOther stopsOther] at skipped
  obtain rfl : otherRest = rest := Except.ok.inj skipped
  have shown := congrArg skipSpace same
  rw [value.begins.skipSpace_gap blank, otherValue.begins.skipSpace_gap blankOther] at shown
  exact ⟨List.append_cancel_right shown, rfl⟩

/-- The inside of a string ends at its first plain quote, and stands for one text. -/
theorem Spells.eq_of_append_eq {key otherKey : List Char} (spells : Spells text key)
    (spellsOther : Spells other otherKey)
    (same : text ++ '"' :: rest = other ++ '"' :: otherRest) :
    key = otherKey ∧ rest = otherRest := by
  have read := string_spells spells rest
  rw [same, string_spells spellsOther otherRest] at read
  obtain ⟨keys, rests⟩ := Prod.mk.inj (Except.ok.inj read)
  exact ⟨keys.symm, rests.symm⟩

theorem eq_of_colon_eq (blank : Blank gap) (blankOther : Blank otherGap)
    (same : gap ++ ':' :: rest = otherGap ++ ':' :: otherRest) : rest = otherRest := by
  have taken := colon_gap blank rest
  rw [same, colon_gap blankOther otherRest] at taken
  exact (Except.ok.inj taken).symm

end

section

variable {member otherMember : Member} {entry otherEntry rest otherRest : List Char}

theorem Member.Written.exists_tail (written : member.Written entry) :
    ∃ tail, entry = '"' :: tail := by
  cases written with
  | spelled => exact ⟨_, rfl⟩

/-- Of two members in front of the same text, one is the other. -/
theorem Member.Written.eq_of_append_eq (written : member.Written entry)
    (writtenOther : otherMember.Written otherEntry) (value : Value member.value)
    (otherValue : Value otherMember.value) (stops : Stops rest) (stopsOther : Stops otherRest)
    (same : entry ++ rest = otherEntry ++ otherRest) :
    member = otherMember ∧ rest = otherRest := by
  obtain ⟨key, text⟩ := member
  obtain ⟨otherKey, otherText⟩ := otherMember
  cases written with
  | spelled spells blankBefore blankAfter =>
    cases writtenOther with
    | spelled spellsOther blankBeforeOther blankAfterOther =>
      simp only [List.cons_append, List.append_assoc] at same
      obtain ⟨rfl, colons⟩ := spells.eq_of_append_eq spellsOther (List.cons.inj same).2
      have values := eq_of_colon_eq blankBefore blankBeforeOther colons
      obtain ⟨rfl, rests⟩ := value.eq_of_append_eq otherValue blankAfter blankAfterOther stops
        stopsOther values
      exact ⟨rfl, rests⟩

end

/-- Members that are laid out in one text are the same members. -/
theorem members_eq_of_entries {first : Bool} {members others : List Member}
    {entries otherEntries : List (List Char)} {text otherText rest otherRest : List Char}
    (written : List.Forall₂ Member.Written members entries)
    (writtenOther : List.Forall₂ Member.Written others otherEntries)
    (values : ∀ member ∈ members, Value member.value)
    (otherValues : ∀ member ∈ others, Value member.value)
    (layout : Entries '\x7d' first entries text)
    (layoutOther : Entries '\x7d' first otherEntries otherText)
    (same : text ++ rest = otherText ++ otherRest) : members = others := by
  induction written generalizing first text rest otherRest others otherEntries otherText with
  | nil =>
    have closed := layout.nextKey_nil rest
    cases writtenOther with
    | nil => rfl
    | cons here =>
      obtain ⟨tail, rfl⟩ := here.exists_tail
      obtain ⟨later, -, -, ready⟩ := layoutOther.exists_nextKey
      rw [same, ready] at closed
      cases closed
  | cons here _ ih =>
    obtain ⟨tail, rfl⟩ := here.exists_tail
    obtain ⟨later, layoutLater, -, ready⟩ := layout.exists_nextKey
    have next := ready rest
    cases writtenOther with
    | nil =>
      rw [same, layoutOther.nextKey_nil] at next
      cases next
    | cons hereOther writtenOther =>
      obtain ⟨otherTail, rfl⟩ := hereOther.exists_tail
      obtain ⟨otherLater, layoutOtherLater, -, readyOther⟩ := layoutOther.exists_nextKey
      obtain ⟨value, valuesLater⟩ := List.forall_mem_cons.mp values
      obtain ⟨otherValue, otherValuesLater⟩ := List.forall_mem_cons.mp otherValues
      rw [same, readyOther otherRest] at next
      have tails := Next.entry.inj (Except.ok.inj next)
      obtain ⟨rfl, rests⟩ := here.eq_of_append_eq hereOther value otherValue
        (layoutLater.stops (by decide) rest) (layoutOtherLater.stops (by decide) otherRest)
        (congrArg ('"' :: ·) tails.symm)
      rw [ih writtenOther valuesLater otherValuesLater layoutLater layoutOtherLater rests]

/-- The text of an object determines its members and their order. -/
theorem ObjectOf.unique {members others : List Member} {text : List Char}
    (object : ObjectOf members text) (other : ObjectOf others text)
    (values : ∀ member ∈ members, Value member.value)
    (otherValues : ∀ member ∈ others, Value member.value) : members = others := by
  obtain ⟨entries, written, tail, rfl, layout⟩ := object
  obtain ⟨otherEntries, writtenOther, otherTail, opened, layoutOther⟩ := other
  obtain rfl : tail = otherTail := (List.cons.inj opened).2
  have alone : tail ++ [] = tail ++ [] := rfl
  exact members_eq_of_entries written writtenOther values otherValues layout layoutOther alone

end Knapsack.Json
