import Mathlib.Data.List.Forall2
import Knapsack.Proofs.Json.Layout
import Knapsack.Proofs.Json.String

/-!
# Values in a JSON text

`Reads` says that a text stands for a value, and `Finds` that it does so behind white space as well.
From the elements of a list this is carried to the list (`finds_list`), from the values of members
to an object (`Record.finds_object`), and from a value to a whole text (`Finds.decode`). Lists and
objects may be laid out in any way; `Reads.list` and `Record.reads_object` are about those that are
written.
-/

namespace Knapsack.Json

/-- The text `text` stands for `x`: the reader takes all of it and nothing of what comes after. -/
structure Reads {α : Type} (reader : Reader α) (text : List Char) (x : α) : Prop where
  begins : Begins text
  read : ∀ {rest : List Char}, Stops rest → reader (text ++ rest) = .ok (x, rest)

/-- The text `text` stands for `x`, also where there is white space in front of it. -/
structure Finds {α : Type} (reader : Reader α) (text : List Char) (x : α) : Prop where
  begins : Begins text
  find : ∀ {gap rest : List Char}, Blank gap → Stops rest →
    reader (gap ++ (text ++ rest)) = .ok (x, rest)

section

variable {α : Type} {reader : Reader α} {text gap : List Char} {x : α}

theorem Finds.reads (finds : Finds reader text x) : Reads reader text x :=
  ⟨finds.begins, fun stops => finds.find blank_nil stops⟩

/-- A whole text may begin with white space and end with it. -/
theorem Finds.decode {after : List Char} (finds : Finds reader text x) (blank : Blank gap)
    (blankAfter : Blank after) : Json.decode reader (gap ++ (text ++ after)) = .ok x := by
  have ended := finds.find blank (stops_of_isSpace blankAfter)
  simp only [Json.decode, ended, skipSpace_blank blankAfter]

theorem Reads.decode (reads : Reads reader text x) (blank : ∀ c ∈ gap, isSpace c = true) :
    decode reader (text ++ gap) = .ok x := by
  simp only [Json.decode, reads.read (stops_of_isSpace blank), skipSpace_blank blank]

theorem Reads.decode_alone (reads : Reads reader text x) : Json.decode reader text = .ok x := by
  have ended : Json.decode reader (text ++ []) = .ok x := reads.decode blank_nil
  rwa [List.append_nil] at ended

end

/-! ## Lists -/

section Elements

variable {α : Type} {element : Reader α} {text rest : List Char} {x : α}

/-- One round: the element that comes next is added to those found. -/
theorem elements_entry {found : List α} {budget ahead : List Char} {first : Bool} {b : Char}
    (reads : Reads element text x) (stops : Stops rest)
    (next : nextElement first ahead = .ok (.entry (text ++ rest))) :
    elements element (b :: budget) first found ahead =
      elements element budget false (x :: found) rest := by
  simp only [elements, next, reads.read stops]

theorem elements_entries {first : Bool} {entries : List (List Char)} {xs found : List α}
    {budget : List Char} (all : List.Forall₂ (Reads element) entries xs)
    (layout : Entries ']' first entries text) (enough : text.length < budget.length) :
    elements element budget first found (text ++ rest) = .ok (found.reverse ++ xs, rest) := by
  induction all generalizing first text found budget with
  | nil =>
    obtain ⟨b, budget, rfl⟩ := List.exists_cons_of_length_pos (Nat.zero_lt_of_lt enough)
    rw [List.append_nil]
    simp only [elements, layout.nextElement_nil rest]
  | cons reads _ ih =>
    obtain ⟨b, budget, rfl⟩ := List.exists_cons_of_length_pos (Nat.zero_lt_of_lt enough)
    obtain ⟨later, layout, shorter, next⟩ := layout.exists_nextElement reads.begins
    rw [List.length_cons] at enough
    rw [elements_entry reads (layout.stops (by decide) rest) (next rest), ih layout (by omega),
      List.reverse_cons, List.append_assoc, List.singleton_append]

/-- A list is found if each of its elements is read, however it is laid out. -/
theorem finds_list {entries : List (List Char)} {xs : List α}
    (all : List.Forall₂ (Reads element) entries xs) (layout : Bracketed '[' ']' entries text) :
    Finds (list element) text xs := by
  obtain ⟨tail, rfl, layout⟩ := layout
  refine ⟨⟨'[', tail, rfl, by decide, by decide⟩, fun {gap rest} blank _ => ?_⟩
  unfold list
  rw [List.cons_append, skipSpace_mark blank (by decide)]
  apply elements_entries all layout
  simp only [List.length_append, List.length_cons]
  omega

/-- A list is read if each of its elements is. -/
theorem Reads.list {texts : List (List Char)} {xs : List α}
    (all : List.Forall₂ (Reads element) texts xs) :
    Reads (list element) (array texts) xs :=
  (finds_list all (bracketed_enclosed '[' ']' texts)).reads

end Elements

theorem Reads.list_map {α : Type} {element : Reader α} {write : α → List Char} {xs : List α}
    (each : ∀ x ∈ xs, Reads element (write x) x) :
    Reads (Json.list element) (array (xs.map write)) xs :=
  Reads.list (List.forall₂_map_left_iff.mpr (List.forall₂_same.mpr each))

/-! ## Objects -/

/-- A member from behind the opening quote of its key, which may need escapes. -/
def memberTail (key value : List Char) : List Char :=
  key.flatMap escape ++ '"' :: ':' :: value

def memberText (key value : List Char) : List Char :=
  '"' :: memberTail key value

theorem entry_eq_memberText {name : String} (plain : name.toList.flatMap escape = name.toList)
    (value : List Char) : entry name value = memberText name.toList value := by
  rw [memberText, memberTail, plain]
  rfl

namespace Record

variable {σ α : Type} {record : Record σ α} {draft next last : σ}
  {key value body tail rest : List Char} {entries : List (List Char)} {outcome : Except Error σ}

/-! ### One member -/

section

variable {before : List Char}

/-- The value of a field that is not given yet is read as that field. -/
theorem member_known {field : Field σ} (known : record.fields.find?
    (fun field => field.name.toList = key) = some field) (fresh : field.isGiven draft = false)
    (blank : Blank before) (rest : List Char) :
    record.member draft key (before ++ ':' :: rest) = field.read draft rest := by
  simp only [member, known, fresh, colon_gap blank]
  rfl

/-- An open record passes over a key that it does not know. -/
theorem member_unknown (unknown : record.fields.find?
    (fun field => field.name.toList = key) = none) (isOpen : record.closed = false)
    (blank : Blank before) {text : List Char} (skipped : skipValue text = .ok rest) :
    record.member draft key (before ++ ':' :: text) = .ok (draft, rest) := by
  simp only [member, unknown, isOpen, colon_gap blank, skipped]
  rfl

/-- A closed record refuses a key that it does not know, before it looks at its value. -/
theorem member_refused (unknown : record.fields.find?
    (fun field => field.name.toList = key) = none) (isClosed : record.closed = true)
    (text : List Char) :
    record.member draft key text =
      .error (.unknownField (String.ofList key) (record.fields.map Field.name)) := by
  simp only [member, unknown, isClosed]
  rfl

end

theorem reads_known {field : Field σ} (known : record.fields.find?
    (fun field => field.name.toList = key) = some field) (fresh : field.isGiven draft = false)
    (reads : Reads (field.read draft) value next) :
    Reads (record.member draft key) (':' :: value) next := by
  refine ⟨⟨':', value, rfl, by decide, by decide⟩, fun {rest} stops => ?_⟩
  exact (member_known known fresh blank_nil (value ++ rest)).trans (reads.read stops)

theorem reads_unknown (unknown : record.fields.find?
    (fun field => field.name.toList = key) = none) (isOpen : record.closed = false)
    (skipped : ∀ {rest : List Char}, Stops rest → skipValue (value ++ rest) = .ok rest) :
    Reads (record.member draft key) (':' :: value) draft := by
  refine ⟨⟨':', value, rfl, by decide, by decide⟩, fun {rest} stops => ?_⟩
  exact member_unknown unknown isOpen blank_nil (skipped stops)

/-! ### All members -/

/-- Reading the members `entries`, one after the other, leads from a draft to another draft, or to
the error of the first member that is refused. -/
inductive Leads (record : Record σ α) : σ → List (List Char) → Except Error σ → Prop where
  | nil {draft : σ} : record.Leads draft [] (.ok draft)
  | cons {draft next : σ} {body key tail : List Char} {entries : List (List Char)}
      {outcome : Except Error σ} (spells : Spells body key)
      (noted : ∀ {rest : List Char}, Stops rest →
        record.member draft key (tail ++ rest) = .ok (next, rest))
      (later : record.Leads next entries outcome) :
      record.Leads draft (('"' :: (body ++ '"' :: tail)) :: entries) outcome
  | refused {draft : σ} {body key tail : List Char} {entries : List (List Char)} {error : Error}
      (spells : Spells body key)
      (refused : ∀ rest : List Char, record.member draft key (tail ++ rest) = .error error) :
      record.Leads draft (('"' :: (body ++ '"' :: tail)) :: entries) (.error error)

/-- One round: the member that comes next is noted. -/
theorem members_entry {budget ahead : List Char} {first : Bool} {b : Char}
    (spells : Spells body key)
    (noted : record.member draft key (tail ++ rest) = .ok (next, rest))
    (ready : nextKey first ahead = .ok (.entry (body ++ '"' :: (tail ++ rest)))) :
    record.members (b :: budget) first draft ahead = record.members budget false next rest := by
  simp only [members, ready, string_spells spells, noted]

theorem members_refused {budget ahead : List Char} {first : Bool} {b : Char} {error : Error}
    (spells : Spells body key)
    (refused : record.member draft key (tail ++ rest) = .error error)
    (ready : nextKey first ahead = .ok (.entry (body ++ '"' :: (tail ++ rest)))) :
    record.members (b :: budget) first draft ahead = .error error := by
  simp only [members, ready, string_spells spells, refused]

theorem members_entries {first : Bool} {text budget : List Char}
    (leads : record.Leads draft entries outcome) (layout : Entries '\x7d' first entries text)
    (enough : text.length < budget.length) :
    record.members budget first draft (text ++ rest) = outcome.map fun last => (last, rest) := by
  induction leads generalizing first text budget with
  | nil =>
    obtain ⟨b, budget, rfl⟩ := List.exists_cons_of_length_pos (Nat.zero_lt_of_lt enough)
    simp only [members, layout.nextKey_nil rest]
    rfl
  | cons spells noted _ ih =>
    obtain ⟨b, budget, rfl⟩ := List.exists_cons_of_length_pos (Nat.zero_lt_of_lt enough)
    obtain ⟨later, layout, shorter, ready⟩ := layout.exists_nextKey
    simp only [List.append_assoc, List.cons_append] at ready
    rw [List.length_cons] at enough
    rw [members_entry spells (noted (layout.stops (by decide) rest)) (ready rest),
      ih layout (by omega)]
  | refused spells refused =>
    obtain ⟨b, budget, rfl⟩ := List.exists_cons_of_length_pos (Nat.zero_lt_of_lt enough)
    obtain ⟨later, _, _, ready⟩ := layout.exists_nextKey
    simp only [List.append_assoc, List.cons_append] at ready
    exact members_refused spells (refused (later ++ rest)) (ready rest)

/-- An object is read as its members lead, however it is laid out. -/
theorem read_object {text gap : List Char} (leads : record.Leads record.start entries outcome)
    (layout : Bracketed '\x7b' '\x7d' entries text) (blank : Blank gap) (rest : List Char) :
    record.read (gap ++ (text ++ rest)) =
      (outcome.bind record.finish).map fun x => (x, rest) := by
  obtain ⟨tail, rfl, layout⟩ := layout
  unfold read
  rw [List.cons_append, skipSpace_mark blank (by decide)]
  have led : record.members (gap ++ '\x7b' :: (tail ++ rest)) true record.start (tail ++ rest) =
      outcome.map fun last => (last, rest) := by
    apply members_entries leads layout
    simp only [List.length_append, List.length_cons]
    omega
  change (record.members _ true record.start (tail ++ rest)).bind _ = _
  rw [led]
  cases outcome with
  | error error => rfl
  | ok last =>
    change (record.finish last).bind _ = (record.finish last).map _
    cases record.finish last with
    | error error => rfl
    | ok x => rfl

/-- An object is found if its members lead to a draft that is complete. -/
theorem finds_object {text : List Char} {x : α}
    (leads : record.Leads record.start entries (.ok last)) (finished : record.finish last = .ok x)
    (layout : Bracketed '\x7b' '\x7d' entries text) : Finds record.read text x := by
  refine ⟨?begins, fun {gap rest} blank _ => ?find⟩
  case begins =>
    obtain ⟨tail, rfl, _⟩ := layout
    exact ⟨'\x7b', tail, rfl, by decide, by decide⟩
  case find =>
    rw [read_object leads layout blank rest]
    change (record.finish last).map _ = _
    rw [finished]
    rfl

/-! ### Fields in a list -/

/-- Reading the elements `entries` as the values of the fields turns one draft into another. -/
inductive Fills : List (Field σ) → σ → List (List Char) → σ → Prop where
  | nil {draft : σ} : Fills [] draft [] draft
  | cons {field : Field σ} {fields : List (Field σ)} {draft next last : σ} {entry : List Char}
      {entries : List (List Char)} (reads : Reads (field.read draft) entry next)
      (later : Fills fields next entries last) :
      Fills (field :: fields) draft (entry :: entries) last

theorem listed_entries {fields : List (Field σ)} {first : Bool} {count : Nat} {text : List Char}
    (fills : Fills fields draft entries last) (layout : Entries ']' first entries text)
    (none : (count == 0) = first) :
    record.listed fields count draft (text ++ rest) = .ok (last, rest) := by
  induction fills generalizing first count text with
  | nil =>
    cases layout with
    | closed blank =>
      rw [List.append_assoc, List.singleton_append]
      simp only [listed, closeList_gap blank]
  | cons reads _ ih =>
    obtain ⟨later, layout, _, next⟩ := layout.exists_nextElement reads.begins
    simp only [listed, none, next, reads.read (layout.stops (by decide) rest)]
    exact ih layout rfl

/-- A record is also found as the list of the values of its fields. -/
theorem finds_listed {text : List Char} {x : α}
    (fills : Fills record.fields record.start entries last)
    (finished : record.finish last = .ok x) (layout : Bracketed '[' ']' entries text) :
    Finds record.read text x := by
  obtain ⟨tail, rfl, layout⟩ := layout
  refine ⟨⟨'[', tail, rfl, by decide, by decide⟩, fun {gap rest} blank _ => ?_⟩
  have filled : record.listed record.fields 0 record.start (tail ++ rest) = .ok (last, rest) :=
    listed_entries fills layout rfl
  unfold read
  rw [List.cons_append, skipSpace_mark blank (by decide)]
  change (record.listed record.fields 0 record.start (tail ++ rest)).bind _ = _
  rw [filled]
  change (record.finish last).bind _ = _
  rw [finished]
  rfl

/-! ### What is written -/

/-- Reading the members `entries`, one after the other, turns one draft into another. -/
inductive Notes (record : Record σ α) : σ → List (List Char) → σ → Prop where
  | nil {draft : σ} : record.Notes draft [] draft
  | cons {draft next last : σ} {key value : List Char} {entries : List (List Char)}
      (noted : Reads (record.member draft key) (':' :: value) next)
      (later : record.Notes next entries last) :
      record.Notes draft (memberText key value :: entries) last

theorem Notes.leads (notes : record.Notes draft entries last) :
    record.Leads draft entries (.ok last) := by
  induction notes with
  | nil => exact .nil
  | cons noted later ih => exact .cons (spells_escape _) noted.read ih

/-- An object is read if its members lead to a draft that is complete. -/
theorem reads_object {x : α} (notes : record.Notes record.start entries last)
    (finished : record.finish last = .ok x) : Reads record.read (object entries) x :=
  (finds_object notes.leads finished (bracketed_enclosed '\x7b' '\x7d' entries)).reads

end Record

/-- A field that is read is noted in the draft. -/
theorem Reads.field {σ α : Type} {name : String} {reader : Reader α} {get : σ → Option α}
    {set : σ → α → σ} {text : List Char} {x : α} (reads : Reads reader text x) (draft : σ) :
    Reads ((Field.of name reader get set).read draft) text (set draft x) := by
  refine ⟨reads.begins, fun stops => ?_⟩
  simp only [Field.of, reads.read stops]

/-- A member whose key is the plain name of a field not given yet is noted as that field. -/
theorem Record.Notes.field {σ α β : Type} {record : Record σ α} {draft last : σ} {name : String}
    {reader : Reader β} {get : σ → Option β} {set : σ → β → σ} {value : List Char} {x : β}
    {entries : List (List Char)} (reads : Reads reader value x)
    (known : record.fields.find? (fun field => field.name.toList = name.toList) =
      some (.of name reader get set))
    (fresh : get draft = none) (plain : name.toList.flatMap escape = name.toList)
    (later : record.Notes (set draft x) entries last) :
    record.Notes draft (entry name value :: entries) last := by
  have given : (Field.of name reader get set).isGiven draft = false := by
    change (get draft).isSome = false
    rw [fresh]
    rfl
  rw [entry_eq_memberText plain]
  exact .cons (Record.reads_known known given (reads.field draft)) later

end Knapsack.Json
