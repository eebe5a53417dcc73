import Mathlib.Data.List.Pairwise
import Mathlib.Data.List.Perm.Basic
import Knapsack.Proofs.Json.Reads
import Knapsack.Proofs.Json.Value

/-!
# Members in any order

What a member does to a draft is a `Note`: it sets a field that was not given, or nothing at all.
Notes of different fields are `Apart`, so that the order in which they are taken makes no difference.

1. If the members of an object are, in any order, those of some fields and others that are passed
   over, the draft is the one that the fields lead to (`Record.finds_members`).
2. A closed record refuses an object with a member of another key, wherever that member stands
   (`Record.refuses_members`).
-/

namespace Knapsack.Json

/-- A member of an object: its key, and the text of its value. -/
structure Member where
  key : List Char
  value : List Char
deriving DecidableEq

namespace Member

/-- How a member may be written: its key is spelled in any way, and there may be white space on both
sides of the colon. -/
inductive Written (member : Member) : List Char → Prop where
  | spelled {body before after : List Char} (spells : Spells body member.key)
      (blankBefore : Blank before) (blankAfter : Blank after) :
      Written member ('"' :: (body ++ '"' :: (before ++ ':' :: (after ++ member.value))))

/-- The member as it is written, without white space. -/
def text (member : Member) : List Char :=
  memberText member.key member.value

/-- The key is none of the names. -/
def IsForeign (names : List String) (member : Member) : Prop :=
  ∀ name ∈ names, name.toList ≠ member.key

end Member

/-- The text of an object whose members stand in this order. -/
def ObjectOf (members : List Member) (text : List Char) : Prop :=
  ∃ entries, List.Forall₂ Member.Written members entries ∧ Bracketed '\x7b' '\x7d' entries text

/-- What is written for members is such a text. -/
theorem objectOf_object (members : List Member) :
    ObjectOf members (object (members.map Member.text)) := by
  refine ⟨_, ?_, bracketed_enclosed '\x7b' '\x7d' _⟩
  refine List.forall₂_map_right_iff.mpr (List.forall₂_same.mpr fun member _ => ?_)
  exact .spelled (spells_escape member.key) blank_nil blank_nil

/-- What is written for members with values is a value. -/
theorem value_object {members : List Member} (each : ∀ member ∈ members, Value member.value) :
    Value (object (members.map Member.text)) := by
  have written : members.map Member.text =
      (members.map fun member => ⟨member.key.flatMap escape, [], [], member.value⟩).map
        RawMember.text := by
    rw [List.map_map]
    rfl
  rw [written]
  refine .object (fun raw among => ?_) (fun raw among => ?_) (bracketed_enclosed '\x7b' '\x7d' _)
  · obtain ⟨member, _, rfl⟩ := List.mem_map.mp among
    exact ⟨symbols_escape member.key, blank_nil, blank_nil⟩
  · obtain ⟨member, present, rfl⟩ := List.mem_map.mp among
    exact each member present

/-! ## Notes -/

/-- What a member does to a draft, and whether its field is given already. -/
structure Note (σ : Type) where
  isGiven : σ → Bool
  update : σ → σ

namespace Note

variable {σ : Type}

/-- The note of a field that is set to `x`. -/
def field {α : Type} (get : σ → Option α) (set : σ → α → σ) (x : α) : Note σ where
  isGiven draft := (get draft).isSome
  update draft := set draft x

/-- The note of a member that is passed over. -/
def idle : Note σ where
  isGiven _ := false
  update draft := draft

/-- Neither of the notes changes what the other does. -/
structure Apart (note other : Note σ) : Prop where
  commute : ∀ draft, note.update (other.update draft) = other.update (note.update draft)
  keeps : ∀ draft, note.isGiven (other.update draft) = note.isGiven draft
  kept : ∀ draft, other.isGiven (note.update draft) = other.isGiven draft

theorem Apart.symm {note other : Note σ} (apart : note.Apart other) : other.Apart note :=
  ⟨fun draft => (apart.commute draft).symm, apart.kept, apart.keeps⟩

instance : Std.Symm (Apart (σ := σ)) :=
  ⟨fun _ _ => Apart.symm⟩

theorem apart_idle (note : Note σ) : note.Apart idle :=
  ⟨fun _ => rfl, fun _ => rfl, fun _ => rfl⟩

/-- The draft after all the notes are taken. -/
def takeAll (notes : List (Note σ)) (draft : σ) : σ :=
  notes.foldl (fun draft note => note.update draft) draft

theorem takeAll_append_idle {α : Type} (notes : List (Note σ)) (passed : List α) (draft : σ) :
    takeAll (notes ++ passed.map fun _ => idle) draft = takeAll notes draft := by
  unfold takeAll
  rw [List.foldl_append, List.foldl_map]
  induction passed with
  | nil => rfl
  | cons _ passed ih => exact ih

/-- Notes that are apart may be taken in any order. -/
theorem takeAll_perm {notes others : List (Note σ)} (apart : notes.Pairwise Apart)
    (order : notes.Perm others) (draft : σ) : takeAll notes draft = takeAll others draft := by
  apply order.foldl_eq'
  intro note among other amongOthers draft
  by_cases same : note = other
  · rw [same]
  · exact (apart.forall amongOthers among (Ne.symm same)).commute draft

end Note

/-! ## Runs -/

namespace Record

variable {σ α : Type} {record : Record σ α} {draft : σ} {members own foreign : List Member}
  {notes : List (Note σ)} {entries : List (List Char)} {text : List Char}

/-- From a draft without its field, the member is read as the note says. -/
def Notices (record : Record σ α) (member : Member) (note : Note σ) : Prop :=
  ∀ ⦃draft : σ⦄ ⦃before after rest : List Char⦄, note.isGiven draft = false →
    Blank before → Blank after → Stops rest →
    record.member draft member.key (before ++ ':' :: (after ++ (member.value ++ rest))) =
      .ok (note.update draft, rest)

/-- The record has no field of this key. -/
def Lacks (record : Record σ α) (key : List Char) : Prop :=
  record.fields.find? (fun field => field.name.toList = key) = none

theorem lacks_of_isForeign {member : Member}
    (isForeign : member.IsForeign (record.fields.map Field.name)) : record.Lacks member.key := by
  apply List.find?_eq_none.mpr
  intro field among same
  exact isForeign field.name (List.mem_map_of_mem among) (of_decide_eq_true same)

/-- A member of a field is noticed if its value is found. -/
theorem notices_field {β : Type} {name : String} {reader : Reader β} {get : σ → Option β}
    {set : σ → β → σ} {value : List Char} {x : β} (finds : Finds reader value x)
    (known : record.fields.find? (fun field => field.name.toList = name.toList) =
      some (.of name reader get set)) :
    record.Notices ⟨name.toList, value⟩ (.field get set x) := by
  intro draft before after rest fresh blankBefore blankAfter stops
  rw [member_known known fresh blankBefore]
  simp only [Field.of, finds.find blankAfter stops]
  rfl

/-- An open record passes over a member of another key, whatever its value is. -/
theorem notices_idle {member : Member} (lacks : record.Lacks member.key)
    (isOpen : record.closed = false) (value : Value member.value) :
    record.Notices member .idle := by
  intro draft before after rest _ blankBefore blankAfter stops
  exact member_unknown lacks isOpen blankBefore (value.skipValue blankAfter stops)

/-- One member: the draft is updated as its note says. -/
theorem leads_cons {member : Member} {note : Note σ} {entry : List Char}
    {outcome : Except Error σ} (notices : record.Notices member note)
    (written : member.Written entry) (fresh : note.isGiven draft = false)
    (later : record.Leads (note.update draft) entries outcome) :
    record.Leads draft (entry :: entries) outcome := by
  cases written with
  | @spelled body before after spells blankBefore blankAfter =>
    refine .cons spells (fun {rest} stops => ?_) later
    simp only [List.append_assoc, List.cons_append]
    exact notices fresh blankBefore blankAfter stops

/-- All members: the draft is the one after all notes. -/
theorem leads_takeAll (noticed : List.Forall₂ record.Notices members notes)
    (written : List.Forall₂ Member.Written members entries) (apart : notes.Pairwise Note.Apart)
    (fresh : ∀ note ∈ notes, note.isGiven draft = false) :
    record.Leads draft entries (.ok (Note.takeAll notes draft)) := by
  induction noticed generalizing draft entries with
  | nil =>
    cases written
    exact .nil
  | @cons member note members notes notices _ ih =>
    cases written with
    | cons here written =>
      obtain ⟨aside, apart⟩ := List.pairwise_cons.mp apart
      refine leads_cons notices here (fresh note List.mem_cons_self) (ih written apart ?_)
      intro other among
      exact ((aside other among).kept draft).trans (fresh other (List.mem_cons_of_mem _ among))

/-- A closed record stops at the first key that it lacks. -/
theorem leads_unknownField (isClosed : record.closed = true)
    (lacks : ∀ member ∈ foreign, record.Lacks member.key)
    (each : List.Forall₂ (fun member note => member ∈ foreign ∨ record.Notices member note)
      members notes)
    (written : List.Forall₂ Member.Written members entries) (apart : notes.Pairwise Note.Apart)
    (fresh : ∀ note ∈ notes, note.isGiven draft = false)
    (some : ∃ member ∈ members, member ∈ foreign) :
    ∃ member ∈ foreign, record.Leads draft entries
      (.error (.unknownField (String.ofList member.key) (record.fields.map Field.name))) := by
  induction each generalizing draft entries with
  | nil =>
    obtain ⟨member, none, _⟩ := some
    exact absurd none List.not_mem_nil
  | @cons member note members notes known _ ih =>
    cases written with
    | @cons _ entry _ entries here written =>
      by_cases strange : member ∈ foreign
      · refine ⟨member, strange, ?_⟩
        cases here with
        | spelled spells =>
          exact .refused spells fun rest => member_refused (lacks member strange) isClosed _
      · obtain ⟨aside, apart⟩ := List.pairwise_cons.mp apart
        have someLater : ∃ other ∈ members, other ∈ foreign := by
          obtain ⟨other, among, strangeOther⟩ := some
          cases among with
          | head => exact absurd strangeOther strange
          | tail _ among => exact ⟨other, among, strangeOther⟩
        obtain ⟨other, strangeOther, leads⟩ := ih written apart
          (fun other among => ((aside other among).kept draft).trans
            (fresh other (List.mem_cons_of_mem _ among))) someLater
        exact ⟨other, strangeOther,
          leads_cons (known.resolve_left strange) here (fresh note List.mem_cons_self) leads⟩

/-- In any order the members have notes, and these lead to the draft that the fields lead to. -/
theorem exists_notes_of_perm {R : Member → Note σ → Prop} (order : members.Perm (own ++ foreign))
    (noticed : List.Forall₂ R own notes) (passed : ∀ member ∈ foreign, R member .idle)
    (apart : notes.Pairwise Note.Apart) (fresh : ∀ note ∈ notes, note.isGiven draft = false) :
    ∃ taken, List.Forall₂ R members taken ∧ taken.Pairwise Note.Apart ∧
      (∀ note ∈ taken, note.isGiven draft = false) ∧
      Note.takeAll taken draft = Note.takeAll notes draft := by
  have idle : List.Forall₂ R foreign (foreign.map fun _ => Note.idle) :=
    List.forall₂_map_right_iff.mpr (List.forall₂_same.mpr passed)
  obtain ⟨taken, each, same⟩ := List.perm_comp_forall₂ order (List.rel_append noticed idle)
  have allFresh : ∀ note ∈ notes ++ foreign.map fun _ => Note.idle, note.isGiven draft = false := by
    intro note among
    rcases List.mem_append.mp among with own | passed
    · exact fresh note own
    · obtain ⟨_, _, rfl⟩ := List.mem_map.mp passed
      rfl
  have allApart : (notes ++ foreign.map fun _ => Note.idle).Pairwise Note.Apart := by
    refine List.pairwise_append.mpr ⟨apart, ?idle, fun note _ other passed => ?mixed⟩
    case idle => exact List.pairwise_map.mpr (List.pairwise_of_forall fun _ _ => Note.apart_idle _)
    case mixed =>
      obtain ⟨_, _, rfl⟩ := List.mem_map.mp passed
      exact note.apart_idle
  have takenApart := allApart.perm same.symm Note.Apart.symm
  refine ⟨taken, each, takenApart, fun note among => allFresh note (same.mem_iff.mp among), ?_⟩
  rw [Note.takeAll_perm takenApart same, Note.takeAll_append_idle]

/-- An object is found if its members are, in any order, those of its fields and others that are
passed over. -/
theorem finds_members {x : α} (order : members.Perm (own ++ foreign))
    (noticed : List.Forall₂ record.Notices own notes)
    (passed : ∀ member ∈ foreign, record.Notices member .idle)
    (apart : notes.Pairwise Note.Apart)
    (fresh : ∀ note ∈ notes, note.isGiven record.start = false)
    (finished : record.finish (Note.takeAll notes record.start) = .ok x)
    (object : ObjectOf members text) : Finds record.read text x := by
  obtain ⟨entries, written, layout⟩ := object
  obtain ⟨taken, each, takenApart, takenFresh, same⟩ :=
    exists_notes_of_perm order noticed passed apart fresh
  have leads := leads_takeAll each written takenApart takenFresh
  rw [same] at leads
  exact finds_object leads finished layout

/-- A closed record refuses an object that has a member of another key, wherever it stands. -/
theorem refuses_members {gap : List Char} (isClosed : record.closed = true)
    (order : members.Perm (own ++ foreign)) (noticed : List.Forall₂ record.Notices own notes)
    (lacks : ∀ member ∈ foreign, record.Lacks member.key) (some : foreign ≠ [])
    (apart : notes.Pairwise Note.Apart)
    (fresh : ∀ note ∈ notes, note.isGiven record.start = false)
    (object : ObjectOf members text) (blank : Blank gap) (rest : List Char) :
    ∃ member ∈ foreign, record.read (gap ++ (text ++ rest)) =
      .error (.unknownField (String.ofList member.key) (record.fields.map Field.name)) := by
  obtain ⟨entries, written, layout⟩ := object
  obtain ⟨taken, each, takenApart, takenFresh, _⟩ := exists_notes_of_perm
    (R := fun member note => member ∈ foreign ∨ record.Notices member note) order
    (noticed.imp fun _ _ => .inr) (fun _ => .inl) apart fresh
  obtain ⟨stranger, strange⟩ := List.exists_mem_of_ne_nil foreign some
  have among : stranger ∈ members := order.mem_iff.mpr (List.mem_append_right own strange)
  obtain ⟨member, strangeMember, leads⟩ := leads_unknownField isClosed lacks each written takenApart
    takenFresh ⟨stranger, among, strange⟩
  exact ⟨member, strangeMember, read_object leads layout blank rest⟩

end Record

end Knapsack.Json
