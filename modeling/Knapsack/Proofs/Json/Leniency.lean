import Knapsack.Load
import Knapsack.Proofs.Json.Documents
import Knapsack.Proofs.Json.Members

/-!
# Lenient data, strict settings

Items, instances and solutions are read from objects that have their fields in any order and other
members besides. Settings are read from objects that have any of their fields, in any order, and
nothing else: a member of another key is an error, so that no misspelled setting is passed over.

`Item.Shows`, `Instance.Shows`, `Solution.Shows` and `Config.Shows` say which texts stand for what.
White space may stand wherever JSON has it, keys may be spelled with escapes, and the values that
are passed over are of any shape. The result is `lenient_data_strict_settings`.
-/

namespace Knapsack

open Json

/-! ## Texts of a value -/

namespace Json

/-- A whole text: a value with white space around it. -/
inductive Padded (shows : List Char → Prop) : List Char → Prop where
  | around {before text after : List Char} (blankBefore : Blank before) (shown : shows text)
      (blankAfter : Blank after) : Padded shows (before ++ (text ++ after))

/-- A member that is passed over: its key is none of the names, its value is any JSON value. -/
structure Member.IsExtra (names : List String) (member : Member) : Prop where
  isForeign : member.IsForeign names
  value : Value member.value

/-- An object with the members `own` and any others, in any order. -/
inductive ShowsFields (names : List String) (own : List Member) : List Char → Prop where
  | object {members extra : List Member} {text : List Char}
      (order : members.Perm (own ++ extra)) (others : ∀ member ∈ extra, member.IsExtra names)
      (written : ObjectOf members text) : ShowsFields names own text

def ShowsInt32 (x : Int32) (text : List Char) : Prop :=
  text = Numeral.ofInt x.toInt

def ShowsWord (n : Nat) (text : List Char) : Prop :=
  n < wordCount ∧ text = Numeral.ofNat n

/-- One of several names: a string, or an object with this name as its only key and null as the
value. -/
inductive ShowsName {α : Type} (choice : List (String × α)) (x : α) : List Char → Prop where
  | string {name : String} {body : List Char} (listed : (name, x) ∈ choice)
      (spells : Spells body name.toList) : ShowsName choice x ('"' :: (body ++ ['"']))
  | object {name : String} {text : List Char} (listed : (name, x) ∈ choice)
      (written : ObjectOf [⟨name.toList, "null".toList⟩] text) : ShowsName choice x text

/-- The member of a setting, unless it is left out. -/
inductive Given {α : Type} (name : String) (shows : α → List Char → Prop) :
    Option α → List Member → Prop where
  | omitted : Given name shows none []
  | member {x : α} {value : List Char} (shown : shows x value) :
      Given name shows (some x) [⟨name.toList, value⟩]

end Json

/-- An item is an object of its weight and its value, or the list of both. -/
inductive Item.Shows (item : Item) : List Char → Prop where
  | object {text : List Char}
      (fields : ShowsFields ["weight", "value"]
        [⟨"weight".toList, Numeral.ofInt item.weight.toInt⟩,
          ⟨"value".toList, Numeral.ofInt item.value.toInt⟩] text) : Shows item text
  | list {text : List Char}
      (listed : Bracketed '[' ']'
        [Numeral.ofInt item.weight.toInt, Numeral.ofInt item.value.toInt] text) : Shows item text

inductive Instance.Shows (inst : Instance) : List Char → Prop where
  | object {entries : List (List Char)} {items text : List Char}
      (each : List.Forall₂ Item.Shows inst.items entries)
      (listed : Bracketed '[' ']' entries items)
      (fields : ShowsFields ["capacity", "items"]
        [⟨"capacity".toList, Numeral.ofInt inst.capacity.toInt⟩, ⟨"items".toList, items⟩] text) :
      Shows inst text

inductive Solution.Shows (solution : Solution) : List Char → Prop where
  | object {positions text : List Char} (words : ∀ index ∈ solution.selected, index < wordCount)
      (listed : Bracketed '[' ']' (solution.selected.map Numeral.ofNat) positions)
      (fields : ShowsFields ["optimal_value", "selected_indices"]
        [⟨"optimal_value".toList, Numeral.ofInt solution.optimalValue.toInt⟩,
          ⟨"selected_indices".toList, positions⟩] text) : Shows solution text

namespace Config

/-- The members of the settings that a draft has. -/
inductive Gives (draft : Draft) : List Member → Prop where
  | members {first second third fourth : List Member}
      (maxItems : Given "max_items" ShowsWord draft.maxItems first)
      (maxCapacity : Given "max_capacity" ShowsInt32 draft.maxCapacity second)
      (weightPolicy : Given "weight_policy"
        (ShowsName [("positive", WeightPolicy.positive), ("non_negative", .nonNegative)])
        draft.weightPolicy third)
      (tieBreak : Given "tie_break"
        (ShowsName [("min_weight", TieBreak.lightest), ("none", .valueOnly)])
        draft.tieBreak fourth) :
      Gives draft (first ++ (second ++ (third ++ fourth)))

/-- An object with the settings of a draft and the members `foreign`, in any order. -/
inductive Shows (draft : Draft) (foreign : List Member) : List Char → Prop where
  | object {own members : List Member} {text : List Char} (gives : Gives draft own)
      (order : members.Perm (own ++ foreign)) (written : ObjectOf members text) :
      Shows draft foreign text

end Config

/-! ## Names -/

namespace Json

/-- A null is taken off the text. -/
theorem null_gap {gap : List Char} (blank : Blank gap) (rest : List Char) :
    null (gap ++ ("null".toList ++ rest)) = .ok rest := by
  have here := skipSpace_mark blank (c := 'n') (by decide) ('u' :: 'l' :: 'l' :: rest)
  change null (gap ++ 'n' :: 'u' :: 'l' :: 'l' :: rest) = _
  unfold null
  rw [here]
  rfl

/-- A name is found in both of its forms. -/
theorem finds_showsName {α : Type} {choice : List (String × α)} {x : α} {text : List Char}
    (stands : ∀ pair ∈ choice, chosen choice pair.1.toList = .ok pair.2)
    (shown : ShowsName choice x text) : Finds (variant choice) text x := by
  cases shown with
  | string listed spells => exact finds_name spells (stands _ listed)
  | @object name text listed written =>
    obtain ⟨entries, each, tail, rfl, layout⟩ := written
    refine ⟨⟨'\x7b', tail, rfl, by decide, by decide⟩, fun {gap rest} blank _ => ?_⟩
    have opened := skipSpace_mark blank (c := '\x7b') (by decide) (tail ++ rest)
    rw [List.cons_append]
    cases each with
    | cons member none =>
      cases none
      cases member with
      | @spelled body before after spells blankBefore blankAfter =>
        cases layout with
        | @first lead _ _ _ blankLead later =>
          cases later with
          | @closed _ last blankLast =>
            have named := stands _ listed
            have closed := skipSpace_mark blankLast (c := '\x7d') (by decide) rest
            simp only [List.append_assoc, List.cons_append, List.nil_append] at opened ⊢
            simp only [variant, opened, nextKey_first blankLead, string_spells spells, named,
              colon_gap blankBefore, null_gap blankAfter, closed, bind, Except.bind]
            rfl

end Json

/-! ## Leniency -/

section

variable {text : List Char}

namespace Json

/-- A record of two fields is found if both of its values are. -/
theorem finds_showsFields {σ α β γ : Type} {record : Record σ α} {name other : String}
    {reader : Reader β} {otherReader : Reader γ} {get : σ → Option β} {set : σ → β → σ}
    {otherGet : σ → Option γ} {otherSet : σ → γ → σ} {value otherValue : List Char} {x : β} {y : γ}
    {z : α} (finds : Finds reader value x) (otherFinds : Finds otherReader otherValue y)
    (fields : record.fields = [.of name reader get set, .of other otherReader otherGet otherSet])
    (distinct : name.toList ≠ other.toList) (isOpen : record.closed = false)
    (apart : (Note.field get set x).Apart (.field otherGet otherSet y))
    (fresh : get record.start = none ∧ otherGet record.start = none)
    (finished : record.finish (otherSet (set record.start x) y) = .ok z)
    (shown : ShowsFields [name, other] [⟨name.toList, value⟩, ⟨other.toList, otherValue⟩] text) :
    Finds record.read text z := by
  cases shown with
  | object order others written =>
    have known : record.fields.find? (fun field => field.name.toList = name.toList) =
        some (.of name reader get set) := by
      simp [fields, Field.of]
    have otherKnown : record.fields.find? (fun field => field.name.toList = other.toList) =
        some (.of other otherReader otherGet otherSet) := by
      simp [fields, Field.of, distinct]
    have names : record.fields.map Field.name = [name, other] := by
      rw [fields]
      rfl
    refine Record.finds_members order
      (.cons (Record.notices_field finds known)
        (.cons (Record.notices_field otherFinds otherKnown) .nil)) ?passed
      (List.pairwise_pair.mpr apart) ?fresh finished written
    case passed =>
      intro member among
      obtain ⟨isForeign, value⟩ := others member among
      rw [← names] at isForeign
      exact Record.notices_idle (Record.lacks_of_isForeign isForeign) isOpen value
    case fresh =>
      simp [Note.field, fresh.1, fresh.2]

end Json

namespace Item

theorem finds_shows {item : Item} (shown : item.Shows text) : Finds record.read text item := by
  cases shown with
  | object fields =>
    exact finds_showsFields (finds_int32 _) (finds_int32 _) rfl (by decide) rfl
      ⟨fun _ => rfl, fun _ => rfl, fun _ => rfl⟩ ⟨rfl, rfl⟩ rfl fields
  | list listed =>
    exact Record.finds_listed
      (.cons ((reads_int32 _).field _) (.cons ((reads_int32 _).field _) .nil)) rfl listed

end Item

namespace Instance

theorem finds_shows {inst : Instance} (shown : inst.Shows text) :
    Finds record.read text inst := by
  cases shown with
  | object each listed fields =>
    have items : Finds (list Item.record.read) _ inst.items :=
      finds_list (each.flip.imp fun _ _ shown => (Item.finds_shows shown).reads) listed
    exact finds_showsFields (finds_int32 _) items rfl (by decide) rfl
      ⟨fun _ => rfl, fun _ => rfl, fun _ => rfl⟩ ⟨rfl, rfl⟩ rfl fields

end Instance

namespace Solution

theorem finds_shows {solution : Solution} (shown : solution.Shows text) :
    Finds record.read text solution := by
  cases shown with
  | object words listed fields =>
    have each : List.Forall₂ (Reads word) (solution.selected.map Numeral.ofNat)
        solution.selected :=
      List.forall₂_map_left_iff.mpr (List.forall₂_same.mpr fun index member =>
        reads_word (words index member))
    exact finds_showsFields (finds_int32 _) (finds_list each listed) rfl (by decide) rfl
      ⟨fun _ => rfl, fun _ => rfl, fun _ => rfl⟩ ⟨rfl, rfl⟩ rfl fields

end Solution

end

/-! ## Strictness -/

namespace Json

/-- A setting that is given is noticed as such, and one that is left out is not. -/
theorem Given.notices {σ α β : Type} {record : Record σ α} {name : String} {reader : Reader β}
    {get : σ → Option β} {set : σ → β → σ} {shows : β → List Char → Prop} {given : Option β}
    {own : List Member} (members : Given name shows given own)
    (finds : ∀ {x value}, shows x value → Finds reader value x)
    (known : record.fields.find? (fun field => field.name.toList = name.toList) =
      some (.of name reader get set)) :
    List.Forall₂ record.Notices own (given.toList.map (.field get set)) := by
  cases members with
  | omitted => exact .nil
  | member shown => exact .cons (Record.notices_field (finds shown) known) .nil

/-- A note that may be missing is apart from the others if it is so whenever it is there. -/
theorem Note.pairwise_given {σ β : Type} {note : β → Note σ} {others : List (Note σ)}
    (given : Option β) (apart : ∀ x, ∀ other ∈ others, (note x).Apart other)
    (later : others.Pairwise Apart) : (given.toList.map note ++ others).Pairwise Apart := by
  cases given with
  | none => exact later
  | some x => exact List.pairwise_cons.mpr ⟨apart x, later⟩

end Json

namespace Config

variable {draft : Draft} {own foreign members : List Member} {text : List Char}

/-- What the members of a draft's settings note. -/
def notes (draft : Draft) : List (Note Draft) :=
  draft.maxItems.toList.map
      (.field Draft.maxItems fun draft x => { draft with maxItems := some x }) ++
    (draft.maxCapacity.toList.map
        (.field Draft.maxCapacity fun draft x => { draft with maxCapacity := some x }) ++
      (draft.weightPolicy.toList.map
          (.field Draft.weightPolicy fun draft x => { draft with weightPolicy := some x }) ++
        draft.tieBreak.toList.map
          (.field Draft.tieBreak fun draft x => { draft with tieBreak := some x })))

theorem notices_gives (gives : Gives draft own) :
    List.Forall₂ record.Notices own (notes draft) := by
  cases gives with
  | members maxItems maxCapacity weightPolicy tieBreak =>
    refine List.rel_append (maxItems.notices (fun shown => ?maxItems) rfl)
      (List.rel_append (maxCapacity.notices (fun shown => ?maxCapacity) rfl)
        (List.rel_append (weightPolicy.notices (fun shown => ?weightPolicy) rfl)
          (tieBreak.notices (fun shown => ?tieBreak) rfl)))
    case maxItems =>
      obtain ⟨small, rfl⟩ := shown
      exact finds_word small
    case maxCapacity =>
      rw [shown]
      exact finds_int32 _
    case weightPolicy => exact finds_showsName (by decide) shown
    case tieBreak => exact finds_showsName (by decide) shown

/-- The settings have fields of their own, which keep apart. -/
theorem pairwise_notes (draft : Draft) : (notes draft).Pairwise Note.Apart := by
  refine Note.pairwise_given _ (fun x other among => ?maxItems) (Note.pairwise_given _
    (fun x other among => ?maxCapacity) (Note.pairwise_given _
      (fun x other among => ?weightPolicy) ?tieBreak))
  case maxItems =>
    simp only [List.mem_append, List.mem_map] at among
    rcases among with ⟨_, _, rfl⟩ | ⟨_, _, rfl⟩ | ⟨_, _, rfl⟩
    all_goals exact ⟨fun _ => rfl, fun _ => rfl, fun _ => rfl⟩
  case maxCapacity =>
    simp only [List.mem_append, List.mem_map] at among
    rcases among with ⟨_, _, rfl⟩ | ⟨_, _, rfl⟩
    all_goals exact ⟨fun _ => rfl, fun _ => rfl, fun _ => rfl⟩
  case weightPolicy =>
    obtain ⟨_, _, rfl⟩ := List.mem_map.mp among
    exact ⟨fun _ => rfl, fun _ => rfl, fun _ => rfl⟩
  case tieBreak =>
    cases draft.tieBreak with
    | none => exact .nil
    | some => exact List.pairwise_singleton _ _

theorem isGiven_notes (draft : Draft) : ∀ note ∈ notes draft, note.isGiven {} = false := by
  intro note among
  simp only [notes, List.mem_append, List.mem_map] at among
  rcases among with ⟨_, _, rfl⟩ | ⟨_, _, rfl⟩ | ⟨_, _, rfl⟩ | ⟨_, _, rfl⟩
  all_goals rfl

theorem takeAll_notes (draft : Draft) : Note.takeAll (notes draft) {} = draft := by
  rcases draft with ⟨_ | _, _ | _, _ | _, _ | _⟩ <;> rfl

/-- An object with settings only is found as these, with the usual ones for those left out. -/
theorem finds_shows (shown : Shows draft [] text) : Finds record.read text (ofDraft draft) := by
  cases shown with
  | object gives order written =>
    refine Record.finds_members order (notices_gives gives)
      (fun member none => absurd none List.not_mem_nil) (pairwise_notes draft)
      (isGiven_notes draft) ?_ written
    change Except.ok (ofDraft (Note.takeAll (notes draft) {})) = _
    rw [takeAll_notes]

/-- An object with another key is refused. -/
theorem refuses_shows {gap : List Char}
    (isForeign : ∀ member ∈ foreign,
      member.IsForeign ["max_items", "max_capacity", "weight_policy", "tie_break"])
    (some : foreign ≠ []) (shown : Shows draft foreign text) (blank : Blank gap)
    (rest : List Char) :
    ∃ member ∈ foreign, record.read (gap ++ (text ++ rest)) =
      .error (.unknownField (String.ofList member.key)
        ["max_items", "max_capacity", "weight_policy", "tie_break"]) := by
  cases shown with
  | object gives order written =>
    exact Record.refuses_members rfl order (notices_gives gives)
      (fun member among => Record.lacks_of_isForeign (isForeign member among)) some
      (pairwise_notes draft) (isGiven_notes draft) written blank rest

end Config

/-! ## Whole texts -/

namespace Surroundings

/-- An object ends with its brace or with white space. -/
theorem exists_last_padded (before : List Char) {text after : List Char} {members : List Member}
    (object : ObjectOf members text) (blankAfter : Blank after) :
    ∃ front last, before ++ (text ++ after) = front ++ [last] ∧ last ≠ 'n' := by
  obtain ⟨entries, _, tail, rfl, layout⟩ := object
  obtain ⟨front, rfl⟩ := layout.exists_front
  rcases List.eq_nil_or_concat after with rfl | ⟨gap, c, rfl⟩
  · exact ⟨before ++ '\x7b' :: front, '\x7d', by simp, by decide⟩
  · refine ⟨before ++ '\x7b' :: (front ++ '\x7d' :: gap), c, by simp, ?_⟩
    rintro rfl
    exact absurd (blankAfter 'n' (by simp)) (by decide)

/-- An inline text of settings is read as it is. -/
theorem loadConfig_shows {draft : Config.Draft} {foreign : List Member} {text : List Char}
    (surroundings : Surroundings) (padded : Padded (Config.Shows draft foreign) text) :
    surroundings.loadConfig (String.ofList text) =
      surroundings.configOfText (String.ofList text) := by
  cases padded with
  | @around before _ _ _ shown blankAfter =>
    cases shown with
    | object _ _ written =>
      obtain ⟨front, last, same, other⟩ := exists_last_padded before written blankAfter
      rw [same]
      have noFile : ¬ namesConfigFile (String.ofList (front ++ [last])) = true := by
        intro named
        simp only [namesConfigFile, String.toList_ofList, List.isSuffixOf_iff_suffix] at named
        obtain ⟨name, ending⟩ := named
        have letter := congrArg List.getLast? ending
        rw [List.getLast?_concat] at letter
        exact other (by simpa using letter.symm)
      unfold loadConfig
      rw [if_neg noFile]

end Surroundings

/-- Data are read from objects with their fields in any order and any other members, as from the
objects that are written for them. Settings are read from objects with any of them in any order,
those left out being the usual ones, and a member of another key is always an error. -/
theorem lenient_data_strict_settings :
    (∀ item text, Padded (Item.Shows item) text →
      decode Item.record.read text = .ok item ∧
      decode Item.record.read item.toJson = .ok item) ∧
    (∀ inst text, Padded (Instance.Shows inst) text →
      decode Instance.record.read text = .ok inst ∧
      decode Instance.record.read inst.toJson = .ok inst) ∧
    (∀ solution text, Padded (Solution.Shows solution) text →
      decode Solution.record.read text = .ok solution ∧
      decode Solution.record.read solution.toJson = .ok solution) ∧
    (∀ (surroundings : Surroundings) draft text, Padded (Config.Shows draft []) text →
      surroundings.loadConfig (String.ofList text) = .ok
        { maxItems := draft.maxItems.getD 100
          maxCapacity := draft.maxCapacity.getD 100000
          weightPolicy := draft.weightPolicy.getD .positive
          tieBreak := draft.tieBreak.getD .lightest }) ∧
    ∀ (surroundings : Surroundings) draft foreign text, foreign ≠ [] →
      (∀ member ∈ foreign,
        member.IsForeign ["max_items", "max_capacity", "weight_policy", "tie_break"]) →
      Padded (Config.Shows draft foreign) text →
      ∃ member ∈ foreign, surroundings.loadConfig (String.ofList text) =
        .error (.config (.unknownField (String.ofList member.key)
          ["max_items", "max_capacity", "weight_policy", "tie_break"])
          (surroundings.place? .config (String.ofList text))) := by
  refine ⟨fun item text padded => ?item, fun inst text padded => ?inst,
    fun solution text padded => ?solution, fun surroundings draft text padded => ?settings,
    fun surroundings draft foreign text some isForeign padded => ?refused⟩
  case item =>
    refine ⟨?_, item.reads_toJson.decode_alone⟩
    cases padded with
    | around blank shown blankAfter => exact (Item.finds_shows shown).decode blank blankAfter
  case inst =>
    refine ⟨?_, inst.reads_toJson.decode_alone⟩
    cases padded with
    | around blank shown blankAfter => exact (Instance.finds_shows shown).decode blank blankAfter
  case solution =>
    cases padded with
    | around blank shown blankAfter =>
      have words : ∀ index ∈ solution.selected, index < wordCount := by
        cases shown with
        | object words => exact words
      exact ⟨(Solution.finds_shows shown).decode blank blankAfter,
        (Solution.reads_toJson words).decode_alone⟩
  case settings =>
    rw [surroundings.loadConfig_shows padded]
    cases padded with
    | around blank shown blankAfter =>
      unfold Surroundings.configOfText
      rw [String.toList_ofList, (Config.finds_shows shown).decode blank blankAfter]
      rfl
  case refused =>
    rw [surroundings.loadConfig_shows padded]
    cases padded with
    | @around before text after blank shown blankAfter =>
      obtain ⟨member, among, refused⟩ := Config.refuses_shows isForeign some shown blank after
      refine ⟨member, among, ?_⟩
      simp only [Surroundings.configOfText, String.toList_ofList, decode, refused]
      rfl

/-- Members in the opposite order and one besides, other settings left out, and a misspelled one. -/
theorem lenient_data_strict_settings_misspelled :
    decode Item.record.read
        "\x7b\"note\":[null,\x7b\"value\":\"\"\x7d],\"value\":5,\"weight\":3\x7d\n".toList =
      .ok ⟨3, 5⟩ ∧
    decode Instance.record.read "\x7b\"items\":[[3,5]],\"capacity\":10\x7d".toList =
      .ok ⟨10, [⟨3, 5⟩]⟩ ∧
    decode Solution.record.read "\x7b\"selected_indices\":[0],\"optimal_value\":5\x7d".toList =
      .ok ⟨5, [0]⟩ ∧
    Surroundings.bare.loadConfig
        (String.ofList "\x7b\"tie_break\":\"none\",\"max_items\":5\x7d".toList) =
      .ok { maxItems := 5, tieBreak := .valueOnly } ∧
    Surroundings.loadConfig { Surroundings.bare with place? := fun _ _ => some ⟨1, 12⟩ }
        (String.ofList "\x7b\"tie_brake\":\"none\",\"max_items\":5\x7d".toList) =
      .error (.config (.unknownField "tie_brake"
        ["max_items", "max_capacity", "weight_policy", "tie_break"]) (some ⟨1, 12⟩)) := by
  obtain ⟨items, instances, solutions, settings, refused⟩ := lenient_data_strict_settings
  refine ⟨(items _ _ ?item).1, (instances _ _ ?inst).1, (solutions _ _ ?solution).1, ?settings,
    ?refused⟩
  case item =>
    have inner : Value (object ([⟨"value".toList, quote []⟩].map Member.text)) :=
      value_object (List.forall_mem_singleton.mpr (value_quote []))
    have note : Value (array [['n', 'u', 'l', 'l'], _]) :=
      .list (List.forall_mem_cons.mpr ⟨.null, List.forall_mem_singleton.mpr inner⟩)
        (bracketed_enclosed '[' ']' _)
    have extra : Member.IsExtra ["weight", "value"] ⟨"note".toList, _⟩ :=
      ⟨by simp [Member.IsForeign], note⟩
    have shown : Item.Shows ⟨3, 5⟩ _ := .object (.object (List.reverse_perm [_, _, _])
      (List.forall_mem_singleton.mpr extra) (objectOf_object _))
    have feed : Blank ['\n'] := List.forall_mem_singleton.mpr rfl
    exact .around blank_nil shown feed
  case inst =>
    have each : List.Forall₂ Item.Shows [⟨3, 5⟩] [array [['3'], ['5']]] :=
      .cons (.list (bracketed_enclosed '[' ']' [_, _])) .nil
    have shown : Instance.Shows ⟨10, [⟨3, 5⟩]⟩ _ :=
      .object each (bracketed_enclosed '[' ']' _) (.object (List.reverse_perm [_, _])
        (fun _ none => absurd none List.not_mem_nil) (objectOf_object _))
    exact .around blank_nil shown blank_nil
  case solution =>
    have shown : Solution.Shows ⟨5, [0]⟩ _ :=
      .object (by decide) (bracketed_enclosed '[' ']' _) (.object (List.reverse_perm [_, _])
        (fun _ none => absurd none List.not_mem_nil) (objectOf_object _))
    exact .around blank_nil shown blank_nil
  case settings =>
    have named : ShowsName [("min_weight", TieBreak.lightest), ("none", .valueOnly)] .valueOnly _ :=
      .string (List.mem_cons_of_mem _ List.mem_cons_self) (spells_escape "none".toList)
    have gives : Config.Gives { maxItems := some 5, tieBreak := some .valueOnly } _ :=
      .members (.member ⟨by decide, rfl⟩) .omitted .omitted (.member named)
    have shown : Config.Shows _ [] _ :=
      .object gives (List.reverse_perm [_, _]) (objectOf_object _)
    exact settings _ _ _ (.around blank_nil shown blank_nil)
  case refused =>
    have gives : Config.Gives { maxItems := some 5 } _ :=
      .members (.member ⟨by decide, rfl⟩) .omitted .omitted .omitted
    have shown : Config.Shows _ [⟨"tie_brake".toList, "\"none\"".toList⟩] _ :=
      .object gives (List.reverse_perm [_, _]) (objectOf_object _)
    obtain ⟨member, among, unknown⟩ := refused _ _ _ _ (List.cons_ne_nil _ _)
      (List.forall_mem_singleton.mpr (by simp [Member.IsForeign]))
      (.around blank_nil shown blank_nil)
    cases List.mem_singleton.mp among
    exact unknown

end Knapsack
