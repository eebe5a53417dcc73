import Knapsack.Proofs.Json.Number

/-!
# Documents as JSON text

Every document is read back from the text that is written for it. For each kind of document there is
a lemma `reads_toJson`, which holds wherever in a larger text the document stands; from them comes
`decode_toJson`, on documents that are a text by themselves. An object is read member by member: each
member adds its field to a draft that has the fields before it.
-/

namespace Knapsack

open Json

namespace Json

/-- A name of the choice is found as what it stands for, however it is spelled. -/
theorem finds_name {α : Type} {choice : List (String × α)} {body word : List Char} {x : α}
    (spells : Spells body word) (stands : chosen choice word = .ok x) :
    Finds (variant choice) ('"' :: (body ++ ['"'])) x := by
  refine ⟨⟨'"', _, rfl, by decide, by decide⟩, fun {gap rest} blank _ => ?_⟩
  have here := skipSpace_mark blank (c := '"') (by decide) (body ++ '"' :: rest)
  simp only [List.append_assoc, List.cons_append, List.nil_append]
  simp only [variant, here, string_spells spells]
  change (chosen choice word).bind _ = _
  rw [stands]
  rfl

/-- A name of the choice is read as what it stands for. -/
theorem reads_variant {α : Type} {choice : List (String × α)} {word : String} {x : α}
    (plain : word.toList.flatMap escape = word.toList)
    (stands : choice.find? (fun (known, _) => known.toList = word.toList) = some (word, x)) :
    Reads (variant choice) (name word) x := by
  have spells := spells_escape word.toList
  rw [plain] at spells
  have taken : chosen choice word.toList = .ok x := by
    unfold chosen
    rw [stands]
  exact (finds_name spells taken).reads

end Json

theorem WeightPolicy.reads_toJson (policy : WeightPolicy) :
    Reads (variant WeightPolicy.names) policy.toJson policy := by
  cases policy with
  | positive => exact reads_variant rfl rfl
  | nonNegative => exact reads_variant rfl rfl

theorem TieBreak.reads_toJson (tieBreak : TieBreak) :
    Reads (variant TieBreak.names) tieBreak.toJson tieBreak := by
  cases tieBreak with
  | lightest => exact reads_variant rfl rfl
  | valueOnly => exact reads_variant rfl rfl

theorem Item.reads_toJson (item : Item) : Reads record.read item.toJson item := by
  have notes : record.Notes {} [
      entry "weight" (Numeral.ofInt item.weight.toInt),
      entry "value" (Numeral.ofInt item.value.toInt)] ⟨some item.weight, some item.value⟩ :=
    .field (reads_int32 _) rfl rfl rfl (.field (reads_int32 _) rfl rfl rfl .nil)
  exact Record.reads_object notes rfl

theorem Instance.reads_toJson (inst : Instance) : Reads record.read inst.toJson inst := by
  have items : Reads (list Item.record.read) (array (inst.items.map Item.toJson)) inst.items :=
    Reads.list_map fun item _ => item.reads_toJson
  have notes : record.Notes {} [
      entry "capacity" (Numeral.ofInt inst.capacity.toInt),
      entry "items" (array (inst.items.map Item.toJson))] ⟨some inst.capacity, some inst.items⟩ :=
    .field (reads_int32 _) rfl rfl rfl (.field items rfl rfl rfl .nil)
  exact Record.reads_object notes rfl

/-- The members of a solution, whose positions are words, note its value and its positions. -/
theorem Solution.notes_entries {solution : Solution}
    (words : ∀ index ∈ solution.selected, index < wordCount) :
    record.Notes {} solution.entries ⟨some solution.optimalValue, some solution.selected⟩ := by
  have selected : Reads (list word) (array (solution.selected.map Numeral.ofNat))
      solution.selected := Reads.list_map fun index member => reads_word (words index member)
  exact .field (reads_int32 _) rfl rfl rfl (.field selected rfl rfl rfl .nil)

theorem Solution.reads_toJson {solution : Solution}
    (words : ∀ index ∈ solution.selected, index < wordCount) :
    Reads record.read solution.toJson solution :=
  Record.reads_object (notes_entries words) rfl

theorem Config.reads_toJson {config : Config} (word : config.maxItems < wordCount) :
    Reads record.read config.toJson config := by
  have notes : record.Notes {} [
      entry "max_items" (Numeral.ofNat config.maxItems),
      entry "max_capacity" (Numeral.ofInt config.maxCapacity.toInt),
      entry "weight_policy" config.weightPolicy.toJson,
      entry "tie_break" config.tieBreak.toJson]
      ⟨some config.maxItems, some config.maxCapacity, some config.weightPolicy,
        some config.tieBreak⟩ :=
    .field (reads_word word) rfl rfl rfl
      (.field (reads_int32 _) rfl rfl rfl
        (.field config.weightPolicy.reads_toJson rfl rfl rfl
          (.field config.tieBreak.reads_toJson rfl rfl rfl .nil)))
  exact Record.reads_object notes rfl

namespace Json

/-- What is written for a document is decoded as that document. -/
theorem decode_toJson :
    (∀ item, decode Item.record.read item.toJson = .ok item) ∧
      (∀ inst, decode Instance.record.read inst.toJson = .ok inst) ∧
      (∀ solution : Solution, (∀ index ∈ solution.selected, index < wordCount) →
        decode Solution.record.read solution.toJson = .ok solution) ∧
      (∀ config : Config, config.maxItems < wordCount →
        decode Config.record.read config.toJson = .ok config) ∧
      (∀ policy, decode (variant WeightPolicy.names) policy.toJson = .ok policy) ∧
      (∀ tieBreak, decode (variant TieBreak.names) tieBreak.toJson = .ok tieBreak) := by
  refine ⟨fun item => ?item, fun inst => ?inst, fun solution words => ?solution,
    fun config word => ?config, fun policy => ?policy, fun tieBreak => ?tieBreak⟩
  case item => exact item.reads_toJson.decode_alone
  case inst => exact inst.reads_toJson.decode_alone
  case solution => exact (Solution.reads_toJson words).decode_alone
  case config => exact (Config.reads_toJson word).decode_alone
  case policy => exact policy.reads_toJson.decode_alone
  case tieBreak => exact tieBreak.reads_toJson.decode_alone

/-- The least value and the greatest position and limit are read back. -/
theorem decode_toJson_extremes :
    decode Solution.record.read (Solution.toJson ⟨-2147483648, [0, 18446744073709551615]⟩) =
        .ok ⟨-2147483648, [0, 18446744073709551615]⟩ ∧
      decode Config.record.read
          (Config.toJson ⟨18446744073709551615, -2147483648, .nonNegative, .valueOnly⟩) =
        .ok ⟨18446744073709551615, -2147483648, .nonNegative, .valueOnly⟩ := by
  obtain ⟨_, _, solutions, configs, _, _⟩ := decode_toJson
  exact ⟨solutions _ (by decide), configs _ (by decide)⟩

end Json

end Knapsack
