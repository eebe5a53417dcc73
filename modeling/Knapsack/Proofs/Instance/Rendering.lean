import Knapsack.Load
import Knapsack.Proofs.Instance.Lines
import Knapsack.Proofs.Json.Documents

/-!
# Both forms of an instance

A `Rendering` of an instance is a text whose first two lines show it: the capacity, then the items.
It is read as the instance (`Rendering.read_eq`), and it begins with no brace, as the JSON text of an
instance does. So both forms are loaded as the same instance (`ofText_json_and_rendering`).
-/

namespace Knapsack.Instance

namespace Lines

/-- Two lines that are read one by one are read as an instance; what is behind them is ignored. -/
theorem read_eq_ok {text first rest second further : List Char} {x : Int32} {list : List Item}
    (firstLine : Text.nextLine? text = some (first, rest)) (capacityRead : capacity first = .ok x)
    (secondLine : Text.nextLine? rest = some (second, further))
    (itemsRead : items second = .ok list) : read text = .ok ⟨x, list⟩ := by
  simp only [read, firstLine, capacityRead, secondLine, itemsRead]
  rfl

end Lines

open Lines in
/-- A text that shows an instance in its first two lines. -/
inductive Rendering (inst : Instance) : List Char → Prop where
  | intro {gap line rest : List Char} (blank : ∀ c ∈ gap, c = ' ' ∨ c = '\t' ∨ c = '\r')
      (shows : Shows inst.items line) (ended : rest = [] ∨ ∃ further, rest = '\n' :: further) :
      Rendering inst (Numeral.ofInt inst.capacity.toInt ++ gap ++ '\n' :: (line ++ rest))

namespace Rendering

variable {inst : Instance} {text : List Char}

theorem read_eq (rendering : Rendering inst text) (lower : 0 ≤ inst.capacity)
    (nonneg : NonNegative inst.items) : Lines.read text = .ok inst := by
  obtain @⟨gap, line, rest, blank, shows, ended⟩ := rendering
  have white : ∀ c ∈ gap, Text.isBlank c = true := by
    intro c member
    obtain rfl | rfl | rfl := blank c member <;> rfl
  have oneLine : '\n' ∉ Numeral.ofInt inst.capacity.toInt ++ gap := by
    rw [List.mem_append, not_or]
    refine ⟨fun feed => Numeral.ne_of_mem_ofInt feed (by decide) rfl rfl, fun feed => ?_⟩
    obtain same | same | same := blank _ feed <;> exact absurd same (by decide)
  have capacityRead := Lines.capacity_append lower white
  rw [← Lines.capacity_dropReturn] at capacityRead
  have itemsRead := shows.items_eq nonneg
  obtain rfl | ⟨further, rfl⟩ := ended
  · rw [List.append_nil]
    exact Lines.read_eq_ok (Text.nextLine?_append oneLine line) capacityRead
      (Text.nextLine?_alone shows.oneLine shows.line_ne_nil) itemsRead
  · rw [← Lines.items_dropReturn] at itemsRead
    exact Lines.read_eq_ok (Text.nextLine?_append oneLine _) capacityRead
      (Text.nextLine?_append shows.oneLine further) itemsRead

/-- A rendering begins with the first character of a numeral. -/
theorem head_ne_brace (rendering : Rendering inst text) :
    (Text.trimStart text).head? ≠ some '\x7b' := by
  obtain ⟨_, _, _⟩ := rendering
  obtain ⟨c, tail, written, _⟩ := Numeral.ofInt_eq_cons inst.capacity.toInt
  have member : c ∈ Numeral.ofInt inst.capacity.toInt := by
    rw [written]
    exact List.mem_cons_self
  rw [written, List.cons_append, List.cons_append, Text.trimStart_of_shown]
  · rintro ⟨⟩
    exact Numeral.ne_of_mem_ofInt member (by decide) rfl rfl
  · rintro d ⟨⟩
    exact Lines.isBlank_of_mem_ofInt member

end Rendering

/-- An instance is loaded from its JSON text, and from every text that shows it in two lines. -/
theorem ofText_json_and_rendering (inst : Instance) :
    ofText inst.toJson = .ok inst ∧
      (0 ≤ inst.capacity → NonNegative inst.items →
        ∀ text, Rendering inst text → ofText text = .ok inst) := by
  constructor
  · have brace : (Text.trimStart inst.toJson).head? = some '\x7b' := rfl
    rw [ofText, if_pos brace, inst.reads_toJson.decode_alone]
    rfl
  · intro lower nonneg text rendering
    rw [ofText, if_neg rendering.head_ne_brace, rendering.read_eq lower nonneg]
    rfl

/-- Two items with mixed delimiters around them, and a third line that shows none. -/
theorem ofText_rendering_mixed :
    Rendering ⟨7, [⟨0, -2147483648⟩, ⟨2147483647, 5⟩]⟩
        "7 \t\r\n, 0:-2147483648\t,2147483647:5 \r\n9:9".toList ∧
      ofText "7 \t\r\n, 0:-2147483648\t,2147483647:5 \r\n9:9".toList =
        .ok ⟨7, [⟨0, -2147483648⟩, ⟨2147483647, 5⟩]⟩ := by
  have rendering : Rendering ⟨7, [⟨0, -2147483648⟩, ⟨2147483647, 5⟩]⟩
      "7 \t\r\n, 0:-2147483648\t,2147483647:5 \r\n9:9".toList := by
    have spread : Lines.Spread ["0:-2147483648".toList, "2147483647:5".toList]
        ("0:-2147483648".toList ++ ("\t,".toList ++ ("2147483647:5".toList ++ " \r".toList))) :=
      .cons (by decide) (by decide) (.last (by decide))
    have shows : Lines.Shows [⟨0, -2147483648⟩, ⟨2147483647, 5⟩] (", ".toList ++ _) :=
      .intro (by decide) spread
    exact @Rendering.intro ⟨7, _⟩ " \t\r".toList _ "\n9:9".toList (by simp) shows (.inr ⟨_, rfl⟩)
  exact ⟨rendering, (ofText_json_and_rendering _).2 (by decide) (by decide) _ rendering⟩

end Knapsack.Instance
