import Knapsack.Report
import Knapsack.Proofs.Json.Reads

/-!
# Nothing that is written is a control

The characters below the space are only ever written by escapes, and escapes have none of them. So a
string is written without them whatever its text is (`shown_quote`), and so are the reports
(`Report.shown_json`, `Report.shown_error`). In particular they have no line feed.
-/

namespace Knapsack

namespace Json

/-- No character of the text is below the space. -/
def Shown (text : List Char) : Prop :=
  ∀ c ∈ text, 0x20 ≤ c.toNat

instance (text : List Char) : Decidable (Shown text) :=
  List.decidableBAll _ text

theorem Shown.feed_not_mem {text : List Char} (shown : Shown text) : '\n' ∉ text :=
  fun feed => absurd (shown '\n' feed) (by decide)

theorem shown_append {text later : List Char} (shown : Shown text) (shownLater : Shown later) :
    Shown (text ++ later) :=
  List.forall_mem_append.mpr ⟨shown, shownLater⟩

theorem shown_cons {c : Char} {text : List Char} (first : 0x20 ≤ c.toNat) (shown : Shown text) :
    Shown (c :: text) :=
  List.forall_mem_cons.mpr ⟨first, shown⟩

theorem shown_flatMap {α : Type} {xs : List α} {write : α → List Char}
    (each : ∀ x ∈ xs, Shown (write x)) : Shown (xs.flatMap write) := by
  intro c member
  obtain ⟨x, among, here⟩ := List.mem_flatMap.mp member
  exact each x among c here

/-! ## Strings -/

theorem le_toNat_digitChar : ∀ n < 16, 0x20 ≤ n.digitChar.toNat := by decide

theorem le_toNat_of_shortEscape {d c : Char} (stands : (d, c) ∈ shortEscapes) :
    0x20 ≤ d.toNat := by
  have all : shortEscapes.all (fun pair => decide (0x20 ≤ pair.1.toNat)) = true := by decide
  exact of_decide_eq_true (List.all_eq_true.mp all _ stands)

theorem shown_escape (c : Char) : Shown (escape c) := by
  have escaped := escaped c
  generalize escape c = text at escaped
  cases escaped with
  | @short d stands =>
    have letter := le_toNat_of_shortEscape (shortEscape?_eq_some_iff.mp stands)
    exact shown_cons (by decide) (shown_cons letter (by decide))
  | control below =>
    have high := le_toNat_digitChar (c.toNat / 16) (by omega)
    have low := le_toNat_digitChar (c.toNat % 16) (Nat.mod_lt _ (by decide))
    have front : Shown ['\\', 'u', '0', '0'] := by decide
    exact shown_append front (shown_cons high (shown_cons low (by decide)))
  | plain quote backslash shown => exact shown_cons (Nat.le_of_not_lt shown) (by decide)

/-- Whatever its text is, a string is written without controls. -/
theorem shown_quote (text : List Char) : Shown (quote text) :=
  shown_cons (by decide)
    (shown_append (shown_flatMap fun c _ => shown_escape c) (by decide))

/-! ## Numerals, lists and objects -/

theorem shown_ofInt (n : Int) : Shown (Numeral.ofInt n) := by
  intro c member
  rcases Numeral.sign_or_digit_of_mem_ofInt member with rfl | digit
  · decide
  · have least := (Char.isDigit_iff_toNat.mp digit).1
    exact Nat.le_trans (by decide) least

theorem shown_enclosed {left right : Char} {entries : List (List Char)}
    (leftMark : 0x20 ≤ left.toNat) (rightMark : 0x20 ≤ right.toNat)
    (each : ∀ entry ∈ entries, Shown entry) : Shown (enclosed left right entries) := by
  have inner : Shown ([','].intercalate entries) := by
    cases entries with
    | nil => decide
    | cons entry entries =>
      obtain ⟨first, others⟩ := List.forall_mem_cons.mp each
      rw [intercalate_cons]
      exact shown_append first
        (shown_flatMap fun other member => shown_cons (by decide) (others other member))
  exact shown_cons leftMark (shown_append inner (shown_cons rightMark (by decide)))

theorem shown_entry {name : String} {value : List Char} (key : Shown name.toList)
    (shown : Shown value) : Shown (entry name value) :=
  shown_cons (by decide)
    (shown_append key (shown_cons (by decide) (shown_cons (by decide) shown)))

end Json

namespace Report

open Json

theorem shown_json (solution : Solution) : Shown (json solution) := by
  have positions : Shown (array (solution.selected.map Numeral.ofNat)) := by
    refine shown_enclosed (by decide) (by decide) fun entry member => ?_
    obtain ⟨index, -, rfl⟩ := List.mem_map.mp member
    exact shown_ofInt index
  refine shown_enclosed (by decide) (by decide) fun entry member => ?_
  simp only [Solution.entries, List.mem_cons, List.not_mem_nil, or_false] at member
  rcases member with rfl | rfl | rfl
  · decide
  · exact shown_entry (by decide) (shown_ofInt _)
  · exact shown_entry (by decide) positions

/-- The report of a failure has no control in it, whatever its message has. -/
theorem shown_error (message : String) : Shown (error message) := by
  refine shown_enclosed (by decide) (by decide) fun entry member => ?_
  simp only [List.mem_cons, List.not_mem_nil, or_false] at member
  rcases member with rfl | rfl
  · decide
  · exact shown_entry (by decide) (shown_quote _)

end Report

end Knapsack
