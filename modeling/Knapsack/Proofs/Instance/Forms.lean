import Knapsack.Load
import Knapsack.Proofs.Instance.Capacity

/-!
# The two forms of an instance are told apart

A text is read as JSON or as lines by its first character that is no white space. Lines that are
read as an instance begin with the numeral of the capacity, so that character is a sign or a digit
(`firstShown_of_read`), never an opening brace. So no instance is missed by the choice, and no text
has both forms (`ofText_reads_one_form`).
-/

namespace Knapsack.Instance

open Text (FirstShown)

variable {text line : List Char} {inst : Instance}

namespace Lines

theorem firstShown_of_showsCapacity {n : Int} (shows : ShowsCapacity line n) :
    ∃ c, FirstShown line c ∧ (c = '+' ∨ c = '-' ∨ c.isDigit) := by
  obtain @⟨lead, text, trail, _, before, denotes, -, -⟩ := shows
  obtain ⟨c, digits, rfl⟩ := List.exists_cons_of_ne_nil denotes.ne_nil
  have plain := isBlank_of_denotes denotes List.mem_cons_self
  have shown : FirstShown (lead ++ c :: digits) c :=
    .intro before (Text.isBlank_eq_false_iff.mp plain)
  exact ⟨c, shown.append trail, denotes.sign_or_digit c List.mem_cons_self⟩

/-- Lines are read as an instance only if the first of them shows a capacity. -/
theorem exists_capacity_of_read (loaded : read text = .ok inst) :
    ∃ line rest n, Text.nextLine? text = some (line, rest) ∧ ShowsCapacity line n := by
  unfold read at loaded
  split at loaded
  · next line rest found =>
    obtain ⟨x, capacityRead, -⟩ := bind_eq_ok_iff.mp loaded
    exact ⟨line, rest, x.toInt, found, capacity_eq_ok_iff.mp capacityRead⟩
  · cases loaded

theorem firstShown_of_read (loaded : read text = .ok inst) :
    ∃ c, FirstShown text c ∧ (c = '+' ∨ c = '-' ∨ c.isDigit) := by
  obtain ⟨line, rest, n, found, shows⟩ := exists_capacity_of_read loaded
  obtain ⟨c, shown, numeral⟩ := firstShown_of_showsCapacity shows
  obtain ⟨ending, rfl⟩ := Text.exists_append_of_nextLine? found
  exact ⟨c, shown.append ending, numeral⟩

theorem not_brace_of_read (loaded : read text = .ok inst) : ¬ FirstShown text '\x7b' := by
  intro brace
  obtain ⟨c, shown, numeral⟩ := firstShown_of_read loaded
  obtain rfl := brace.unique shown
  revert numeral
  decide

end Lines

theorem ofText_of_brace (brace : FirstShown text '\x7b') :
    ofText text = .ok inst ↔ Json.decode record.read text = .ok inst := by
  rw [ofText, if_pos (Text.firstShown_iff.mp brace), mapError_eq_ok_iff]

theorem ofText_of_not_brace (other : ¬ FirstShown text '\x7b') :
    ofText text = .ok inst ↔ Lines.read text = .ok inst := by
  rw [ofText, if_neg (mt Text.firstShown_iff.mpr other), mapError_eq_ok_iff]

/-- A text is read as an instance exactly if its lines are, or if it begins with an opening brace
behind any white space and is read as JSON. No text does both, whatever instances they were. -/
theorem ofText_reads_one_form (text : List Char) :
    (∀ inst, ofText text = .ok inst ↔
        Lines.read text = .ok inst ∨
          (FirstShown text '\x7b' ∧ Json.decode record.read text = .ok inst)) ∧
      ¬ ((∃ inst, Lines.read text = .ok inst) ∧ FirstShown text '\x7b') := by
  constructor
  · intro inst
    by_cases brace : FirstShown text '\x7b'
    · have noLines : Lines.read text ≠ .ok inst := fun loaded =>
        Lines.not_brace_of_read loaded brace
      rw [ofText_of_brace brace, or_iff_right noLines, and_iff_right brace]
    · rw [ofText_of_not_brace brace, or_iff_left fun json => brace json.1]
  · rintro ⟨⟨inst, loaded⟩, brace⟩
    exact Lines.not_brace_of_read loaded brace

-- JSON knows less white space, so some texts that are taken for JSON are refused at their start.
example : ofText "\u00a0\x7b\x7d".toList = .error (.json .expectedValue) := rfl

end Knapsack.Instance
