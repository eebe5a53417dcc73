import Knapsack.Proofs.Instance.Token
import Knapsack.Proofs.Text.WhiteSpace

/-!
# Which lines show a capacity

A line shows a number if it is a numeral of any length that denotes it, with white space before and
behind it, and the number is in the range of capacities (`ShowsCapacity`). A line is read as a
capacity exactly if it shows one; otherwise what is left of it without the white space at its ends
is named (`capacity_reads_grammar`).
-/

namespace Knapsack.Instance.Lines

open Numeral (Denotes)
open Text (whiteSpace Trimmed)

/-- A line that shows a number as a capacity: nothing but white space is around a numeral that
denotes it, and it is neither negative nor larger than 32 bits allow. -/
inductive ShowsCapacity : List Char → Int → Prop where
  | intro {lead text trail : List Char} {n : Int} (before : ∀ c ∈ lead, c ∈ whiteSpace)
      (denotes : Denotes text n) (range : 0 ≤ n ∧ n ≤ 2147483647)
      (behind : ∀ c ∈ trail, c ∈ whiteSpace) : ShowsCapacity (lead ++ text ++ trail) n

variable {line : List Char} {n : Int} {x : Int32}

/-- The numeral is what is left without the white space around it. -/
theorem showsCapacity_iff :
    ShowsCapacity line n ↔ Denotes (Text.trim line) n ∧ 0 ≤ n ∧ n ≤ 2147483647 := by
  constructor
  · rintro @⟨lead, text, trail, _, before, denotes, range, behind⟩
    have plain : ∀ c ∈ text, c ∉ whiteSpace := fun c member =>
      Text.isBlank_eq_false_iff.mp (isBlank_of_denotes denotes member)
    have trimmed : Trimmed (lead ++ text ++ trail) text :=
      .intro before (fun c first => plain c (List.mem_of_mem_head? first))
        (fun c last => plain c (List.mem_of_mem_getLast? last)) behind
    rw [← Text.trimmed_iff.mp trimmed]
    exact ⟨denotes, range⟩
  · rintro ⟨denotes, range⟩
    have trimmed := Text.trimmed_trim line
    generalize Text.trim line = text at denotes trimmed
    obtain ⟨before, -, -, behind⟩ := trimmed
    exact .intro before denotes range behind

theorem amount?_trim_eq_some_iff :
    amount? (Text.trim line) = some x ↔ ShowsCapacity line x.toInt := by
  rw [amount?_eq_some_iff, showsCapacity_iff]
  constructor
  · rintro ⟨n, denotes, range, rfl⟩
    rw [Int32.toInt_ofInt_of_le (by omega) (by omega)]
    exact ⟨denotes, range⟩
  · rintro ⟨denotes, range⟩
    exact ⟨x.toInt, denotes, range, (Int32.ofInt_toInt x).symm⟩

theorem exists_amount?_trim_iff :
    (∃ x, amount? (Text.trim line) = some x) ↔ ∃ n, ShowsCapacity line n := by
  constructor
  · rintro ⟨x, read⟩
    exact ⟨x.toInt, amount?_trim_eq_some_iff.mp read⟩
  · rintro ⟨n, shows⟩
    obtain ⟨denotes, range⟩ := showsCapacity_iff.mp shows
    exact ⟨Int32.ofInt n, amount?_eq_some_iff.mpr ⟨n, denotes, range, rfl⟩⟩

theorem capacity_eq_ok_iff : capacity line = .ok x ↔ ShowsCapacity line x.toInt := by
  rw [← amount?_trim_eq_some_iff]
  unfold capacity
  cases amount? (Text.trim line) with
  | none => exact iff_of_false nofun nofun
  | some read => rw [Except.ok.injEq, Option.some_inj]

theorem capacity_eq_error_iff {error : Error} :
    capacity line = .error error ↔
      (¬ ∃ n, ShowsCapacity line n) ∧ error = .badCapacity (String.ofList (Text.trim line)) := by
  rw [← exists_amount?_trim_iff]
  unfold capacity
  cases amount? (Text.trim line) with
  | none => simp [eq_comm]
  | some read => simp

/-- A line is read as a capacity exactly if it shows the same number. Every line has one part that
is left without the white space at its ends, and it is this part that is named if the line shows no
capacity. -/
theorem capacity_reads_grammar (line : List Char) :
    (∀ x, capacity line = .ok x ↔ ShowsCapacity line x.toInt) ∧
      ∃ shown, (∀ other, Trimmed line other ↔ other = shown) ∧
        ∀ error, capacity line = .error error ↔
          (¬ ∃ n, ShowsCapacity line n) ∧ error = .badCapacity (String.ofList shown) :=
  ⟨fun _ => capacity_eq_ok_iff, Text.trim line, fun _ => Text.trimmed_iff,
    fun _ => capacity_eq_error_iff⟩

example : capacity "\u3000\x0b+000000000000000000000000007 \r".toList = .ok 7 := rfl

example : capacity " 1 000 ".toList = .error (.badCapacity "1 000") := rfl

end Knapsack.Instance.Lines
