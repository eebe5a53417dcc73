import Knapsack.Proofs.Text

/-!
# The white space at the ends of a text

White space is recognised by ranges of code points, and these hold exactly the 25 characters with
the property White_Space (`isBlank_iff`). Every text has one part that is left when the white space
at both its ends is taken away (`trimmed_iff`), and at most one first character that is no white
space (`firstShown_iff`).
-/

namespace Knapsack.Text

/-- The characters with the property White_Space, by code point. -/
def whiteSpace : List Char :=
  ['\t', '\n', '\x0b', '\x0c', '\r', ' ', '\u0085', '\u00a0', '\u1680', '\u2000', '\u2001',
    '\u2002', '\u2003', '\u2004', '\u2005', '\u2006', '\u2007', '\u2008', '\u2009', '\u200a',
    '\u2028', '\u2029', '\u202f', '\u205f', '\u3000']

/-- `shown` is what is between the white space at the start of a text and that at its end. -/
inductive Trimmed : List Char → List Char → Prop where
  | intro {lead shown trail : List Char} (before : ∀ c ∈ lead, c ∈ whiteSpace)
      (first : ∀ c ∈ shown.head?, c ∉ whiteSpace) (last : ∀ c ∈ shown.getLast?, c ∉ whiteSpace)
      (behind : ∀ c ∈ trail, c ∈ whiteSpace) : Trimmed (lead ++ shown ++ trail) shown

/-- The first character of a text that is no white space. -/
inductive FirstShown : List Char → Char → Prop where
  | intro {lead rest : List Char} {c : Char} (before : ∀ d ∈ lead, d ∈ whiteSpace)
      (shown : c ∉ whiteSpace) : FirstShown (lead ++ c :: rest) c

variable {text lead shown : List Char} {c d : Char}

theorem isBlank_iff : isBlank c ↔ c ∈ whiteSpace := by
  have byCode : c ∈ whiteSpace ↔ c.toNat ∈ whiteSpace.map Char.toNat := by
    refine ⟨List.mem_map_of_mem, fun member => ?_⟩
    obtain ⟨d, member, same⟩ := List.mem_map.mp member
    exact Char.toNat_inj.mp same ▸ member
  rw [byCode]
  simp only [isBlank, whiteSpace, List.map_cons, List.map_nil, List.mem_cons, List.not_mem_nil,
    or_false, Bool.or_eq_true, Bool.and_eq_true, decide_eq_true_eq, beq_iff_eq, Char.reduceToNat]
  omega

theorem isBlank_eq_false_iff : isBlank c = false ↔ c ∉ whiteSpace := by
  rw [← isBlank_iff, Bool.not_eq_true]

/-! ## The start of a text -/

theorem trimStart_append_of_blank (rest : List Char) (blank : ∀ c ∈ lead, isBlank c = true) :
    trimStart (lead ++ rest) = trimStart rest :=
  List.dropWhile_append_of_pos blank

theorem head?_trimStart (text : List Char) : ∀ c ∈ (trimStart text).head?, isBlank c = false := by
  intro c first
  have stopped := List.head?_dropWhile_not isBlank text
  rw [show (text.dropWhile isBlank).head? = some c from first] at stopped
  exact stopped

theorem exists_append_trimStart (text : List Char) :
    ∃ lead, text = lead ++ trimStart text ∧ ∀ c ∈ lead, isBlank c = true :=
  ⟨text.takeWhile isBlank, List.takeWhile_append_dropWhile.symm, fun _ => List.mem_takeWhile_imp⟩

theorem firstShown_iff : FirstShown text c ↔ (trimStart text).head? = some c := by
  constructor
  · rintro @⟨lead, rest, _, before, shown⟩
    rw [trimStart_append_of_blank _ fun d member => isBlank_iff.mpr (before d member),
      trimStart_of_shown]
    · rfl
    · rintro _ ⟨⟩
      exact isBlank_eq_false_iff.mpr shown
  · intro first
    obtain ⟨lead, split, blank⟩ := exists_append_trimStart text
    obtain ⟨rest, kept⟩ := List.head?_eq_some_iff.mp first
    rw [split, kept]
    exact .intro (fun d member => isBlank_iff.mp (blank d member))
      (isBlank_eq_false_iff.mp (head?_trimStart text c first))

theorem FirstShown.unique (first : FirstShown text c) (other : FirstShown text d) : c = d :=
  Option.some.inj ((firstShown_iff.mp first).symm.trans (firstShown_iff.mp other))

theorem FirstShown.append (first : FirstShown text c) (rest : List Char) :
    FirstShown (text ++ rest) c := by
  obtain ⟨before, shown⟩ := first
  rw [List.append_assoc]
  exact .intro before shown

/-! ## Both ends -/

theorem getLast?_trimEnd (text : List Char) : ∀ c ∈ (trimEnd text).getLast?, isBlank c = false := by
  unfold trimEnd
  rw [List.getLast?_reverse]
  exact head?_trimStart text.reverse

theorem exists_trimEnd_append (text : List Char) :
    ∃ trail, text = trimEnd text ++ trail ∧ ∀ c ∈ trail, isBlank c = true := by
  -- The end of a text is trimmed as the start of its reverse.
  obtain ⟨lead, split, blank⟩ := exists_append_trimStart text.reverse
  refine ⟨lead.reverse, ?_, fun c member => blank c (List.mem_reverse.mp member)⟩
  rw [List.reverse_eq_iff, List.reverse_append] at split
  exact split

theorem trimmed_trim (text : List Char) : Trimmed text (trim text) := by
  obtain ⟨lead, start, before⟩ := exists_append_trimStart text
  obtain ⟨trail, ending, behind⟩ := exists_trimEnd_append (trimStart text)
  have whole : lead ++ trim text ++ trail = text := by
    rw [List.append_assoc, trim, ← ending, ← start]
  have first : ∀ c ∈ (trim text).head?, isBlank c = false := by
    intro c first
    refine head?_trimStart text c ?_
    rw [ending, List.head?_append]
    exact Option.or_eq_some_iff.mpr (.inl first)
  have trimmed : Trimmed (lead ++ trim text ++ trail) (trim text) :=
    .intro (fun c member => isBlank_iff.mp (before c member))
      (fun c member => isBlank_eq_false_iff.mp (first c member))
      (fun c member => isBlank_eq_false_iff.mp (getLast?_trimEnd _ c member))
      (fun c member => isBlank_iff.mp (behind c member))
  rwa [whole] at trimmed

theorem trimmed_iff : Trimmed text shown ↔ shown = trim text := by
  constructor
  · rintro @⟨lead, _, trail, before, first, last, behind⟩
    rw [trim_append_of_blank _ fun c member => isBlank_iff.mpr (behind c member), trim,
      trimStart_append_of_blank _ fun c member => isBlank_iff.mpr (before c member),
      trimStart_of_shown fun c member => isBlank_eq_false_iff.mpr (first c member),
      trimEnd_of_shown fun c member => isBlank_eq_false_iff.mpr (last c member)]
  · rintro rfl
    exact trimmed_trim text

end Knapsack.Text
