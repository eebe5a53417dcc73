import Knapsack.Json.Skip
import Knapsack.Proofs.Json.Layout
import Knapsack.Proofs.Json.String

/-!
# JSON values that are skipped

`Value` is the grammar of JSON values: literal words, numbers, strings, lists and objects, nested as
deep as one likes and with white space wherever it may stand. Numbers may be of any size, and the
surrogates in a string may stand alone. A value is skipped exactly to its end (`Value.skipValue`).

`Steps` says that steps lead from one place to another. Those that skip a value begin and end on the
same stack (`Value.skips`); from the entries of a list or an object this is carried to the whole of
it, once for both of them (`skips_bracketed`).
-/

namespace Knapsack.Json

/-! ## Numbers -/

/-- One or more digits. -/
structure Digits (text : List Char) : Prop where
  nonempty : text ≠ []
  each : ∀ c ∈ text, c.isDigit = true

/-- The digits before the point: no zero stands in front of others. -/
inductive WholePart : List Char → Prop where
  | zero : WholePart ['0']
  | other {c : Char} {later : List Char} (first : c.isDigit = true) (nonzero : c ≠ '0')
      (each : ∀ d ∈ later, d.isDigit = true) : WholePart (c :: later)

inductive FractionPart : List Char → Prop where
  | none : FractionPart []
  | point {digits : List Char} (some : Digits digits) : FractionPart ('.' :: digits)

inductive ExponentPart : List Char → Prop where
  | none : ExponentPart []
  | mark {mark : Char} {sign digits : List Char} (letter : mark = 'e' ∨ mark = 'E')
      (signed : sign ∈ [[], ['+'], ['-']]) (some : Digits digits) :
      ExponentPart (mark :: (sign ++ digits))

inductive Numeric : List Char → Prop where
  | parts {sign whole fraction exponent : List Char} (signed : sign ∈ [[], ['-']])
      (wholePart : WholePart whole) (fractionPart : FractionPart fraction)
      (exponentPart : ExponentPart exponent) :
      Numeric (sign ++ (whole ++ (fraction ++ exponent)))

/-! ## Values -/

/-- A member of an object as it is written: the inside of its key, the white space before and after
its colon, and its value. -/
structure RawMember where
  body : List Char
  before : List Char
  after : List Char
  value : List Char

def RawMember.text (member : RawMember) : List Char :=
  '"' :: (member.body ++ '"' :: (member.before ++ ':' :: (member.after ++ member.value)))

/-- The key and the white space of a member are well formed. -/
structure RawMember.WellFormed (member : RawMember) : Prop where
  symbols : Symbols member.body
  before : Blank member.before
  after : Blank member.after

/-- A well-formed JSON value. -/
inductive Value : List Char → Prop where
  | null : Value ['n', 'u', 'l', 'l']
  | true : Value ['t', 'r', 'u', 'e']
  | false : Value ['f', 'a', 'l', 's', 'e']
  | number {text : List Char} (numeric : Numeric text) : Value text
  | string {body : List Char} (symbols : Symbols body) : Value ('"' :: (body ++ ['"']))
  | list {entries : List (List Char)} {text : List Char} (each : ∀ entry ∈ entries, Value entry)
      (layout : Bracketed '[' ']' entries text) : Value text
  | object {members : List RawMember} {text : List Char}
      (wellFormed : ∀ member ∈ members, member.WellFormed)
      (each : ∀ member ∈ members, Value member.value)
      (layout : Bracketed '\x7b' '\x7d' (members.map RawMember.text) text) : Value text

/-- A number begins with a sign or a digit. -/
theorem Numeric.eq_cons {text : List Char} (numeric : Numeric text) :
    ∃ c tail, text = c :: tail ∧ (c = '-' ∨ c.isDigit = true) := by
  cases numeric with
  | parts signed wholePart fractionPart exponentPart =>
    simp only [List.mem_cons, List.not_mem_nil, or_false] at signed
    rcases signed with rfl | rfl
    · cases wholePart with
      | zero => exact ⟨'0', _, rfl, .inr rfl⟩
      | @other c later first nonzero each => exact ⟨c, _, rfl, .inr first⟩
    · exact ⟨'-', _, rfl, .inl rfl⟩

theorem Value.begins {text : List Char} (value : Value text) : Begins text := by
  cases value with
  | null => exact ⟨'n', _, rfl, by decide, by decide⟩
  | true => exact ⟨'t', _, rfl, by decide, by decide⟩
  | false => exact ⟨'f', _, rfl, by decide, by decide⟩
  | number numeric =>
    obtain ⟨c, tail, rfl, numeral⟩ := numeric.eq_cons
    exact begins_of_sign_or_digit numeral tail
  | string symbols => exact ⟨'"', _, rfl, by decide, by decide⟩
  | list each layout =>
    obtain ⟨tail, rfl, _⟩ := layout
    exact ⟨'[', tail, rfl, by decide, by decide⟩
  | object wellFormed each layout =>
    obtain ⟨tail, rfl, _⟩ := layout
    exact ⟨'\x7b', tail, rfl, by decide, by decide⟩

/-! ## Skipping a number -/

section

variable {text rest : List Char}

theorem skipDigits_digits (some : Digits text) (ended : startsWithDigit rest = false) :
    skipDigits (text ++ rest) = .ok rest := by
  have behind := dropWhile_digits some.each ended
  obtain ⟨nonempty, each⟩ := some
  cases text with
  | nil => exact absurd rfl nonempty
  | cons c text =>
    have digit : startsWithDigit (c :: text ++ rest) = true := each c List.mem_cons_self
    rw [skipDigits, if_pos digit, behind]

theorem skipExponent_digits {sign : List Char} (signed : sign ∈ [[], ['+'], ['-']])
    (some : Digits text) (ended : startsWithDigit rest = false) :
    skipExponent (sign ++ (text ++ rest)) = .ok rest := by
  have skipped := skipDigits_digits some ended
  simp only [List.mem_cons, List.not_mem_nil, or_false] at signed
  rcases signed with rfl | rfl | rfl
  · obtain ⟨c, digits, rfl⟩ := List.exists_cons_of_ne_nil some.nonempty
    have digit := some.each c List.mem_cons_self
    -- A digit is no sign.
    unfold skipExponent
    split
    · next same => cases same; exact absurd digit (by decide)
    · next same => cases same; exact absurd digit (by decide)
    · exact skipped
  · exact skipped
  · exact skipped

theorem skipScaled_exponentPart (exponentPart : ExponentPart text) (stops : Stops rest) :
    skipScaled (text ++ rest) = .ok rest := by
  cases exponentPart with
  | none =>
    change skipScaled rest = _
    unfold skipScaled
    split
    · exact absurd rfl (stops _ rfl).2.2.1
    · exact absurd rfl (stops _ rfl).2.2.2
    · rfl
  | mark letter signed some =>
    have skipped := skipExponent_digits signed some (startsWithDigit_of_stops stops)
    rw [← List.append_assoc] at skipped
    rcases letter with rfl | rfl
    · exact skipped
    · exact skipped

/-- Neither digits nor a fraction go on with an exponent. -/
theorem ExponentPart.ended (exponentPart : ExponentPart text) (stops : Stops rest) :
    startsWithDigit (text ++ rest) = false ∧ (text ++ rest).head? ≠ some '.' := by
  cases exponentPart with
  | none => exact ⟨startsWithDigit_of_stops stops, fun point => (stops _ point).2.1 rfl⟩
  | mark letter signed some =>
    rcases letter with rfl | rfl
    · exact ⟨rfl, by simp⟩
    · exact ⟨rfl, by simp⟩

theorem skipAfterDigits_parts {exponent : List Char} (fractionPart : FractionPart text)
    (exponentPart : ExponentPart exponent) (stops : Stops rest) :
    skipAfterDigits (text ++ (exponent ++ rest)) = .ok rest := by
  have scaled := skipScaled_exponentPart exponentPart stops
  obtain ⟨ended, noPoint⟩ := exponentPart.ended stops
  cases fractionPart with
  | none =>
    unfold skipAfterDigits
    split
    · next same =>
      rw [List.nil_append] at same
      rw [same] at noPoint
      exact absurd rfl noPoint
    · exact scaled
  | point some =>
    have digits := skipDigits_digits some ended
    simp only [skipAfterDigits, List.cons_append, digits, scaled]

theorem skipUnsigned_parts {fraction exponent : List Char} (wholePart : WholePart text)
    (fractionPart : FractionPart fraction) (exponentPart : ExponentPart exponent)
    (stops : Stops rest) :
    skipUnsigned (text ++ (fraction ++ (exponent ++ rest))) = .ok rest := by
  have skipped := skipAfterDigits_parts fractionPart exponentPart stops
  have ended : startsWithDigit (fraction ++ (exponent ++ rest)) = false := by
    cases fractionPart with
    | none => exact (exponentPart.ended stops).1
    | point some => rfl
  cases wholePart with
  | zero => simpa [skipUnsigned, ended] using skipped
  | @other c later first nonzero each =>
    have digits : ∀ d ∈ c :: later, d.isDigit = true := List.forall_mem_cons.mpr ⟨first, each⟩
    have behind := dropWhile_digits digits ended
    rw [List.cons_append] at behind ⊢
    simp only [skipUnsigned, if_neg nonzero, if_pos first, behind, skipped]

theorem Numeric.skipNumber (numeric : Numeric text) (stops : Stops rest) :
    Json.skipNumber (text ++ rest) = .ok rest := by
  cases numeric with
  | parts signed wholePart fractionPart exponentPart =>
    have skipped := skipUnsigned_parts wholePart fractionPart exponentPart stops
    simp only [List.mem_cons, List.not_mem_nil, or_false] at signed
    simp only [List.append_assoc]
    rcases signed with rfl | rfl
    · unfold Json.skipNumber
      split
      · next same =>
        -- What comes first is a digit and no sign.
        rw [List.nil_append] at same
        cases wholePart with
        | zero => cases same
        | other first => cases same; exact absurd first (by decide)
      · exact skipped
    · exact skipped

end

/-! ## Steps -/

/-- Steps that lead from one place to another, each of them nearer to the end of the text. -/
inductive Steps : Turn → List Frame → List Char → Turn → List Frame → List Char → Prop where
  | refl {turn : Turn} {stack : List Frame} {text : List Char} :
      Steps turn stack text turn stack text
  | step {turn next last : Turn} {stack nextStack lastStack : List Frame}
      {text nextText lastText : List Char}
      (taken : skipStep turn stack text = .ok (next, nextStack, nextText))
      (nearer : nextText.length < text.length)
      (later : Steps next nextStack nextText last lastStack lastText) :
      Steps turn stack text last lastStack lastText

section

variable {turn next last : Turn} {stack nextStack lastStack : List Frame}
  {text nextText lastText rest : List Char}

theorem Steps.single (taken : skipStep turn stack text = .ok (next, nextStack, nextText))
    (nearer : nextText.length < text.length) : Steps turn stack text next nextStack nextText :=
  .step taken nearer .refl

theorem Steps.trans (earlier : Steps turn stack text next nextStack nextText)
    (later : Steps next nextStack nextText last lastStack lastText) :
    Steps turn stack text last lastStack lastText := by
  induction earlier with
  | refl => exact later
  | step taken nearer _ ih => exact .step taken nearer (ih later)

theorem skipSteps_cons {b : Char} {budget : List Char}
    (taken : skipStep turn stack text = .ok (next, nextStack, nextText)) :
    skipSteps (b :: budget) turn stack text = skipSteps budget next nextStack nextText := by
  cases turn with
  | before => simp only [skipSteps, taken]
  | after =>
    cases stack with
    | nil =>
      cases taken
      cases budget <;> rfl
    | cons => simp only [skipSteps, taken]

/-- Steps that lead to the end of a value with nothing open are all taken. -/
theorem Steps.skipSteps {budget : List Char} (steps : Steps turn stack text .after [] rest)
    (enough : text.length ≤ budget.length) : Json.skipSteps budget turn stack text = .ok rest := by
  generalize ended : Turn.after = last at steps
  generalize closed : ([] : List Frame) = lastStack at steps
  induction steps generalizing budget with
  | refl =>
    subst ended closed
    cases budget <;> rfl
  | step taken nearer _ ih =>
    obtain ⟨b, budget, rfl⟩ := List.exists_cons_of_length_pos (by omega : 0 < budget.length)
    rw [skipSteps_cons taken]
    apply ih _ ended closed
    rw [List.length_cons] at enough
    omega

end

/-! ## Skipping a value -/

/-- The text is skipped by steps that begin and end on the same stack. -/
def Skips (text : List Char) : Prop :=
  ∀ ⦃gap rest : List Char⦄ ⦃stack : List Frame⦄, Blank gap → Stops rest →
    Steps .before stack (gap ++ (text ++ rest)) .after stack rest

namespace Frame

/-- The mark that opens a frame. -/
def left : Frame → Char
  | list => '['
  | object => '\x7b'

/-- The mark that closes a frame. -/
def right : Frame → Char
  | list => ']'
  | object => '\x7d'

/-- An entry of a frame is skipped, both at the opening mark and at the comma before it. -/
structure Holds (frame : Frame) (entry : List Char) : Prop where
  opens : ∀ ⦃gap lead rest : List Char⦄ ⦃stack : List Frame⦄,
    Blank gap → Blank lead → Stops rest →
    Steps .before stack (gap ++ frame.left :: (lead ++ (entry ++ rest)))
      .after (frame :: stack) rest
  passes : ∀ ⦃before after rest : List Char⦄ ⦃stack : List Frame⦄,
    Blank before → Blank after → Stops rest →
    Steps .after (frame :: stack) (before ++ ',' :: (after ++ (entry ++ rest)))
      .after (frame :: stack) rest

end Frame

section

variable {gap lead before text rest : List Char} {stack : List Frame}

/-! ### Words, numbers and strings -/

theorem skips_scalar {c : Char} {tail : List Char} (shown : isSpace c = false) (noList : c ≠ '[')
    (noObject : c ≠ '\x7b')
    (skipped : ∀ {rest : List Char}, Stops rest → skipScalar (c :: (tail ++ rest)) = .ok rest) :
    Skips (c :: tail) := by
  intro gap rest stack blank stops
  have here := skipSpace_mark blank shown (tail ++ rest)
  refine .single ?_ (by simp; omega)
  rw [List.cons_append]
  simp only [skipStep, here]
  split
  · next same => cases same; exact absurd rfl noList
  · next same => cases same; exact absurd rfl noObject
  · rw [skipped stops]

theorem skips_number (numeric : Numeric text) : Skips text := by
  obtain ⟨c, tail, rfl, numeral⟩ := numeric.eq_cons
  have other (d : Char) := ne_of_sign_or_digit (d := d) numeral
  refine skips_scalar (isSpace_of_sign_or_digit numeral) (other '[' (by decide) rfl)
    (other '\x7b' (by decide) rfl) fun {rest} stops => ?_
  have skipped := numeric.skipNumber stops
  rw [List.cons_append] at skipped
  -- A sign or a digit is none of the letters and marks that other values begin with.
  unfold skipScalar
  split
  · next same => cases same; exact absurd rfl (other 'n' (by decide) rfl)
  · next same => cases same; exact absurd rfl (other 't' (by decide) rfl)
  · next same => cases same; exact absurd rfl (other 'f' (by decide) rfl)
  · next same => cases same; exact absurd rfl (other '"' (by decide) rfl)
  · next same => cases same; rw [if_pos numeral, skipped]
  · next same => cases same

/-! ### Frames -/

/-- A frame is closed at its mark. -/
theorem skipStep_right (frame : Frame) (blank : Blank gap) :
    skipStep .after (frame :: stack) (gap ++ frame.right :: rest) = .ok (.after, stack, rest) := by
  cases frame with
  | list =>
    have here := skipSpace_mark blank (c := ']') (by decide) rest
    simp [skipStep, Frame.right, here]
  | object =>
    have here := skipSpace_mark blank (c := '\x7d') (by decide) rest
    simp [skipStep, Frame.right, here]

/-- A frame without entries is skipped at once. -/
theorem skipStep_empty (frame : Frame) (blank : Blank gap) (blankLead : Blank lead) :
    skipStep .before stack (gap ++ frame.left :: (lead ++ frame.right :: rest)) =
      .ok (.after, stack, rest) := by
  cases frame with
  | list =>
    have here := skipSpace_mark blank (c := '[') (by decide) (lead ++ ']' :: rest)
    have closed := skipSpace_mark blankLead (c := ']') (by decide) rest
    simp [skipStep, Frame.left, Frame.right, here, closed]
  | object =>
    have here := skipSpace_mark blank (c := '\x7b') (by decide) (lead ++ '\x7d' :: rest)
    have closed := skipSpace_mark blankLead (c := '\x7d') (by decide) rest
    simp [skipStep, Frame.left, Frame.right, here, closed]

/-- The closing mark of a frame goes on no number. -/
theorem Frame.stops_right (frame : Frame) : frame.right.isDigit = false ∧ frame.right ≠ '.' ∧
    frame.right ≠ 'e' ∧ frame.right ≠ 'E' := by
  cases frame <;> decide

/-- The entries after the first one are skipped up to the end of their frame. -/
theorem Entries.steps (frame : Frame) {entries : List (List Char)}
    (each : ∀ entry ∈ entries, frame.Holds entry)
    (layout : Entries frame.right false entries text) (rest : List Char) :
    Steps .after (frame :: stack) (text ++ rest) .after stack rest := by
  generalize first : false = none at layout
  induction layout with
  | closed blank =>
    rw [List.append_assoc, List.singleton_append]
    exact .single (skipStep_right frame blank) (by simp; omega)
  | first => cases first
  | @comma before after entry text entries blankBefore blankAfter later ih =>
    have stops := later.stops frame.stops_right rest
    simp only [List.append_assoc, List.cons_append]
    exact ((each entry List.mem_cons_self).passes blankBefore blankAfter stops).trans
      (ih (fun other member => each other (List.mem_cons_of_mem _ member)) rfl)

/-- What a frame encloses is skipped if each of its entries is. -/
theorem skips_bracketed (frame : Frame) {entries : List (List Char)}
    (each : ∀ entry ∈ entries, frame.Holds entry)
    (layout : Bracketed frame.left frame.right entries text) : Skips text := by
  intro gap rest stack blank stops
  obtain ⟨tail, rfl, layout⟩ := layout
  cases layout with
  | closed blankLead =>
    simp only [List.append_assoc, List.cons_append, List.nil_append]
    exact .single (skipStep_empty frame blank blankLead) (by simp; omega)
  | @first lead entry text entries blankLead later =>
    have stops := later.stops frame.stops_right rest
    have others : ∀ other ∈ entries, frame.Holds other := fun other member =>
      each other (List.mem_cons_of_mem _ member)
    simp only [List.append_assoc, List.cons_append]
    exact ((each entry List.mem_cons_self).opens blank blankLead stops).trans
      (Entries.steps frame others later rest)

/-! ### Elements of a list -/

/-- A list opens with its first element ahead. -/
theorem skipStep_list (blank : Blank gap) (blankLead : Blank lead) (begins : Begins text) :
    skipStep .before stack (gap ++ '[' :: (lead ++ (text ++ rest))) =
      .ok (.before, .list :: stack, text ++ rest) := by
  have here := skipSpace_mark blank (c := '[') (by decide) (lead ++ (text ++ rest))
  have ready := begins.skipSpace_gap blankLead rest
  obtain ⟨c, tail, rfl, _, noClose⟩ := begins
  rw [List.cons_append] at here ready ⊢
  simp only [skipStep, here, ready]
  split
  · next same => cases same
  · next same => exact absurd (List.cons.inj same).1 noClose
  · rfl

theorem holds_list (begins : Begins text) (skips : Skips text) : Frame.list.Holds text where
  opens := by
    intro gap lead rest stack blank blankLead stops
    refine .step (skipStep_list blank blankLead begins) ?_ (skips blank_nil stops)
    simp only [List.length_append, List.length_cons]
    omega
  passes := by
    intro before after rest stack blankBefore blankAfter stops
    have here := skipSpace_mark blankBefore (c := ',') (by decide) (after ++ (text ++ rest))
    refine .step ?_ ?_ (skips blankAfter stops)
    · simp [skipStep, here]
    · simp only [List.length_append, List.length_cons]
      omega

/-! ### Members of an object -/

/-- A key is skipped with its colon. -/
theorem skipKey_text {member : RawMember} (wellFormed : member.WellFormed) (blank : Blank gap)
    (rest : List Char) :
    skipKey (gap ++ (member.text ++ rest)) = .ok (member.after ++ (member.value ++ rest)) := by
  have here := skipSpace_mark blank (c := '"') (by decide) (member.text ++ rest).tail
  simp only [RawMember.text, List.append_assoc, List.cons_append, List.tail_cons] at here ⊢
  simp only [skipKey, here, skipString_symbols wellFormed.symbols, colon_gap wellFormed.before]

/-- An object opens with the value of its first member ahead. -/
theorem skipStep_object {member : RawMember} (blank : Blank gap) (blankLead : Blank lead)
    (wellFormed : member.WellFormed) :
    skipStep .before stack (gap ++ '\x7b' :: (lead ++ (member.text ++ rest))) =
      .ok (.before, .object :: stack, member.after ++ (member.value ++ rest)) := by
  have key := skipKey_text wellFormed blank_nil rest
  have here := skipSpace_mark blank (c := '\x7b') (by decide) (lead ++ (member.text ++ rest))
  have quote := skipSpace_mark blankLead (c := '"') (by decide) (member.text ++ rest).tail
  simp only [RawMember.text, List.append_assoc, List.cons_append, List.tail_cons,
    List.nil_append] at here quote key ⊢
  simp [skipStep, here, quote, key]

theorem holds_object {member : RawMember} (wellFormed : member.WellFormed)
    (skips : Skips member.value) : Frame.object.Holds member.text where
  opens := by
    intro gap lead rest stack blank blankLead stops
    refine .step (skipStep_object blank blankLead wellFormed) ?_ (skips wellFormed.after stops)
    simp only [RawMember.text, List.length_append, List.length_cons]
    omega
  passes := by
    intro before after rest stack blankBefore blankAfter stops
    have key := skipKey_text wellFormed blankAfter rest
    have here := skipSpace_mark blankBefore (c := ',') (by decide) (after ++ (member.text ++ rest))
    refine .step ?_ ?_ (skips wellFormed.after stops)
    · simp only [skipStep, here, key]
    · simp only [RawMember.text, List.length_append, List.length_cons]
      omega

end

/-! ### All values -/

/-- What is written for a text is a value. -/
theorem value_quote (text : List Char) : Value (quote text) :=
  .string (symbols_escape text)

/-- A value is skipped on any stack. -/
theorem Value.skips {text : List Char} (value : Value text) : Skips text := by
  induction value with
  | null => exact skips_scalar (by decide) (by decide) (by decide) fun _ => rfl
  | true => exact skips_scalar (by decide) (by decide) (by decide) fun _ => rfl
  | false => exact skips_scalar (by decide) (by decide) (by decide) fun _ => rfl
  | number numeric => exact skips_number numeric
  | @string body symbols =>
    refine skips_scalar (by decide) (by decide) (by decide) fun {rest} _ => ?_
    rw [List.append_assoc]
    exact skipString_symbols symbols rest
  | list each layout ih =>
    exact skips_bracketed .list (fun entry among => holds_list (each entry among).begins
      (ih entry among)) layout
  | object wellFormed _ layout ih =>
    refine skips_bracketed .object (fun entry among => ?_) layout
    obtain ⟨member, present, rfl⟩ := List.mem_map.mp among
    exact holds_object (wellFormed member present) (ih member present)

/-- A value is skipped exactly to its end, also behind white space. -/
theorem Value.skipValue {text gap rest : List Char} (value : Value text) (blank : Blank gap)
    (stops : Stops rest) : Json.skipValue (gap ++ (text ++ rest)) = .ok rest :=
  (value.skips blank stops).skipSteps (Nat.le_succ _)

end Knapsack.Json
