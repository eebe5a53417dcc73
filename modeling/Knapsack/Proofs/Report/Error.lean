import Knapsack.Proofs.Text
import Knapsack.Proofs.Json.Shown
import Knapsack.Proofs.Json.Unambiguous

/-!
# The report of a failure

A message has parts of the input in it, just as they were given, so it may be any text: with line
feeds, with quotes, or with what looks like an escape. Whatever the message is,

1. the report is one line, and no character of it is a control (`nextLine?_error`, `shown_error`);
2. it is an object with a status and a message, and can be taken apart in no other way
   (`objectOf_error_iff`);
3. it is read back as exactly the status and the message, as a closed record (`reads_error`).
-/

namespace Knapsack

namespace Json

/-- Reads a string as a value. -/
def stringValue : Reader String := fun ahead =>
  match skipSpace ahead with
  | [] => .error .endInValue
  | '"' :: rest =>
    match string rest with
    | .error error => .error error
    | .ok (found, rest) => .ok (String.ofList found, rest)
  | c :: rest => .error (refuse "a string" (c :: rest))

/-- What is written for a text is read as that text. -/
theorem reads_quote (x : String) : Reads stringValue (quote x.toList) x := by
  refine ⟨⟨'"', _, rfl, by decide, by decide⟩, fun {rest} _ => ?_⟩
  have here := skipSpace_mark blank_nil (c := '"') (by decide)
    (x.toList.flatMap escape ++ '"' :: rest)
  simp only [List.nil_append] at here
  simp only [quote, List.cons_append, List.append_assoc, List.nil_append, stringValue, here,
    string_escaped, String.ofList_toList]

end Json

namespace Report

open Json

/-- What the report of a failure says. -/
structure Told where
  status : String
  message : String
deriving DecidableEq, Repr

structure Told.Draft where
  status : Option String := none
  message : Option String := none

/-- A report with exactly these members, each of them a string. -/
def Told.record : Record Told.Draft Told where
  name := "Told"
  fields := [
    .of "status" stringValue Told.Draft.status fun draft x =>
      { draft with status := some x },
    .of "message" stringValue Told.Draft.message fun draft x =>
      { draft with message := some x }]
  closed := true
  start := {}
  finish
    | { status := none, .. } => .error (.missingField "status")
    | { message := none, .. } => .error (.missingField "message")
    | { status := some status, message := some message } => .ok ⟨status, message⟩

/-- The members of the report of a failure. -/
def errorMembers (message : String) : List Member :=
  [⟨"status".toList, quote "error".toList⟩, ⟨"message".toList, quote message.toList⟩]

variable (message : String)

theorem reads_error : Reads Told.record.read (error message) ⟨"error", message⟩ := by
  have notes : Told.record.Notes {}
      [entry "status" (name "error"), entry "message" (quote message.toList)]
      ⟨some "error", some message⟩ :=
    .field (reads_quote "error") rfl rfl rfl (.field (reads_quote message) rfl rfl rfl .nil)
  exact Record.reads_object notes rfl

theorem nextLine?_error : Text.nextLine? (error message) = some (error message, []) :=
  Text.nextLine?_alone (shown_error message).feed_not_mem (List.cons_ne_nil _ _)

theorem error_eq_object : error message = object ((errorMembers message).map Member.text) := by
  rw [error, entry_eq_memberText rfl, entry_eq_memberText rfl]
  rfl

theorem value_of_mem_errorMembers : ∀ member ∈ errorMembers message, Value member.value := by
  intro member among
  simp only [errorMembers, List.mem_cons, List.not_mem_nil, or_false] at among
  rcases among with rfl | rfl
  · exact value_quote _
  · exact value_quote _

/-- However the report is taken apart into members with values, these are its members. -/
theorem objectOf_error_iff {members : List Member}
    (values : ∀ member ∈ members, Value member.value) :
    ObjectOf members (error message) ↔ members = errorMembers message := by
  have object : ObjectOf (errorMembers message) (error message) := by
    rw [error_eq_object]
    exact objectOf_object _
  constructor
  · intro other
    exact other.unique object values (value_of_mem_errorMembers message)
  · rintro rfl
    exact object

/-- Whatever the message is, the report of a failure is one line without controls, a value whose
members are a status and a message and no others, and it is read back as just these: the status is an
error, and the message is the one that was given. -/
theorem error_tells_message :
    Shown (error message) ∧ Text.nextLine? (error message) = some (error message, []) ∧
      Value (error message) ∧
      (∀ members : List Member, (∀ member ∈ members, Value member.value) →
        (ObjectOf members (error message) ↔ members = errorMembers message)) ∧
      decode Told.record.read (error message) = .ok ⟨"error", message⟩ := by
  refine ⟨shown_error message, nextLine?_error message, ?value,
    fun members values => objectOf_error_iff message values, (reads_error message).decode_alone⟩
  case value =>
    rw [error_eq_object]
    exact value_object (value_of_mem_errorMembers message)

/-- A quote, what looks like an escape, a line feed, a control and a letter beyond them all. -/
theorem error_tells_message_mixed :
    error "\"\\u0041\n\x01é" =
        "\x7b\"status\":\"error\",\"message\":\"\\\"\\\\u0041\\n\\u0001é\"\x7d".toList ∧
      (∀ c ∈ error "\"\\u0041\n\x01é", 0x20 ≤ c.toNat) ∧
      ObjectOf [⟨"status".toList, "\"error\"".toList⟩,
        ⟨"message".toList, "\"\\\"\\\\u0041\\n\\u0001é\"".toList⟩] (error "\"\\u0041\n\x01é") ∧
      decode Told.record.read (error "\"\\u0041\n\x01é") = .ok ⟨"error", "\"\\u0041\n\x01é"⟩ := by
  obtain ⟨shown, -, -, members, decoded⟩ := error_tells_message "\"\\u0041\n\x01é"
  exact ⟨rfl, shown, (members _ (value_of_mem_errorMembers _)).mpr rfl, decoded⟩

end Report

end Knapsack
