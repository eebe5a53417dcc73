import Knapsack.Command.Run
import Knapsack.Proofs.Json.Shown

/-!
# What is logged before an error

The log and the error of a command share the error output. The two can be told apart whatever is
logged: the records of a command have texts without line feeds (`shown_message_of_mem_records`), so
a log that writes them as lines, each with its time in front (`Log.Lawful`), has no line that begins
like an error. What follows the log has an error line exactly if both together have one
(`hasErrorLine_text_append`).

Nothing is logged unless it is asked for (`Log.text_eq_empty`): no record of a command is a warning.
With `--verbose` all of it is logged (`Log.text_verbose`).
-/

namespace Knapsack

open Json

/-! ## Lines -/

/-- A text of exactly one line. -/
def IsLine (text : String) : Prop :=
  ∃ body, text.toList = body ++ ['\n'] ∧ '\n' ∉ body

/-- Whether some line of the text begins with the mark of an error. -/
def HasErrorLine (text : String) : Prop :=
  ∃ before after, text.toList = before ++ ("Error: ".toList ++ after) ∧
    (before = [] ∨ before.getLast? = some '\n')

theorem not_hasErrorLine_empty : ¬ HasErrorLine "" := by
  rintro ⟨before, after, same, -⟩
  have none := List.append_eq_nil_iff.mp same.symm
  exact absurd none.2 (List.cons_ne_nil _ _)

theorem hasErrorLine_of_message (message : String) :
    HasErrorLine ("Error: " ++ message ++ "\n") := by
  refine ⟨[], (message ++ "\n").toList, ?_, .inl rfl⟩
  rw [String.append_assoc, String.toList_append, List.nil_append]

/-- Whatever is left of a line that has something behind it, its line feed is not. -/
theorem feed_not_mem_of_line {body before cut : List Char} {c : Char} (noFeed : '\n' ∉ body)
    (line : body ++ ['\n'] = before ++ c :: cut) : '\n' ∉ before := by
  obtain ⟨front, last, split⟩ :=
    (List.eq_nil_or_concat (c :: cut)).resolve_left (List.cons_ne_nil _ _)
  rw [split, List.concat_eq_append, ← List.append_assoc] at line
  have same : body = before ++ front := (List.append_inj' line rfl).1
  exact fun feed => noFeed (same ▸ List.mem_append_left front feed)

/-- A line in front adds no error line, unless it begins like one. -/
theorem hasErrorLine_line_append {line rest : String} (isLine : IsLine line)
    (other : line.toList.head? ≠ some 'E') : HasErrorLine (line ++ rest) ↔ HasErrorLine rest := by
  obtain ⟨body, written, noFeed⟩ := isLine
  constructor
  · rintro ⟨before, after, same, starts⟩
    rw [String.toList_append, List.append_eq_append_iff] at same
    obtain ⟨behind, rfl, same⟩ | ⟨cut, whole, same⟩ := same
    case inl =>
      refine ⟨behind, after, same, ?_⟩
      cases behind with
      | nil => exact .inl rfl
      | cons c behind =>
        refine .inr ?_
        rw [List.getLast?_append_of_ne_nil _ (List.cons_ne_nil _ _)] at starts
        exact starts.resolve_left (List.append_ne_nil_of_right_ne_nil _ (List.cons_ne_nil _ _))
    case inr =>
      -- The mark begins in the line, so either it is the line's end or the line begins with it.
      cases cut with
      | nil => exact ⟨[], after, same.symm, .inl rfl⟩
      | cons c cut =>
        have mark : c = 'E' := (List.cons.inj same).1.symm
        rw [written] at whole
        have none := feed_not_mem_of_line noFeed whole
        rcases starts with rfl | ends
        · rw [written, whole, mark] at other
          exact absurd rfl other
        · exact absurd (List.mem_of_getLast? ends) none
  · rintro ⟨before, after, same, starts⟩
    refine ⟨line.toList ++ before, after, ?_, .inr ?_⟩
    · rw [String.toList_append, same, List.append_assoc]
    · rcases starts with rfl | ends
      · rw [List.append_nil, written, List.getLast?_concat]
      · rw [List.getLast?_append, ends]
        rfl

/-! ## Texts of records -/

theorem shown_text_append {text later : String} (shown : Shown text.toList)
    (shownLater : Shown later.toList) : Shown (text ++ later).toList := by
  rw [String.toList_append]
  exact shown_append shown shownLater

theorem shown_toString_nat (n : Nat) : Shown (toString n).toList := by
  have digits : (toString n).toList = Numeral.ofInt n := Nat.toList_repr
  rw [digits]
  exact shown_ofInt n

theorem shown_toString_int (n : Int) : Shown (toString n).toList := by
  cases n with
  | ofNat n => exact shown_toString_nat n
  | negSucc n =>
    have sign : Shown "-".toList := by decide
    exact shown_text_append sign (shown_toString_nat (n + 1))

/-- The text of a record is words and numbers, unless it tells a cause, which may quote anything. -/
theorem LogRecord.shown_message {record : LogRecord}
    (other : ∀ cause, record ≠ .event (.rejected cause)) : Shown record.message.toList := by
  cases record with
  | solving count capacity =>
    have named : Shown "solving ".toList := by decide
    have bounded : Shown " items with capacity ".toList := by decide
    exact shown_text_append
      (shown_text_append (shown_text_append named (shown_toString_nat count)) bounded)
      (shown_toString_int capacity.toInt)
  | timed work => cases work <;> decide
  | event inner =>
    cases inner with
    | allocating count width tracked =>
      have named : Shown "allocating workspace: ".toList := by decide
      have times : Shown " items x ".toList := by decide
      have rows : Shown " cells (weight rows: ".toList := by decide
      have flag : Shown (toString tracked).toList := by cases tracked <;> decide
      have closed : Shown ")".toList := by decide
      exact shown_text_append (shown_text_append (shown_text_append (shown_text_append
        (shown_text_append (shown_text_append named (shown_toString_nat count)) times)
        (shown_toString_nat width)) rows) flag) closed
    | selected cell value =>
      have named : Shown "selected terminal cell ".toList := by decide
      have worth : Shown " with value ".toList := by decide
      exact shown_text_append
        (shown_text_append (shown_text_append named (shown_toString_nat cell)) worth)
        (shown_toString_int value.toInt)
    | rejected cause => exact absurd rfl (other cause)

/-- Of the making of a table nothing is recorded but that it is made. -/
theorem Table.eq_allocating_of_mem {count capacity : Nat} {tracked : Bool} {event : Event}
    (recorded : event ∈ allocationEvents count capacity tracked) :
    event = .allocating count (capacity + 1) tracked := by
  unfold allocationEvents at recorded
  split at recorded
  · cases recorded
  · exact List.mem_singleton.mp recorded

/-- A run records no rejection: what is rejected is for its caller to say. -/
theorem Solver.rejected_not_mem_records (solver : Solver) (items : Option (List Item))
    (capacity : Int32) (cause : Refusal) :
    .event (.rejected cause) ∉ (solver.run items capacity).records := by
  have opening : ∀ {count cells : Nat} {tracked : Bool},
      LogRecord.event (.rejected cause) ∉
        (Table.allocationEvents count cells tracked).map LogRecord.event := by
    intro count cells tracked recorded
    obtain ⟨event, made, same⟩ := List.mem_map.mp recorded
    rw [Table.eq_allocating_of_mem made] at same
    cases same
  unfold run
  split
  · simp
  · dsimp only
    split
    · simp [opening]
    · split <;> simp [opening]

namespace Invocation

/-- The texts of the records of a command have no controls, so no line feeds. -/
theorem shown_message_of_mem_records {surroundings : Surroundings} {invocation : Invocation}
    {record : LogRecord} (recorded : record ∈ invocation.records surroundings) :
    Shown record.message.toList := by
  apply LogRecord.shown_message
  rintro cause rfl
  cases invocation with
  | noCommand => cases recorded
  | solve input config json =>
    simp only [records, Surroundings.solveRecords] at recorded
    split at recorded
    · obtain same | recorded := List.mem_cons.mp recorded
      · cases same
      · exact Solver.rejected_not_mem_records _ _ _ cause recorded
    · cases recorded
  | verify input solution config =>
    simp only [records, Surroundings.verifyRecords] at recorded
    split at recorded
    · cases recorded
    · split at recorded
      · split at recorded
        · exact Solver.rejected_not_mem_records _ _ _ cause recorded
        · cases recorded
      · cases recorded

end Invocation

/-! ## The log -/

namespace Log

/-- What is relied on of a log: a record is written as a line if its text has no controls, and what
is written begins with a time or a level, and not like an error. -/
structure Lawful (log : Log) : Prop where
  isLine : ∀ count (record : LogRecord), Shown record.message.toList →
    IsLine (log.write count record)
  stamped : ∀ count record, (log.write count record).toList.head? ≠ some 'E'

variable {log : Log} {records : List LogRecord}

theorem hasErrorLine_textFrom_append (lawful : log.Lawful)
    (shown : ∀ record ∈ records, Shown record.message.toList) (count : Nat) (rest : String) :
    HasErrorLine (log.textFrom count records ++ rest) ↔ HasErrorLine rest := by
  induction records generalizing count with
  | nil => rw [textFrom, String.empty_append]
  | cons record records ih =>
    have line := lawful.isLine count record (shown record List.mem_cons_self)
    rw [textFrom, String.append_assoc, hasErrorLine_line_append line (lawful.stamped count record)]
    exact ih (fun later among => shown later (List.mem_cons_of_mem _ among)) (count + 1)

/-- The log in front of an error neither has an error line nor hides one. -/
theorem hasErrorLine_text_append (lawful : log.Lawful)
    (shown : ∀ record ∈ records, Shown record.message.toList) (verbose : Bool) (rest : String) :
    HasErrorLine (log.text verbose records ++ rest) ↔ HasErrorLine rest :=
  hasErrorLine_textFrom_append lawful
    (fun record among => shown record (List.mem_of_mem_filter among)) 0 rest

theorem upTo_warn (record : LogRecord) : upTo .warn record = false := by
  cases record <;> rfl

/-- Nothing is written unless the arguments or the environment ask for it. -/
theorem text_eq_empty (unasked : log.asked? = none) (records : List LogRecord) :
    log.text false records = "" := by
  have none : records.filter (log.shows false) = [] := by
    refine List.filter_eq_nil_iff.mpr fun record _ => ?_
    simp only [shows, unasked, Bool.false_eq_true, if_false, Option.getD_none, upTo_warn]
    exact not_false
  rw [text, none, textFrom]

theorem upTo_debug (record : LogRecord) : upTo .debug record = true := by
  cases record <;> rfl

/-- Everything is written if the arguments ask for it, whatever the environment asks for. -/
theorem text_verbose (log : Log) (records : List LogRecord) :
    log.text true records = log.textFrom 0 records := by
  have all : records.filter (log.shows true) = records := by
    refine List.filter_eq_self.mpr fun record _ => ?_
    simp only [shows, if_true, upTo_debug]
  rw [text, all]

/-- A log is lawful that writes something without controls, and not like an error, in front of the
text of a record. -/
theorem lawful_of_front (front : Nat → LogRecord → String)
    (written : ∀ count record,
      log.write count record = front count record ++ record.message ++ "\n")
    (shown : ∀ count record, Shown (front count record).toList)
    (begun : ∀ count record, ∃ c ∈ (front count record).toList.head?, c ≠ 'E') : log.Lawful where
  isLine count record shownMessage := by
    refine ⟨(front count record ++ record.message).toList, ?_, ?_⟩
    · rw [written, String.toList_append]
      rfl
    · exact (shown_text_append (shown count record) shownMessage).feed_not_mem
  stamped count record := by
    obtain ⟨c, first, other⟩ := begun count record
    rw [written, String.append_assoc, String.toList_append, List.head?_append, first]
    exact fun same => other (Option.some.inj same)

/-- The log that the program itself writes is lawful. -/
theorem lawful_plain : plain.Lawful := by
  refine lawful_of_front (fun _ record => record.level.name ++ " ") ?_ ?_ ?_
  · exact fun _ _ => rfl
  · exact fun _ record => by cases record.level <;> decide
  · exact fun _ record => by cases record.level <;> exact ⟨_, rfl, by decide⟩

end Log

end Knapsack
