import Knapsack.Session
import Knapsack.Proofs.Calls.Course
import Knapsack.Proofs.Solver.Totality

/-!
# Calls that leave their solution in a place

A call with an output leaves the solution of its solve, or the empty one if the solve is refused, and
its status is that of the solve; a call without an output changes nothing (`Answered`). The code of a
status tells what was refused (`Refusal.Coded`). Every sequence of calls is answered so, and what it
leaves is what the last call with an output leaves, whatever was held before and whatever the other
calls were (`answers_last_output`).
-/

namespace Knapsack

/-- The codes of the refusals, by what is refused. The last is that of settings, for which there is no
solver and so no call. -/
inductive Refusal.Coded : Refusal → Nat → Prop where
  | missingOutput : Coded .missingOutput 1
  | missingItems : Coded .missingItems 2
  | noItems : Coded .noItems 2
  | itemWeight {index : Nat} {weight : Int32} : Coded (.itemWeight index weight) 2
  | tooManyItems {count max : Nat} : Coded (.tooManyItems count max) 3
  | capacity {given max : Int32} : Coded (.capacity given max) 4
  | dimensions {count width : Nat} : Coded (.dimensions count width) 5
  | valueOverflow {item cell : Nat} : Coded (.valueOverflow item cell) 6
  | bufferSize {buffer : Buffer} {length : Nat} : Coded (.bufferSize buffer length) 7
  | config {reason : String} : Coded (.config reason) 8

/-- Every refusal has one code, that of its kind. -/
theorem Refusal.code_status_eq_iff {cause : Refusal} {code : Nat} :
    cause.status.code = code ↔ cause.Coded code := by
  constructor
  · rintro rfl
    cases cause <;> constructor
  · rintro coded
    cases coded <;> rfl

namespace Session

/-- What a call answers and leaves, in terms of the solve that belongs to it. -/
inductive Answered (held : Solution) : Call → Reply → Solution → Prop where
  | solved {solver : Solver} {items : List Item} {capacity : Int32} {events : List Event}
      {solution : Solution} (solves : solver.solve items capacity = .ok solution) :
      Answered held (.solve solver (some items) capacity true) ⟨some .ok, events⟩ solution
  | refused {solver : Solver} {items : List Item} {capacity : Int32} {events : List Event}
      {cause : Refusal} (refuses : solver.solve items capacity = .error (.refused cause)) :
      Answered held (.solve solver (some items) capacity true) ⟨some cause.status, events⟩ .empty
  | missing {solver : Solver} {capacity : Int32} {events : List Event} :
      Answered held (.solve solver none capacity true)
        ⟨some Refusal.missingItems.status, events⟩ .empty
  | withoutOutput {solver : Solver} {items : Option (List Item)} {capacity : Int32}
      {events : List Event} :
      Answered held (.solve solver items capacity false) ⟨some .missingOutput, events⟩ held
  | released {events : List Event} : Answered held .release ⟨none, events⟩ .empty

/-- A release changes the solution held, and so does a solve with an output. -/
def Call.hasOutput : Call → Bool
  | .solve _ _ _ output => output
  | .release => true

/-- What a call with an output leaves. -/
def Call.leaves : Call → Solution
  | .solve solver (some items) capacity _ =>
    match solver.solve items capacity with
    | .ok solution => solution
    | .error _ => .empty
  | .solve _ none _ _ => .empty
  | .release => .empty

/-- The solution held after a record. -/
def heldAfter (held : Solution) (record : List (Reply × Solution)) : Solution :=
  (record.getLast?.map Prod.snd).getD held

variable {held next : Solution} {call : Call} {reply : Reply} {calls : List Call}
  {record : List (Reply × Solution)}

section

variable {solver : Solver} {items : Option (List Item)} {capacity : Int32}

theorem answer_of_run_eq_ok {solution : Solution}
    (found : (solver.run items capacity).outcome = .ok solution) (held : Solution) :
    answer held (.solve solver items capacity true) =
      .ok (⟨some .ok, (solver.run items capacity).events⟩, solution) := by
  simp only [answer, found]

theorem answer_of_run_eq_refused {cause : Refusal}
    (found : (solver.run items capacity).outcome = .error (.refused cause)) (held : Solution) :
    answer held (.solve solver items capacity true) =
      .ok (⟨some cause.status, (solver.run items capacity).events ++ [.rejected cause]⟩,
        .empty) := by
  simp only [answer, found]

end

/-- Every call is answered, whatever is held. -/
theorem exists_answered (held : Solution) (call : Call) :
    ∃ reply next, answer held call = .ok (reply, next) ∧ Answered held call reply next := by
  cases call with
  | release => exact ⟨_, _, rfl, .released⟩
  | solve solver items capacity output =>
    cases output with
    | false => exact ⟨_, _, rfl, .withoutOutput⟩
    | true =>
      cases items with
      | none => exact ⟨_, _, rfl, .missing⟩
      | some items =>
        obtain ⟨solution, found⟩ | ⟨cause, found⟩ :=
          solver.run_eq_ok_or_refused (some items) capacity
        · exact ⟨_, _, answer_of_run_eq_ok found held, .solved found⟩
        · exact ⟨_, _, answer_of_run_eq_refused found held, .refused found⟩

theorem Answered.next_eq (answered : Answered held call reply next) :
    next = if call.hasOutput then call.leaves else held := by
  cases answered with
  | solved solves => simp only [Call.hasOutput, Call.leaves, solves, if_true]
  | refused refuses => simp only [Call.hasOutput, Call.leaves, refuses, if_true]
  | missing => rfl
  | withoutOutput => rfl
  | released => rfl

theorem heldAfter_cons (entry : Reply × Solution) :
    heldAfter held (entry :: record) = heldAfter entry.2 record := by
  cases record with
  | nil => rfl
  | cons later record => simp [heldAfter, List.getLast?_cons]

/-- The calls of a record leave what the last of them with an output leaves. -/
theorem heldAfter_eq (course : Course Answered held calls record) :
    heldAfter held record = ((calls.filter Call.hasOutput).getLast?).elim held Call.leaves := by
  induction course with
  | nil => rfl
  | @cons held next call reply calls record first _ ih =>
    rw [heldAfter_cons, ih, first.next_eq]
    by_cases output : call.hasOutput
    · rw [if_pos output, List.filter_cons_of_pos output, List.getLast?_cons]
      cases (calls.filter Call.hasOutput).getLast? <;> rfl
    · rw [if_neg output, List.filter_cons_of_neg output]

/-- Every sequence of calls is answered, no call leaves a part of a solution or one from before, and
what is held in the end depends on the last call with an output alone. -/
theorem answers_last_output (held : Solution) (calls : List Call) :
    ∃ record, answers held calls = .ok record ∧ Course Answered held calls record ∧
      heldAfter held record = ((calls.filter Call.hasOutput).getLast?).elim held Call.leaves := by
  have progress : ∀ {held}, True → ∀ call, ∃ reply next,
      answer held call = .ok (reply, next) ∧ Answered held call reply next ∧ True := by
    intro held _ call
    obtain ⟨reply, next, answered, step⟩ := exists_answered held call
    exact ⟨reply, next, answered, step, trivial⟩
  obtain ⟨record, answered, course⟩ :
      ∃ record, answers held calls = .ok record ∧ Course Answered held calls record :=
    Course.of_progress answer answers (fun _ => True) (fun _ => rfl) (fun _ _ _ => rfl) progress
      trivial calls
  exact ⟨record, answered, course, heldAfter_eq course⟩

end Session

end Knapsack
