/-!
# Sequences of calls

A session is a state and calls on it, one after the other. If every call is answered by a step that
keeps an invariant, then every sequence of calls is answered, each call of it by such a step
(`Course.of_progress`).
-/

namespace Knapsack

variable {ε State Call Reply : Type} {Step : State → Call → Reply → State → Prop}

/-- The record of calls that begin in a state: the reply to each and the state after it. -/
inductive Course (Step : State → Call → Reply → State → Prop) :
    State → List Call → List (Reply × State) → Prop where
  | nil {state : State} : Course Step state [] []
  | cons {state next : State} {call : Call} {reply : Reply} {calls : List Call}
      {record : List (Reply × State)} (first : Step state call reply next)
      (later : Course Step next calls record) :
      Course Step state (call :: calls) ((reply, next) :: record)

/-- Sequences of calls are answered if single calls are: `answers` makes the calls by `answer`. -/
theorem Course.of_progress (answer : State → Call → Except ε (Reply × State))
    (answers : State → List Call → Except ε (List (Reply × State))) (Inv : State → Prop)
    (none : ∀ state, answers state [] = .ok [])
    (more : ∀ state call calls, answers state (call :: calls) = do
      let (reply, next) ← answer state call
      let rest ← answers next calls
      return (reply, next) :: rest)
    (progress : ∀ {state}, Inv state → ∀ call, ∃ reply next,
      answer state call = .ok (reply, next) ∧ Step state call reply next ∧ Inv next)
    {state : State} (start : Inv state) (calls : List Call) :
    ∃ record, answers state calls = .ok record ∧ Course Step state calls record := by
  induction calls generalizing state with
  | nil => exact ⟨[], none state, .nil⟩
  | cons call calls ih =>
    obtain ⟨reply, next, answered, step, kept⟩ := progress start call
    obtain ⟨record, followed, course⟩ := ih kept
    refine ⟨(reply, next) :: record, ?_, .cons step course⟩
    rw [more, answered]
    change (do
      let rest ← answers next calls
      return (reply, next) :: rest) = _
    rw [followed]
    rfl

end Knapsack
