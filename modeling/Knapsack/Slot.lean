import Knapsack.Session

/-!
A result slot: a solution laid out flat, as a value, a count, and a buffer of positions that is absent
when the count is zero. Calls on a slot use the default settings and see only as many items as they
are told.
-/

namespace Knapsack

structure Slot where
  optimalValue : Int32 := 0
  count : Nat := 0
  buffer : Option (List Nat) := none
deriving DecidableEq, Repr

namespace Slot

def empty : Slot := {}

def ofSolution (solution : Solution) : Slot :=
  { optimalValue := solution.optimalValue
    count := solution.selected.length
    buffer := if solution.selected.isEmpty then none else some solution.selected }

/-- The positions that can be read from the slot: none without a buffer. -/
def indices (slot : Slot) : List Nat :=
  match slot.buffer with
  | none => []
  | some buffer => buffer.take slot.count

/-- Whether a solve answers with its status code or with whether it succeeded. -/
inductive Form where
  | code
  | flag
deriving DecidableEq, Repr

inductive Call where
  | solve (form : Form) (items : Option (List Item)) (count : Nat) (capacity : Int32) (output : Bool)
  | free (output : Bool)
  | assign (value : Int32)
deriving DecidableEq, Repr

inductive Reply where
  | code (code : Nat)
  | flag (succeeded : Bool)
  | none
deriving DecidableEq, Repr

def Form.reply : Form → Status → Reply
  | .code, status => .code status.code
  | .flag, status => .flag (status.code == Status.ok.code)

/-- The answer to a call, and the slot after it. -/
def answer (slot : Slot) : Call → Except StrayCell (Reply × Slot)
  | .assign value => .ok (.none, { slot with optimalValue := value })
  | .free false => .ok (.none, slot)
  | .free true => .ok (.none, empty)
  | .solve form _ _ _ false => .ok (form.reply Refusal.missingOutput.status, slot)
  | .solve form items count capacity true =>
    let run := Solver.default.run (items.map fun items => items.take count) capacity
    match run.outcome with
    | .ok solution => .ok (form.reply .ok, ofSolution solution)
    | .error (.refused cause) => .ok (form.reply cause.status, empty)
    | .error (.stray stray) => .error stray

/-- The answers to a sequence of calls, each with the slot after it. -/
def answers (slot : Slot) : List Call → Except StrayCell (List (Reply × Slot))
  | [] => .ok []
  | call :: calls => do
    let (reply, slot) ← answer slot call
    let rest ← answers slot calls
    return (reply, slot) :: rest

end Slot

end Knapsack
