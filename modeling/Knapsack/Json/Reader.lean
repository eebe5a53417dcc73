import Knapsack.Json.Number
import Knapsack.Json.String

/-!
Readers for the values that occur: integers of two sizes, lists, and names from a fixed choice. A
value of another shape is read far enough to describe it, and then refused.
-/

namespace Knapsack.Json

/-- Why the value at the front of the text is not the wanted one. -/
def refuse (wanted : String) (text : List Char) : Error :=
  match text with
  | 'n' :: rest => afterIdent ['u', 'l', 'l'] rest .null
  | 't' :: rest => afterIdent ['r', 'u', 'e'] rest (.boolean true)
  | 'f' :: rest => afterIdent ['a', 'l', 's', 'e'] rest (.boolean false)
  | '"' :: rest =>
    match string rest with
    | .error error => error
    | .ok (found, _) => .wrongType (.string (String.ofList found)) wanted
  | '[' :: _ => .wrongType .sequence wanted
  | '\x7b' :: _ => .wrongType .map wanted
  | c :: _ =>
    if c = '-' ∨ c.isDigit then
      match number text with
      | .error error => error
      | .ok (.integer value, _) => .wrongType (.integer value) wanted
      | .ok (.float bits, _) => .wrongType (.float bits) wanted
    else
      .expectedValue
  | [] => .expectedValue
where
  afterIdent (word rest : List Char) (found : Shape) : Error :=
    match ident word rest with
    | .error error => error
    | .ok _ => .wrongType found wanted

/-- Reads an integer that `accept` takes. -/
def integer {α : Type} (wanted : String) (accept : Int → Option α) : Reader α := fun text =>
  match skipSpace text with
  | [] => .error .endInValue
  | c :: rest =>
    if c = '-' ∨ c.isDigit then
      match number (c :: rest) with
      | .error error => .error error
      | .ok (.float bits, _) => .error (.wrongType (.float bits) wanted)
      | .ok (.integer value, rest) =>
        match accept value with
        | none => .error (.wrongValue value wanted)
        | some x => .ok (x, rest)
    else
      .error (refuse wanted (c :: rest))

def int32 : Reader Int32 :=
  integer "i32" int32?

/-- Reads a word: every integer of JSON text that is not negative is one. -/
def word : Reader Nat :=
  integer "usize" Int.toNat?

/-- Reads elements up to the closing bracket; `found` holds those before, reversed. Each round takes
a character off the text, so that a text with one more character is budget enough. -/
def elements {α : Type} (element : Reader α) :
    (budget : List Char) → Bool → List α → Reader (List α)
  | [], _, _, _ => .error .endInList
  | _ :: budget, first, found, text =>
    match nextElement first text with
    | .error error => .error error
    | .ok (.closed rest) => .ok (found.reverse, rest)
    | .ok (.entry text) =>
      match element text with
      | .error error => .error error
      | .ok (x, rest) => elements element budget false (x :: found) rest

def list {α : Type} (element : Reader α) : Reader (List α) := fun text =>
  match skipSpace text with
  | [] => .error .endInValue
  | '[' :: rest => elements element text true [] rest
  | c :: rest => .error (refuse "a sequence" (c :: rest))

def chosen {α : Type} (choice : List (String × α)) (name : List Char) : Except Error α :=
  match choice.find? fun (known, _) => known.toList = name with
  | some (_, x) => .ok x
  | none => .error (.unknownVariant (String.ofList name) (choice.map Prod.fst))

/-- Takes a null off the text. -/
def null (text : List Char) : Except Error (List Char) :=
  match skipSpace text with
  | [] => .error .endInValue
  | 'n' :: rest => ident ['u', 'l', 'l'] rest
  | c :: rest => .error (refuse "unit" (c :: rest))

/-- Reads one of several names: a string, or an object whose only key is the name and whose value is
null. -/
def variant {α : Type} (choice : List (String × α)) : Reader α := fun text =>
  match skipSpace text with
  | [] => .error .endInValue
  | '"' :: rest => do
    let (name, rest) ← string rest
    let x ← chosen choice name
    return (x, rest)
  | '\x7b' :: rest => do
    match ← nextKey true rest with
    | .closed _ => throw .expectedValue
    | .entry rest =>
      let (name, rest) ← string rest
      let x ← chosen choice name
      let rest ← colon rest
      let rest ← null rest
      match skipSpace rest with
      | [] => throw .endInObject
      | '\x7d' :: rest => return (x, rest)
      | _ => throw .expectedValue
  | _ => .error .expectedValue

end Knapsack.Json
