import Knapsack.Instance
import Knapsack.Text.Blank
import Knapsack.Text.Line
import Knapsack.Text.Numeral
import Knapsack.Word

/-!
Instances as two lines of text: the capacity, then the items as tokens `weight:value` with any number
of spaces, commas, tabs and carriage returns around them. Further lines are ignored.
-/

namespace Knapsack.Instance.Lines

inductive Error where
  | noCapacity
  | badCapacity (text : String)
  | noItemLine
  | badToken (token : String)
  | noItems
deriving DecidableEq, Repr

def Error.message : Error → String
  | .noCapacity => "Failed to parse capacity: input is empty"
  | .badCapacity text => s!"Failed to parse capacity: '{text}'"
  | .noItemLine => "Failed to parse items: missing item line"
  | .badToken token => s!"Failed to parse items: invalid token '{token}'"
  | .noItems => "Failed to parse items: no items given"

/-- A 32-bit number that is not negative. -/
def amount? (digits : List Char) : Option Int32 :=
  match Numeral.integer? digits with
  | none => none
  | some n => if n < 0 then none else int32? n

def capacity (line : List Char) : Except Error Int32 :=
  match amount? (Text.trim line) with
  | some capacity => .ok capacity
  | none => .error (.badCapacity (String.ofList (Text.trim line)))

def isDelimiter (c : Char) : Bool :=
  c == ' ' || c == ',' || c == '\t' || c == '\r' || c == '\n'

/-- The runs of other characters between delimiters; `token` is the run so far, reversed. -/
def tokensFrom (token : List Char) : List Char → List (List Char)
  | [] => if token.isEmpty then [] else [token.reverse]
  | c :: rest =>
    if isDelimiter c then
      if token.isEmpty then tokensFrom [] rest else token.reverse :: tokensFrom [] rest
    else
      tokensFrom (c :: token) rest

def tokens (line : List Char) : List (List Char) :=
  tokensFrom [] line

/-- A weight and a value, parted by the first colon. -/
def item? (token : List Char) : Option Item :=
  match token.dropWhile (· ≠ ':') with
  | [] => none
  | _ :: value =>
    match amount? (token.takeWhile (· ≠ ':')), (Numeral.integer? value).bind int32? with
    | some weight, some value => some ⟨weight, value⟩
    | _, _ => none

def item (token : List Char) : Except Error Item :=
  match item? token with
  | some item => .ok item
  | none => .error (.badToken (String.ofList token))

def items (line : List Char) : Except Error (List Item) :=
  match (tokens line).mapM item with
  | .error error => .error error
  | .ok [] => .error .noItems
  | .ok items => .ok items

def read (text : List Char) : Except Error Instance := do
  let some (line, rest) := Text.nextLine? text | throw .noCapacity
  let capacity ← capacity line
  let some (line, _) := Text.nextLine? rest | throw .noItemLine
  let items ← items line
  return ⟨capacity, items⟩

end Knapsack.Instance.Lines
