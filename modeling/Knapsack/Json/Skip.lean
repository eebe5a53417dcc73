import Knapsack.Json.Number
import Knapsack.Json.String

/-!
Skipping a value of any shape. Open lists and objects are kept on a stack, so that nesting has no
limit but the text itself. Each step takes at least one character off the text, so that the text
itself is budget enough for the steps and for the one that finds its end.
-/

namespace Knapsack.Json

inductive Frame where
  | list
  | object
deriving DecidableEq, Repr

/-- Whether a value has to begin or has just ended. -/
inductive Turn where
  | before
  | after
deriving DecidableEq, Repr

def skipScalar (text : List Char) : Except Error (List Char) :=
  match text with
  | 'n' :: rest => ident ['u', 'l', 'l'] rest
  | 't' :: rest => ident ['r', 'u', 'e'] rest
  | 'f' :: rest => ident ['a', 'l', 's', 'e'] rest
  | '"' :: rest => skipString rest
  | c :: _ => if c = '-' ∨ c.isDigit then skipNumber text else .error .expectedValue
  | [] => .error .endInValue

/-- Skips a key and its colon, at the opening quote of the key. -/
def skipKey (text : List Char) : Except Error (List Char) :=
  match skipSpace text with
  | [] => .error .endInObject
  | '"' :: rest =>
    match skipString rest with
    | .error error => .error error
    | .ok rest => colon rest
  | _ => .error .keyNotString

/-- One step: what is skipped next, with the stack and the turn after it. -/
def skipStep : Turn → List Frame → List Char → Except Error (Turn × List Frame × List Char)
  | .before, stack, text =>
    match skipSpace text with
    | '[' :: rest =>
      match skipSpace rest with
      | [] => .error .endInList
      | ']' :: rest => .ok (.after, stack, rest)
      | rest => .ok (.before, .list :: stack, rest)
    | '\x7b' :: rest =>
      match skipSpace rest with
      | [] => .error .endInObject
      | '\x7d' :: rest => .ok (.after, stack, rest)
      | rest =>
        match skipKey rest with
        | .error error => .error error
        | .ok rest => .ok (.before, .object :: stack, rest)
    | text =>
      match skipScalar text with
      | .error error => .error error
      | .ok rest => .ok (.after, stack, rest)
  | .after, [], text => .ok (.after, [], text)
  | .after, .list :: stack, text =>
    match skipSpace text with
    | [] => .error .endInList
    | ',' :: rest => .ok (.before, .list :: stack, rest)
    | ']' :: rest => .ok (.after, stack, rest)
    | _ => .error .expectedCommaOrBracket
  | .after, .object :: stack, text =>
    match skipSpace text with
    | [] => .error .endInObject
    | ',' :: rest =>
      match skipKey rest with
      | .error error => .error error
      | .ok rest => .ok (.before, .object :: stack, rest)
    | '\x7d' :: rest => .ok (.after, stack, rest)
    | _ => .error .expectedCommaOrBrace

/-- Takes steps until a value has ended and nothing is open, at most one for each entry of
`budget`. -/
def skipSteps :
    (budget : List Char) → Turn → List Frame → List Char → Except Error (List Char)
  | _, .after, [], text => .ok text
  | [], _, _, _ => .error .endInValue
  | _ :: budget, turn, stack, text =>
    match skipStep turn stack text with
    | .error error => .error error
    | .ok (turn, stack, rest) => skipSteps budget turn stack rest

def skipValue (text : List Char) : Except Error (List Char) :=
  skipSteps (' ' :: text) .before [] text

end Knapsack.Json
