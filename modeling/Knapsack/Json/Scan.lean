import Knapsack.Json.Error

/-!
The smallest parts of JSON text: white space, literal words, and the marks between members and
elements. A reader takes something off the front of a text and returns it with the rest.
-/

namespace Knapsack.Json

abbrev Reader (α : Type) := List Char → Except Error (α × List Char)

def isSpace (c : Char) : Bool :=
  c == ' ' || c == '\t' || c == '\n' || c == '\r'

def skipSpace (text : List Char) : List Char :=
  text.dropWhile isSpace

/-- Takes the rest of a literal word off the text. -/
def ident : List Char → List Char → Except Error (List Char)
  | [], text => .ok text
  | _ :: _, [] => .error .endInValue
  | c :: word, d :: text => if c = d then ident word text else .error .expectedIdent

/-- Takes the colon after a key off the text. -/
def colon (text : List Char) : Except Error (List Char) :=
  match skipSpace text with
  | [] => .error .endInObject
  | ':' :: rest => .ok rest
  | _ => .error .expectedColon

/-- What comes next in a list or an object: one more entry, or the text after the closing mark. -/
inductive Next where
  | entry (text : List Char)
  | closed (rest : List Char)
deriving DecidableEq, Repr

/-- Looks for the next element of a list; `first` tells that there was none before. -/
def nextElement (first : Bool) (text : List Char) : Except Error Next :=
  match skipSpace text with
  | [] => .error .endInList
  | ']' :: rest => .ok (.closed rest)
  | c :: rest =>
    if first then
      .ok (.entry (c :: rest))
    else if c = ',' then
      match skipSpace rest with
      | [] => .error .endInValue
      | ']' :: _ => .error .trailingComma
      | rest => .ok (.entry rest)
    else
      .error .expectedCommaOrBracket

/-- Looks for the next key of an object, and passes its opening quote. -/
def nextKey (first : Bool) (text : List Char) : Except Error Next :=
  match skipSpace text with
  | [] => .error .endInObject
  | '\x7d' :: rest => .ok (.closed rest)
  | c :: rest =>
    if first then
      if c = '"' then .ok (.entry rest) else .error .keyNotString
    else if c = ',' then
      match skipSpace rest with
      | [] => .error .endInValue
      | '"' :: rest => .ok (.entry rest)
      | '\x7d' :: _ => .error .trailingComma
      | _ => .error .keyNotString
    else
      .error .expectedCommaOrBrace

/-- Takes the closing bracket off a list from which nothing more is read. -/
def closeList (text : List Char) : Except Error (List Char) :=
  match skipSpace text with
  | [] => .error .endInList
  | ']' :: rest => .ok rest
  | ',' :: rest =>
    match skipSpace rest with
    | ']' :: _ => .error .trailingComma
    | _ => .error .trailingCharacters
  | _ => .error .trailingCharacters

end Knapsack.Json
