import Knapsack.Json.Reader
import Knapsack.Json.Skip

/-!
Records: values with named fields, read from an object in any order or from a list in the order of
the fields. A field is given at most once. An open record skips unknown keys and needs all its
fields; a closed one refuses unknown keys and fills in what is not given.
-/

namespace Knapsack.Json

/-- A field, as it is noted in a draft of type `σ`. -/
structure Field (σ : Type) where
  name : String
  isGiven : σ → Bool
  read : σ → Reader σ

/-- The field `name` of a draft, looked up with `get` and noted with `set`. -/
def Field.of {σ α : Type} (name : String) (reader : Reader α) (get : σ → Option α)
    (set : σ → α → σ) : Field σ where
  name := name
  isGiven draft := (get draft).isSome
  read draft text :=
    match reader text with
    | .error error => .error error
    | .ok (x, rest) => .ok (set draft x, rest)

structure Record (σ α : Type) where
  name : String
  fields : List (Field σ)
  closed : Bool
  start : σ
  /-- The value of a draft, or the first field that it lacks. -/
  finish : σ → Except Error α

namespace Record

variable {σ α : Type}

def expected (record : Record σ α) : String :=
  s!"struct {record.name}"

def expectedLength (record : Record σ α) : String :=
  s!"struct {record.name} with {record.fields.length} elements"

/-- Reads fields in their order up to the closing bracket; `count` of them were read before. -/
def listed (record : Record σ α) : List (Field σ) → Nat → σ → Reader σ
  | [], _, draft, text =>
    match closeList text with
    | .error error => .error error
    | .ok rest => .ok (draft, rest)
  | field :: fields, count, draft, text =>
    match nextElement (count == 0) text with
    | .error error => .error error
    | .ok (.closed rest) =>
      if record.closed then .ok (draft, rest)
      else .error (.wrongLength count record.expectedLength)
    | .ok (.entry text) =>
      match field.read draft text with
      | .error error => .error error
      | .ok (draft, rest) => listed record fields (count + 1) draft rest

/-- Reads the value of a key into the draft. -/
def member (record : Record σ α) (draft : σ) (key : List Char) : Reader σ := fun text =>
  match record.fields.find? fun field => field.name.toList = key with
  | some field =>
    if field.isGiven draft then
      .error (.duplicateField field.name)
    else
      match colon text with
      | .error error => .error error
      | .ok rest => field.read draft rest
  | none =>
    if record.closed then
      .error (.unknownField (String.ofList key) (record.fields.map Field.name))
    else
      match colon text with
      | .error error => .error error
      | .ok rest =>
        match skipValue rest with
        | .error error => .error error
        | .ok rest => .ok (draft, rest)

/-- Reads members up to the closing brace. As for elements, a text with one more character is budget
enough. -/
def members (record : Record σ α) : (budget : List Char) → Bool → σ → Reader σ
  | [], _, _, _ => .error .endInObject
  | _ :: budget, first, draft, text =>
    match nextKey first text with
    | .error error => .error error
    | .ok (.closed rest) => .ok (draft, rest)
    | .ok (.entry text) =>
      match string text with
      | .error error => .error error
      | .ok (key, rest) =>
        match record.member draft key rest with
        | .error error => .error error
        | .ok (draft, rest) => members record budget false draft rest

def read (record : Record σ α) : Reader α := fun text => do
  let (draft, rest) ← match skipSpace text with
    | [] => .error .endInValue
    | '[' :: rest => record.listed record.fields 0 record.start rest
    | '\x7b' :: rest => record.members text true record.start rest
    | c :: rest => .error (refuse record.expected (c :: rest))
  let x ← record.finish draft
  return (x, rest)

end Record

/-- Reads a whole text: a value with nothing but white space after it. -/
def decode {α : Type} (reader : Reader α) (text : List Char) : Except Error α :=
  match reader text with
  | .error error => .error error
  | .ok (x, rest) =>
    match skipSpace rest with
    | [] => .ok x
    | _ => .error .trailingCharacters

end Knapsack.Json
