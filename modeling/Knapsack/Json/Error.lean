import Knapsack.Decimal.Layout
import Knapsack.Source
import Knapsack.Text.Quoted

/-!
Why a text is not read as JSON of the wanted form. Reading goes from left to right and stops at the
first error: the text ends too early, it is malformed, or it is well formed so far but does not fit
what is wanted. An error is told with the place where the reading stopped, if there is one to tell.
-/

namespace Knapsack.Json

/-- What was found where something else was wanted. -/
inductive Shape where
  | null
  | boolean (value : Bool)
  | integer (value : Int)
  | float (bits : UInt64)
  | string (text : String)
  | sequence
  | map
deriving DecidableEq, Repr

inductive Error where
  | endInValue
  | endInObject
  | endInList
  | endInString
  | expectedValue
  | expectedIdent
  | expectedColon
  | expectedCommaOrBrace
  | expectedCommaOrBracket
  | keyNotString
  | trailingComma
  | trailingCharacters
  | badNumber
  | numberOutOfRange
  | badEscape
  | unpairedEscape
  | loneSurrogate
  | controlCharacter
  | wrongType (found : Shape) (wanted : String)
  | wrongValue (found : Int) (wanted : String)
  | wrongLength (found : Nat) (wanted : String)
  | missingField (name : String)
  | duplicateField (name : String)
  | unknownField (name : String) (known : List String)
  | unknownVariant (name : String) (known : List String)
deriving DecidableEq, Repr

/-- Floating point numbers are positional from `0.00001` up to sixteen digits before the point. -/
def floatLayout : Decimal.Layout :=
  ⟨-5, 15⟩

def Shape.describe : Shape → String
  | .null => "null"
  | .boolean value => s!"boolean `{value}`"
  | .integer value => s!"integer `{value}`"
  | .float bits => s!"floating point `{floatLayout.text bits}`"
  | .string text => s!"string {Text.quoted text}"
  | .sequence => "sequence"
  | .map => "map"

/-- The names to choose from: two are joined by "or", more are listed. -/
def choices : List String → String
  | [first, second] => s!"`{first}` or `{second}`"
  | names => "one of " ++ ", ".intercalate (names.map fun name => s!"`{name}`")

/-- What is wrong, without the place. -/
def Error.message : Error → String
  | .endInValue => "EOF while parsing a value"
  | .endInObject => "EOF while parsing an object"
  | .endInList => "EOF while parsing a list"
  | .endInString => "EOF while parsing a string"
  | .expectedValue => "expected value"
  | .expectedIdent => "expected ident"
  | .expectedColon => "expected `:`"
  | .expectedCommaOrBrace => "expected `,` or `\x7d`"
  | .expectedCommaOrBracket => "expected `,` or `]`"
  | .keyNotString => "key must be a string"
  | .trailingComma => "trailing comma"
  | .trailingCharacters => "trailing characters"
  | .badNumber => "invalid number"
  | .numberOutOfRange => "number out of range"
  | .badEscape => "invalid escape"
  | .unpairedEscape => "unexpected end of hex escape"
  | .loneSurrogate => "lone leading surrogate in hex escape"
  | .controlCharacter => "control character (\\u0000-\\u001F) found while parsing a string"
  | .wrongType found wanted => s!"invalid type: {found.describe}, expected {wanted}"
  | .wrongValue found wanted => s!"invalid value: integer `{found}`, expected {wanted}"
  | .wrongLength found wanted => s!"invalid length {found}, expected {wanted}"
  | .missingField name => s!"missing field `{name}`"
  | .duplicateField name => s!"duplicate field `{name}`"
  | .unknownField name known => s!"unknown field `{name}`, expected {choices known}"
  | .unknownVariant name known => s!"unknown variant `{name}`, expected {choices known}"

def Error.messageAt (error : Error) : Option Place → String
  | none => error.message
  | some place => s!"{error.message} at line {place.line} column {place.column}"

end Knapsack.Json
