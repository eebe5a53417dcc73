/-!
Where texts come from. A source is `-` for the standard input, the path of a file, or else the text
itself.
-/

namespace Knapsack

/-- What a text that is read as JSON is to hold. -/
inductive Document where
  | problem
  | solution
  | config
deriving DecidableEq, Repr

/-- A place in a text, as an error tells it. -/
structure Place where
  line : Nat
  column : Nat
deriving DecidableEq, Repr

/-- What the program meets while it runs. Where in a text a reading was given up is counted by the
library that reads it, and may be any place. -/
structure Surroundings where
  /-- The bytes on the standard input, unless it cannot be read. -/
  input : Option ByteArray
  /-- Whether there is a regular file at a path. -/
  isFile : String → Bool
  /-- The bytes that can be read at a path. -/
  content? : String → Option ByteArray
  /-- Where a text that is no such document was given up, if that is told. -/
  place? : Document → String → Option Place := fun _ _ => none

/-- Nothing to be read: an empty standard input, and no files. -/
def Surroundings.bare : Surroundings where
  input := some .empty
  isFile _ := false
  content? _ := none

inductive SourceError where
  | input
  | file (path : String)
deriving DecidableEq, Repr

def SourceError.message : SourceError → String
  | .input => "Failed to read from stdin"
  | .file path => s!"Failed to read file: {path}"

/-- The text of a source. Bytes that are no UTF-8 are an error, not a text of their own. -/
def Surroundings.read (surroundings : Surroundings) (source : String) : Except SourceError String :=
  if source = "-" then
    match surroundings.input.bind String.fromUTF8? with
    | some text => .ok text
    | none => .error .input
  else if surroundings.isFile source then
    match (surroundings.content? source).bind String.fromUTF8? with
    | some text => .ok text
    | none => .error (.file source)
  else
    .ok source

end Knapsack
