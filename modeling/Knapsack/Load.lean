import Knapsack.Instance.Lines
import Knapsack.Json.Documents
import Knapsack.Source

/-!
Loading instances, solutions and settings. An instance is JSON if its first character other than
white space is an opening brace, and two lines of text otherwise. Settings are read from a file
exactly if their source has the ending `.json`.
-/

namespace Knapsack

/-- Why a text is no instance of the form that it begins like. -/
inductive Instance.TextError where
  | lines (error : Instance.Lines.Error)
  | json (error : Json.Error)
deriving DecidableEq, Repr

inductive LoadError where
  | source (error : SourceError)
  | configFile (path : String)
  | instanceLines (error : Instance.Lines.Error)
  | instanceJson (error : Json.Error) (place? : Option Place)
  | solution (error : Json.Error) (place? : Option Place)
  | config (error : Json.Error) (place? : Option Place)
deriving DecidableEq, Repr

/-- The error that is told for a text, with the place if it was read as JSON. -/
def LoadError.ofInstance (place? : Option Place) : Instance.TextError → LoadError
  | .lines error => .instanceLines error
  | .json error => .instanceJson error place?

def LoadError.message : LoadError → String
  | .source error => error.message
  | .configFile path => s!"Failed to read config file: {path}"
  | .instanceLines error => error.message
  | .instanceJson error place? =>
    s!"Failed to parse instance json: {error.messageAt place?}"
  | .solution error place? => s!"Failed to parse solution: {error.messageAt place?}"
  | .config error place? => s!"Failed to parse config: {error.messageAt place?}"

def Instance.ofText (text : List Char) : Except Instance.TextError Instance :=
  if (Text.trimStart text).head? = some '\x7b' then
    (Json.decode Instance.record.read text).mapError .json
  else
    (Instance.Lines.read text).mapError .lines

/-- A sequence of two steps succeeds exactly if both do. -/
theorem bind_eq_ok_iff {ε α β : Type} {first : Except ε α} {next : α → Except ε β} {y : β} :
    (do next (← first)) = .ok y ↔ ∃ x, first = .ok x ∧ next x = .ok y := by
  cases first with
  | error error => exact iff_of_false nofun fun ⟨_, ended, _⟩ => nomatch ended
  | ok x =>
    constructor
    · exact fun ended => ⟨x, rfl, ended⟩
    · rintro ⟨_, ⟨⟩, later⟩
      exact later

/-- An error that is wrapped is still an error. -/
theorem mapError_eq_ok_iff {ε δ α : Type} {first : Except ε α} {wrap : ε → δ} {x : α} :
    first.mapError wrap = .ok x ↔ first = .ok x := by
  cases first with
  | error error => exact iff_of_false nofun nofun
  | ok y =>
    change Except.ok y = Except.ok x ↔ _
    rw [Except.ok.injEq, Except.ok.injEq]

namespace Surroundings

def loadInstance (surroundings : Surroundings) (source : String) : Except LoadError Instance := do
  let text ← (surroundings.read source).mapError .source
  (Instance.ofText text.toList).mapError (.ofInstance (surroundings.place? .problem text))

def loadSolution (surroundings : Surroundings) (source : String) : Except LoadError Solution := do
  let text ← (surroundings.read source).mapError .source
  (Json.decode Solution.record.read text.toList).mapError
    (.solution · (surroundings.place? .solution text))

def namesConfigFile (source : String) : Bool :=
  ".json".toList.isSuffixOf source.toList

def configOfText (surroundings : Surroundings) (text : String) : Except LoadError Config :=
  (Json.decode Config.record.read text.toList).mapError
    (.config · (surroundings.place? .config text))

def loadConfig (surroundings : Surroundings) (source : String) : Except LoadError Config :=
  if namesConfigFile source then
    match (surroundings.content? source).bind String.fromUTF8? with
    | none => .error (.configFile source)
    | some text => surroundings.configOfText text
  else
    surroundings.configOfText source

end Surroundings

end Knapsack
