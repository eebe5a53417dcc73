import Knapsack.Json.Documents

/-!
How a solve is reported: as two lines of text, or as a JSON object with a status of its own.
-/

namespace Knapsack.Report

def text (solution : Solution) : List Char :=
  "Optimal value: ".toList ++ Numeral.ofInt solution.optimalValue.toInt ++
  "\nSelected indices (".toList ++ Numeral.ofNat solution.selected.length ++ "):".toList ++
  solution.selected.flatMap (fun index => ' ' :: Numeral.ofNat index) ++ ['\n']

def json (solution : Solution) : List Char :=
  Json.object (Json.entry "status" (Json.name "ok") :: solution.entries)

def error (message : String) : List Char :=
  Json.object [
    Json.entry "status" (Json.name "error"),
    Json.entry "message" (Json.quote message.toList)]

/-- A report as one line of output. -/
def line (report : List Char) : String :=
  String.ofList (report ++ ['\n'])

end Knapsack.Report
