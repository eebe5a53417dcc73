/-!
Lines end with a line feed, and a carriage return right before it belongs to the ending. What
follows the last line feed is a line of its own unless it is empty, and keeps its carriage returns.
-/

namespace Knapsack.Text

def dropReturn (line : List Char) : List Char :=
  if line.getLast? = some '\r' then line.dropLast else line

/-- The first line, without its ending, and the text after it; an empty text has no line. -/
def nextLine? (text : List Char) : Option (List Char × List Char) :=
  if text.isEmpty then
    none
  else
    let line := text.takeWhile (· ≠ '\n')
    match text.dropWhile (· ≠ '\n') with
    | [] => some (line, [])
    | _ :: rest => some (dropReturn line, rest)

end Knapsack.Text
