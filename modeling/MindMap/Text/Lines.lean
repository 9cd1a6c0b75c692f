/-!
# Lines of a text

A line ends with a line feed, and a carriage return before it belongs to the end. What stands after the
last line feed is a line too, unless it is empty.
-/

namespace MindMap.Text

/-- The pieces of a text between its line feeds. -/
def linePieces : List Char → List (List Char)
  | [] => [[]]
  | '\n' :: rest => [] :: linePieces rest
  | c :: rest => (linePieces rest).modifyHead (c :: ·)

/-- The lines of a text. -/
def lines (text : String) : List String :=
  let pieces := linePieces text.toList
  let last := pieces.getLast?.getD []
  let ended := pieces.dropLast.map fun line =>
    if line.getLast? = some '\r' then line.dropLast else line
  (ended ++ if last.isEmpty then [] else [last]).map .ofList

end MindMap.Text
