import RouteDoc.Text.Search

/-!
Lines of a text. A line ends at a line feed, which takes a carriage return before it along; what
follows the last line feed is a line of its own unless it is empty.
-/

namespace RouteDoc.Text

/-- The line without a carriage return at its end. -/
def dropReturn : List Char → List Char
  | [] => []
  | ['\r'] => []
  | c :: cs => c :: dropReturn cs

/-- The lines whose texts, up to the line feeds, are the given pieces. -/
def linesOfPieces : List (List Char) → List (List Char)
  | [] => []
  | [last] => if last.isEmpty then [] else [last]
  | line :: rest => dropReturn line :: linesOfPieces rest

def lines (s : List Char) : List (List Char) :=
  linesOfPieces (split '\n' s)

end RouteDoc.Text
