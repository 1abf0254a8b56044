import RouteDoc.Go.Nesting
import RouteDoc.Text.Blank

/-!
Statements of a Go file. A statement goes on over the next line while a parenthesis is open or the
line ends in a dot.
-/

namespace RouteDoc.Go

open RouteDoc.Text

/-- What stands between a statement so far and its next line. -/
def glue (current : List Char) : List Char :=
  match current.getLast? with
  | none => []
  | some c => if c = '.' || c = '(' then [] else [' ']

/-- Whether a statement ends behind a line that leaves `depth` parentheses open. -/
def endsStatement (depth : Int) (line : List Char) : Bool :=
  depth ≤ 0 && line.getLast? != some '.'

/-- The statements of the lines, where `current` has been read of the first one and leaves `depth`
parentheses open. -/
def statementsFrom (current : List Char) (depth : Int) : List (List Char) → List (List Char)
  | [] => if current.isEmpty then [] else [current]
  | line :: lines =>
    let text := trim line
    if text.isEmpty then statementsFrom current depth lines
    else
      let joined := current ++ glue current ++ text
      let depth := depth + parenNesting text
      if endsStatement depth text then joined :: statementsFrom [] 0 lines
      else statementsFrom joined depth lines

def statements (lines : List (List Char)) : List (List Char) :=
  statementsFrom [] 0 lines

end RouteDoc.Go
