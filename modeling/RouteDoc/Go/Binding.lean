import RouteDoc.Go.Reads
import RouteDoc.Go.Struct

/-!
How variables and fields that hold handlers get their types: by a type that is written out, or by the
call of a function that makes the value.
-/

namespace RouteDoc.Go

open RouteDoc.Text

/-- Where the type of a value is found. -/
inductive Binding where
  /-- The type is written out. -/
  | type (name : QualifiedName)
  /-- The value comes from a call of this function. -/
  | call (function : QualifiedName)
  deriving Repr, DecidableEq

/-- The text without a character that may stand in front of it. -/
def dropOne (c : Char) : List Char → List Char
  | d :: cs => if d = c then cs else d :: cs
  | [] => []

/-- The type of the receiver `name` on the declaration line of a method. -/
def receiverBinding? (name line : List Char) : Option QualifiedName := do
  match trimStart (← after? ['f', 'u', 'n', 'c'] line) with
  | '(' :: rest =>
    let type ← blanks? (← after? name (trimStart rest))
    return (← qualified? (dropOne '*' type)).1
  | _ => none

/-- The type in `name := T{` or `name := &T{`. -/
def literalBinding? (name : List Char) (before : Option Char) (s : List Char) :
    Option QualifiedName := do
  let (type, rest) ← qualified? (dropOne '&' (← assignedTo? name before s))
  guard ((trimStart rest).head? = some '{')
  return type

/-- The type in `name := new(T)`. -/
def newBinding? (name : List Char) (before : Option Char) (s : List Char) :
    Option QualifiedName := do
  let type ← after? ['n', 'e', 'w', '('] (← assignedTo? name before s)
  let (type, rest) ← qualified? (trimStart type)
  guard ((trimStart rest).head? = some ')')
  return type

/-- The type in `var name T`. -/
def varBinding? (name : List Char) (before : Option Char) (s : List Char) :
    Option QualifiedName := do
  guard (atBoundary before s)
  let declared ← blanks? (← after? ['v', 'a', 'r'] s)
  let type ← blanks? (← after? name declared)
  let (type, rest) ← qualified? (dropOne '*' type)
  let rest := trimStart rest
  guard (rest.isEmpty || rest.head? = some '=')
  return type

/-- The function in `name := f(` or `name, err := f(`. -/
def callBinding? (name : List Char) (before : Option Char) (s : List Char) :
    Option QualifiedName := do
  guard (atBoundary before s)
  let rest ← match trimStart (← after? name s) with
    | ',' :: rest => word? (trimStart rest)
    | rest => some rest
  let (function, rest) ← qualified? (← assignment? rest)
  guard ((trimStart rest).head? = some '(')
  return function

def lineBinding? (name line : List Char) : Option Binding :=
  (((receiverBinding? name line
    <|> search (literalBinding? name) none line
    <|> search (newBinding? name) none line
    <|> search (varBinding? name) none line).map .type)
    <|> (search (callBinding? name) none line).map .call)

/-- How the lines first bind the variable `name`. -/
def variableBinding? (lines : List (List Char)) (name : List Char) : Option Binding :=
  lines.findSome? (lineBinding? name)

def lineField? (name line : List Char) : Option QualifiedName := do
  let type ← blanks? (← after? name (trimStart line))
  let (type, rest) ← qualified? (dropOne '*' type)
  let _ ← tagOrEnd? (trimStart rest)
  return type

def fieldBinding? (lines : List (List Char)) (name : List Char) : Option QualifiedName :=
  lines.findSome? (lineField? name)

/-- What follows the parenthesis that closes the outermost of `depth` open ones. -/
def behindParens? : Nat → List Char → Option (List Char)
  | _, [] => none
  | depth, c :: cs =>
    if c = '(' then behindParens? (depth + 1) cs
    else if c = ')' then if depth ≤ 1 then some cs else behindParens? (depth - 1) cs
    else behindParens? depth cs

/-- The first result type of the function that a line declares. -/
def resultType? (line function : List Char) : Option QualifiedName := do
  let rest ← search (fun _ s => after? function s) none line
  let results ← behindParens? 0 (rest.dropWhile (· != '('))
  let first := trimStart (dropOne '(' (trimStart results))
  return (← qualified? (dropOne '*' first)).1

end RouteDoc.Go
