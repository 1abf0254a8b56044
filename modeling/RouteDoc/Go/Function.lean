import RouteDoc.Go.Ident

/-!
Declaration lines of functions and methods. A declaration starts in column zero; behind `func` it has
a receiver clause or not, then a name, then an opening parenthesis or bracket.
-/

namespace RouteDoc.Go

open RouteDoc.Text

/-- What a declaration line declares. -/
structure Declaration where
  /-- The text between the parentheses in front of a method's name. -/
  receiver? : Option (List Char)
  name : List Char
  deriving Repr, DecidableEq

def declaration? (line : List Char) : Option Declaration := do
  let rest ← blanks? (← after? ['f', 'u', 'n', 'c'] line)
  let (receiver?, rest) ←
    match rest with
    | '(' :: cs => (cut? ')' cs).map fun (clause, behind) => (some clause, trimStart behind)
    | _ => some (none, rest)
  let (name, rest) ← asciiIdent? rest
  match trimStart rest with
  | '[' :: _ => some ⟨receiver?, name⟩
  | '(' :: _ => some ⟨receiver?, name⟩
  | _ => none

def functionName? (line : List Char) : Option (List Char) :=
  (declaration? line).map Declaration.name

/-- The type of a receiver clause: its last word without type arguments and stars. -/
def receiverType? (clause : List Char) : Option (List Char) :=
  match (blankSeparated (clause.takeWhile (· != '['))).getLast? with
  | none => none
  | some word =>
    match word.dropWhile (· == '*') with
    | [] => none
    | type => some type

/-- Whether the line declares `name`, and as a method of `receiver` where one is given. -/
def declares (receiver? : Option (List Char)) (name : List Char) (line : List Char) : Bool :=
  match declaration? line with
  | none => false
  | some declaration =>
    declaration.name = name &&
      match receiver? with
      | none => true
      | some receiver => (declaration.receiver?.bind receiverType?) = some receiver

/-- The index of the first line that declares `name`. -/
def findFunction (lines : List (List Char)) (receiver? : Option (List Char)) (name : List Char) :
    Option Nat :=
  lines.findIdx? (declares receiver? name)

end RouteDoc.Go
