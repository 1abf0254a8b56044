/-!
Nesting of brackets on a line, literals left out. A string or rune may escape its quote, a raw string
may not; a literal that the line leaves open reaches to its end.
-/

namespace RouteDoc.Go

/-- Whether `c` opens a string, a rune or a raw string. -/
def isQuote (c : Char) : Bool :=
  c == '"' || c == '\'' || c == '\x60'

/-- The literal around a place: its quote, and whether the next character is escaped. -/
structure Literal where
  quote : Char
  escaped : Bool := false
  deriving Repr, DecidableEq

/-- The literal behind the character `c` inside a literal, if it goes on. -/
def Literal.next (literal : Literal) (c : Char) : Option Literal :=
  if literal.escaped then some { literal with escaped := false }
  else if c = '\\' && literal.quote != '\x60' then some { literal with escaped := true }
  else if c = literal.quote then none
  else some literal

/-- How many more brackets the text opens than it closes, from a place inside `literal?`. -/
def nestingFrom (opener closer : Char) (literal? : Option Literal) : List Char → Int
  | [] => 0
  | c :: cs =>
    match literal? with
    | some literal => nestingFrom opener closer (literal.next c) cs
    | none =>
      if isQuote c then nestingFrom opener closer (some ⟨c, false⟩) cs
      else if c = opener then 1 + nestingFrom opener closer none cs
      else if c = closer then nestingFrom opener closer none cs - 1
      else nestingFrom opener closer none cs

def braceNesting (line : List Char) : Int :=
  nestingFrom '{' '}' none line

def parenNesting (line : List Char) : Int :=
  nestingFrom '(' ')' none line

end RouteDoc.Go
