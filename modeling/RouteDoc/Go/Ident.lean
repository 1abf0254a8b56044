import RouteDoc.Text.Search

/-!
Identifiers of Go source, alone and in chains joined by dots. An identifier starts with an ASCII
letter or an underscore and goes on with word characters.
-/

namespace RouteDoc.Go

open RouteDoc.Text

def isIdentStart (c : Char) : Bool :=
  c.isAlpha || c == '_'

/-- The identifier at the start of the text, and what follows it. -/
def ident? : List Char → Option (List Char × List Char)
  | c :: cs => if isIdentStart c then some (c :: cs.takeWhile isWord, cs.dropWhile isWord) else none
  | [] => none

def asciiIdent? : List Char → Option (List Char × List Char)
  | c :: cs =>
    if isIdentStart c then some (c :: cs.takeWhile isAsciiWord, cs.dropWhile isAsciiWord) else none
  | [] => none

def isChainChar (c : Char) : Bool :=
  isWord c || c == '.'

/-- The text of word characters and dots that an identifier starts, and what follows it. -/
def dotted? : List Char → Option (List Char × List Char)
  | c :: cs =>
    if isIdentStart c then some (c :: cs.takeWhile isChainChar, cs.dropWhile isChainChar) else none
  | [] => none

def isIdent : List Char → Bool
  | c :: cs => isIdentStart c && cs.all isWord
  | [] => false

/-- Whether the text is a chain of identifiers joined by dots. -/
def isChain (s : List Char) : Bool :=
  (split '.' s).all isIdent

/-- A type name, with the package alias before its dot if it has one. -/
structure QualifiedName where
  alias? : Option (List Char)
  name : List Char
  deriving Repr, DecidableEq

def qualified? (s : List Char) : Option (QualifiedName × List Char) :=
  match ident? s with
  | none => none
  | some (first, '.' :: rest) =>
    match ident? rest with
    | some (second, rest) => some (⟨some first, second⟩, rest)
    | none => some (⟨none, first⟩, '.' :: rest)
  | some (first, rest) => some (⟨none, first⟩, rest)

end RouteDoc.Go
