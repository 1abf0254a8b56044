import RouteDoc.Path

/-!
Symbols of Go functions: `import/path.Name` for a function, `import/path.(*T).Name` for a method. The
path of the package ends at the first dot behind the last slash.
-/

namespace RouteDoc

open RouteDoc.Text

/-- A function by its qualified name, and the file that holds it where that is known. -/
structure Symbol where
  text : String
  file? : Option Path := none
  deriving Repr, DecidableEq

structure SymbolParts where
  package : List Char
  receiver? : Option (List Char)
  name : List Char
  deriving Repr, DecidableEq

namespace Symbol

def method (package receiver name : String) : Symbol :=
  ⟨package ++ ".(*" ++ receiver ++ ")." ++ name, none⟩

def function (package name : String) : Symbol :=
  ⟨package ++ "." ++ name, none⟩

/-- The import path in front of a symbol and what follows its dot, if there is such a dot. -/
def cutPackage? (s : List Char) : Option (List Char × List Char) :=
  match cutLast? '/' s with
  | some (outer, last) => (cut? '.' last).map fun (stem, rest) => (outer ++ '/' :: stem, rest)
  | none => cut? '.' s

/-- A receiver without parentheses and stars around it. -/
def bareReceiver (s : List Char) : List Char :=
  let inner := ((s.dropWhile (· == '(')).reverse.dropWhile (· == ')')).reverse
  inner.dropWhile (· == '*')

/-- The reversed name without the marks of method values at its end. -/
def dropValueMarks : List Char → List Char
  | 'm' :: 'f' :: '-' :: cs => dropValueMarks cs
  | cs => cs

/-- The name without the marks of method values at its end. -/
def bareName (s : List Char) : List Char :=
  (dropValueMarks s.reverse).reverse

def splitChars (s : List Char) : SymbolParts :=
  let (package, rest) := (cutPackage? s).getD ([], s)
  match cutLast? '.' rest with
  | some (receiver, name) =>
    let receiver := bareReceiver receiver
    ⟨package, if receiver.isEmpty then none else some receiver, bareName name⟩
  | none => ⟨package, none, bareName rest⟩

def parts (symbol : Symbol) : SymbolParts :=
  splitChars symbol.text.toList

def name (symbol : Symbol) : String :=
  String.ofList symbol.parts.name

end Symbol

/-- The import path of the package that a symbol's text belongs to. -/
def packagePath (symbol : String) : String :=
  match Symbol.cutPackage? symbol.toList with
  | some (package, _) => String.ofList package
  | none => ""

end RouteDoc
