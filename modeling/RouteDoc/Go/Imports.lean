import RouteDoc.Assoc
import RouteDoc.Go.Ident
import RouteDoc.Text.Version

/-!
The import header of a Go file, and the module clause of a module file. The header ends at the first
function; every import is known by its alias, or by the package name that its path implies.
-/

namespace RouteDoc.Go

open RouteDoc.Text

/-- Import paths by the names under which a file uses them. -/
abbrev Imports := List (String × String)

/-- The last path segment that is no major version, where the one before it stands in. -/
def lastSegment (path : List Char) : List Char :=
  match (split '/' path).reverse with
  | last :: previous :: _ => if isVersion last then previous else last
  | [last] => last
  | [] => path

/-- The package name implied by an import path: its last segment, without a version. -/
def packageName (path : List Char) : List Char :=
  let segment := lastSegment path
  match cutLast? '.' segment with
  | some (stem, version) => if isVersion version then stem else segment
  | none => segment

/-- An import as it is written: an alias or none, and the path. -/
structure ImportSpec where
  alias? : Option (List Char)
  path : List Char
  deriving Repr, DecidableEq

/-- The path between double quotes that makes up the whole text. -/
def importPath? (s : List Char) : Option (List Char) :=
  match quotedWord? s with
  | some (path, []) => some path
  | _ => none

/-- Reads an import, behind the keyword or without it. -/
def importSpec? (line : List Char) : Option ImportSpec :=
  let spec := ((after? ['i', 'm', 'p', 'o', 'r', 't'] line).bind blanks?).getD line
  match spec with
  | '"' :: _ => (importPath? spec).map fun path => ⟨none, path⟩
  | '.' :: rest => ((blanks? rest).bind importPath?).map fun path => ⟨some ['.'], path⟩
  | _ =>
    match asciiIdent? spec with
    | some (name, rest) => ((blanks? rest).bind importPath?).map fun path => ⟨some name, path⟩
    | none => none

/-- The imports with one more; blank and dot imports give no name. -/
def Imports.add (imports : Imports) (spec : ImportSpec) : Imports :=
  match spec.alias? with
  | some ['_'] => imports
  | some ['.'] => imports
  | some name => Assoc.put (String.ofList name) (String.ofList spec.path) imports
  | none => Assoc.put (String.ofList (packageName spec.path)) (String.ofList spec.path) imports

/-- Whether a trimmed line starts a function, which ends the header. -/
def startsFunction (line : List Char) : Bool :=
  startsWith ['f', 'u', 'n', 'c', ' '] line || startsWith ['f', 'u', 'n', 'c', '('] line

/-- Whether a trimmed line opens a block of imports. -/
def opensImports (line : List Char) : Bool :=
  startsWith ['i', 'm', 'p', 'o', 'r', 't', ' ', '('] line
    || line = ['i', 'm', 'p', 'o', 'r', 't', '(']

/-- The imports of the given lines added to those found before them; `inBlock` says whether a block
of imports is open. -/
def importsFrom (imports : Imports) (inBlock : Bool) : List (List Char) → Imports
  | [] => imports
  | line :: lines =>
    let line := trim line
    if startsFunction line then imports
    else if opensImports line then importsFrom imports true lines
    else if inBlock && line.head? = some ')' then importsFrom imports false lines
    else if !inBlock && !startsWith ['i', 'm', 'p', 'o', 'r', 't', ' '] line then
      importsFrom imports inBlock lines
    else match importSpec? line with
      | some spec => importsFrom (imports.add spec) inBlock lines
      | none => importsFrom imports inBlock lines

def fileImports (lines : List (List Char)) : Imports :=
  importsFrom [] false lines

/-- The module path that a `module` clause gives, at the start of a line. -/
def moduleClause? (before : Option Char) (s : List Char) : Option (List Char) := do
  guard (before = none || before = some '\n')
  let rest ← blanks? (← after? ['m', 'o', 'd', 'u', 'l', 'e'] (trimStart s))
  let path := match rest with
    | '"' :: cs => cs
    | cs => cs
  match path.takeWhile (fun c => !isBlank c && c != '"') with
  | [] => none
  | found => some found

def modulePath? (content : List Char) : Option (List Char) :=
  search moduleClause? none content

end RouteDoc.Go
