import RouteDoc.Go.Function
import RouteDoc.Packages
import RouteDoc.Symbol
import RouteDoc.Text.Printable

/-!
Where handlers are declared. A symbol is sought in the file it names, or else in the files of its
package, in order; the first line that declares it is its place.
-/

namespace RouteDoc

/-- The place of a declaration: its file, and its line counted from one. -/
structure Location where
  symbol : String
  file : Path
  line : Nat
  deriving Repr, DecidableEq

def Location.package (location : Location) : String :=
  packagePath location.symbol

abbrev HandlerLocator := Symbol → Run (Except Error Location)

namespace Handler

def namelessText (symbol : String) : String :=
  "handler symbol without a function name: " ++ Text.quoted symbol

def missingText (name : String) (files : Nat) : String :=
  "no declaration of " ++ name ++ " in " ++ toString files ++ " files"

def skippedText (file : Path) (name : String) (error : Error) : String :=
  "Skipping " ++ file.toString ++ " while locating " ++ name ++ ": " ++ error.message

/-- The first declaration among the given files. A file that cannot be loaded ends the search when
it is the one that the symbol names, and is passed over otherwise. -/
def searchFiles (disk : Disk) (symbol : Symbol) (parts : SymbolParts) :
    List Path → Run (Except Error (Option Location))
  | [] => return .ok none
  | file :: files => do
    match ← load disk file with
    | .error error =>
      if symbol.file?.isSome then return .error error
      else
        Run.warn (skippedText file (String.ofList parts.name) error)
        searchFiles disk symbol parts files
    | .ok source =>
      match Go.findFunction source.lines parts.receiver? parts.name with
      | some index => return .ok (some ⟨symbol.text, source.path, index + 1⟩)
      | none => searchFiles disk symbol parts files

def candidates (disk : Disk) (packages : Packages) (symbol : Symbol) (parts : SymbolParts) :
    Except Error (List Path) :=
  match symbol.file? with
  | some file => .ok [file]
  | none =>
    match packages.files disk (String.ofList parts.package) with
    | .ok files => .ok files
    | .error error => .error (.locator symbol.text error.message)

/-- Finds the declaration of a symbol in the sources. -/
def locate (disk : Disk) (packages : Packages) : HandlerLocator := fun symbol => do
  let parts := symbol.parts
  if parts.name.isEmpty then
    return .error (.invalidArgument (namelessText symbol.text))
  else
    match candidates disk packages symbol parts with
    | .error error => return .error error
    | .ok files =>
      match ← searchFiles disk symbol parts files with
      | .error error => return .error error
      | .ok (some location) => return .ok location
      | .ok none =>
        let text := missingText (String.ofList parts.name) files.length
        return .error (.locator symbol.text text)

end Handler

end RouteDoc
