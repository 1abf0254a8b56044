import RouteDoc.Go.Statement
import RouteDoc.Routes.Qualify

/-!
The routes that a project registers with gorilla/mux, read off its sources. Files are taken in the
order of their paths, and the prefixes of subrouters are known within one file.
-/

namespace RouteDoc.Routes

open RouteDoc.Go RouteDoc.Text

/-- The prefixes of the subrouters of a file, by variable. -/
abbrev Prefixes := List (List Char × List Char)

/-- The route that a chain of calls registers below a prefix. -/
def registration (disk : Disk) (packages : Packages) (ctx : FileContext) (base chain : List Char) :
    Run (Option RouteEntry) := do
  match (handlerArgument? chain).bind readHandler with
  | none => return none
  | some expr =>
    let handler ← qualifyHandler disk packages ctx expr
    return some
      { path? := (pathLiteral? chain).map fun path => String.ofList (combinePaths base path)
        methods? := methods? chain
        handler := handler }

def makesSubrouter (chain : List Char) : Bool :=
  endsWith ['.', 'S', 'u', 'b', 'r', 'o', 'u', 't', 'e', 'r', '(', ')'] chain

/-- What a statement is about: the target of an assignment, and a receiver that is no package with
the chain of calls on it. -/
def routerCall? (ctx : FileContext) (statement : List Char) :
    Option (Option (List Char) × List Char × List Char) := do
  let assignment := Assignment.read statement
  let (receiver, chain) ← splitReceiver? assignment.value
  guard !(Assoc.has (String.ofList (receiver.takeWhile (· != '.'))) ctx.imports)
  return (assignment.target?, receiver, chain)

/-- The routes of the statements, where `prefixes` holds the subrouters made before them. -/
def scanStatements (disk : Disk) (packages : Packages) (ctx : FileContext) (prefixes : Prefixes) :
    List (List Char) → Run (List RouteEntry)
  | [] => return []
  | statement :: statements => do
    match routerCall? ctx statement with
    | none => scanStatements disk packages ctx prefixes statements
    | some (target?, receiver, chain) =>
      let base := (Assoc.get? receiver prefixes).getD [] ++ pathPrefixes chain
      if makesSubrouter chain then
        let prefixes := match target? with
          | some target => Assoc.put target base prefixes
          | none => prefixes
        scanStatements disk packages ctx prefixes statements
      else
        let entry? ← registration disk packages ctx base chain
        let rest ← scanStatements disk packages ctx prefixes statements
        return entry?.toList ++ rest

def scanFile (disk : Disk) (packages : Packages) (file : SourceFile) : Run (List RouteEntry) :=
  scanStatements disk packages (.of disk packages file) [] (statements file.lines)

/-- The routes of the files; a file that cannot be loaded is passed over. -/
def scanFiles (disk : Disk) (packages : Packages) : List Path → Run (List RouteEntry)
  | [] => return []
  | path :: paths => do
    match ← load disk path with
    | .error error =>
      Run.warn ("Skipping " ++ path.toString ++ ": " ++ error.message)
      scanFiles disk packages paths
    | .ok file =>
      let entries ← scanFile disk packages file
      let rest ← scanFiles disk packages paths
      return entries ++ rest

/-- The table of the routes registered in the project at `root`. -/
def muxTable (disk : Disk) (packages : Packages) (root : Path) : RouteTable := do
  Run.info ("Scanning " ++ root.toString ++ " for mux registrations")
  if !disk.isFolder root then
    return .error (.enumeration ("project root is not a directory: " ++ root.toString))
  else
    let (files, _) ← Project.scan disk root
    let entries ← scanFiles disk packages files
    Run.info ("Found " ++ toString entries.length ++ " registrations in "
      ++ toString files.length ++ " files")
    return .ok entries

end RouteDoc.Routes
