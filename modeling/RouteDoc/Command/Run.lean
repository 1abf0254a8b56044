import RouteDoc.Command.Args
import RouteDoc.Document.Write
import RouteDoc.Generate
import RouteDoc.Routes.Manifest
import RouteDoc.Routes.Mux
import RouteDoc.Ui

/-!
What the command does: it checks its arguments against the files, generates the document of the
project, and prints it or writes it in a file, in which case an index page can be made to show it.
-/

namespace RouteDoc.Command

/-- Why a run did not come to its end. -/
inductive Failure where
  /-- The arguments do not fit the files. -/
  | refused (text : String)
  /-- The document could not be written. -/
  | unwritten (failure : WriteFailure)
  /-- Something else went wrong, in the course of what `doing?` says. -/
  | failed (doing? : Option String) (error : Error)
  deriving Repr, DecidableEq

def Failure.headline : Failure → String
  | .refused text => text
  | .unwritten failure => failure.message
  | .failed doing? error => doing?.getD error.message

def formatName : Format → String
  | .json => "Json"
  | .yaml => "Yaml"

namespace Args

/-- What keeps the arguments from being used with these files, the first thing first. -/
def problem? (args : Args) (disk : Disk) : Option String :=
  if !disk.has args.project then
    some ("Project path does not exist: " ++ args.project.toString)
  else if !disk.isFolder args.project then
    some ("Project path is not a directory: " ++ args.project.toString)
  else
    match args.manifest?.filter (!disk.isFile ·) with
    | some manifest => some ("Route manifest does not exist: " ++ manifest.toString)
    | none =>
      if args.config.basePath.toList.head? ≠ some '/' then
        some ("Base path must start with '/': " ++ args.config.basePath)
      else none

/-- What is said about the arguments before a run. -/
def summary (args : Args) : List String :=
  [ "Project path: " ++ args.project.toString
  , "Output format: " ++ formatName args.format
  , match args.output? with
    | some output => "Output file: " ++ output.toString
    | none => "Output: stdout"
  , match args.manifest? with
    | some manifest => "Routes: manifest " ++ manifest.toString
    | none => "Routes: mux registrations in project sources" ]

def check (args : Args) (disk : Disk) : Run (Except Failure Unit) := do
  match args.problem? disk with
  | some text => return .error (.refused text)
  | none =>
    args.summary.forM Run.info
    return .ok ()

/-- The routes that a run documents. -/
def table (args : Args) (disk : Disk) (packages : Packages) : RouteTable :=
  match args.manifest? with
  | some manifest => Routes.manifestTable disk manifest
  | none => Routes.muxTable disk packages args.project

end Args

/-- How a run ends: the files as they are then, what was printed, and whether all went well. -/
structure Outcome where
  disk : Disk
  printed : String := ""
  result : Except Failure Unit := .ok ()

/-- Makes an index page show the document that has been written. -/
def showIn (disk : Disk) (index document : Path) : Run (Disk × Except Failure Unit) := do
  match Ui.mount disk document with
  | .error error => return (disk, .error (.failed none error))
  | .ok mount =>
    match ← Ui.updateIndex disk index mount.documentRoute with
    | .error error =>
      return (disk, .error (.failed (some ("Failed to update UI index " ++ index.toString)) error))
    | .ok (disk, _) =>
      Run.info ("Serve " ++ mount.document.toString ++ " at " ++ mount.documentRoute
        ++ " and the UI under " ++ mount.uiRoute)
      return (disk, .ok ())

/-- Writes the text of a document, and makes an index page show it if one is named. -/
def writeOut (disk : Disk) (output : Path) (uiIndex? : Option Path) (text : String) :
    Run (Disk × Except Failure Unit) := do
  Run.info ("Writing output to: " ++ output.toString)
  match disk.writeText output text with
  | (disk, .error failure) => return (disk, .error (.unwritten failure))
  | (disk, .ok ()) =>
    Run.info ("Successfully wrote Swagger document to " ++ output.toString)
    match uiIndex? with
    | some index => showIn disk index output
    | none => return (disk, .ok ())

/-- Hands a document out: to its file, or to be printed as a line. -/
def emit (args : Args) (disk : Disk) (document : Document) : Run Outcome := do
  Run.info ("Serializing to " ++ formatName args.format ++ " format...")
  let text := document.print args.format
  match args.output? with
  | some output =>
    let (disk, result) ← writeOut disk output args.uiIndex? text
    return { disk := disk, result := result }
  | none => return { disk := disk, printed := text ++ "\n" }

def operationCount (document : Document) : Nat :=
  document.paths.foldl (fun count (_, operations) => count + operations.length) 0

/-- What is said at the end of a run. -/
def closing (document : Document) (reads : Nat) : List String :=
  [ "Generation complete!"
  , "Summary:"
  , "  - Paths documented: " ++ toString document.paths.length
  , "  - Operations: " ++ toString (operationCount document)
  , "  - Source files read: " ++ toString reads ]

/-- Generates the document of a project and hands it out. -/
def run (args : Args) (env : Environment) (disk : Disk) : Run Outcome := do
  Run.info "Starting Swagger document generation..."
  let packages := Packages.ofProject disk env args.project
  let generation := (Generator.ofSources disk packages).generate args.config
    (args.table disk packages)
  let (answer, _) ← generation.run {}
  match answer with
  | .error error =>
    return { disk := disk
             result := .error (.failed (some "Failed to generate Swagger document") error) }
  | .ok document =>
    if document.paths.isEmpty then Run.warn "No documented routes found in the project"
    let outcome ← emit args disk document
    if outcome.result.isOk then (closing document (← get).cache.reads).forM Run.info
    return outcome

end RouteDoc.Command
