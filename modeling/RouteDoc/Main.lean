import RouteDoc.Command.Run

/-!
The command line. The files that a run can ask for are read first, the run works on them as a value,
and what it has written is written out at the end.
-/

namespace RouteDoc.Command

/-- The names that a path leads through, seen from the folder `here`. -/
def namesFrom (here : List String) (p : Path) : List String :=
  let start := if p.isAbsolute then [] else here
  p.pieces.foldl (fun names piece =>
    if piece = "" || piece = "." then names
    else if piece = ".." then names.dropLast
    else names ++ [piece]) start

def spelling (names : List String) : String :=
  (Path.ofNames names).toString

/-- Reads what is at a place: a file, or a folder with all that is below it. -/
partial def readTree (place : String) : IO Node := do
  let real ← IO.FS.realPath place
  if ← real.isDir then
    let entries ← real.readDir
    let nodes ← entries.toList.filterMapM fun entry => do
      match ← (readTree (place ++ "/" ++ entry.fileName)).toBaseIO with
      | .ok node => return some (entry.fileName, node)
      | .error _ => return none
    return .folder nodes
  else
    return .file (← IO.FS.readBinFile place)

/-- Reads what is at a place, without what is below a folder. -/
def readShallow (place : String) : IO Node := do
  let real ← IO.FS.realPath place
  if ← real.isDir then return .folder [] else return .file (← IO.FS.readBinFile place)

/-- Puts what is read at a place into a tree that has nothing there. -/
def addPlace (read : String → IO Node) (tree : Node) (names : List String) : IO Node := do
  if (tree.at? names).isSome then return tree
  else
    match ← (read (spelling names)).toBaseIO with
    | .ok node => return tree.put names node
    | .error _ => return tree

/-- The places on the way to a place, which is the last of them. -/
def waypoints (names : List String) : List (List String) :=
  (List.range (names.length + 1)).map names.take

/-- Puts what stands along the way to a place into a tree. -/
def addWay (tree : Node) (names : List String) : IO Node :=
  (waypoints names).foldlM (addPlace readShallow) tree

/-- The folders in which a run looks for packages. -/
def workspaceFolders (env : Environment) : List Path :=
  match Locator.ofEnvironment env with
  | .workspaces folders => folders
  | _ => []

/-- The files that a run can ask for. -/
def readDisk (args : Args) (env : Environment) : IO Disk := do
  let here := namesFrom [] (Path.ofString (← IO.currentDir).toString)
  let below := (args.project :: workspaceFolders env).map (namesFrom here)
  let tree ← below.foldlM (addPlace readTree) (.folder [])
  let project := namesFrom here args.project
  let modules := (waypoints project).map (· ++ ["go.mod"])
  let single := [args.manifest?, args.output?, args.uiIndex?].filterMap id
  let ways := here :: modules ++ single.map (namesFrom here)
  return ⟨← ways.foldlM addWay tree, here⟩

def writeChanged (old new : Disk) (file : Path) : IO Unit := do
  match new.read file with
  | .error _ => return
  | .ok text =>
    if (old.read file).toOption ≠ some text then
      let names := namesFrom new.here file
      IO.FS.createDirAll (spelling names.dropLast)
      IO.FS.writeFile (spelling names) text

def printJournal (journal : List Record) : IO Unit :=
  journal.forM fun record =>
    let level := match record.level with
      | .warn => "WARN"
      | .info => "INFO"
    IO.eprintln ("[" ++ level ++ "] " ++ record.text)

def usage : String :=
  "Usage: route-doc [-m FILE] [-f yaml|json] [-o FILE] [--title TEXT] [--api-version TEXT]\n"
    ++ "         [--host TEXT] [-b PATH] [--schemes LIST] [--keep-version-tags]\n"
    ++ "         [--ui-index FILE] [-v] PROJECT_PATH"

def UsageProblem.message : UsageProblem → String
  | .unknownArgument => "error: unexpected argument"
  | .invalidValue => "error: invalid or missing value"
  | .argumentConflict => "error: an argument is given more than once"
  | .tooManyValues => "error: unexpected value for a flag"
  | .missingRequiredArgument => "error: a required argument is missing"
  | .displayHelp => "Generates Swagger 2.0 documents from Go gorilla/mux services"
  | .displayVersion => "route-doc 1.0.0"

/-- Whether a problem is an answer that was asked for. -/
def UsageProblem.isAnswer : UsageProblem → Bool
  | .displayHelp | .displayVersion => true
  | _ => false

/-- Checks and runs, and hands out what came of it. -/
def perform (args : Args) : IO UInt32 := do
  let env : Environment := ⟨← IO.getEnv "GOPATH", ← IO.getEnv "HOME"⟩
  let disk ← readDisk args env
  let work : Run Outcome := do
    match ← args.check disk with
    | .error failure => return { disk := disk, result := .error failure }
    | .ok () => run args env disk
  let (outcome, session) := work.run {}
  printJournal session.journal
  [args.output?, args.uiIndex?].forM fun file? =>
    match file? with
    | some file => writeChanged disk outcome.disk file
    | none => pure ()
  IO.print outcome.printed
  match outcome.result with
  | .ok () => return 0
  | .error (.failed (some doing) error) =>
    IO.eprintln ("Error: " ++ doing ++ ": " ++ error.message)
    return 1
  | .error failure =>
    IO.eprintln ("Error: " ++ failure.headline)
    return 1

end RouteDoc.Command

def main (args : List String) : IO UInt32 := do
  match RouteDoc.Command.parse args with
  | .ok args => RouteDoc.Command.perform args
  | .error problem =>
    let text := match problem with
      | .displayVersion => problem.message
      | _ => problem.message ++ "\n\n" ++ RouteDoc.Command.usage
    if problem.isAnswer then
      IO.println text
      return 0
    else
      IO.eprintln text
      return 2
