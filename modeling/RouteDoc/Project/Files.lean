import RouteDoc.Source.Cache

/-!
The Go files of a package and of a project. A package is the files directly in its folder; a project
is everything below its root, except hidden files and folders and the folders `vendor` and
`testdata`. Test files never count.
-/

namespace RouteDoc

open RouteDoc.Text

/-- Whether a path names a Go source file that is no test file. -/
def Path.isGoSource (p : Path) : Bool :=
  p.extension? = some "go" &&
    !(p.fileName?.any fun name =>
      endsWith ['_', 't', 'e', 's', 't', '.', 'g', 'o'] name.toList)

def sortPaths (paths : List Path) : List Path :=
  paths.mergeSort Path.le

namespace Disk

/-- The Go files directly in a folder, in order. -/
def packageFiles (disk : Disk) (folder : Path) : Except Fault (List Path) :=
  match disk.entries folder with
  | .error fault => .error fault
  | .ok entries =>
    .ok (sortPaths (entries.filterMap fun (name, node) =>
      let path := folder.entry name
      if !node.isFolder && path.isGoSource then some path else none))

end Disk

namespace Project

/-- Whether a scan passes over an entry below its root. -/
def isIgnored (name : String) (node : Node) : Bool :=
  name.toList.head? = some '.' || (node.isFolder && (name = "vendor" || name = "testdata"))

mutual

/-- The Go files at and below a node that lies at `path`. -/
def filesAt (path : Path) : Node → List Path
  | .file _ => if path.isGoSource then [path] else []
  | .folder entries => filesBelow path entries

def filesBelow (path : Path) : List (String × Node) → List Path
  | [] => []
  | (name, node) :: rest =>
    (if isIgnored name node then [] else filesAt (path.entry name) node) ++ filesBelow path rest

end

def accessWarning (root : Path) (fault : Fault) : String :=
  "Failed to access path: IO error for operation on " ++ root.toString ++ ": " ++ fault.message

/-- The Go files of the project at `root`, in order, or the fault that keeps the root from being
scanned. -/
def files (disk : Disk) (root : Path) : Except Fault (List Path) :=
  match disk.node root with
  | .ok node => .ok (sortPaths (filesAt root node))
  | .error fault => .error fault

/-- The Go files of a project and the warnings met on the way, which are reported. -/
def scan (disk : Disk) (root : Path) : Run (List Path × List String) := do
  match files disk root with
  | .ok found => return (found, [])
  | .error fault =>
    let warning := accessWarning root fault
    Run.warn warning
    return ([], [warning])

end Project

end RouteDoc
