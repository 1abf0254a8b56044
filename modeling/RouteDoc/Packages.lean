import RouteDoc.Go.Imports
import RouteDoc.Project.Files

/-!
Packages: which folder an import path means, and back. A locator knows one way of laying packages
out; a chain asks its locators in order and takes the first answer.
-/

namespace RouteDoc

open RouteDoc.Text

/-- The settings of the environment that packages depend on. -/
structure Environment where
  gopath? : Option String := none
  home? : Option String := none
  deriving Repr, DecidableEq

/-- One way of finding packages. -/
inductive Locator where
  /-- The packages of a module at its root, and those in its vendor folder. -/
  | module (modulePath : String) (root : Path)
  /-- The packages below the `src` folders of some workspaces. -/
  | workspaces (folders : List Path)
  /-- The folders below a root, by their relative paths. -/
  | sourceRoot (root : Path)
  deriving Repr, DecidableEq

/-- Locators in the order in which they are asked. -/
abbrev Packages := List Locator

/-- The folder that a slash-separated path leads to from `base`. -/
def joinImportPath (base : Path) (relative : List Char) : Path :=
  ((split '/' relative).filter (fun segment => !segment.isEmpty)).foldl
    (fun folder segment => folder.entry (String.ofList segment)) base

/-- The slash-separated path that leads from `base` to `folder`. -/
def relativeImportPath? (base folder : Path) : Option String :=
  (base.namesBelow? folder).map fun names => "/".intercalate names

namespace Locator

/-- The locator of the module whose file is nearest at or above `start`. -/
def discover (disk : Disk) (start : Path) : Option Locator := do
  let folders := (disk.canonicalOrSelf start).ancestors
  let folder ← folders.find? fun folder => disk.isFile (folder.entry "go.mod")
  let content ← (disk.read (folder.entry "go.mod")).toOption
  let modulePath ← Go.modulePath? content.toList
  return .module (String.ofList modulePath) folder

/-- The locator of the workspaces that the environment names, `go` in the home folder by default. -/
def ofEnvironment (env : Environment) : Locator :=
  match env.gopath? with
  | some value =>
    if value = "" then fromHome else .workspaces ((split ':' value.toList).map folderOf)
  | none => fromHome
where
  folderOf (piece : List Char) : Path := Path.ofString (String.ofList piece)
  fromHome : Locator := .workspaces (env.home?.toList.map fun home => (Path.ofString home).entry "go")

/-- The folder of a package of the module itself, whether it is there or not. -/
def ownFolder? (modulePath : String) (root : Path) (importPath : String) : Option Path :=
  if importPath = modulePath then some root
  else match after? modulePath.toList importPath.toList with
    | some ('/' :: rest) => some (joinImportPath root rest)
    | _ => none

/-- The folder of the package with this import path. -/
def packageFolder? (disk : Disk) (importPath : String) : Locator → Option Path
  | .module modulePath root =>
    match (ownFolder? modulePath root importPath).filter disk.isFolder with
    | some folder => some folder
    | none =>
      let vendored := joinImportPath (root.entry "vendor") importPath.toList
      if disk.isFolder vendored then some vendored else none
  | .workspaces folders =>
    (folders.map fun folder => joinImportPath (folder.entry "src") importPath.toList).find?
      disk.isFolder
  | .sourceRoot root =>
    let folder := joinImportPath root importPath.toList
    if disk.isFolder folder then some folder else none

/-- The import path of a package of a module, from the path that leads to it from the root. -/
def moduleImportPath (modulePath relative : String) : String :=
  if relative = "" then modulePath
  else match after? ['v', 'e', 'n', 'd', 'o', 'r', '/'] relative.toList with
    | some vendored => String.ofList vendored
    | none => modulePath ++ "/" ++ relative

def importPath? (disk : Disk) (folder : Path) : Locator → Option String
  | .module modulePath root =>
    (relativeImportPath? (disk.canonicalOrSelf root) (disk.canonicalOrSelf folder)).map
      (moduleImportPath modulePath)
  | .workspaces folders =>
    (folders.findSome? fun base => relativeImportPath? (base.entry "src") folder).filter
      (fun path => !path.isEmpty)
  | .sourceRoot root => (relativeImportPath? root folder).filter fun path => !path.isEmpty

end Locator

namespace Packages

/-- The chain of a project: its module if it has one, the folders below its root, then the
workspaces of the environment. -/
def ofProject (disk : Disk) (env : Environment) (root : Path) : Packages :=
  (Locator.discover disk root).toList ++ [.sourceRoot root, .ofEnvironment env]

def folder? (packages : Packages) (disk : Disk) (importPath : String) : Option Path :=
  packages.findSome? fun locator => locator.packageFolder? disk importPath

def importPath? (packages : Packages) (disk : Disk) (folder : Path) : Option String :=
  packages.findSome? fun locator => locator.importPath? disk folder

/-- The Go files of the package with this import path, in order. -/
def files (packages : Packages) (disk : Disk) (importPath : String) : Except Error (List Path) :=
  match packages.folder? disk importPath with
  | none => .error (.io (.unknownPackage importPath))
  | some folder =>
    match disk.packageFiles folder with
    | .ok files => .ok files
    | .error why => .error (.io (.fault why))

end Packages

/-- Any way of telling the folder of a package from its import path and the files. -/
structure PackageFinder where
  folder? : Disk → String → Option Path

instance : Coe Packages PackageFinder := ⟨fun packages => ⟨packages.folder?⟩⟩

end RouteDoc
