import RouteDoc.Go.LocalType
import RouteDoc.Packages
import RouteDoc.Types.Expand

/-!
Expansion of declared types across files and packages. A declared type is known by its folder and
name. While it is expanded it stands on a stack, and a type met again on the stack is left unknown. A
finished type is remembered unless a cycle was cut below it, since what it looks like then depends on
where the cycle was entered.
-/

namespace RouteDoc.Types

open RouteDoc.Go

/-- A declared type: the folder of its package, and its name. -/
abbrev TypeKey := List Component × List Char

/-- What a resolver remembers. -/
structure Memo where
  /-- Finished types. -/
  types : List (TypeKey × InferredType) := []
  /-- The types being expanded, innermost first. -/
  stack : List TypeKey := []
  /-- How often a cycle was cut. -/
  cuts : Nat := 0
  /-- Imports by file. -/
  imports : List (List Component × Imports) := []
  deriving Repr

namespace Memo

/-- One more type is being expanded. -/
def enter (key : TypeKey) (memo : Memo) : Memo :=
  { memo with stack := key :: memo.stack }

/-- A cycle is cut. -/
def cut (memo : Memo) : Memo :=
  { memo with cuts := memo.cuts + 1 }

/-- The innermost type is finished. It is remembered if no more cycles have been cut than the `cuts`
from before it was entered. -/
def leave (key : TypeKey) (type : InferredType) (cuts : Nat) (memo : Memo) : Memo :=
  { memo with
    stack := memo.stack.tail
    types := if memo.cuts = cuts then (key, type) :: memo.types else memo.types }

def keepImports (file : SourceFile) (imports : Imports) (memo : Memo) : Memo :=
  { memo with imports := (file.path.components, imports) :: memo.imports }

end Memo

abbrev Resolve := StateT Memo Run

/-- The first of the files that declares the type, with its definition. Files that cannot be loaded
are passed over. -/
def definitionIn (disk : Disk) (name : List Char) :
    List Path → Run (Option (SourceFile × TypeDefinition))
  | [] => return none
  | path :: paths => do
    match ← load disk path with
    | .error _ => definitionIn disk name paths
    | .ok file =>
      match definition? file.lines name with
      | some definition => return some (file, definition)
      | none => definitionIn disk name paths

def findDefinition (disk : Disk) (folder : Path) (name : List Char) :
    Run (Option (SourceFile × TypeDefinition)) := do
  match disk.packageFiles folder with
  | .ok files => definitionIn disk name files
  | .error why =>
    Run.warn ("Failed to list package " ++ folder.toString ++ ": "
      ++ (Error.io (.fault why)).message)
    return none

section

-- Every monad that carries the memory and can run steps: the resolver's own, and one that watches it.
variable {m : Type → Type} [Monad m] [MonadStateOf Memo m] [MonadLiftT Run m]

/-- The imports of a file, read from its lines on first use. -/
def importsOf (file : SourceFile) : m Imports := do
  match Assoc.get? file.path.components (← get).imports with
  | some imports => return imports
  | none =>
    let imports := fileImports file.lines
    modify (Memo.keepImports file imports)
    return imports

/-- What a definition is expanded with, where `below` expands the declared types that it names. -/
def surroundingsOver (disk : Disk) (packages : PackageFinder)
    (below : Path → List Char → m InferredType) : Surroundings m :=
  { imports := importsOf
    folder? := packages.folder? disk
    warn := fun text => Run.warn text
    declared := below }

/-- The type that the definition of a name in a folder stands for; without a definition it is
unknown. -/
def definedType (disk : Disk) (packages : PackageFinder)
    (below : Path → List Char → m InferredType) (folder : Path) (name : List Char) :
    m InferredType := do
  match ← findDefinition disk folder name with
  | some (file, definition) =>
    expandDefinition (surroundingsOver disk packages below) ⟨file, folder⟩ definition
  | none =>
    Run.warn ("Could not resolve type " ++ String.ofList name ++ " in " ++ folder.toString)
    return .unknown

/-- The type that a name declares in the package of a folder, where `below` expands the declared types
that its definition names. -/
def declaredType (disk : Disk) (packages : PackageFinder)
    (below : Path → List Char → m InferredType) (folder : Path) (name : List Char) :
    m InferredType := do
  let folder := disk.canonicalOrSelf folder
  let key : TypeKey := (folder.components, name)
  let memo ← get
  match Assoc.get? key memo.types with
  | some type => return type
  | none =>
    if key ∈ memo.stack then
      Run.warn ("Circular reference detected for type: " ++ String.ofList name)
      modify Memo.cut
      return .unknown
    else
      modify (Memo.enter key)
      let type ← definedType disk packages below folder name
      modify (Memo.leave key type memo.cuts)
      return type

/-- The type that a name declares in the package of a folder, through at most `n` declarations. -/
def resolveDeclared (disk : Disk) (packages : PackageFinder) :
    Nat → Path → List Char → m InferredType
  | 0, _, _ => return .unknown
  | n + 1, folder, name => declaredType disk packages (resolveDeclared disk packages n) folder name

end

/-- More declarations than a chain of distinct ones on the disk can have: every declaration takes a
line of its own. -/
def chainBound (disk : Disk) : Nat :=
  disk.tree.size + 2

/-- What tokens are expanded with. -/
def surroundings (disk : Disk) (packages : PackageFinder) : Surroundings Resolve :=
  surroundingsOver disk packages (resolveDeclared disk packages (chainBound disk))

/-- The type that a token stands for in a file of the package in `folder`. -/
def resolveType (disk : Disk) (packages : PackageFinder) (scope : Scope) (token : List Char) :
    Resolve InferredType :=
  expandToken (surroundings disk packages) scope token

/-- A handler's body: its file and package, and the lines from `start` up to `stop`. -/
structure Body where
  scope : Scope
  start : Nat
  stop : Nat
  deriving Repr, DecidableEq

/-- The type of a local variable of a handler; without a declaration it is a string. -/
def resolveLocal (disk : Disk) (packages : PackageFinder) (body : Body) (name : List Char) :
    Resolve InferredType :=
  match localType? body.scope.file.lines body.start body.stop name with
  | some token => resolveType disk packages body.scope token
  | none => return .primitive "string"

/-- The type of what a handler reads. Only query values may be left out. -/
def resolveRead (disk : Disk) (packages : PackageFinder) (body : Body) (read : Read) :
    Resolve InferredType := do
  let type ← match read.kind with
    | .formFile => pure (.primitive "file")
    | .formValue => pure (.primitive "string")
    | _ => resolveLocal disk packages body read.name.toList
  return type.named read.name (read.kind != .query)

/-- The folder of a handler's package: that of its import path, or else that of its file. -/
def packageFolder (disk : Disk) (packages : PackageFinder) (importPath : String) (file : Path) : Path :=
  match packages.folder? disk importPath with
  | some folder => folder
  | none => file.parent?.getD (Path.ofString ".")

end RouteDoc.Types
