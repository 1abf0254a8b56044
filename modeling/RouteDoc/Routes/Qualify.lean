import RouteDoc.Go.Binding
import RouteDoc.Packages
import RouteDoc.Routes.Entry
import RouteDoc.Routes.Registration

/-!
From a handler expression in a file to the symbols that it means. An identifier behind an import alias
belongs to the imported package; a method value belongs to the type of its owner, which is sought
among the bindings of the file or the struct fields of the package; anything else is taken to be
declared in the package of the file.
-/

namespace RouteDoc.Routes

open RouteDoc.Go RouteDoc.Text

/-- A file with its imports and the import path of its package. -/
structure FileContext where
  file : SourceFile
  imports : Imports
  package : String
  deriving Repr

/-- A named type: the import path of its package, and its name. -/
structure BoundType where
  package : String
  name : List Char
  deriving Repr, DecidableEq

def packageClause? (line : List Char) : Option (List Char) := do
  let rest ← blanks? (← after? ['p', 'a', 'c', 'k', 'a', 'g', 'e'] line)
  return (← ident? rest).1

/-- What is known about a file. A package that no locator knows goes by the name in its clause. -/
def FileContext.of (disk : Disk) (packages : Packages) (file : SourceFile) : FileContext :=
  { file := file
    imports := fileImports file.lines
    package :=
      match file.path.parent?.bind (packages.importPath? disk) with
      | some path => path
      | none =>
        match file.lines.findSome? packageClause? with
        | some name => String.ofList name
        | none => "main" }

def siblings (disk : Disk) (file : Path) : List Path :=
  match file.parent?.map disk.packageFiles with
  | some (.ok files) => files.filter fun other => !disk.sameFile other file
  | _ => []

/-- The import path of the package behind an alias, or of the file's own package. -/
def packageOf? (ctx : FileContext) : Option (List Char) → Option String
  | some label => Assoc.get? (String.ofList label) ctx.imports
  | none => some ctx.package

/-- The first of the files that can be loaded and answers. -/
def firstAnswer {α : Type} (disk : Disk) (ask : SourceFile → Option α) :
    List Path → Run (Option α)
  | [] => return none
  | path :: paths => do
    match ← load disk path with
    | .error _ => firstAnswer disk ask paths
    | .ok file =>
      match ask file with
      | some answer => return some answer
      | none => firstAnswer disk ask paths

/-- The file of the package that declares a function or method: the given one, or else one of its
siblings, under the path that it is listed by. -/
def findInPackage (disk : Disk) (file : SourceFile) (receiver? : Option (List Char))
    (name : List Char) : Run (Option Path) :=
  if (findFunction file.lines receiver? name).isSome then return some file.path
  else searchSiblings (siblings disk file.path)
where
  searchSiblings : List Path → Run (Option Path)
    | [] => return none
    | path :: paths => do
      match ← load disk path with
      | .error _ => searchSiblings paths
      | .ok other =>
        if (findFunction other.lines receiver? name).isSome then return some path
        else searchSiblings paths

/-- The type that a declaration of `function` in the file gives first, if the file declares it; an
answer of `none` inside ends the search. -/
def declaredResult (package : String) (function : List Char) (file : SourceFile) :
    Option (Option BoundType) :=
  match findFunction file.lines none function with
  | none => none
  | some index =>
    some do
      let type ← resultType? (file.lines.getD index []) function
      match type.alias? with
      | some label =>
        return ⟨← Assoc.get? (String.ofList label) (fileImports file.lines), type.name⟩
      | none => return ⟨package, type.name⟩

/-- The type that a function of a package returns, read from its declaration. -/
def constructorResult (disk : Disk) (packages : Packages) (ctx : FileContext) (package : String)
    (function : List Char) : Run (Option BoundType) := do
  let files? :=
    if package = ctx.package then some (ctx.file.path :: siblings disk ctx.file.path)
    else (packages.files disk package).toOption
  match files? with
  | none => return none
  | some files => return (← firstAnswer disk (declaredResult package function) files).join

/-- The type that a constructor's name promises. -/
def promisedType? (package : String) (function : List Char) : Option BoundType :=
  match after? ['N', 'e', 'w'] function with
  | some [] => none
  | some name => some ⟨package, name⟩
  | none => none

def bindingType (disk : Disk) (packages : Packages) (ctx : FileContext) :
    Binding → Run (Option BoundType)
  | .type name => return (packageOf? ctx name.alias?).map fun package => ⟨package, name.name⟩
  | .call function => do
    match packageOf? ctx function.alias? with
    | none => return none
    | some package =>
      match ← constructorResult disk packages ctx package function.name with
      | some type => return some type
      | none => return promisedType? package function.name

/-- The type of the owner of a method value: of a variable of the file, or of a field of a struct in
the package. -/
def boundType (disk : Disk) (packages : Packages) (ctx : FileContext) :
    List (List Char) → Run (Option BoundType)
  | [] => return none
  | [owner] =>
    match variableBinding? ctx.file.lines owner with
    | some binding => bindingType disk packages ctx binding
    | none => return none
  | _ :: rest => do
    let field := rest.getLast?.getD []
    let files := ctx.file.path :: siblings disk ctx.file.path
    let ask := fun file => (fieldBinding? file.lines field).map fun type => (file, type)
    match ← firstAnswer disk ask files with
    | none => return none
    | some (file, type) =>
      let ctx := if disk.sameFile file.path ctx.file.path then ctx else .of disk packages file
      bindingType disk packages ctx (.type type)

/-- A symbol with the file that declares it, if the package of the file does. -/
def attachFile (disk : Disk) (ctx : FileContext) (receiver? : Option (List Char))
    (name : List Char) (symbol : Symbol) : Run Symbol := do
  return { symbol with file? := ← findInPackage disk ctx.file receiver? name }

/-- The symbol that a chain of identifiers means in a file. -/
def qualify (disk : Disk) (packages : Packages) (ctx : FileContext) (chain : List Char) :
    Run Symbol := do
  let segments := split '.' chain
  let name := segments.getLast?.getD chain
  let owner := segments.dropLast
  match owner.head?.bind fun label => Assoc.get? (String.ofList label) ctx.imports with
  | some importPath => return .function importPath (String.ofList name)
  | none =>
    match ← boundType disk packages ctx owner with
    | some type =>
      let symbol := Symbol.method type.package (String.ofList type.name) (String.ofList name)
      if type.package = ctx.package then attachFile disk ctx (some type.name) name symbol
      else return symbol
    | none =>
      attachFile disk ctx none name (.function ctx.package (String.ofList name))

/-- The symbols of a handler expression. -/
def qualifyHandler (disk : Disk) (packages : Packages) (ctx : FileContext) :
    HandlerExpr → Run HandlerRef
  | .func chain => return .func (← qualify disk packages ctx chain)
  | .kit decoder endpoint => do
    let decoder ← qualify disk packages ctx decoder
    let endpoint ← qualify disk packages ctx endpoint
    return .kit decoder endpoint

end RouteDoc.Routes
