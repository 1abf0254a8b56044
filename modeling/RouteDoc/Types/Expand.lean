import RouteDoc.Go.Imports
import RouteDoc.Go.JsonTag
import RouteDoc.Go.TypeDecl
import RouteDoc.Source.File
import RouteDoc.Text.LetterCase
import RouteDoc.Types.Inferred
import RouteDoc.Types.Token

/-!
One level of type expansion: from a token or a definition to an inferred type, given a way to expand
the declared types that it names. The way is a parameter, so that an expansion that remembers what it
has seen and one that does not share all rules but those of memory.
-/

namespace RouteDoc.Types

open RouteDoc.Go RouteDoc.Text

/-- Where a token stands: the file, whose imports it may use, and the folder of its package. -/
structure Scope where
  file : SourceFile
  folder : Path
  deriving Repr, DecidableEq

/-- What an expansion relies on. -/
structure Surroundings (m : Type → Type) where
  /-- The imports of a file. -/
  imports : SourceFile → m Imports
  /-- The folder of the package with an import path. -/
  folder? : String → Option Path
  warn : String → m Unit
  /-- The type that a name declares in the package of a folder. -/
  declared : Path → List Char → m InferredType

def noPackageText (label name : List Char) : String :=
  "Could not locate package " ++ String.ofList label ++ " for type "
    ++ String.ofList (label ++ '.' :: name)

variable {m : Type → Type} [Monad m]

def expandBase (around : Surroundings m) (scope : Scope) : Base → m InferredType
  | .schema type => return .primitive type
  | .shapeless => return .unknown
  | .own name => around.declared scope.folder name
  | .imported label name => do
    let imports ← around.imports scope.file
    match (Assoc.get? (String.ofList label) imports).bind around.folder? with
    | some folder => around.declared folder name
    | none =>
      around.warn (noPackageText label name)
      return .unknown

/-- The type that a token stands for. -/
def expandToken (around : Surroundings m) (scope : Scope) (token : List Char) :
    m InferredType := do
  let (isArray, base) := readToken token
  let type ← expandBase around scope base
  return { type with isArray := type.isArray || isArray }

/-- Whether a field of this name shows outside its package. -/
def isExported (name : List Char) : Bool :=
  startsUpper name

def isPointer (token : List Char) : Bool :=
  token.head? = some '*'

/-- The name that an embedded type gives its field. -/
def embeddedName (type : List Char) : List Char :=
  let bare := type.dropWhile (· == '*')
  (split '.' bare).getLast?.getD bare

/-- The types of fields that share one token; each name is expanded on its own. -/
def expandNames (around : Surroundings m) (scope : Scope) (type : List Char) (tag : JsonTag) :
    List (List Char) → m (List InferredType)
  | [] => return []
  | name :: names => do
    let type' ← expandToken around scope type
    let shown := String.ofList (tag.name?.getD name)
    let rest ← expandNames around scope type tag names
    return type'.named shown (!tag.omitEmpty && !isPointer type) :: rest

/-- The types that an embedded field gives: the members of its struct, unless it has a name of its
own or is no struct with members; then it is a field like any other. -/
def expandEmbedded (around : Surroundings m) (scope : Scope) (type : List Char) (tag : JsonTag) :
    m (List InferredType) := do
  let members ←
    if tag.name?.isNone then
      let embedded ← expandToken around scope type
      pure (if embedded.isArray then [] else embedded.children)
    else pure []
  if members.isEmpty then expandNames around scope type tag [embeddedName type]
  else return members

mutual

def expandField (around : Surroundings m) (scope : Scope) : Field → m (List InferredType)
  | .plain names type tag? =>
    let tag := JsonTag.read tag?
    if tag.skip then return []
    else expandNames around scope type tag (names.filter isExported)
  | .embedded type tag? =>
    let tag := JsonTag.read tag?
    if tag.skip then return []
    else expandEmbedded around scope type tag
  | .nested name lead fields tag? =>
    let tag := JsonTag.read tag?
    if tag.skip || !isExported name then return []
    else do
      let children ← expandFields around scope fields
      let shown := String.ofList (tag.name?.getD name)
      let type : InferredType :=
        { children := children, isArray := startsWith ['[', ']'] lead }
      return [type.named shown (!tag.omitEmpty && !isPointer lead)]

def expandFields (around : Surroundings m) (scope : Scope) : List Field → m (List InferredType)
  | [] => return []
  | field :: fields => do
    let first ← expandField around scope field
    let rest ← expandFields around scope fields
    return first ++ rest

end

def expandDefinition (around : Surroundings m) (scope : Scope) : TypeDefinition → m InferredType
  | .struct fields => return .object (← expandFields around scope fields)
  | .interface => return .primitive "object"
  | .named token => expandToken around scope token

end RouteDoc.Types
