import RouteDoc.Decode.Reader
import RouteDoc.Json.Read
import RouteDoc.Json.Reader
import RouteDoc.Routes.Entry
import RouteDoc.Yaml.Reader

/-!
Route manifests: the routes of a project listed in a file, as JSON or as YAML, each with a handler or
with a decoder and an endpoint.
-/

namespace RouteDoc.Routes

open RouteDoc.Decode

/-- A symbol in a manifest, and the file that it gives for it. -/
structure SymbolSpec where
  symbol : String
  file? : Option String := none
  deriving Repr, DecidableEq

structure ManifestRoute where
  path? : Option String
  methods? : Option (List String)
  handler? : Option SymbolSpec
  decoder? : Option SymbolSpec
  endpoint? : Option SymbolSpec
  /-- The file of the symbols that give none. -/
  file? : Option String
  deriving Repr, DecidableEq

section

variable {ν : Type} (reader : Reader ν)

/-- A symbol: its text alone, or with a file. -/
def symbolSpec? (value : ν) : Option SymbolSpec := do
  match ← reader.textOrFields? (reader.levels - 3) ["symbol", "file"] value with
  | .text symbol => return ⟨symbol, none⟩
  | .fields [symbol, file] =>
    return ⟨← symbol.bind reader.ownText?, ← reader.optional reader.ownText? false file⟩
  | .fields _ => none

def manifestRoute? (value : ν) : Option ManifestRoute := do
  let ⟨[path, methods, handler, decoder, endpoint, file], positional⟩ ←
    reader.fields? ["path", "methods", "handler", "decoder", "endpoint", "file"] value
    | none
  return {
    path? := ← reader.optional reader.text? positional path
    methods? := ← reader.optional reader.texts? positional methods
    handler? := ← reader.optional (symbolSpec? reader) positional handler
    decoder? := ← reader.optional (symbolSpec? reader) positional decoder
    endpoint? := ← reader.optional (symbolSpec? reader) positional endpoint
    file? := ← reader.optional reader.text? positional file }

def manifestRoutes? (value : ν) : Option (List ManifestRoute) := do
  let ⟨[routes], _⟩ ← reader.fields? ["routes"] value | none
  orDefault [] (fun value => (reader.list? value).bind (List.mapM (manifestRoute? reader))) routes

end

def isJsonPath (path : Path) : Bool :=
  path.extension?.any fun extension => extension.map Char.toLower = "json"

/-- The routes that the text of a manifest at a path lists. -/
def readManifest? (path : Path) (text : String) : Option (List ManifestRoute) :=
  if isJsonPath path then (Json.read? text).bind (manifestRoutes? Json.reader)
  else (Yaml.read? text).bind (manifestRoutes? Yaml.reader)

/-- The symbol of a manifest at `path`. Relative files count from the folder of the manifest. -/
def SymbolSpec.resolve (path : Path) (shared? : Option String) (spec : SymbolSpec) : Symbol :=
  let folder := path.parent?.getD (Path.ofString ".")
  { text := spec.symbol
    file? := (spec.file? <|> shared?).map fun file =>
      let file := Path.ofString file
      if file.isAbsolute then file else folder.join file }

def handlerlessText (index : Nat) : String :=
  "route #" ++ toString (index + 1)
    ++ " needs either \x60handler\x60 or both \x60decoder\x60 and \x60endpoint\x60"

def ManifestRoute.entry (path : Path) (index : Nat) (route : ManifestRoute) :
    Except Error RouteEntry :=
  match route.handler?, route.decoder?, route.endpoint? with
  | some handler, none, none =>
    .ok ⟨route.path?, route.methods?, .func (handler.resolve path route.file?)⟩
  | none, some decoder, some endpoint =>
    .ok ⟨route.path?, route.methods?,
      .kit (decoder.resolve path route.file?) (endpoint.resolve path route.file?)⟩
  | _, _, _ => .error (.manifest path (handlerlessText index))

def manifestEntries (path : Path) : Nat → List ManifestRoute → Except Error (List RouteEntry)
  | _, [] => .ok []
  | index, route :: routes => do
    let entry ← route.entry path index
    let rest ← manifestEntries path (index + 1) routes
    return entry :: rest

/-- The table of the routes listed in the manifest at `path`. -/
def manifestTable (disk : Disk) (path : Path) : RouteTable := do
  match disk.read path with
  | .error why => return .error (.manifest path why.message)
  | .ok text =>
    match readManifest? path text with
    | none => return .error (.manifest path "malformed manifest")
    | some routes =>
      match manifestEntries path 0 routes with
      | .error error => return .error error
      | .ok entries =>
        Run.info ("Manifest lists " ++ toString entries.length ++ " routes")
        return .ok entries

end RouteDoc.Routes
