import RouteDoc.Document.Build
import RouteDoc.Go.Reads
import RouteDoc.Handler.Locate
import RouteDoc.Routes.Entry
import RouteDoc.Types.Resolve

/-!
From a route table to a document. Every route with a path has its handler found and its body read;
what the handler reads becomes the parameters of the route. A route whose handler is not to be had is
left out with a warning, and the others do not notice; only a table that cannot be listed ends the
whole.
-/

namespace RouteDoc

/-- What documents are generated from: the files, the packages, and the way handlers are found. -/
structure Generator where
  disk : Disk
  packages : Packages
  locate : HandlerLocator

namespace RouteHolder

/-- The holder with one more parameter. Of several bodies the first counts. -/
def addRead (holder : RouteHolder) (kind : Go.ReadKind) (type : InferredType) : RouteHolder :=
  match kind with
  | .path => { holder with path := holder.path ++ [type] }
  | .query => { holder with query := holder.query ++ [type] }
  | .body => { holder with body? := holder.body?.or (some type) }
  | .formFile | .formValue => { holder with form := holder.form ++ [type] }

end RouteHolder

namespace Generator

open RouteDoc.Types

/-- A generator that finds handlers in the sources. -/
def ofSources (disk : Disk) (packages : Packages) : Generator :=
  ⟨disk, packages, Handler.locate disk packages⟩

/-- The file in which a handler is declared, with the place of the declaration. -/
def sourceOf (g : Generator) (symbol : Symbol) : Run (Except Error (Location × SourceFile)) := do
  match ← g.locate symbol with
  | .error error => return .error error
  | .ok location =>
    match ← load g.disk location.file with
    | .error error => return .error error
    | .ok file => return .ok (location, file)

/-- Adds what a handler reads to a holder, read by read. -/
def addReads (g : Generator) (body : Body) : RouteHolder → List Go.Read → Resolve RouteHolder
  | holder, [] => return holder
  | holder, read :: reads => do
    let type ← resolveRead g.disk g.packages body read
    addReads g body (holder.addRead read.kind type) reads

/-- What a handler found at `location` says about a route. -/
def holderAt (g : Generator) (base : RouteHolder) (symbol : Symbol) (location : Location)
    (file : SourceFile) : Resolve RouteHolder :=
  let scan := Go.scanHandler file.lines location.line
  let folder := packageFolder g.disk g.packages location.package location.file
  addReads g ⟨⟨file, folder⟩, location.line, scan.stop⟩
    { base with name := scan.name?.getD symbol.name } scan.reads

def handlerHolder (g : Generator) (base : RouteHolder) (symbol : Symbol) :
    Resolve (Except Error RouteHolder) := do
  match ← g.sourceOf symbol with
  | .error error => return .error error
  | .ok (location, file) => return .ok (← g.holderAt base symbol location file)

/-- The name that an endpoint gives to its route: that of the service method it calls, or else its
own. -/
def endpointName (g : Generator) (route : String) (endpoint : Symbol) : Run String := do
  match ← g.locate endpoint with
  | .error error =>
    Run.warn ("Endpoint not located for " ++ route ++ ": " ++ error.message)
    return endpoint.name
  | .ok location =>
    match ← load g.disk location.file with
    | .error error =>
      Run.warn ("Endpoint body unreadable for " ++ route ++ ": " ++ error.message)
      return endpoint.name
    | .ok file => return (Go.scanEndpoint file.lines location.line).getD endpoint.name

/-- The holders of one route: none when its handler is not to be had, and a second one for the name
when an endpoint stands behind the decoder. -/
def routeHolders (g : Generator) (base : RouteHolder) (handler : HandlerRef) :
    Resolve (List RouteHolder) := do
  let reader := match handler with
    | .func symbol => symbol
    | .kit decoder _ => decoder
  match ← g.handlerHolder base reader with
  | .error error =>
    Run.warn ("Skipping route " ++ base.route ++ ": " ++ error.message)
    return []
  | .ok holder =>
    match handler with
    | .func _ => return [holder]
    | .kit _ endpoint =>
      let name ← g.endpointName base.route endpoint
      return [holder, { base with name := name, isEndpoint := true }]

/-- The holders of the routes that have a path, numbered from `id` on. -/
def entryHolders (g : Generator) (id : Nat) : List RouteEntry → Resolve (List RouteHolder)
  | [] => return []
  | entry :: entries => do
    match entry.path? with
    | none => entryHolders g id entries
    | some route =>
      let base : RouteHolder :=
        { id := id, route := route, methods := entry.methods?.getD [] }
      let holders ← g.routeHolders base entry.handler
      return holders ++ (← entryHolders g (id + 1) entries)

/-- The error of a table that cannot be listed: one of listing or of the manifest stays, any other is
taken for one of listing. -/
def tableError : Error → Error
  | .enumeration text => .enumeration text
  | .manifest path text => .manifest path text
  | error => .enumeration error.message

/-- The holders of a table's routes, one per route, in the order of their registration. -/
def collect (g : Generator) (table : RouteTable) : Resolve (Except Error (List RouteHolder)) := do
  match ← table with
  | .error error => return .error (tableError error)
  | .ok entries =>
    Run.info ("Route table lists " ++ toString entries.length ++ " routes")
    let holders := RouteHolder.merge (← g.entryHolders 0 entries)
    Run.info ("Collected " ++ toString holders.length ++ " routes")
    return .ok holders

def generate (g : Generator) (config : DocumentConfig) (table : RouteTable) :
    Resolve (Except Error Document) := do
  match ← g.collect table with
  | .error error => return .error error
  | .ok holders =>
    let document := Document.build config holders
    let reads := (← getThe Session).cache.reads
    Run.info ("Swagger document built: " ++ toString document.paths.length ++ " paths, "
      ++ toString reads ++ " source files read")
    return .ok document

end Generator

end RouteDoc
