import RouteDoc.Document.Model
import RouteDoc.Document.Route
import RouteDoc.Document.Template
import RouteDoc.Words

/-!
Documents from routes. Each method of a route is an operation with a number of its own; an operation
takes the place of an earlier one at the same path and method.
-/

namespace RouteDoc

/-- Operations by path and method, and how many have been made so far. -/
structure Assembly where
  paths : List (String × List (String × Operation)) := []
  count : Nat := 0
  deriving Repr

namespace Parameter

/-- A parameter outside the body. -/
def simple (location : String) (required : Bool) (type : InferredType) : Parameter :=
  let schema := Schema.ofType type
  { name := type.name
    location := location
    description := Words.humanize type.name
    required := required
    type? := some schema.type
    items? := schema.items? }

def ofBody (type : InferredType) : Parameter :=
  { name := type.name
    location := "body"
    description := Words.humanize type.name
    required := true
    schema? := some (Schema.ofType type) }

/-- The parameters of a route: path, query, body, form. -/
def ofRoute (holder : RouteHolder) : List Parameter :=
  holder.path.map (simple "path" true)
    ++ holder.query.map (fun type => simple "query" type.required type)
    ++ holder.body?.toList.map ofBody
    ++ holder.form.map (simple "formData" true)

end Parameter

def DocumentConfig.pathOf (config : DocumentConfig) (route : String) : String :=
  String.ofList (Template.documentPath config.basePath.toList route.toList)

def RouteHolder.operationName (holder : RouteHolder) : String :=
  if holder.name.isEmpty then "operation" else holder.name

/-- The operation of a route with the given number. -/
def Operation.ofRoute (config : DocumentConfig) (holder : RouteHolder) (number : Nat) : Operation :=
  { id := holder.operationName ++ "_" ++ toString number
    summary := Words.humanize holder.operationName
    tags := (Template.tag? config.skipVersions (config.pathOf holder.route).toList).toList.map
      String.ofList
    parameters := Parameter.ofRoute holder
    consumes := if holder.form.isEmpty then [] else ["multipart/form-data"]
    responses := [("200", ⟨"successful operation"⟩)] }

namespace Assembly

def put (assembly : Assembly) (path method : String) (operation : Operation) : Assembly :=
  let methods := (Assoc.get? path assembly.paths).getD []
  { paths := Assoc.putSorted Assoc.nameBefore path
      (Assoc.putSorted Assoc.nameBefore method operation methods) assembly.paths
    count := assembly.count + 1 }

def addMethod (config : DocumentConfig) (holder : RouteHolder) (assembly : Assembly)
    (method : String) : Assembly :=
  assembly.put (config.pathOf holder.route) (String.ofList (Text.toLower method.toList))
    (.ofRoute config holder assembly.count)

def addRoute (config : DocumentConfig) (assembly : Assembly) (holder : RouteHolder) : Assembly :=
  holder.methods.foldl (addMethod config holder) assembly

end Assembly

/-- The document of the given routes, added in order. -/
def Document.build (config : DocumentConfig) (holders : List RouteHolder) : Document :=
  { swagger := "2.0"
    info := ⟨config.version, config.title⟩
    host := config.host
    basePath := config.basePath
    schemes := config.schemes
    paths := (holders.foldl (Assembly.addRoute config) {}).paths }

end RouteDoc
