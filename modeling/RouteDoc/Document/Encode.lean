import RouteDoc.Data
import RouteDoc.Document.Model

/-!
Documents as data. Members stand in a fixed order; parts that are absent, and those that may be left
out while empty, are not written.
-/

namespace RouteDoc

namespace Schema

/-- The members of a schema, given the data of its parts. -/
def membersOf (type : String) (items? properties? : Option Data) (required? : Option (List String)) :
    List (String × Data) :=
  [("type", .text type)] ++ Data.member? "items" items? ++ Data.member? "properties" properties?
    ++ Data.member? "required" (required?.map Data.texts)

mutual

def toData : Schema → Data
  | ⟨type, items?, properties?, required?⟩ =>
    .record (membersOf type (itemsData items?) (propertiesData properties?) required?)

def itemsData : Option Schema → Option Data
  | none => none
  | some schema => some schema.toData

def propertiesData : Option (List (String × Schema)) → Option Data
  | none => none
  | some properties => some (.record (entriesData properties))

def entriesData : List (String × Schema) → List (String × Data)
  | [] => []
  | (name, schema) :: rest => (name, schema.toData) :: entriesData rest

end

end Schema

def Parameter.toData (p : Parameter) : Data :=
  .record ([("name", .text p.name), ("in", .text p.location), ("description", .text p.description),
      ("required", .bool p.required)]
    ++ Data.member? "type" (p.type?.map .text)
    ++ Data.member? "items" (p.items?.map Schema.toData)
    ++ Data.member? "schema" (p.schema?.map Schema.toData))

def Response.toData (r : Response) : Data :=
  .record [("description", .text r.description)]

/-- A list of texts as a member, unless it is empty. -/
def textsMember (name : String) (items : List String) : List (String × Data) :=
  if items.isEmpty then [] else [(name, .texts items)]

def Operation.toData (o : Operation) : Data :=
  .record ([("operationId", .text o.id), ("summary", .text o.summary)]
    ++ textsMember "tags" o.tags
    ++ [("parameters", .list (o.parameters.map Parameter.toData))]
    ++ textsMember "consumes" o.consumes
    ++ [("responses", .record (o.responses.map fun (status, r) => (status, r.toData)))])

/-- A text as a member, unless it is empty. -/
def textMember (name text : String) : List (String × Data) :=
  if text.isEmpty then [] else [(name, .text text)]

def Info.toData (info : Info) : Data :=
  .record (textMember "version" info.version ++ textMember "title" info.title)

def Document.toData (d : Document) : Data :=
  .record [
    ("swagger", .text d.swagger),
    ("info", d.info.toData),
    ("host", .text d.host),
    ("basePath", .text d.basePath),
    ("schemes", .texts d.schemes),
    ("paths", .record (d.paths.map fun (path, methods) =>
      (path, .record (methods.map fun (method, operation) => (method, operation.toData)))))]

end RouteDoc
