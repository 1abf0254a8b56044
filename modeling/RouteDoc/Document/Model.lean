import RouteDoc.Document.Schema

/-!
Swagger 2.0 documents.
-/

namespace RouteDoc

/-- A parameter of an operation: one of a body has a schema, any other a type. -/
structure Parameter where
  name : String
  /-- Where the value is passed: in the path, the query, the body or a form. -/
  location : String
  description : String
  required : Bool
  type? : Option String := none
  items? : Option Schema := none
  schema? : Option Schema := none
  deriving Repr, BEq

structure Response where
  description : String
  deriving Repr, DecidableEq

/-- What one method of one path does. -/
structure Operation where
  id : String
  summary : String
  tags : List String
  parameters : List Parameter
  consumes : List String
  /-- Responses by status, in order. -/
  responses : List (String × Response)
  deriving Repr, BEq

structure Info where
  version : String
  title : String
  deriving Repr, DecidableEq

/-- A Swagger document. Paths, and the methods of each path, stand in order. -/
structure Document where
  swagger : String
  info : Info
  host : String
  basePath : String
  schemes : List String
  paths : List (String × List (String × Operation))
  deriving Repr, BEq

/-- What a document says about the API as a whole. -/
structure DocumentConfig where
  title : String := "Generated API"
  version : String := "1.0.0"
  host : String := "localhost"
  /-- A path in front of all routes, which the document leaves out. -/
  basePath : String := "/"
  schemes : List String := ["http", "https"]
  /-- Whether a tag is never a version. -/
  skipVersions : Bool := true
  deriving Repr, DecidableEq

end RouteDoc
