import RouteDoc.Assoc
import RouteDoc.Types.Inferred

/-!
Schemas of Swagger documents, and the schema of an inferred type. Members keep their order; of two
members with one name the later gives the schema.
-/

namespace RouteDoc

/-- A schema. Each part but the type may be absent. -/
structure Schema where
  type : String
  items? : Option Schema := none
  properties? : Option (List (String × Schema)) := none
  required? : Option (List String) := none
  deriving Repr, BEq

namespace Schema

def array (items : Schema) : Schema :=
  { type := "array", items? := some items }

/-- The names of the required members, each once. -/
def requiredNames (children : List InferredType) : List String :=
  children.foldl (fun names child =>
    if child.required && !names.contains child.name then names ++ [child.name] else names) []

/-- The list, or nothing if it is empty. -/
def unlessEmpty (names : List String) : Option (List String) :=
  if names.isEmpty then none else some names

mutual

def ofType : InferredType → Schema
  | ⟨_, schemaType?, isArray, children, _⟩ =>
    let element : Schema :=
      if children.isEmpty then { type := schemaType?.getD "object" }
      else
        { type := "object"
          properties? := some (propertiesFrom [] children)
          required? := unlessEmpty (requiredNames children) }
    if isArray then array element else element

/-- The properties found so far with those of the given members. -/
def propertiesFrom (found : List (String × Schema)) : List InferredType → List (String × Schema)
  | [] => found
  | child :: rest => propertiesFrom (Assoc.put child.name (ofType child) found) rest

end

end Schema

end RouteDoc
