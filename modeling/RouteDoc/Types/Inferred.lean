/-!
The types that are inferred for parameters and struct fields.
-/

namespace RouteDoc

/-- A type as a document shows it. One with children is an object with these members; one with a
schema type is a primitive; one with neither is unknown. -/
structure InferredType where
  /-- The name of the parameter or member. -/
  name : String := ""
  schemaType? : Option String := none
  isArray : Bool := false
  children : List InferredType := []
  required : Bool := true
  deriving Repr, BEq, Inhabited

namespace InferredType

/-- A type about which nothing is known. -/
def unknown : InferredType :=
  {}

def primitive (schemaType : String) : InferredType :=
  { schemaType? := some schemaType }

def object (children : List InferredType) : InferredType :=
  { children := children }

def isUnknown (type : InferredType) : Bool :=
  type.schemaType?.isNone && type.children.isEmpty

def named (type : InferredType) (name : String) (required : Bool) : InferredType :=
  { type with name := name, required := required }

end InferredType

end RouteDoc
