import RouteDoc.Assoc
import RouteDoc.Types.Inferred

/-!
What is known about a route once its handler has been read, and how what a decoder and what an
endpoint say about one route come together.
-/

namespace RouteDoc

/-- A route with the parameters that its handler reads. -/
structure RouteHolder where
  /-- The place of the route among the registered ones. -/
  id : Nat := 0
  route : String := ""
  methods : List String := []
  name : String := ""
  path : List InferredType := []
  query : List InferredType := []
  body? : Option InferredType := none
  form : List InferredType := []
  /-- Only the name counts, which is that of an endpoint. -/
  isEndpoint : Bool := false
  deriving Repr, BEq

namespace RouteHolder

/-- Two holders of one route: the parameters of one, under the name of the endpoint. -/
def join (first second : RouteHolder) : RouteHolder :=
  let (reader, endpoint) := if first.isEndpoint then (second, first) else (first, second)
  { reader with
    name := if endpoint.isEndpoint && !endpoint.name.isEmpty then endpoint.name else reader.name
    isEndpoint := false }

/-- The holders found so far, by their routes, with one more. -/
def mergeInto (merged : List (Nat × RouteHolder)) (holder : RouteHolder) :
    List (Nat × RouteHolder) :=
  let joined := match Assoc.get? holder.id merged with
    | some first => first.join holder
    | none => holder
  Assoc.putSorted (fun a b => decide (a < b)) holder.id joined merged

/-- One holder per route, in the order of the routes. -/
def merge (holders : List RouteHolder) : List RouteHolder :=
  (holders.foldl mergeInto []).map (·.2)

end RouteHolder

end RouteDoc
