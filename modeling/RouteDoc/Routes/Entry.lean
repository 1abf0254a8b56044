import RouteDoc.Source.Cache
import RouteDoc.Symbol

/-!
Registered routes, and the tables that list them.
-/

namespace RouteDoc

/-- What serves a route. -/
inductive HandlerRef where
  /-- A plain handler. -/
  | func (symbol : Symbol)
  /-- A decoder that reads the request, and an endpoint that names the operation. -/
  | kit (decoder endpoint : Symbol)
  deriving Repr, DecidableEq

/-- A route as it is registered. Without methods it serves all of them. -/
structure RouteEntry where
  path? : Option String
  methods? : Option (List String)
  handler : HandlerRef
  deriving Repr, DecidableEq

/-- A source of routes, in the order of their registration. -/
abbrev RouteTable := Run (Except Error (List RouteEntry))

end RouteDoc
