/-!
What a run reports on the way.
-/

namespace RouteDoc

/-- How much a record matters. -/
inductive Level where
  | warn
  | info
  deriving Repr, DecidableEq

/-- One line of the journal. -/
structure Record where
  level : Level
  text : String
  deriving Repr, DecidableEq

end RouteDoc
