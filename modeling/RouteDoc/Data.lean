/-!
Values of data formats: what the text of a document or a manifest holds before it is known what it is
about. Records keep the order of their members, and may hold a name more than once.
-/

namespace RouteDoc

/-- A value of a data format. -/
inductive Data where
  | null
  | bool (value : Bool)
  /-- A number, and whether it is within range. -/
  | number (inRange : Bool)
  | text (value : String)
  | list (items : List Data)
  | record (members : List (String × Data))
  /-- A value that is well-formed and may be passed over, but not read. -/
  | unreadable
  deriving Repr

namespace Data

def texts (items : List String) : Data :=
  .list (items.map .text)

/-- A member, if there is a value for it. -/
def member? (name : String) (value? : Option Data) : List (String × Data) :=
  value?.toList.map fun value => (name, value)

end Data

end RouteDoc
