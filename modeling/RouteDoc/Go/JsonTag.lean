import RouteDoc.Text.Search

/-!
The `json` key of a field's tag: the name to use, and the options behind it.
-/

namespace RouteDoc.Go

open RouteDoc.Text

/-- What a tag says about a field. -/
structure JsonTag where
  name? : Option (List Char) := none
  /-- The field does not show at all. -/
  skip : Bool := false
  omitEmpty : Bool := false
  deriving Repr, DecidableEq

def jsonValue? (tag : List Char) : Option (List Char) :=
  search (fun _ s => do
    let (value, _) ← cut? '"' (← after? ['j', 's', 'o', 'n', ':', '"'] s)
    return value) none tag

def JsonTag.ofValue (value : List Char) : JsonTag :=
  match split ',' value with
  | [] => {}
  | name :: options =>
    { name? := if name.isEmpty then none else some name
      skip := name = ['-'] && options.isEmpty
      omitEmpty := options.contains ['o', 'm', 'i', 't', 'e', 'm', 'p', 't', 'y'] }

/-- Reads a tag; without a `json` key it says nothing. -/
def JsonTag.read (tag? : Option (List Char)) : JsonTag :=
  match tag?.bind jsonValue? with
  | some value => .ofValue value
  | none => {}

end RouteDoc.Go
