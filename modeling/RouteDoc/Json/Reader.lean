import RouteDoc.Data
import RouteDoc.Decode.Reader

/-!
How JSON data answers a typed reader.
-/

namespace RouteDoc.Json

open RouteDoc.Decode

mutual

/-- Whether all of a value can be read and it has at most `n` levels. -/
def isReadable (n : Nat) : Data → Bool
  | .list items => 0 < n && areReadable (n - 1) items
  | .record members => 0 < n && membersReadable (n - 1) members
  | .number inRange => inRange
  | .unreadable => false
  | _ => true

def areReadable (n : Nat) : List Data → Bool
  | [] => true
  | item :: items => isReadable n item && areReadable n items

def membersReadable (n : Nat) : List (String × Data) → Bool
  | [] => true
  | (_, value) :: members => isReadable n value && membersReadable n members

end

def textOf? : Data → Option String
  | .text s => some s
  | _ => none

def reader : Reader Data where
  text? := textOf?
  bool?
    | .bool b => some b
    | _ => none
  absent?
    | .null => some true
    | _ => some false
  list?
    | .list items => some items
    | _ => none
  record?
    | .record members => some members
    | _ => none
  textOrFields? n names value :=
    if isReadable n value then
      match value with
      | .text s => some (.text s)
      | .record members => (names.mapM fun name => single? name members).map .fields
      | _ => none
    else none
  ownText? := textOf?
  positional := true
  levels := 127

end RouteDoc.Json
