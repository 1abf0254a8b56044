/-!
Typed reading, whatever the format. A `Reader` says how a format answers the questions of a typed
reader; what is asked for follows from the type alone. Known members may stand once, unknown ones are
passed over.
-/

namespace RouteDoc.Decode

/-- A value that is a text or the members of a record, by the names asked for. -/
inductive TextOrFields (ν : Type) where
  | text (s : String)
  | fields (values : List (Option ν))

/-- How the values of a format are read. -/
structure Reader (ν : Type) where
  text? : ν → Option String
  bool? : ν → Option Bool
  /-- Whether a value stands for an absent one. -/
  absent? : ν → Option Bool
  list? : ν → Option (List ν)
  record? : ν → Option (List (String × ν))
  /-- A value of so many levels at most that is a text or a record, told apart by its own kind. -/
  textOrFields? : Nat → List String → ν → Option (TextOrFields ν)
  /-- A text by its own kind. -/
  ownText? : ν → Option String
  /-- Whether a list may stand for a record, its items being the members in order. -/
  positional : Bool
  /-- How many levels of lists and records a value may have. -/
  levels : Nat

/-- The values of the members asked for, and whether they stand by position. -/
structure Fields (ν : Type) where
  values : List (Option ν)
  positional : Bool

/-- The value of the only member with a name; no value if there is none, no answer if there are
more. -/
def single? {ν : Type} (name : String) (members : List (String × ν)) : Option (Option ν) :=
  match members.filter fun member => member.1 = name with
  | [] => some none
  | [member] => some (some member.2)
  | _ => none

/-- The values with nothing for the names that are left over. -/
def pad {ν : Type} : List String → List ν → List (Option ν)
  | [], _ => []
  | _ :: names, [] => none :: pad names []
  | _ :: names, value :: values => some value :: pad names values

namespace Reader

variable {ν α : Type} (reader : Reader ν)

/-- The values of the members with these names. -/
def fields? (names : List String) (value : ν) : Option (Fields ν) :=
  match reader.record? value with
  | some members => (names.mapM fun name => single? name members).map fun values => ⟨values, false⟩
  | none =>
    if reader.positional then
      match reader.list? value with
      | some items => if items.length ≤ names.length then some ⟨pad names items, true⟩ else none
      | none => none
    else none

/-- A part that may be absent. One that is left out of a list is missing. -/
def optional (read : ν → Option α) (positional : Bool) : Option ν → Option (Option α)
  | none => if positional then none else some none
  | some value =>
    match reader.absent? value with
    | some true => some none
    | some false => (read value).map some
    | none => none

def texts? (value : ν) : Option (List String) :=
  (reader.list? value).bind fun items => items.mapM reader.text?

end Reader

def orDefault {ν α : Type} (default : α) (read : ν → Option α) : Option ν → Option α
  | none => some default
  | some value => read value

end RouteDoc.Decode
