import RouteDoc.Decode.Reader
import RouteDoc.Yaml.Value

/-!
How YAML values answer a typed reader. Asked for a text, any scalar gives its own; asked for a list or
record, an empty plain scalar is an empty one. Where the value itself has to tell what it is, a plain
scalar is resolved, and tags count.
-/

namespace RouteDoc.Yaml

open RouteDoc.Decode

/-- The tag of a kind that every YAML text knows. -/
def coreTag (kind : String) : String :=
  "tag:yaml.org,2002:" ++ kind

/-- What a scalar is by itself. -/
inductive ScalarKind where
  | null
  | bool
  /-- A whole number that is not negative. -/
  | natural (n : Nat)
  | number
  | text
  deriving Repr, DecidableEq

/-- The kind of a whole number of 64 bits; no other can be held. -/
def integerKind? (s : List Char) : Option ScalarKind :=
  match natural? s, negated? s with
  | some n, _ => if n < Nat.pow 2 64 then some (.natural n) else none
  | none, some n => if n ≤ Nat.pow 2 63 then some .number else none
  | none, none => none

/-- The kind of a plain scalar without a tag. -/
def plainKind? (text : String) : Option ScalarKind :=
  if text.isEmpty || isNullWord text then some .null
  else if (truth? text).isSome then some .bool
  else if isInteger text.toList then integerKind? text.toList
  else if isFloat text.toList then some .number
  else some .text

/-- The kind of a scalar, if its tag and text go together. -/
def Scalar.kind? (s : Scalar) : Option ScalarKind :=
  match s.tag? with
  | none => if s.style = .plain then plainKind? s.text else some .text
  | some tag =>
    if isOwnTag s.tag? then none
    else if tag = coreTag "bool" then if (truth? s.text).isSome then some .bool else none
    else if tag = coreTag "int" then
      if isInteger s.text.toList then integerKind? s.text.toList else none
    else if tag = coreTag "float" then if isFloat s.text.toList then some .number else none
    else if tag = coreTag "null" then if isNullWord s.text then some .null else none
    else some .text

mutual

/-- Whether every part of a value tells what it is, and it has at most `n` levels. -/
def isSettled (n : Nat) : Value → Bool
  | .scalar s => s.kind?.isSome
  | .list tagged items => !tagged && 0 < n && areSettled (n - 1) items
  | .mapping tagged entries => !tagged && 0 < n && entriesSettled (n - 1) entries
  | .unreadable => false

def areSettled (n : Nat) : List Value → Bool
  | [] => true
  | item :: items => isSettled n item && areSettled n items

def entriesSettled (n : Nat) : List (Value × Value) → Bool
  | [] => true
  | (key, value) :: entries => isSettled n key && isSettled n value && entriesSettled n entries

end

def textOf? : Value → Option String
  | .scalar s => some s.text
  | _ => none

/-- The text of a scalar that is a text by itself. -/
def ownTextOf? : Value → Option String
  | .scalar s => if s.kind? = some .text then some s.text else none
  | _ => none

/-- The truth value of a plain scalar, or of a literal block with the tag of truth values. -/
def boolOf? : Value → Option Bool
  | .scalar s =>
    if s.style = .plain || (s.style = .literal && s.tag? = some (coreTag "bool")) then truth? s.text
    else none
  | _ => none

/-- Whether a value stands for an absent one: a plain scalar that is empty or stands for nothing. -/
def isAbsent? : Value → Option Bool
  | .scalar s =>
    if s.style != .plain then some false
    else
      match s.tag? with
      | none => some (s.text.isEmpty || isNullWord s.text)
      | some tag =>
        if tag = coreTag "null" then if isNullWord s.text then some true else none
        else some false
  | _ => some false

def isEmptyScalar : Value → Bool
  | .scalar s => s.style = .plain && s.text.isEmpty
  | _ => false

/-- The name that a key has among the names asked for: its text, or the one at its number. -/
def keyName? (names : List String) : Value → Option String
  | .scalar s =>
    match s.kind? with
    | some .text => some s.text
    | some (.natural n) => some (names.getD n "")
    | _ => none
  | _ => none

def reader : Reader Value where
  text? := textOf?
  bool? := boolOf?
  absent? := isAbsent?
  list? value :=
    match value with
    | .list _ items => some items
    | _ => if isEmptyScalar value then some [] else none
  record? value :=
    match value with
    | .mapping _ entries => entries.mapM fun (key, value) => (textOf? key).map fun k => (k, value)
    | _ => if isEmptyScalar value then some [] else none
  textOrFields? n names value :=
    if isSettled n value then
      match value with
      | .scalar _ => (ownTextOf? value).map .text
      | .mapping _ entries => do
        let members ← entries.mapM fun (key, value) => (keyName? names key).map fun k => (k, value)
        (names.mapM fun name => single? name members).map .fields
      | _ => none
    else none
  ownText? := ownTextOf?
  positional := false
  levels := 128

end RouteDoc.Yaml
