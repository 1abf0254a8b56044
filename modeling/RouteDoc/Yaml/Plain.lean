import RouteDoc.Text.Decimal

/-!
What a plain scalar stands for: nothing, a truth value, a number, or a text. Numbers matter only in so
far as a text that looks like one has to be quoted, so these recognisers say whether a number can be
read and never its value.
-/

namespace RouteDoc.Yaml

open RouteDoc.Text

/-- Whether a plain scalar stands for nothing. -/
def isNullWord (s : String) : Bool :=
  s = "null" || s = "Null" || s = "NULL" || s = "~"

def truth? (s : String) : Option Bool :=
  if s = "true" || s = "True" || s = "TRUE" then some true
  else if s = "false" || s = "False" || s = "FALSE" then some false
  else none

def isSigned : List Char → Bool
  | '+' :: _ => true
  | '-' :: _ => true
  | _ => false

/-- Digits behind a needless zero, which are no number. -/
def isPadded (s : List Char) : Bool :=
  let digits := if isSigned s then s.tail else s
  match digits with
  | '0' :: d :: ds => (d :: ds).all Char.isDigit
  | _ => false

/-- The base that a text announces, and the digits behind it. -/
def announced? : List Char → Option (Nat × List Char)
  | '0' :: 'x' :: ds => some (16, ds)
  | '0' :: 'o' :: ds => some (8, ds)
  | '0' :: 'b' :: ds => some (2, ds)
  | _ => none

/-- The number that a plain scalar without a minus writes. -/
def natural? (s : List Char) : Option Nat :=
  let bare := dropPlus s
  match announced? bare with
  | some (base, ds) => digits? base ds
  | none => if isPadded s then none else digits? 10 bare

/-- The number behind the minus of a plain scalar. -/
def negated? (s : List Char) : Option Nat :=
  match s with
  | '-' :: bare =>
    match announced? bare with
    | some (base, ds) => digits? base ds
    | none => if isPadded s then none else digits? 10 bare
  | _ => none

/-- Whether a plain scalar writes a whole number of 128 bits. -/
def isInteger (s : List Char) : Bool :=
  ((natural? s).any fun n => n < Nat.pow 2 128) || ((negated? s).any fun n => n ≤ Nat.pow 2 127)

/-- Whether a plain scalar writes a number with a fraction or an exponent, or one of the words for
infinity and for no number. -/
def isFloat (s : List Char) : Bool :=
  let text := String.ofList s
  let bare := dropPlus s
  if bare.length < s.length && isSigned bare then false
  else
    [".inf", ".Inf", ".INF"].contains (String.ofList bare)
      || ["-.inf", "-.Inf", "-.INF", ".nan", ".NaN", ".NAN"].contains text
      || (decimal? (if isSigned bare then bare.tail else bare)).any Decimal.isFinite

/-- Whether a plain scalar would not be read as a text. -/
def isResolved (s : String) : Bool :=
  s.isEmpty || isNullWord s || (truth? s).isSome || isInteger s.toList || isFloat s.toList

end RouteDoc.Yaml
