import RouteDoc.Text.Search

/-!
Type tokens, such as `[]*transport.Story`: brackets and stars around a base, which is a primitive, a
type without a shape of its own, or the name of a declared type.
-/

namespace RouteDoc.Types

open RouteDoc.Text

/-- The schema type of a primitive Go type. -/
def primitive? (token : String) : Option String :=
  if token = "bool" then some "boolean"
  else if token = "string" then some "string"
  else if ["int", "int8", "int16", "int32", "int64", "uint", "uint8", "uint16", "uint32", "uint64",
      "uintptr", "byte", "rune", "float32", "float64", "complex64", "complex128"].contains token then
    some "number"
  else none

/-- The schema type of a well-known type from outside every project. -/
def wellKnown? (token : String) : Option String :=
  if token = "time.Time" || token = "uuid.UUID" then some "string"
  else if token = "time.Duration" then some "number"
  else if token = "json.RawMessage" then some "object"
  else none

/-- What a type token is about, brackets and stars aside. -/
inductive Base where
  | schema (type : String)
  /-- Channels and functions, which no document shows. -/
  | shapeless
  /-- A type of the package at hand. -/
  | own (name : List Char)
  /-- A type of the package imported as `label`. -/
  | imported (label name : List Char)
  deriving Repr, DecidableEq

/-- The text without type arguments at its end. -/
def dropArguments : List Char → List Char
  | [] => []
  | c :: cs =>
    if c = '[' && ((cut? ']' cs).any fun (_, rest) => rest.isEmpty) then []
    else c :: dropArguments cs

/-- The base that a token without brackets and stars stands for. -/
def Base.read (token : List Char) : Base :=
  let text := String.ofList token
  match primitive? text <|> wellKnown? text with
  | some type => .schema type
  | none =>
    if startsWith ['m', 'a', 'p', '['] token
        || startsWith ['i', 'n', 't', 'e', 'r', 'f', 'a', 'c', 'e'] token
        || startsWith ['s', 't', 'r', 'u', 'c', 't'] token || token = ['a', 'n', 'y'] then
      .schema "object"
    else if startsWith ['c', 'h', 'a', 'n'] token || startsWith ['<', '-'] token
        || startsWith ['f', 'u', 'n', 'c'] token then
      .shapeless
    else
      let token := dropArguments token
      match cut? '.' token with
      | some (label, name) => .imported label name
      | none => .own token

/-- What is left of a token once the brackets and stars in front of it are taken off, at most `n` of
them, and whether there were brackets. -/
def peelUpTo : Nat → List Char → Bool × List Char
  | 0, s => (false, s)
  | n + 1, s =>
    match s with
    | '[' :: cs =>
      match cut? ']' cs with
      | some (_, rest) => (true, (peelUpTo n (trimStart rest)).2)
      | none => (false, s)
    | '*' :: cs => peelUpTo n (trimStart cs)
    | _ => (false, s)

/-- Whether a token is of arrays, and its base. -/
def readToken (token : List Char) : Bool × Base :=
  let token := trim token
  let (isArray, base) := peelUpTo token.length token
  (isArray, .read base)

end RouteDoc.Types
