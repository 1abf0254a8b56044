import RouteDoc.Go.Ident

/-!
Fields of struct types, one per line. A line is tried as the head of an anonymous struct, then as an
embedded type, then as a list of names with a type; what is none of these declares nothing. A line
that starts with a closing brace ends the innermost open struct and may carry its tag.
-/

namespace RouteDoc.Go

open RouteDoc.Text

/-- A declaration inside a struct type, with its tag as it is written. -/
inductive Field where
  /-- Names that share one type. -/
  | plain (names : List (List Char)) (type : List Char) (tag? : Option (List Char))
  /-- A type that stands for itself. -/
  | embedded (type : List Char) (tag? : Option (List Char))
  /-- A name with an anonymous struct, behind the brackets and star in `lead`. -/
  | nested (name lead : List Char) (fields : List Field) (tag? : Option (List Char))
  deriving Repr

/-- A text that is one raw literal, quotes included. -/
def rawLiteral? (s : List Char) : Option (List Char) :=
  match s with
  | '\x60' :: cs =>
    match cut? '\x60' cs with
    | some (_, []) => some s
    | _ => none
  | _ => none

/-- The end of a field line: nothing, or a tag. -/
def tagOrEnd? (s : List Char) : Option (Option (List Char)) :=
  match s with
  | [] => some none
  | _ => (rawLiteral? s).map some

/-- The empty brackets at the start of the text, and what follows them. -/
def emptyBrackets : List Char → List Char × List Char
  | '[' :: ']' :: cs =>
    let (brackets, rest) := emptyBrackets cs
    ('[' :: ']' :: brackets, rest)
  | cs => ([], cs)

/-- The head of an anonymous struct: its name, and the brackets and star in front of `struct`. -/
def nestedHead? (line : List Char) : Option (List Char × List Char) := do
  let (name, rest) ← ident? line
  let (brackets, rest) := emptyBrackets (← blanks? rest)
  let (star, rest) := match rest with
    | '*' :: cs => (['*'], cs)
    | cs => ([], cs)
  let rest ← after? ['s', 't', 'r', 'u', 'c', 't'] rest
  guard (trimStart rest = ['{'])
  return (name, brackets ++ star)

def embedded? (line : List Char) : Option Field := do
  let (star, rest) := match line with
    | '*' :: cs => (['*'], cs)
    | cs => ([], cs)
  let (type, rest) ← dotted? rest
  return .embedded (star ++ type) (← tagOrEnd? (trimStart rest))

/-- A type and a tag behind the names of a field, at least one blank away from them. The type ends at
a tag; where two blanks stand between names and tag, it is empty. -/
def typeAndTag? (s : List Char) : Option (List Char × Option (List Char)) :=
  match s.takeWhile isBlank, s.dropWhile isBlank with
  | [], _ => none
  | _ :: more, rest =>
    match rest.takeWhile (· != '\x60') with
    | [] => if more.isEmpty then none else (tagOrEnd? rest).map fun tag? => ([], tag?)
    | type => (tagOrEnd? (rest.dropWhile (· != '\x60'))).map fun tag? => (trimEnd type, tag?)

/-- The ways to go on reading names behind those read so far, most names first; at most `n` more
names are read. -/
def nameLists : Nat → List (List Char) → List Char → List (List (List Char) × List Char)
  | 0, names, rest => [(names, rest)]
  | n + 1, names, rest =>
    match trimStart rest with
    | ',' :: more =>
      match ident? (trimStart more) with
      | some (name, behind) => nameLists n (names ++ [name]) behind ++ [(names, rest)]
      | none => [(names, rest)]
    | _ => [(names, rest)]

/-- Names with a type. -/
def plain? (line : List Char) : Option Field := do
  let (name, rest) ← ident? line
  (nameLists rest.length [name] rest).findSome? fun (names, rest) =>
    (typeAndTag? rest).map fun (type, tag?) => .plain names type tag?

/-- The field that a trimmed line declares. -/
def field? (line : List Char) : Option Field :=
  embedded? line <|> plain? line

/-- A struct that is open while the fields of an inner one are read: the head of the inner one, and
the fields read before it. -/
structure OpenStruct where
  name : List Char
  lead : List Char
  outer : List Field
  deriving Repr

/-- The fields of the outer struct once the inner one is closed. -/
def OpenStruct.close (s : OpenStruct) (inner : List Field) (tag? : Option (List Char)) :
    List Field :=
  s.outer ++ [.nested s.name s.lead inner tag?]

/-- The fields once all open structs are closed at the end of the lines. -/
def closeAll : List OpenStruct → List Field → List Field
  | [], fields => fields
  | s :: stack, fields => closeAll stack (s.close fields none)

/-- The tag on a closing line: all that follows from its first backquote on. -/
def closingTag? (line : List Char) : Option (List Char) :=
  match line.dropWhile (· != '\x60') with
  | [] => none
  | tag => some tag

/-- The fields of the lines, and the lines from the one that closes the struct on. `stack` holds the
structs around the one being read, innermost first, and `fields` what it has so far. -/
def fieldsFrom : List OpenStruct → List Field → List (List Char) →
    List Field × List (List Char)
  | stack, fields, [] => (closeAll stack fields, [])
  | stack, fields, line :: lines =>
    match trim line with
    | '}' :: _ =>
      match stack with
      | [] => (fields, line :: lines)
      | s :: stack => fieldsFrom stack (s.close fields (closingTag? line)) lines
    | text =>
      match nestedHead? text with
      | some (name, lead) => fieldsFrom (⟨name, lead, fields⟩ :: stack) [] lines
      | none => fieldsFrom stack (fields ++ (field? text).toList) lines

/-- The fields of a struct whose body starts with the given lines, and the lines from the one that
closes it on. -/
def structFields (lines : List (List Char)) : List Field × List (List Char) :=
  fieldsFrom [] [] lines

end RouteDoc.Go
