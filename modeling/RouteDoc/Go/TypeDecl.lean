import RouteDoc.Go.Nesting
import RouteDoc.Go.Struct

/-!
Type declarations of a Go file. Only what stands outside all braces counts; a declaration stands
alone behind `type`, or in a group in parentheses.
-/

namespace RouteDoc.Go

open RouteDoc.Text

/-- What a type name is declared as. -/
inductive TypeDefinition where
  | struct (fields : List Field)
  | interface
  /-- Another type, named or aliased. -/
  | named (token : List Char)
  deriving Repr

/-- The name that a type specification declares, and the text of its type. -/
def typeSpec? (spec : List Char) : Option (List Char × List Char) := do
  let (name, rest) ← ident? spec
  let rest := match rest with
    | '[' :: cs =>
      match cut? ']' cs with
      | some (_, behind) => behind
      | none => rest
    | _ => rest
  let type ← blanks? rest
  guard !type.isEmpty
  match type with
  | '=' :: cs =>
    match trimStart cs with
    | [] => return (name, type)
    | aliased => return (name, aliased)
  | _ => return (name, type)

/-- The definition of a type whose text is `type`, where `lines` follow. -/
def definitionOf (type : List Char) (lines : List (List Char)) : TypeDefinition :=
  let type := trim type
  match after? ['s', 't', 'r', 'u', 'c', 't'] type with
  | some body =>
    let body := trimStart body
    if body.head? = some '{' && body.getLast? = some '}' then .struct []
    else .struct (structFields lines).1
  | none =>
    if startsWith ['i', 'n', 't', 'e', 'r', 'f', 'a', 'c', 'e'] type then .interface
    else .named type

def opensTypes (line : List Char) : Bool :=
  line = ['t', 'y', 'p', 'e', ' ', '('] || line = ['t', 'y', 'p', 'e', '(']

/-- The type specification on a trimmed line, inside a group or alone. -/
def specOn? (inGroup : Bool) (line : List Char) : Option (List Char) :=
  if inGroup then some line else (after? ['t', 'y', 'p', 'e', ' '] line).map trimStart

/-- The text of the type that a trimmed line declares `name` as. -/
def declaredAs? (name : List Char) (inGroup : Bool) (line : List Char) : Option (List Char) :=
  match (specOn? inGroup line).bind typeSpec? with
  | some (declared, type) => if declared = name then some type else none
  | none => none

/-- The definition of `name` in lines that follow `depth` open braces, and an open group or not. -/
def definitionFrom (name : List Char) : Nat → Bool → List (List Char) → Option TypeDefinition
  | _, _, [] => none
  | depth, inGroup, line :: lines =>
    let text := trim line
    if depth = 0 && opensTypes text then definitionFrom name depth true lines
    else if depth = 0 && inGroup && text = [')'] then definitionFrom name depth false lines
    else
      match if depth = 0 then declaredAs? name inGroup text else none with
      | some type => some (definitionOf type lines)
      | none => definitionFrom name (depth + braceNesting line).toNat inGroup lines

def definition? (lines : List (List Char)) (name : List Char) : Option TypeDefinition :=
  definitionFrom name 0 false lines

end RouteDoc.Go
