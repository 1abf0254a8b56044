import RouteDoc.Text.Search
import RouteDoc.Text.Version

/-!
Route templates as a document shows them: without the patterns of their variables, and without the
base path of the document. Templates are brought to this form by `documentPath`.
-/

namespace RouteDoc.Template

open RouteDoc.Text

/-- The name in the text of a variable: what stands before a colon. -/
def variableName (text : List Char) : List Char :=
  trim (text.takeWhile (· != ':'))

/-- The template without patterns, from a place inside `depth` braces on, where `text` is what the
outermost of them holds so far. A variable that is never closed is left out. -/
def dropPatternsFrom (depth : Nat) (text : List Char) : List Char → List Char
  | [] => []
  | c :: cs =>
    match depth with
    | 0 => if c = '{' then dropPatternsFrom 1 [] cs else c :: dropPatternsFrom 0 [] cs
    | outer + 1 =>
      if c = '{' then dropPatternsFrom (depth + 1) (text ++ [c]) cs
      else if c = '}' then
        if outer = 0 then '{' :: variableName text ++ '}' :: dropPatternsFrom 0 [] cs
        else dropPatternsFrom outer (text ++ [c]) cs
      else dropPatternsFrom depth (text ++ [c]) cs

/-- The template with the bare names of its variables. -/
def dropPatterns (template : List Char) : List Char :=
  dropPatternsFrom 0 [] template

def dropEndSlashes (s : List Char) : List Char :=
  (s.reverse.dropWhile (· == '/')).reverse

/-- The template without the base path, if that is a path in front of it. -/
def dropBase (base template : List Char) : List Char :=
  let base := dropEndSlashes base
  match after? base template with
  | some rest =>
    if !base.isEmpty && (rest.isEmpty || rest.head? = some '/') then rest else template
  | none => template

/-- The path under which a document lists the route with this template. -/
def documentPath (base template : List Char) : List Char :=
  let path := dropPatterns (dropBase base template)
  if path.head? = some '/' then path else '/' :: path

/-- The first segment of a path that is no variable and, if versions are skipped, no version. -/
def tag? (skipVersions : Bool) (path : List Char) : Option (List Char) :=
  ((split '/' path).filter fun segment => !segment.isEmpty && segment.head? != some '{').find?
    fun segment => !(skipVersions && isVersion segment)

end RouteDoc.Template
