import RouteDoc.Source.Cache
import RouteDoc.Text.Search

/-!
The page that shows a document. The index page of the interface names the document in an entry
`url: "..."` that starts a line; the first such entry is made to name another document, and the rest
of the page stays as it is.
-/

namespace RouteDoc.Ui

open RouteDoc.Text

/-- Where a service answers with the document, and where with the pages that show it. -/
structure Mount where
  documentRoute : String
  uiRoute : String
  document : Path
  deriving Repr, DecidableEq

def documentRoute : String := "/swagger.json"

def uiRoute : String := "/swagger-ui/"

/-- The routes of a document, which must have been written. -/
def mount (disk : Disk) (document : Path) : Except Error Mount :=
  if disk.isFile document then .ok ⟨documentRoute, uiRoute, document⟩
  else .error (.emission ("swagger document not found: " ++ document.toString))

def startsLine (before : Option Char) : Bool :=
  before.all (· == '\n')

/-- The text behind one comma, if it starts with one. -/
def dropComma : List Char → List Char
  | ',' :: rest => rest
  | rest => rest

/-- The entry that starts here: its indentation, and the text behind it. The quoted text may run over
several lines; a comma belongs to the entry. -/
def urlEntry? (before : Option Char) (s : List Char) : Option (List Char × List Char) :=
  if startsLine before then
    match after? ['u', 'r', 'l', ':'] (s.dropWhile isGap) with
    | some rest =>
      match rest.dropWhile isGap with
      | '"' :: quoted =>
        (cut? '"' quoted).map fun (_, behind) =>
          (s.takeWhile isGap, dropComma (behind.dropWhile isGap))
      | _ => none
    | none => none
  else none

/-- A URL between the quotes of an entry: backslashes and quotes are marked by a backslash. -/
def escape : List Char → List Char
  | [] => []
  | c :: cs => if c == '\\' || c == '"' then '\\' :: c :: escape cs else c :: escape cs

/-- The entry for a URL, without indentation. -/
def urlEntry (url : List Char) : List Char :=
  ['u', 'r', 'l', ':', ' ', '"'] ++ escape url ++ ['"', ',']

/-- The page with its first entry naming `url`, if it has one. -/
def pointAt? (url : List Char) (before : Option Char) (page : List Char) : Option (List Char) :=
  match urlEntry? before page with
  | some (indent, rest) => some (indent ++ urlEntry url ++ rest)
  | none =>
    match page with
    | [] => none
    | c :: cs => (pointAt? url (some c) cs).map (c :: ·)

/-- Makes the index page load `url`; answers the files as they are then, and whether the page has
changed. -/
def updateIndex (disk : Disk) (index : Path) (url : String) : Run (Except Error (Disk × Bool)) := do
  match disk.read index with
  | .error fault =>
    return .error (.emission ("cannot read UI index " ++ index.toString ++ ": " ++ fault.message))
  | .ok page =>
    match pointAt? url.toList none page.toList with
    | none => return .error (.emission ("no url entry in UI index " ++ index.toString))
    | some updated =>
      if updated = page.toList then return .ok (disk, false)
      else
        match disk.write index (String.ofList updated) with
        | .error fault =>
          return .error
            (.emission ("cannot write UI index " ++ index.toString ++ ": " ++ fault.message))
        | .ok disk =>
          Run.info ("UI index " ++ index.toString ++ " now loads " ++ url)
          return .ok (disk, true)

end RouteDoc.Ui
