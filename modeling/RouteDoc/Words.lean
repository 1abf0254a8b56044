import RouteDoc.Text.CaseMap

/-!
Words of an identifier, for summaries and descriptions. `snake_case` becomes `CamelCase`, and an
identifier falls apart where the kind of its characters changes; the capital that starts a
lower-case word belongs to that word.
-/

namespace RouteDoc.Words

open RouteDoc.Text

/-- The kinds of characters that words are made of. -/
inductive Kind where
  | lower
  | upper
  | digit
  | other
  deriving DecidableEq, Repr

def Kind.of (c : Char) : Kind :=
  if isLower c then .lower
  else if isUpper c then .upper
  else if c.isDigit then .digit
  else .other

/-- A letter behind an underscore becomes a capital and takes the underscore's place. -/
def joinSnake : List Char → List Char
  | [] => []
  | [c] => [c]
  | '_' :: c :: cs => if c.isAlpha then c.toUpper :: joinSnake cs else '_' :: joinSnake (c :: cs)
  | c :: cs => c :: joinSnake cs

/-- The camel-case form of an identifier: the first letter and those behind underscores are
capitals. -/
def camelChars : List Char → List Char
  | [] => []
  | c :: cs => if c.isAlpha then c.toUpper :: joinSnake cs else joinSnake (c :: cs)

/-- The maximal runs of characters of one kind. -/
def runs : List Char → List (List Char)
  | [] => []
  | c :: cs =>
    match runs cs with
    | (d :: run) :: rest =>
      if Kind.of c = Kind.of d then (c :: d :: run) :: rest else [c] :: (d :: run) :: rest
    | rest => [c] :: rest

def startsLower (run : List Char) : Bool :=
  run.head?.any isLower

/-- Hands the last character of an upper-case run over to the lower-case run behind it. -/
def handOver (run : List Char) : List (List Char) → List (List Char)
  | [] => [run]
  | next :: rest =>
    match run.getLast? with
    | some capital =>
      if startsUpper run && startsLower next then run.dropLast :: handOver (capital :: next) rest
      else run :: handOver next rest
    | none => run :: handOver next rest

/-- The words of an identifier, as they are spelled. -/
def words (s : List Char) : List (List Char) :=
  match runs s with
  | [] => []
  | run :: rest => (handOver run rest).filter (fun word => !word.isEmpty)

def capitalize : List Char → List Char
  | [] => []
  | c :: cs => upperChar c ++ cs

/-- The words of an identifier with blanks between them, the first one capitalized. -/
def spacedChars (s : List Char) : List Char :=
  match words s with
  | [] => []
  | first :: rest => [' '].intercalate (capitalize first :: rest)

/-- `story_id` becomes `StoryId`. -/
def camelCase (name : String) : String :=
  String.ofList (camelChars name.toList)

/-- `tokenId` becomes `Token Id`, `GetHTTPStatus` becomes `Get HTTP Status`. -/
def spaced (name : String) : String :=
  String.ofList (spacedChars name.toList)

/-- The text that describes something of the given name. -/
def humanize (name : String) : String :=
  if name.toList.contains '_' then spaced (camelCase name) else spaced name

end RouteDoc.Words
