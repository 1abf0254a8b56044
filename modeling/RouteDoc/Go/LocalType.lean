import RouteDoc.Go.Reads
import RouteDoc.Text.CaseFold
import RouteDoc.Words

/-!
The type of a local variable, as a handler body writes it: in a `var` declaration, a composite
literal, a call of `new`, or through the `strconv` function whose result is bound to the name. Only
in the last case the name may differ in case and go on with more word characters.
-/

namespace RouteDoc.Go

open RouteDoc.Text

def isTypeChar (c : Char) : Bool :=
  isWord c || c == '.' || c == '[' || c == ']' || c == '*'

/-- The texts behind one or more of the leading blanks, the shortest text first. -/
def blankCuts : List Char → List (List Char)
  | c :: cs => if isBlank c then blankCuts cs ++ [cs] else []
  | [] => []

/-- A run of characters of a type, and what follows it and the blanks behind it. -/
def typeText? (s : List Char) : Option (List Char × List Char) :=
  match s.takeWhile isTypeChar with
  | [] => none
  | type => some (type, trimStart (s.dropWhile isTypeChar))

/-- The type in `var name T`, up to an equals sign. -/
def varType? (name : List Char) (before : Option Char) (s : List Char) : Option (List Char) := do
  guard (atBoundary before s)
  let rest ← after? ['v', 'a', 'r'] s
  (blankCuts rest).findSome? fun cut =>
    match (after? name cut).bind blanks? with
    | some (c :: cs) =>
      if c = '=' then none else some (trimEnd ((c :: cs).takeWhile (· != '=')))
    | _ => none

/-- The type in `name := T{` or `name := &T{`. -/
def literalType? (name : List Char) (before : Option Char) (s : List Char) :
    Option (List Char) := do
  let value ← assignedTo? name before s
  let value := match value with
    | '&' :: cs => cs
    | cs => cs
  match ← typeText? value with
  | (type, '{' :: _) => some type
  | _ => none

/-- The type in `name := new(T)`. -/
def newType? (name : List Char) (before : Option Char) (s : List Char) : Option (List Char) := do
  let value ← assignedTo? name before s
  match ← typeText? (trimStart (← after? ['n', 'e', 'w', '('] value)) with
  | (type, ')' :: _) => some type
  | _ => none

/-- What follows `word` in a text that starts with it, whatever the case. -/
def afterFolded? : List Char → List Char → Option (List Char)
  | [], s => some s
  | _ :: _, [] => none
  | w :: ws, c :: cs => if sameLetter w c then afterFolded? ws cs else none

/-- Whether `c` is a letter of the Latin alphabet up to case. -/
def isFoldedLetter (c : Char) : Bool :=
  let d := foldChar c
  'a' ≤ d && d ≤ 'z'

/-- What follows more names, each behind a comma; at most `n` are looked at. -/
def skipNames : Nat → List Char → List Char
  | 0, s => s
  | n + 1, s =>
    match trimStart s with
    | ',' :: rest =>
      match word? (trimStart rest) with
      | some rest => skipNames n rest
      | none => s
    | _ => s

/-- The `strconv` function whose result is bound to a name that starts like `name`. -/
def conversion? (name : List Char) (before : Option Char) (s : List Char) : Option (List Char) := do
  guard (atBoundary before s)
  let rest := (← afterFolded? name s).dropWhile isWord
  let value ← assignment? (skipNames rest.length rest)
  let call ← afterFolded? ['s', 't', 'r', 'c', 'o', 'n', 'v', '.'] value
  match afterFolded? ['p', 'a', 'r', 's', 'e'] call with
  | some rest =>
    let target := rest.takeWhile isFoldedLetter
    guard (!target.isEmpty && (rest.dropWhile isFoldedLetter).head? = some '(')
    return call.take (call.length - rest.length) ++ target
  | none =>
    let rest ← afterFolded? ['a', 't', 'o', 'i'] call
    guard (rest.head? = some '(')
    return call.take 4

/-- The text without the word at its start, however often it stands there; at most `n` times. -/
def dropRepeated (word : List Char) : Nat → List Char → List Char
  | 0, s => s
  | n + 1, s =>
    match after? word s with
    | some rest => dropRepeated word n rest
    | none => s

def conversionType (function : List Char) : List Char :=
  let lower := toLower function
  let target := String.ofList (dropRepeated ['p', 'a', 'r', 's', 'e'] lower.length lower)
  if target = "atoi" || target = "int" then ['i', 'n', 't']
  else if target = "uint" then ['u', 'i', 'n', 't']
  else if target = "float" then ['f', 'l', 'o', 'a', 't', '6', '4']
  else if target = "complex" then ['c', 'o', 'm', 'p', 'l', 'e', 'x', '1', '2', '8']
  else if target = "bool" then ['b', 'o', 'o', 'l']
  else ['s', 't', 'r', 'i', 'n', 'g']

def lineType? (name : List Char) (line : List Char) : Option (List Char) :=
  let camel := if name.contains '_' then Words.camelChars name else name
  search (varType? name) none line
    <|> search (literalType? name) none line
    <|> search (newType? name) none line
    <|> (search (conversion? camel) none line).map conversionType

/-- The type of the variable `name`, as the lines from `start` up to `stop` write it. -/
def localType? (lines : List (List Char)) (start stop : Nat) (name : List Char) :
    Option (List Char) :=
  ((lines.take stop).drop start).findSome? (lineType? name)

end RouteDoc.Go
