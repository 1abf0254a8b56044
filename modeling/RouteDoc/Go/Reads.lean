import RouteDoc.Go.Function

/-!
What a handler reads of its request. The lines of its body are searched for the usual ways of reading
path variables, query values, a JSON body and form fields; the body ends at the first line that is a
closing brace alone in column zero.
-/

namespace RouteDoc.Go

open RouteDoc.Text

/-- Where a value is read from. -/
inductive ReadKind where
  | path
  | query
  | body
  | formFile
  | formValue
  deriving Repr, DecidableEq

/-- One read: the name of the variable, key or field, and for a body the variable it goes to. -/
structure Read where
  name : String
  kind : ReadKind
  deriving Repr, DecidableEq

/-- A non-empty run of word characters at the start of the text; what follows it. -/
def word? : List Char → Option (List Char)
  | c :: cs => if isWord c then some (cs.dropWhile isWord) else none
  | [] => none

/-- What follows the sign of an assignment or definition and the blanks around it. -/
def assignment? (s : List Char) : Option (List Char) :=
  match trimStart s with
  | ':' :: '=' :: rest => some (trimStart rest)
  | '=' :: rest => some (trimStart rest)
  | _ => none

/-- The variable assigned at the start of the text, and the assigned text. -/
def assigned? (before : Option Char) (s : List Char) : Option (List Char × List Char) := do
  guard (atBoundary before s)
  let (name, rest) ← ident? s
  return (name, ← assignment? rest)

/-- What is assigned to `name` at the start of the text. -/
def assignedTo? (name : List Char) (before : Option Char) (s : List Char) : Option (List Char) := do
  guard (atBoundary before s)
  assignment? (← after? name s)

/-- A quoted key and the closing character behind it, blanks aside. -/
def quotedKey? (close : Char) (s : List Char) : Option (List Char × List Char) :=
  match quotedWord? (trimStart s) with
  | none => none
  | some (key, rest) =>
    match trimStart rest with
    | c :: rest => if c = close then some (key, rest) else none
    | [] => none

def muxVars : List Char :=
  ['m', 'u', 'x', '.', 'V', 'a', 'r', 's', '(']

def urlQuery : List Char :=
  ['.', 'U', 'R', 'L', '.', 'Q', 'u', 'e', 'r', 'y', '(', ')']

def dotGet : List Char :=
  ['.', 'G', 'e', 't', '(']

/-- The variable that the line binds to the path variables. -/
def varsBinding? (line : List Char) : Option (List Char) :=
  search (fun before s => do
    let (name, rest) ← assigned? before s
    let _ ← after? muxVars rest
    return name) none line

def queryBinding? (line : List Char) : Option (List Char) :=
  search (fun before s => do
    let (name, rest) ← assigned? before s
    let rest ← after? urlQuery (← word? rest)
    guard (trimStart rest).isEmpty
    return name) none line

/-- What follows a call of `mux.Vars` with a plain argument. -/
def muxVarsCall? (s : List Char) : Option (List Char) := do
  match trimStart (← word? (trimStart (← after? muxVars s))) with
  | ')' :: rest => some rest
  | _ => none

/-- An index with a quoted key: the key and what follows. -/
def quotedIndex? : List Char → Option (List Char × List Char)
  | '[' :: cs => quotedKey? ']' cs
  | _ => none

/-- A quoted index at the start of the text, with the variable indexed, which is missing where the
call itself is indexed. -/
def indexed? (before : Option Char) (s : List Char) :
    Option ((Option (List Char) × List Char) × List Char) :=
  match (muxVarsCall? s).bind quotedIndex? with
  | some (key, rest) => some ((none, key), rest)
  | none => do
    guard (atBoundary before s)
    let (name, rest) ← ident? s
    let (key, rest) ← quotedIndex? rest
    return ((some name, key), rest)

/-- The path variable that the line reads, where `vars` are the variables bound so far. -/
def pathKey? (vars : List (List Char)) (line : List Char) : Option (List Char) :=
  (searchAll indexed? none 0 line).findSome? fun (name?, key) =>
    match name? with
    | some name => if vars.contains name then some key else none
    | none => some key

/-- The query key that the line reads from the request itself. -/
def inlineQueryKey? (line : List Char) : Option (List Char) :=
  search (fun _ s => do
    let rest ← after? (urlQuery ++ dotGet) (← word? s)
    return (← quotedKey? ')' rest).1) none line

/-- A call of `Get` at the start of the text: the variable, the key, and what follows. -/
def getCall? (before : Option Char) (s : List Char) :
    Option ((List Char × List Char) × List Char) := do
  guard (atBoundary before s)
  let (name, rest) ← ident? s
  let (key, rest) ← quotedKey? ')' (← after? dotGet rest)
  return ((name, key), rest)

/-- The query key that the line reads, where `queries` are the variables bound so far. -/
def queryKey? (queries : List (List Char)) (line : List Char) : Option (List Char) :=
  match inlineQueryKey? line with
  | some key => some key
  | none =>
    ((searchAll getCall? none 0 line).find? fun found => queries.contains found.1).map (·.2)

def bodyTarget? (line : List Char) : Option (List Char) :=
  search (fun _ s => do
    let rest ← after? ['j', 's', 'o', 'n', '.', 'N', 'e', 'w', 'D', 'e', 'c', 'o', 'd', 'e', 'r', '('] s
    let rest ← after? ['.', 'B', 'o', 'd', 'y'] (← word? (trimStart rest))
    let rest ← after? [')', '.', 'D', 'e', 'c', 'o', 'd', 'e', '('] (trimStart rest)
    let target := match trimStart rest with
      | '&' :: cs => trimStart cs
      | cs => cs
    let (name, rest) ← dotted? target
    match trimStart rest with
    | ')' :: _ => some name
    | _ => none) none line

def formFileKey? (line : List Char) : Option (List Char) :=
  search (fun _ s => do
    let rest ← after? ['.', 'F', 'o', 'r', 'm', 'F', 'i', 'l', 'e', '('] (← word? s)
    return (← quotedKey? ')' rest).1) none line

def formValueKey? (line : List Char) : Option (List Char) :=
  search (fun _ s => do
    let rest ← after? ['.'] (← word? s)
    let rest := (after? ['P', 'o', 's', 't'] rest).getD rest
    let rest ← after? ['F', 'o', 'r', 'm', 'V', 'a', 'l', 'u', 'e', '('] rest
    return (← quotedKey? ')' rest).1) none line

/-- The variables bound so far. -/
structure Bound where
  vars : List (List Char) := [['v', 'a', 'r', 's']]
  queries : List (List Char) := []
  deriving Repr, DecidableEq

def Bound.add (bound : Bound) (line : List Char) : Bound :=
  { vars := (varsBinding? line).toList ++ bound.vars
    queries := (queryBinding? line).toList ++ bound.queries }

/-- A read of the given kind, if there is a name. -/
def readOf (kind : ReadKind) (name? : Option (List Char)) : List Read :=
  name?.toList.map fun name => ⟨String.ofList name, kind⟩

/-- The reads of one line: path, query, body, form file, form value, each at most once. -/
def lineReads (bound : Bound) (line : List Char) : List Read :=
  readOf .path (pathKey? bound.vars line) ++ readOf .query (queryKey? bound.queries line)
    ++ readOf .body (bodyTarget? line) ++ readOf .formFile (formFileKey? line)
    ++ readOf .formValue (formValueKey? line)

/-- The reads of the lines, in order. A binding holds from its own line on. -/
def readsFrom (bound : Bound) : List (List Char) → List Read
  | [] => []
  | line :: lines =>
    let bound := bound.add line
    lineReads bound line ++ readsFrom bound lines

/-- The index of the line that closes the body whose first line has the index `start`, or the number
of lines if nothing closes it. -/
def bodyEnd (lines : List (List Char)) (start : Nat) : Nat :=
  match (lines.drop start).findIdx? (· = ['}']) with
  | some n => start + n
  | none => lines.length

def bodyLines (lines : List (List Char)) (start : Nat) : List (List Char) :=
  (lines.take (bodyEnd lines start)).drop start

structure HandlerScan where
  name? : Option String
  reads : List Read
  stop : Nat
  deriving Repr, DecidableEq

/-- Scans the body whose first line has the index `start`, behind the declaration line. -/
def scanHandler (lines : List (List Char)) (start : Nat) : HandlerScan :=
  { name? :=
      match start with
      | 0 => none
      | n + 1 => ((lines[n]?).bind functionName?).map String.ofList
    reads := readsFrom {} (bodyLines lines start)
    stop := bodyEnd lines start }

/-- The callee of a `return` with a call, on a trimmed line. -/
def returnedCall? (line : List Char) : Option (List Char) := do
  let (callee, rest) ← dotted? (← blanks? (← after? ['r', 'e', 't', 'u', 'r', 'n'] line))
  match trimStart rest with
  | '(' :: _ => some callee
  | _ => none

/-- The function or method that a line returns a call of; closures are looked through. -/
def returnedName? (line : List Char) : Option (List Char) := do
  let callee ← returnedCall? (trim line)
  let name := (split '.' callee).getLast?.getD callee
  guard (name != ['f', 'u', 'n', 'c'])
  return name

/-- The service method that an endpoint's body delegates to: the last one it returns a call of. -/
def scanEndpoint (lines : List (List Char)) (start : Nat) : Option String :=
  ((bodyLines lines start).filterMap returnedName?).getLast?.map String.ofList

end RouteDoc.Go
