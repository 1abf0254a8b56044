import RouteDoc.Go.Call
import RouteDoc.Go.Reads
import RouteDoc.Text.CaseMap

/-!
Registrations as they are written: the path literals, methods and handler expression in a chain of
calls such as `.HandleFunc("/x", h).Methods("GET")`.
-/

namespace RouteDoc.Routes

open RouteDoc.Go RouteDoc.Text

/-- A string or raw string at the start of the text: what it holds, and what follows it. -/
def literal? : List Char → Option (List Char × List Char)
  | '"' :: cs => cut? '"' cs
  | '\x60' :: cs => cut? '\x60' cs
  | _ => none

/-- What follows `.name(` and the blanks behind it. -/
def callOf? (name s : List Char) : Option (List Char) := do
  let rest ← after? name (← after? ['.'] s)
  return trimStart (← after? ['('] rest)

/-- A prefix and a path with one slash between them. An empty prefix adds nothing. -/
def combinePaths (pre path : List Char) : List Char :=
  if pre.isEmpty then path
  else
    let pre := (pre.reverse.dropWhile (· == '/')).reverse
    match path.dropWhile (· == '/') with
    | [] => pre
    | path => pre ++ '/' :: path

/-- A prefix literal at the start of the text, and what follows the call. -/
def pathPrefix? (s : List Char) : Option (List Char × List Char) := do
  let (path, rest) ← literal? (←
    callOf? ['P', 'a', 't', 'h', 'P', 'r', 'e', 'f', 'i', 'x'] s)
  match trimStart rest with
  | ')' :: rest => some (path, rest)
  | _ => none

/-- The prefixes of a chain, combined. -/
def pathPrefixes (chain : List Char) : List Char :=
  (searchAll (fun _ s => pathPrefix? s) none 0 chain).foldl combinePaths []

/-- The calls that take a path. -/
def pathCalls : List (List Char) :=
  [['H', 'a', 'n', 'd', 'l', 'e', 'F', 'u', 'n', 'c'], ['H', 'a', 'n', 'd', 'l', 'e'],
    ['P', 'a', 't', 'h']]

def pathLiteral? (chain : List Char) : Option (List Char) :=
  search (fun _ s => pathCalls.findSome? fun name =>
    ((callOf? name s).bind literal?).map (·.1)) none chain

/-- The method that an argument of `Methods` names: a quoted one, or a constant such as
`http.MethodGet`. -/
def method? (arg : List Char) : Option (List Char) := do
  let arg := trim arg
  let method ← match arg with
    | '"' :: cs => some ((cs.reverse.dropWhile (· == '"')).reverse)
    | _ => after? ['M', 'e', 't', 'h', 'o', 'd'] ((split '.' arg).getLast?.getD arg)
  guard !method.isEmpty
  return toUpper method

/-- The methods of a chain; without any it is as if `Methods` were not called. -/
def methods? (chain : List Char) : Option (List String) :=
  let args? := search (fun _ s => do
    let rest ← after? ['.', 'M', 'e', 't', 'h', 'o', 'd', 's', '('] s
    return (← cut? ')' rest).1) none chain
  match args? with
  | none => none
  | some args =>
    match (split ',' args).filterMap method? with
    | [] => none
    | methods => some (methods.map String.ofList)

/-- The calls that take a handler, each with the place of the handler among its arguments. -/
def handlerCalls : List (List Char × Nat) :=
  [(['H', 'a', 'n', 'd', 'l', 'e', 'F', 'u', 'n', 'c'], 1), (['H', 'a', 'n', 'd', 'l', 'e'], 1),
    (['H', 'a', 'n', 'd', 'l', 'e', 'r', 'F', 'u', 'n', 'c'], 0),
    (['H', 'a', 'n', 'd', 'l', 'e', 'r'], 0)]

/-- The handler argument of the first call in a chain that takes one. -/
def handlerArgument? (chain : List Char) : Option (List Char) := do
  let (place, rest) ← search (fun _ s => handlerCalls.findSome? fun (name, place) =>
    ((after? ('.' :: name) s).bind (after? ['('])).map fun rest => (place, rest)) none chain
  (callArguments rest)[place]?

/-- A handler as it is written: a chain of identifiers, or the two that a server is made of. -/
inductive HandlerExpr where
  | func (chain : List Char)
  | kit (decoder endpoint : List Char)
  deriving Repr, DecidableEq

def lastSegment (chain : List Char) : List Char :=
  (split '.' chain).getLast?.getD chain

/-- An expression without blanks around it and ampersands in front. -/
def bareExpression (expr : List Char) : List Char :=
  (trim expr).dropWhile (· == '&')

theorem length_bareExpression_le (expr : List Char) :
    (bareExpression expr).length ≤ expr.length :=
  Nat.le_trans (List.dropWhile_sublist _).length_le (length_trim_le expr)

/-- The word that starts an anonymous function. -/
def funcKeyword : List Char :=
  ['f', 'u', 'n', 'c']

/-- The name of the conversion to a handler. -/
def conversionName : List Char :=
  ['H', 'a', 'n', 'd', 'l', 'e', 'r', 'F', 'u', 'n', 'c']

/-- The name of a server's constructor. -/
def serverName : List Char :=
  ['N', 'e', 'w', 'S', 'e', 'r', 'v', 'e', 'r']

def serverOf? (args : List (List Char)) : Option HandlerExpr := do
  let endpoint ← callTarget? (← args[0]?)
  let decoder ← callTarget? (← args[1]?)
  return .kit decoder endpoint

set_option linter.unusedVariables false in
/-- Reads a handler expression. A conversion to a handler is looked through, the call of a server's
constructor gives its decoder and endpoint, and any other call stands for what it calls. Anonymous
functions are no handlers. -/
def readHandler (expr : List Char) : Option HandlerExpr :=
  if startsWith funcKeyword (bareExpression expr) && !isChain (bareExpression expr) then
    none
  else
    match h : cut? '(' (bareExpression expr) with
    | none => if isChain (bareExpression expr) then some (.func (bareExpression expr)) else none
    | some (before, rest) =>
      let callee := trim before
      if !isChain callee then none
      else if lastSegment callee = conversionName then
        match h' : callArguments rest with
        | [] => none
        | arg :: _ => readHandler arg
      else if lastSegment callee = serverName then
        serverOf? (callArguments rest)
      else some (.func callee)
termination_by expr.length
decreasing_by
  have hm : arg ∈ callArguments rest := by simp [h']
  have := length_le_of_mem_callArguments hm
  have := length_of_cut? h
  have := length_bareExpression_le expr
  omega

/-- A statement that assigns the value of an expression, or is one. -/
structure Assignment where
  target? : Option (List Char)
  value : List Char
  deriving Repr, DecidableEq

def assignment? (s : List Char) : Option (List Char × List Char) := do
  let (target, rest) ← dotted? s
  let value ← Go.assignment? rest
  guard !value.isEmpty
  return (target, value)

/-- A statement as an assignment; `return` in front does not count. -/
def Assignment.read (statement : List Char) : Assignment :=
  let statement := (after? ['r', 'e', 't', 'u', 'r', 'n', ' '] statement).getD statement
  let declared? := ((after? ['v', 'a', 'r'] statement).bind blanks?).bind assignment?
  match declared? <|> assignment? statement with
  | some (target, value) => ⟨some target, trim value⟩
  | none => ⟨none, statement⟩

end RouteDoc.Routes
