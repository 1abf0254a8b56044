import RouteDoc.Go.Ident
import RouteDoc.Go.Nesting
import RouteDoc.Text.Alphanumeric

/-!
Call expressions: the receiver in front of a chain of calls, and the arguments of a call.
-/

namespace RouteDoc.Go

open RouteDoc.Text

/-- Whether `c` may stand in front of the first parenthesis of a chain of calls. -/
def isReceiverChar (c : Char) : Bool :=
  isAlphanumeric c || c == '_' || c == '.'

/-- The receiver of a chain of calls, and the chain from the dot of its first call on. -/
def splitReceiver? (expr : List Char) : Option (List Char × List Char) :=
  match expr.dropWhile isReceiverChar with
  | '(' :: rest =>
    match cutLast? '.' (expr.takeWhile isReceiverChar) with
    | some ([], _) => none
    | some (receiver, name) => some (receiver, '.' :: name ++ '(' :: rest)
    | none => none
  | _ => none

def isOpener (c : Char) : Bool :=
  c == '(' || c == '[' || c == '{'

def isCloser (c : Char) : Bool :=
  c == ')' || c == ']' || c == '}'

/-- The texts between the commas of a call, from a place inside `depth` brackets of it on, where
`current` has been read of the first one. The call ends at the bracket that closes it. -/
def piecesFrom (literal? : Option Literal) (depth : Nat) (current : List Char) :
    List Char → List (List Char)
  | [] => [current]
  | c :: cs =>
    match literal? with
    | some literal => piecesFrom (literal.next c) depth (current ++ [c]) cs
    | none =>
      if isQuote c then piecesFrom (some ⟨c, false⟩) depth (current ++ [c]) cs
      else if isOpener c then piecesFrom none (depth + 1) (current ++ [c]) cs
      else if isCloser c then
        match depth with
        | 0 => [current]
        | outer + 1 => piecesFrom none outer (current ++ [c]) cs
      else if c = ',' && depth = 0 then current :: piecesFrom none 0 [] cs
      else piecesFrom none depth (current ++ [c]) cs

def callArguments (s : List Char) : List (List Char) :=
  ((piecesFrom none 0 [] s).map trim).filter fun arg => !arg.isEmpty

/-- The function that an argument names: itself, or what it calls. -/
def callTarget? (arg : List Char) : Option (List Char) :=
  let target := trim (arg.takeWhile (· != '('))
  if isChain target then some target else none

/-- No piece of a call is longer than the text it is read from. -/
theorem length_le_of_mem_piecesFrom (s : List Char) (literal? : Option Literal) (depth : Nat)
    (current : List Char) :
    ∀ piece ∈ piecesFrom literal? depth current s, piece.length ≤ current.length + s.length := by
  induction s generalizing literal? depth current with
  | nil => simp [piecesFrom]
  | cons c cs ih =>
    intro piece h
    have step (l : Option Literal) (d : Nat)
        (hm : piece ∈ piecesFrom l d (current ++ [c]) cs) :
        piece.length ≤ current.length + (c :: cs).length := by
      have := ih l d (current ++ [c]) piece hm
      simp only [List.length_append, List.length_cons, List.length_nil] at this ⊢
      omega
    unfold piecesFrom at h
    split at h
    · exact step _ _ h
    · split at h
      · exact step _ _ h
      · split at h
        · exact step _ _ h
        · split at h
          · split at h
            · obtain rfl := List.mem_singleton.1 h
              exact Nat.le_add_right _ _
            · exact step _ _ h
          · split at h
            · rcases List.mem_cons.1 h with rfl | h
              · exact Nat.le_add_right _ _
              · have := ih none 0 [] piece h
                simp only [List.length_cons, List.length_nil] at this ⊢
                omega
            · exact step _ _ h

theorem length_le_of_mem_callArguments {s arg : List Char} (h : arg ∈ callArguments s) :
    arg.length ≤ s.length := by
  obtain ⟨piece, hp, rfl⟩ := List.mem_map.1 (List.mem_filter.1 h).1
  have := length_le_of_mem_piecesFrom s none 0 [] piece hp
  have := length_trim_le piece
  simp only [List.length_nil] at *
  omega

end RouteDoc.Go
