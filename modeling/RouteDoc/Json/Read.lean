import RouteDoc.Data
import RouteDoc.Text.Decimal
import RouteDoc.Text.Search

/-!
JSON text as data. The grammar is strict: no comments, no trailing commas, no leading zeros, and the
text holds one value. A quoted text with half of a surrogate pair is well-formed, but no text can be
made of it, and none of a record with such a name.
-/

namespace RouteDoc.Json

open RouteDoc.Text

/-- Whether `c` may stand between values. -/
def isSpace (c : Char) : Bool :=
  c == ' ' || c == '\t' || c == '\n' || c == '\r'

def skipSpace (s : List Char) : List Char :=
  s.dropWhile isSpace

/-- A unit of a quoted text: a character, or half of a surrogate pair. -/
inductive TextUnit where
  | char (c : Char)
  | half (n : Nat)
  deriving Repr, DecidableEq

/-- The unit that an escape with four digits stands for. -/
def unitOf (n : Nat) : TextUnit :=
  if 0xD800 ≤ n && n ≤ 0xDFFF then .half n else .char (Char.ofNat n)

/-- The character behind a backslash. -/
def escaped? (c : Char) : Option Char :=
  if c = '"' || c = '\\' || c = '/' then some c
  else if c = 'b' then some (Char.ofNat 8)
  else if c = 'f' then some (Char.ofNat 12)
  else if c = 'n' then some '\n'
  else if c = 'r' then some '\r'
  else if c = 't' then some '\t'
  else none

/-- The units up to the closing quote, and what follows it. -/
def units? : List Char → Option (List TextUnit × List Char)
  | [] => none
  | '"' :: cs => some ([], cs)
  | '\\' :: 'u' :: a :: b :: c :: d :: cs =>
    match digits? 16 [a, b, c, d] with
    | none => none
    | some n => (units? cs).map fun (units, rest) => (unitOf n :: units, rest)
  | '\\' :: c :: cs =>
    match escaped? c with
    | none => none
    | some e => (units? cs).map fun (units, rest) => (.char e :: units, rest)
  | c :: cs =>
    if c.toNat < 0x20 || c = '\\' then none
    else (units? cs).map fun (units, rest) => (.char c :: units, rest)

/-- The characters of the units; the halves of a pair must stand side by side. -/
def characters? : List TextUnit → Option (List Char)
  | [] => some []
  | .char c :: units => (characters? units).map (c :: ·)
  | .half high :: .half low :: units =>
    if high < 0xDC00 && 0xDC00 ≤ low then
      (characters? units).map (Char.ofNat (0x10000 + (high - 0xD800) * 0x400 + (low - 0xDC00)) :: ·)
    else none
  | .half _ :: _ => none

/-- The rest of a number behind its whole part: a fraction and an exponent, or either. -/
def afterWhole? (s : List Char) : Option (List Char) := do
  let rest ← match s with
    | '.' :: d :: cs => if d.isDigit then some (cs.dropWhile Char.isDigit) else none
    | '.' :: [] => none
    | cs => some cs
  match rest with
  | c :: cs =>
    if c = 'e' || c = 'E' then
      let cs := match cs with
        | '+' :: ds => ds
        | '-' :: ds => ds
        | ds => ds
      match cs with
      | d :: ds => if d.isDigit then some (ds.dropWhile Char.isDigit) else none
      | [] => none
    else some rest
  | [] => some []

/-- What follows the number at the start of a text without a sign. -/
def afterNumber? : List Char → Option (List Char)
  | '0' :: cs => if cs.head?.any Char.isDigit then none else afterWhole? cs
  | c :: cs => if c.isDigit then afterWhole? (cs.dropWhile Char.isDigit) else none
  | [] => none

def number? (s : List Char) : Option (Data × List Char) := do
  let digits := match s with
    | '-' :: cs => cs
    | cs => cs
  let rest ← afterNumber? digits
  let written := digits.take (digits.length - rest.length)
  return (.number ((decimal? written).any Decimal.isFinite), rest)

/-- The quoted text behind an opening quote. -/
def text? (s : List Char) : Option (Option String × List Char) :=
  (units? s).map fun (units, rest) => ((characters? units).map String.ofList, rest)

/-- A record of the members, unless a name is unreadable. -/
def recordOf (members : List (Option String × Data)) : Data :=
  match members.mapM fun (name?, value) => name?.map fun name => (name, value) with
  | some members => .record members
  | none => .unreadable

mutual

/-- The value at the start of a text, read in at most `n` steps. -/
def value? : Nat → List Char → Option (Data × List Char)
  | 0, _ => none
  | n + 1, s =>
    match skipSpace s with
    | '"' :: cs =>
      (text? cs).map fun (text?, rest) => (match text? with
        | some text => .text text
        | none => .unreadable, rest)
    | '[' :: cs =>
      match skipSpace cs with
      | ']' :: rest => some (.list [], rest)
      | cs => (items? n cs).map fun (items, rest) => (.list items, rest)
    | '{' :: cs =>
      match skipSpace cs with
      | '}' :: rest => some (.record [], rest)
      | cs => (members? n cs).map fun (members, rest) => (recordOf members, rest)
    | 't' :: 'r' :: 'u' :: 'e' :: rest => some (.bool true, rest)
    | 'f' :: 'a' :: 'l' :: 's' :: 'e' :: rest => some (.bool false, rest)
    | 'n' :: 'u' :: 'l' :: 'l' :: rest => some (.null, rest)
    | cs => number? cs

/-- The items up to the bracket that closes their list. -/
def items? : Nat → List Char → Option (List Data × List Char)
  | 0, _ => none
  | n + 1, s =>
    match value? n s with
    | none => none
    | some (item, rest) =>
      match skipSpace rest with
      | ',' :: rest => (items? n rest).map fun (items, rest) => (item :: items, rest)
      | ']' :: rest => some ([item], rest)
      | _ => none

/-- The members up to the brace that closes their record. -/
def members? : Nat → List Char → Option (List (Option String × Data) × List Char)
  | 0, _ => none
  | n + 1, s =>
    match skipSpace s with
    | '"' :: cs =>
      match text? cs with
      | none => none
      | some (name?, rest) =>
        match skipSpace rest with
        | ':' :: rest =>
          match value? n rest with
          | none => none
          | some (value, rest) =>
            match skipSpace rest with
            | ',' :: rest =>
              (members? n rest).map fun (members, rest) => ((name?, value) :: members, rest)
            | '}' :: rest => some ([(name?, value)], rest)
            | _ => none
        | _ => none
    | _ => none

end

/-- The data that a JSON text writes. -/
def read? (text : String) : Option Data :=
  let s := text.toList
  match value? (s.length + 1) s with
  | some (value, rest) => if (skipSpace rest).isEmpty then some value else none
  | none => none

end RouteDoc.Json
