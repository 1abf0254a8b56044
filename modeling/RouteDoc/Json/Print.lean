import RouteDoc.Data
import RouteDoc.Text.Blank

/-!
Data as JSON text, in one line or with one member or item per line.
-/

namespace RouteDoc.Json

def hexDigit (n : Nat) : Char :=
  Char.ofNat (if n < 10 then 48 + n else 87 + n)

def quotedChar (c : Char) : List Char :=
  if c = '"' then ['\\', '"']
  else if c = '\\' then ['\\', '\\']
  else if c = '\n' then ['\\', 'n']
  else if c = '\r' then ['\\', 'r']
  else if c = '\t' then ['\\', 't']
  else if c.toNat = 8 then ['\\', 'b']
  else if c.toNat = 12 then ['\\', 'f']
  else if c.toNat < 32 then
    ['\\', 'u', '0', '0', hexDigit (c.toNat / 16), hexDigit (c.toNat % 16)]
  else [c]

def quoted (s : String) : List Char :=
  '"' :: s.toList.flatMap quotedChar ++ ['"']

/-- A value that holds no others. -/
def atom : Data → List Char
  | .bool true => ['t', 'r', 'u', 'e']
  | .bool false => ['f', 'a', 'l', 's', 'e']
  | .text s => quoted s
  | _ => ['n', 'u', 'l', 'l']

mutual

/-- A value over several lines, which starts behind `n` blanks. -/
def pretty (n : Nat) : Data → List Char
  | .list [] => ['[', ']']
  | .list items => '[' :: '\n' :: prettyItems (n + 2) items ++ '\n' :: Text.spaces n ++ [']']
  | .record [] => ['{', '}']
  | .record members => '{' :: '\n' :: prettyMembers (n + 2) members ++ '\n' :: Text.spaces n ++ ['}']
  | value => atom value

def prettyItems (n : Nat) : List Data → List Char
  | [] => []
  | item :: items =>
    Text.spaces n ++ pretty n item
      ++ (if items.isEmpty then [] else [',', '\n']) ++ prettyItems n items

def prettyMembers (n : Nat) : List (String × Data) → List Char
  | [] => []
  | (name, value) :: members =>
    Text.spaces n ++ quoted name ++ [':', ' '] ++ pretty n value
      ++ (if members.isEmpty then [] else [',', '\n']) ++ prettyMembers n members

end

mutual

/-- A value in one line, without blanks. -/
def compact : Data → List Char
  | .list items => '[' :: compactItems items ++ [']']
  | .record members => '{' :: compactMembers members ++ ['}']
  | value => atom value

def compactItems : List Data → List Char
  | [] => []
  | item :: items =>
    compact item ++ (if items.isEmpty then [] else [',']) ++ compactItems items

def compactMembers : List (String × Data) → List Char
  | [] => []
  | (name, value) :: members =>
    quoted name ++ [':'] ++ compact value
      ++ (if members.isEmpty then [] else [',']) ++ compactMembers members

end

/-- Data as JSON text over several lines. -/
def print (value : Data) : String :=
  String.ofList (pretty 0 value)

/-- Data as JSON text in one line. -/
def printCompact (value : Data) : String :=
  String.ofList (compact value)

end RouteDoc.Json
