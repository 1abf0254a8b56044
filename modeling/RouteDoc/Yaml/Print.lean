import RouteDoc.Data
import RouteDoc.Text.Blank
import RouteDoc.Yaml.Style

/-!
Data as YAML text in block style. Every value ends with its line; a list that is the value of a simple
key stands as far left as the key, and what stands behind a dash, a question mark or the colon of a
long key starts on the same line.
-/

namespace RouteDoc.Yaml

def hexDigit (n : Nat) : Char :=
  Char.ofNat (if n < 10 then 48 + n else 55 + n)

/-- The last `width` digits of a hexadecimal number. -/
def hexDigits : Nat → Nat → List Char
  | 0, _ => []
  | width + 1, n => hexDigits width (n / 16) ++ [hexDigit (n % 16)]

def doubleChar (c : Char) : List Char :=
  let n := c.toNat
  if c = '"' || c = '\\' then ['\\', c]
  else if isPrintable c && !isBreak c then [c]
  else match n with
    | 0 => ['\\', '0']
    | 7 => ['\\', 'a']
    | 8 => ['\\', 'b']
    | 9 => ['\\', 't']
    | 10 => ['\\', 'n']
    | 11 => ['\\', 'v']
    | 12 => ['\\', 'f']
    | 13 => ['\\', 'r']
    | 27 => ['\\', 'e']
    | 0x85 => ['\\', 'N']
    | 0x2028 => ['\\', 'L']
    | 0x2029 => ['\\', 'P']
    | _ =>
      if n ≤ 0xFF then '\\' :: 'x' :: hexDigits 2 n
      else if n ≤ 0xFFFF then '\\' :: 'u' :: hexDigits 4 n
      else '\\' :: 'U' :: hexDigits 8 n

/-- The text between single quotes, whose further lines stand behind `n` blanks; `fresh` says whether
a line has just begun. -/
def singleFrom (n : Nat) (fresh : Bool) : List Char → List Char
  | [] => if fresh then Text.spaces n else []
  | c :: cs =>
    if isBreak c then c :: singleFrom n true cs
    else (if fresh then Text.spaces n else []) ++ (if c = '\'' then ['\'', '\''] else [c])
      ++ singleFrom n false cs

/-- The lines of a literal block behind `n` blanks; empty lines have no blanks. -/
def literalFrom (n : Nat) (fresh : Bool) : List Char → List Char
  | [] => []
  | c :: cs =>
    if isBreak c then c :: literalFrom n true cs
    else (if fresh then Text.spaces n else []) ++ c :: literalFrom n false cs

/-- The marks behind the bar of a literal block: how far it is indented, where its first line does
not show that, and what becomes of the line ends at its end. -/
def literalMarks (s : List Char) : List Char :=
  (if s.head?.any fun c => isSpace c || isBreak c then ['2'] else [])
    ++ match s.reverse with
      | [] => ['-']
      | [_] => if s.any isBreak then ['+'] else ['-']
      | last :: previous :: _ =>
        if !isBreak last then ['-'] else if isBreak previous then ['+'] else []

/-- A scalar with its line end. What does not fit the first line stands behind `n` blanks. -/
def scalarLine (n : Nat) (s : String) : List Char :=
  let text := s.toList
  match styleOf s with
  | .plain => text ++ ['\n']
  | .single => '\'' :: singleFrom n false text ++ ['\'', '\n']
  | .double => '"' :: text.flatMap doubleChar ++ ['"', '\n']
  | .literal =>
    '|' :: literalMarks text ++ '\n' :: literalFrom n true text
      ++ (if text.getLast?.any isBreak then [] else ['\n'])

/-- Whether a key stands in front of its colon, or needs a question mark. -/
def isSimpleKey (s : String) : Bool :=
  !s.toList.any isBreak && s.utf8ByteSize ≤ 128

def atomLine (n : Nat) : Data → List Char
  | .text s => scalarLine n s
  | .bool true => ['t', 'r', 'u', 'e', '\n']
  | .bool false => ['f', 'a', 'l', 's', 'e', '\n']
  | _ => ['n', 'u', 'l', 'l', '\n']

mutual

/-- A value behind the colon of a simple key that stands behind `n` blanks. -/
def afterKey (n : Nat) : Data → List Char
  | .list [] => [' ', '[', ']', '\n']
  | .list items => '\n' :: itemLines n true items
  | .record [] => [' ', '{', '}', '\n']
  | .record members => '\n' :: memberLines (n + 2) true members
  | value => ' ' :: atomLine (n + 2) value

/-- A value on the line of an indicator that stands behind `n` blanks. -/
def afterIndicator (n : Nat) : Data → List Char
  | .list [] => [' ', '[', ']', '\n']
  | .list items => ' ' :: itemLines (n + 2) false items
  | .record [] => [' ', '{', '}', '\n']
  | .record members => ' ' :: memberLines (n + 2) false members
  | value => ' ' :: atomLine (n + 2) value

/-- Items behind `n` blanks, which the first one has already where `fresh` does not hold. -/
def itemLines (n : Nat) (fresh : Bool) : List Data → List Char
  | [] => []
  | item :: items =>
    (if fresh then Text.spaces n else []) ++ '-' :: afterIndicator n item ++ itemLines n true items

/-- Members behind `n` blanks, which the first one has already where `fresh` does not hold. -/
def memberLines (n : Nat) (fresh : Bool) : List (String × Data) → List Char
  | [] => []
  | (name, value) :: members =>
    (if fresh then Text.spaces n else [])
      ++ (if isSimpleKey name then (scalarLine (n + 2) name).dropLast ++ ':' :: afterKey n value
        else '?' :: ' ' :: scalarLine (n + 2) name ++ Text.spaces n ++ ':' :: afterIndicator n value)
      ++ memberLines n true members

end

def print : Data → String
  | .list [] => "[]\n"
  | .list items => String.ofList (itemLines 0 false items)
  | .record [] => "\x7b\x7d\n"
  | .record members => String.ofList (memberLines 0 false members)
  | value => String.ofList (atomLine 2 value)

end RouteDoc.Yaml
