import RouteDoc.Yaml.Plain

/-!
How a text is written as a YAML scalar: without quotes, in single or double quotes, or as a literal
block. A text over several lines is a literal block; one that would be read as something else is
quoted; the characters of a text decide which of these it may be.
-/

namespace RouteDoc.Yaml

/-- The ways to write a scalar. -/
inductive Style where
  | plain
  | single
  | double
  | literal
  deriving Repr, DecidableEq

def isBreak (c : Char) : Bool :=
  c == '\n' || c == '\r' || c.toNat == 0x85 || c.toNat == 0x2028 || c.toNat == 0x2029

/-- Whether `c` may stand in a scalar as it is. -/
def isPrintable (c : Char) : Bool :=
  let n := c.toNat
  n == 0xA || (0x20 ≤ n && n ≤ 0x7E) || (0xA0 ≤ n && n ≤ 0xFFFD && n != 0xFEFF) || 0x10000 ≤ n

/-- Whether a place is followed by a blank, a line end or nothing. -/
def endsWord : List Char → Bool
  | [] => true
  | c :: _ => c == ' ' || c == '\t' || isBreak c || c.toNat == 0

/-- Whether a character in front keeps a text from being plain, where `rest` follows it. -/
def opensIndicator (c : Char) (rest : List Char) : Bool :=
  ['#', ',', '[', ']', '{', '}', '&', '*', '!', '|', '>', '\'', '"', '%', '@', '\x60'].contains c
    || ((c == '?' || c == ':' || c == '-') && endsWord rest)

/-- Whether a colon that ends a word, or a hash that starts one, stands behind the character
`before`. -/
def innerIndicator (before : Char) : List Char → Bool
  | [] => false
  | c :: cs =>
    (c == ':' && endsWord cs) || (c == '#' && endsWord [before]) || innerIndicator c cs

/-- Whether the text has a character with a meaning that keeps it from being plain. -/
def hasIndicator (s : List Char) : Bool :=
  match s with
  | [] => false
  | c :: cs =>
    s.take 3 == ['-', '-', '-'] || s.take 3 == ['.', '.', '.'] || opensIndicator c cs
      || innerIndicator c cs

/-- Whether a character of one kind stands right before one of the other. -/
def hasPair (first second : Char → Bool) : List Char → Bool
  | a :: b :: cs => (first a && second b) || hasPair first second (b :: cs)
  | _ => false

def isSpace (c : Char) : Bool :=
  c == ' '

/-- What the characters of a text allow. -/
structure Allowed where
  plain : Bool
  single : Bool
  literal : Bool
  deriving Repr, DecidableEq

/-- What the characters of a text allow. Spaces next to line ends would get lost in quotes and
blocks, and characters that cannot be printed need escapes. -/
def allowed (s : List Char) : Allowed :=
  let special := !s.all isPrintable || hasPair isSpace isBreak s
  let atEnds (p : Char → Bool) := s.head?.any p || s.getLast?.any p
  { plain := !special && !s.any isBreak && !atEnds isSpace && !hasIndicator s
    single := !special && !hasPair isBreak isSpace s
    literal := !special && !s.isEmpty && !s.getLast?.any isSpace }

/-- How a text is written. -/
def styleOf (s : String) : Style :=
  let allowed := allowed s.toList
  if s.toList.contains '\n' then if allowed.literal then .literal else .double
  else if allowed.plain && !(isResolved s || isPadded s.toList) then .plain
  else if allowed.single then .single
  else .double

end RouteDoc.Yaml
