import RouteDoc.Text.Blank
import RouteDoc.Yaml.Style

/-!
A place in a YAML text: what follows it, and where it is. Lines end with a line feed, a carriage
return, both in this order, or one of the three other characters that end a line.
-/

namespace RouteDoc.Yaml

/-- A place in a text. -/
structure Cursor where
  rest : List Char
  index : Nat := 0
  line : Nat := 0
  column : Nat := 0
  deriving Repr, DecidableEq

/-- Whether `c` may stand in a YAML text at all. -/
def isAllowed (c : Char) : Bool :=
  let n := c.toNat
  c == '\t' || c == '\r' || n == 0x85 || isPrintable c

/-- Whether `c` may stand in the name of an anchor, a tag handle or a directive. -/
def isNameChar (c : Char) : Bool :=
  c.isAlphanum || c == '_' || c == '-'

namespace Cursor

def atChar (c : Cursor) (ch : Char) : Bool :=
  c.rest.head? = some ch

def atBlank (c : Cursor) : Bool :=
  c.rest.head?.any Text.isGap

def atBreak (c : Cursor) : Bool :=
  c.rest.head?.any isBreak

def atLineEnd (c : Cursor) : Bool :=
  c.rest.head?.all isBreak

/-- Whether the place is at a blank, the end of a line or the end of the text. -/
def atWordEnd (c : Cursor) : Bool :=
  endsWord c.rest

/-- The place `n` characters on, on the same line. -/
def skip (c : Cursor) (n : Nat) : Cursor :=
  { c with rest := c.rest.drop n, index := c.index + n, column := c.column + n }

/-- The place behind all characters of a kind that does not end lines. -/
def skipWhile (c : Cursor) (p : Char → Bool) : Cursor :=
  c.skip (c.rest.takeWhile p).length

/-- The line end at the place, as it counts in a scalar, and the place behind it. -/
def readLine (c : Cursor) : List Char × Cursor :=
  match c.rest with
  | '\r' :: '\n' :: rest =>
    (['\n'], { rest := rest, index := c.index + 2, line := c.line + 1, column := 0 })
  | ch :: rest =>
    if isBreak ch then
      (if ch.toNat = 0x2028 || ch.toNat = 0x2029 then [ch] else ['\n'],
        { rest := rest, index := c.index + 1, line := c.line + 1, column := 0 })
    else ([], c)
  | [] => ([], c)

def skipLine (c : Cursor) : Cursor :=
  c.readLine.2

/-- The place behind blanks, a comment and the line end, if nothing else stands on the line. -/
def skipToNextLine? (c : Cursor) : Option Cursor :=
  let c := c.skipWhile Text.isGap
  let c := if c.atChar '#' then c.skipWhile (fun ch => !isBreak ch) else c
  if c.atLineEnd then some c.skipLine else none

/-- Whether a line starts here that marks the start of a document. -/
def atDocumentStart (c : Cursor) : Bool :=
  c.column = 0 && c.rest.take 3 = ['-', '-', '-'] && endsWord (c.rest.drop 3)

/-- Whether a line starts here that marks the end of a document. -/
def atDocumentEnd (c : Cursor) : Bool :=
  c.column = 0 && c.rest.take 3 = ['.', '.', '.'] && endsWord (c.rest.drop 3)

def atDocumentMark (c : Cursor) : Bool :=
  c.atDocumentStart || c.atDocumentEnd

end Cursor

end RouteDoc.Yaml
