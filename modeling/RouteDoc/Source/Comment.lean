import RouteDoc.Text.Lines

/-!
Go source without its comments. Every line stays at its number; a raw string or a block comment goes
on over the end of a line, an interpreted string or a rune does not. Where a block comment closes
behind kept text of its line, one blank stands for it.
-/

namespace RouteDoc.Source

open RouteDoc.Text

/-- What the text at some place of a line belongs to. -/
inductive Mode where
  | code
  | comment
  | raw
  /-- A string or rune that ends at the next unescaped `quote`. -/
  | quoted (quote : Char)
  deriving Repr, DecidableEq

/-- What goes on behind the end of a line that ends in the given mode. -/
def Mode.carried : Mode → Mode
  | .quoted _ => .code
  | mode => mode

/-- The mode behind the code character `c`. -/
def Mode.behindCode (c : Char) : Mode :=
  if c = '\x60' then .raw
  else if c = '"' || c = '\'' then .quoted c
  else .code

/-- The kept characters of the rest of a line, and the mode the next line starts in. `kept` says
whether something of the line has been kept already. -/
def keepFrom : Mode → Bool → List Char → List Char × Mode
  | mode, _, [] => ([], mode.carried)
  | .code, _, '/' :: '/' :: _ => ([], .code)
  | .code, kept, '/' :: '*' :: cs => keepFrom .comment kept cs
  | .code, _, c :: cs =>
    let (out, last) := keepFrom (Mode.behindCode c) true cs
    (c :: out, last)
  | .comment, kept, '*' :: '/' :: cs =>
    let (out, last) := keepFrom .code kept cs
    (if kept then ' ' :: out else out, last)
  | .comment, kept, _ :: cs => keepFrom .comment kept cs
  | .raw, _, c :: cs =>
    let (out, last) := keepFrom (if c = '\x60' then .code else .raw) true cs
    (c :: out, last)
  | .quoted quote, _, '\\' :: c :: cs =>
    let (out, last) := keepFrom (.quoted quote) true cs
    ('\\' :: c :: out, last)
  | .quoted quote, _, c :: cs =>
    let (out, last) := keepFrom (if c = quote then .code else .quoted quote) true cs
    (c :: out, last)

/-- The lines without comments and without blanks at their ends, when the first one starts in the
given mode. -/
def stripFrom : Mode → List (List Char) → List (List Char)
  | _, [] => []
  | mode, line :: lines =>
    let (out, next) := keepFrom mode false line
    trimEnd out :: stripFrom next lines

/-- The lines of a source text without comments. -/
def stripComments (source : List Char) : List (List Char) :=
  stripFrom .code (lines source)

end RouteDoc.Source
