import RouteDoc.Yaml.Cursor
import RouteDoc.Text.Decimal

/-!
The texts of scalars as they stand in a YAML text: plain, in quotes, or as a block. Lines of plain and
quoted scalars, and those of folded blocks, are joined by a space, and empty lines between them stand
for line ends.
-/

namespace RouteDoc.Yaml

open RouteDoc.Text (digits?)

/-- What stands between two words of a scalar: blanks, or line ends. -/
structure Gap where
  /-- Whether a line has ended. -/
  broken : Bool := false
  /-- The blanks before any line end. -/
  blanks : List Char := []
  /-- The first line end. -/
  first : List Char := []
  /-- The line ends behind the first. -/
  more : List Char := []
  deriving Repr, DecidableEq

/-- What a gap counts for in the text of a scalar. -/
def Gap.text (gap : Gap) : List Char :=
  if !gap.broken then gap.blanks
  else if gap.first = ['\n'] then if gap.more.isEmpty then [' '] else gap.more
  else gap.first ++ gap.more

/-- The gap from a place on, in at most `n` steps, where `gap` has been read of it. A tab in front of
a line may not stand left of `column`. -/
def readGap (column : Nat) : Nat → Gap → Cursor → Option (Gap × Cursor)
  | 0, gap, c => some (gap, c)
  | n + 1, gap, c =>
    match c.rest with
    | ch :: _ =>
      if Text.isGap ch then
        if gap.broken then
          if ch = '\t' && c.column < column then none else readGap column n gap (c.skip 1)
        else readGap column n { gap with blanks := gap.blanks ++ [ch] } (c.skip 1)
      else if isBreak ch then
        let (line, c) := c.readLine
        if gap.broken then readGap column n { gap with more := gap.more ++ line } c
        else readGap column n { gap with broken := true, blanks := [], first := line } c
      else some (gap, c)
    | [] => some (gap, c)

/-- The characters of a plain scalar up to a blank, a line end or what ends the scalar. In a flow
collection a colon must not stand right before an indicator. -/
def plainWord (inFlow : Bool) : List Char → Option (List Char)
  | [] => some []
  | c :: cs =>
    if Text.isGap c || isBreak c then some []
    else if inFlow && c = ':' && cs.head?.any [',', '?', '[', ']', '{', '}'].contains then none
    else if (c = ':' && endsWord cs) || (inFlow && [',', '[', ']', '{', '}'].contains c) then
      some []
    else (plainWord inFlow cs).map (c :: ·)

/-- A plain scalar from a place on: its text, the place behind it and the gap that follows it, and
whether a line ends in that gap. Its lines stand right of the column before `column`. -/
def plainFrom (inFlow : Bool) (column : Nat) : Nat → List Char → Gap → Cursor →
    Option (List Char × Cursor × Bool)
  | 0, text, gap, c => some (text, c, gap.broken)
  | n + 1, text, gap, c =>
    if c.atDocumentMark || c.atChar '#' then some (text, c, gap.broken)
    else
      match plainWord inFlow c.rest with
      | none => none
      | some word =>
        let text := if word.isEmpty then text else text ++ gap.text ++ word
        let gap := if word.isEmpty then gap else {}
        let c := c.skip word.length
        if !(c.atBlank || c.atBreak) then some (text, c, gap.broken)
        else
          match readGap column c.rest.length gap c with
          | none => none
          | some (gap, c) =>
            if !inFlow && c.column < column then some (text, c, gap.broken)
            else plainFrom inFlow column n text gap c

/-- The character that an escape in double quotes stands for. -/
def escapedChar? (c : Char) : Option Char :=
  match c with
  | '0' => some (Char.ofNat 0)
  | 'a' => some (Char.ofNat 7)
  | 'b' => some (Char.ofNat 8)
  | 't' => some '\t'
  | '\t' => some '\t'
  | 'n' => some '\n'
  | 'v' => some (Char.ofNat 11)
  | 'f' => some (Char.ofNat 12)
  | 'r' => some '\r'
  | 'e' => some (Char.ofNat 27)
  | ' ' => some ' '
  | '"' => some '"'
  | '/' => some '/'
  | '\\' => some '\\'
  | 'N' => some (Char.ofNat 0x85)
  | '_' => some (Char.ofNat 0xA0)
  | 'L' => some (Char.ofNat 0x2028)
  | 'P' => some (Char.ofNat 0x2029)
  | _ => none

/-- How many digits follow the letter of a numeric escape. -/
def escapeWidth? (c : Char) : Option Nat :=
  if c = 'x' then some 2 else if c = 'u' then some 4 else if c = 'U' then some 8 else none

def charOf? (n : Nat) : Option Char :=
  if (0xD800 ≤ n && n ≤ 0xDFFF) || n > 0x10FFFF then none else some (Char.ofNat n)

/-- The characters between quotes up to a blank, a line end or the closing quote, the place behind
them, and whether the last one is an escaped line end; in at most `n` steps. -/
def quotedWord (single : Bool) : Nat → List Char → Cursor → Option (List Char × Cursor × Bool)
  | 0, text, c => some (text, c, false)
  | n + 1, text, c =>
    match c.rest with
    | [] => some (text, c, false)
    | ch :: rest =>
      if Text.isGap ch || isBreak ch then some (text, c, false)
      else if single then
        if ch = '\'' then
          if rest.head? = some '\'' then quotedWord single n (text ++ ['\'']) (c.skip 2)
          else some (text, c, false)
        else quotedWord single n (text ++ [ch]) (c.skip 1)
      else if ch = '"' then some (text, c, false)
      else if ch = '\\' then
        match rest with
        | [] => none
        | e :: more =>
          if isBreak e then some (text, (c.skip 1).skipLine, true)
          else
            match escapeWidth? e with
            | some width =>
              let digits := more.take width
              if digits.length < width then none
              else
                match (digits? 16 digits).bind charOf? with
                | some decoded => quotedWord single n (text ++ [decoded]) (c.skip (2 + width))
                | none => none
            | none =>
              match escapedChar? e with
              | some decoded => quotedWord single n (text ++ [decoded]) (c.skip 2)
              | none => none
      else quotedWord single n (text ++ [ch]) (c.skip 1)

/-- A quoted scalar from a place behind its opening quote on, and the place behind its closing
quote. -/
def quotedFrom (single : Bool) : Nat → List Char → Cursor → Option (List Char × Cursor)
  | 0, _, _ => none
  | n + 1, text, c =>
    if c.atDocumentMark || c.rest.isEmpty then none
    else
      match quotedWord single c.rest.length [] c with
      | none => none
      | some (word, c, broken) =>
        let text := text ++ word
        if c.atChar (if single then '\'' else '"') then some (text, c.skip 1)
        else
          match readGap 0 c.rest.length { broken := broken } c with
          | none => none
          | some (gap, c) => quotedFrom single n (text ++ gap.text) c

/-- What becomes of the line ends at the end of a block. -/
inductive Chomping where
  | strip
  | clip
  | keep
  deriving Repr, DecidableEq

/-- The header of a block behind its bar or angle: chomping, and the indentation that it gives. -/
def blockHeader? (c : Cursor) : Option (Chomping × Nat × Cursor) :=
  match chomping? c with
  | some (chomping, c) => (digit? c).map fun (digit, c) => (chomping, digit, c)
  | none =>
    (digit? c).map fun (digit, c) =>
      match if digit = 0 then none else chomping? c with
      | some (chomping, c) => (chomping, digit, c)
      | none => (.clip, digit, c)
where
  /-- A chomping mark. -/
  chomping? (c : Cursor) : Option (Chomping × Cursor) :=
    if c.atChar '+' then some (.keep, c.skip 1) else if c.atChar '-' then some (.strip, c.skip 1) else none
  /-- An indentation digit, which is not zero; zero if there is none. -/
  digit? (c : Cursor) : Option (Nat × Cursor) :=
    match c.rest with
    | ch :: _ =>
      if ch = '0' then none
      else if ch.isDigit then some (ch.toNat - 48, c.skip 1)
      else some (0, c)
    | [] => some (0, c)

/-- The empty lines of a block from a place on: the largest column met, the line ends, and the place
of the next line's text; in at most `n` steps. With `indent` zero the indentation is not yet
known. -/
def emptyLines (indent : Nat) : Nat → Nat → List Char → Cursor → Option (Nat × List Char × Cursor)
  | 0, column, lines, c => some (column, lines, c)
  | n + 1, column, lines, c =>
    let spaces := (c.rest.takeWhile (· == ' ')).length
    let c := c.skip (if indent = 0 then spaces else min spaces (indent - c.column))
    let column := max column c.column
    if (indent = 0 || c.column < indent) && c.atChar '\t' then none
    else if c.atBreak then
      let (line, c) := c.readLine
      emptyLines indent n column (lines ++ line) c
    else some (column, lines, c)

/-- A block that is being read. -/
structure Block where
  text : List Char := []
  /-- The end of the last line. -/
  ending : List Char := []
  /-- The ends of the empty lines behind it. -/
  empty : List Char := []
  /-- Whether the last line starts with a blank. -/
  indented : Bool := false
  deriving Repr, DecidableEq

/-- The block with the gap in front of its next line, which starts with a blank or not. -/
def Block.join (block : Block) (folded indented : Bool) : List Char :=
  if folded && block.ending = ['\n'] && !block.indented && !indented then
    block.text ++ (if block.empty.isEmpty then [' '] else []) ++ block.empty
  else block.text ++ block.ending ++ block.empty

/-- The block with its lines from a place on, in at most `n` steps. -/
def blockLines (folded : Bool) (indent : Nat) : Nat → Block → Cursor → Option (Block × Cursor)
  | 0, block, c => some (block, c)
  | n + 1, block, c =>
    if c.column = indent && !c.rest.isEmpty then
      let indented := c.atBlank
      let line := c.rest.takeWhile fun ch => !isBreak ch
      let text := block.join folded indented ++ line
      let (ending, c) := (c.skip line.length).readLine
      match emptyLines indent (c.rest.length + 1) 0 [] c with
      | none => none
      | some (_, empty, c) =>
        blockLines folded indent n ⟨text, ending, empty, indented⟩ c
    else some (block, c)

/-- A block scalar from a place behind its bar or angle on, inside a collection at the column
`outer`. -/
def blockFrom (folded : Bool) (outer : Int) (c : Cursor) : Option (List Char × Cursor) := do
  let (chomping, digit, c) ← blockHeader? c
  let c ← c.skipToNextLine?
  let given : Nat := if digit = 0 then 0 else (max outer 0).toNat + digit
  let (column, empty, c) ← emptyLines given (c.rest.length + 1) 0 [] c
  let indent : Nat := if given = 0 then max (max column (outer + 1).toNat) 1 else given
  let (block, c) ← blockLines folded indent (c.rest.length + 1) { empty := empty } c
  let ends := match chomping with
    | .strip => []
    | .clip => block.ending
    | .keep => block.ending ++ block.empty
  return (block.text ++ ends, c)

end RouteDoc.Yaml
