import RouteDoc.Yaml.ScalarText

/-!
The tokens of a YAML text. Block collections are opened and closed by the columns of what stands in
them; the key of a mapping is known only at its colon, so a key token may be put in front of tokens
already read. A simple key stands on one line and is at most 1024 characters long.
-/

namespace RouteDoc.Yaml

open RouteDoc.Text (digits?)

inductive Token where
  | streamStart
  | streamEnd
  | version (major minor : Nat)
  | tagDirective (handle lead : List Char)
  | documentStart
  | documentEnd
  | blockSequenceStart
  | blockMappingStart
  | blockEnd
  | flowSequenceStart
  | flowSequenceEnd
  | flowMappingStart
  | flowMappingEnd
  | blockEntry
  | flowEntry
  | key
  | value
  | reference (name : List Char)
  | anchor (name : List Char)
  | tag (handle suffix : List Char)
  | scalar (text : List Char) (style : Style)
  deriving Repr, DecidableEq

/-- A place where a simple key may have started. -/
structure SimpleKey where
  /-- Whether only a key can stand there. -/
  required : Bool
  /-- The number of the token that it starts with. -/
  token : Nat
  index : Nat
  line : Nat
  column : Nat
  deriving Repr, DecidableEq

/-- What is known while tokens are read. -/
structure Lexer where
  cursor : Cursor
  tokens : List Token := [.streamStart]
  /-- The column of the innermost block collection. -/
  indent : Int := -1
  /-- The columns of the block collections around it. -/
  outer : List Int := []
  /-- Whether a simple key may start here. -/
  keyAllowed : Bool := true
  /-- The simple keys that may have started, one per flow collection and one outside all, innermost
  first. -/
  keys : List (Option SimpleKey) := [none]
  deriving Repr

namespace Lexer

def inFlow (l : Lexer) : Bool :=
  1 < l.keys.length

def push (l : Lexer) (token : Token) : Lexer :=
  { l with tokens := l.tokens ++ [token] }

/-- Adds a token in front of the one with a number. -/
def insert (l : Lexer) (number : Nat) (token : Token) : Lexer :=
  { l with tokens := l.tokens.take number ++ token :: l.tokens.drop number }

def skip (l : Lexer) (n : Nat) : Lexer :=
  { l with cursor := l.cursor.skip n }

/-- Gives up the innermost simple key, which must not be required. -/
def dropKey? (l : Lexer) : Option Lexer :=
  match l.keys with
  | some key :: rest => if key.required then none else some { l with keys := none :: rest }
  | _ => some l

/-- Notes that a simple key may start here. -/
def saveKey? (l : Lexer) : Option Lexer :=
  if l.keyAllowed then
    (dropKey? l).map fun l =>
      let key : SimpleKey :=
        { required := !l.inFlow && l.indent = l.cursor.column
          token := l.tokens.length
          index := l.cursor.index
          line := l.cursor.line
          column := l.cursor.column }
      { l with keys := some key :: l.keys.tail }
  else some l

/-- A simple key as it stands at a place: given up where it has become too long, which no required
one may. -/
def freshKey? (c : Cursor) : Option SimpleKey → Option (Option SimpleKey)
  | none => some none
  | some key =>
    if key.line < c.line || key.index + 1024 < c.index then
      if key.required then none else some none
    else some (some key)

def dropStaleKeys? (l : Lexer) : Option Lexer :=
  (l.keys.mapM (freshKey? l.cursor)).map fun keys => { l with keys := keys }

/-- Opens a block collection at a column, in front of the token with a number, unless one is open
there already. -/
def openBlock (l : Lexer) (column : Nat) (number : Nat) (token : Token) : Lexer :=
  if !l.inFlow && l.indent < column then
    { l.insert number token with indent := column, outer := l.indent :: l.outer }
  else l

/-- Closes the block collections right of a column, given those around the innermost. -/
def closeBlocksFrom (column : Int) : List Int → Lexer → Lexer
  | [], l => l
  | indent :: outer, l =>
    if l.indent > column then
      closeBlocksFrom column outer { l.push .blockEnd with indent := indent, outer := outer }
    else l

def closeBlocks (l : Lexer) (column : Int) : Lexer :=
  if l.inFlow then l else closeBlocksFrom column l.outer l

/-- The place of the next token, in at most `n` steps: blanks, comments and line ends are passed
over. A tab counts as a blank only where no block collection can start. -/
def skipToToken : Nat → Lexer → Lexer
  | 0, l => l
  | n + 1, l =>
    let isGap := fun ch => ch == ' ' || ((l.inFlow || !l.keyAllowed) && ch == '\t')
    let c := l.cursor.skipWhile isGap
    let c := if c.atChar '#' then c.skipWhile (fun ch => !isBreak ch) else c
    if c.atBreak then
      skipToToken n { l with cursor := c.skipLine, keyAllowed := l.keyAllowed || !l.inFlow }
    else { l with cursor := c }

/-- Ends all that is open before a directive, a document mark or the end of the text. -/
def endBlocks? (l : Lexer) : Option Lexer :=
  (l.closeBlocks (-1)).dropKey?.map fun l => { l with keyAllowed := false }

def openFlow? (l : Lexer) (token : Token) : Option Lexer :=
  l.saveKey?.map fun l =>
    { (l.skip 1).push token with keys := none :: l.keys, keyAllowed := true }

def closeFlow? (l : Lexer) (token : Token) : Option Lexer :=
  l.dropKey?.map fun l =>
    let keys := if l.inFlow then l.keys.tail else l.keys
    { (l.skip 1).push token with keys := keys, keyAllowed := false }

def flowEntry? (l : Lexer) : Option Lexer :=
  l.dropKey?.map fun l => { (l.skip 1).push .flowEntry with keyAllowed := true }

/-- Opens a block collection for an indicator here, where one may stand. -/
def openHere? (l : Lexer) (token : Token) : Option Lexer :=
  if l.inFlow then some l
  else if l.keyAllowed then some (l.openBlock l.cursor.column l.tokens.length token)
  else none

def blockEntry? (l : Lexer) : Option Lexer := do
  let l ← (← l.openHere? .blockSequenceStart).dropKey?
  return { (l.skip 1).push .blockEntry with keyAllowed := true }

def key? (l : Lexer) : Option Lexer := do
  let l ← (← l.openHere? .blockMappingStart).dropKey?
  return { (l.skip 1).push .key with keyAllowed := !l.inFlow }

/-- Reads the colon of a value. If a simple key may have started, it did. -/
def value? (l : Lexer) : Option Lexer :=
  match l.keys with
  | some key :: rest =>
    let l := (l.insert key.token .key).openBlock key.column key.token .blockMappingStart
    some { (l.skip 1).push .value with keys := none :: rest, keyAllowed := false }
  | _ =>
    (l.openHere? .blockMappingStart).map fun l =>
      { (l.skip 1).push .value with keyAllowed := !l.inFlow }

/-- A token that may be a simple key or start one, read from here. -/
def content? (l : Lexer) (read : Cursor → Option (Token × Cursor)) : Option Lexer := do
  let l ← l.saveKey?
  let (token, c) ← read l.cursor
  return { l.push token with cursor := c, keyAllowed := false }

end Lexer

/-- An anchor or alias, behind its mark. -/
def anchorName? (c : Cursor) : Option (List Char × Cursor) :=
  let name := c.rest.takeWhile isNameChar
  let c := c.skip name.length
  let ends := c.atWordEnd || c.rest.head?.any ['?', ':', ',', ']', '}', '%', '@', '\x60'].contains
  if name.isEmpty || !ends then none else some (name, c)

/-- The width of a character in octets, by its first one. -/
def octets? (n : Nat) : Option Nat :=
  if n < 0x80 then some 1
  else if 0xC0 ≤ n && n < 0xE0 then some 2
  else if 0xE0 ≤ n && n < 0xF0 then some 3
  else if 0xF0 ≤ n && n < 0xF8 then some 4
  else none

/-- The number of an escaped octet at the start of the text, and what follows it. -/
def octet? : List Char → Option (Nat × List Char)
  | '%' :: a :: b :: rest => (digits? 16 [a, b]).map fun n => (n, rest)
  | _ => none

/-- What follows so many escaped octets that continue a character. -/
def afterOctets? : Nat → List Char → Option (List Char)
  | 0, s => some s
  | n + 1, s =>
    match octet? s with
    | some (octet, rest) => if 0x80 ≤ octet && octet < 0xC0 then afterOctets? n rest else none
    | none => none

/-- Whether `c` may stand in the address of a tag; some only inside angles. -/
def isTagChar (inAngles : Bool) (c : Char) : Bool :=
  isNameChar c
    || [';', '/', '?', ':', '@', '&', '=', '+', '$', '.', '%', '!', '~', '*', '\'', '(', ')'].contains c
    || (inAngles && [',', '[', ']'].contains c)

/-- The characters of a tag's address and the place behind them, in at most `n` steps. An escaped
character beyond ASCII counts as one that no known tag holds. -/
def tagChars (inAngles : Bool) : Nat → List Char → Cursor → Option (List Char × Cursor)
  | 0, text, c => some (text, c)
  | n + 1, text, c =>
    match c.rest with
    | [] => some (text, c)
    | ch :: _ =>
      if ch = '%' then
        match octet? c.rest with
        | none => none
        | some (octet, rest) =>
          match (octets? octet).bind fun width => afterOctets? (width - 1) rest with
          | none => none
          | some behind =>
            let decoded := if octet < 0x80 then Char.ofNat octet else Char.ofNat 0xFFFD
            tagChars inAngles n (text ++ [decoded]) (c.skip (c.rest.length - behind.length))
      else if isTagChar inAngles ch then tagChars inAngles n (text ++ [ch]) (c.skip 1)
      else some (text, c)

/-- The address of a tag behind `lead`; one of them must not be empty. -/
def tagAddress? (inAngles : Bool) (lead : List Char) (c : Cursor) : Option (List Char × Cursor) :=
  match tagChars inAngles c.rest.length [] c with
  | some (text, c') =>
    if lead.isEmpty && c'.index = c.index then none else some (lead.drop 1 ++ text, c')
  | none => none

/-- The handle of a tag: an exclamation mark, a name, and a second mark if there is one. -/
def tagHandle? (c : Cursor) : Option (List Char × Cursor) :=
  match c.rest with
  | '!' :: rest =>
    let name := rest.takeWhile isNameChar
    let c := c.skip (name.length + 1)
    if c.atChar '!' then some ('!' :: name ++ ['!'], c.skip 1) else some ('!' :: name, c)
  | _ => none

/-- Whether a handle has two marks. -/
def isNamedHandle (handle : List Char) : Bool :=
  1 < handle.length && handle.getLast? = some '!'

def tagToken? (inFlow : Bool) (c : Cursor) : Option (Token × Cursor) := do
  let (token, c) ←
    if c.rest.take 2 = ['!', '<'] then do
      let (address, c) ← tagAddress? true [] (c.skip 2)
      guard (c.atChar '>')
      pure (Token.tag [] address, c.skip 1)
    else do
      let (handle, c) ← tagHandle? c
      if isNamedHandle handle then
        let (suffix, c) ← tagAddress? false [] c
        pure (Token.tag handle suffix, c)
      else
        let (suffix, c) ← tagAddress? false handle c
        pure (if suffix.isEmpty then (Token.tag [] ['!'], c) else (Token.tag ['!'] suffix, c))
  guard (c.atWordEnd || (inFlow && c.atChar ','))
  return (token, c)

def versionNumber? (c : Cursor) : Option (Nat × Cursor) :=
  let digits := c.rest.takeWhile Char.isDigit
  if digits.length > 9 then none else (digits? 10 digits).map fun n => (n, c.skip digits.length)

/-- The directive behind a percent sign, and the place on the next line. -/
def directive? (c : Cursor) : Option (Token × Cursor) := do
  let name := c.rest.takeWhile isNameChar
  let c := c.skip name.length
  guard c.atWordEnd
  let (token, c) ←
    if name = ['Y', 'A', 'M', 'L'] then do
      let (major, c) ← versionNumber? (c.skipWhile Text.isGap)
      guard (c.atChar '.')
      let (minor, c) ← versionNumber? (c.skip 1)
      pure (Token.version major minor, c)
    else if name = ['T', 'A', 'G'] then do
      let (handle, c) ← tagHandle? (c.skipWhile Text.isGap)
      guard (handle = ['!'] || isNamedHandle handle)
      guard c.atBlank
      let (lead, c) ← tagAddress? true [] (c.skipWhile Text.isGap)
      guard c.atWordEnd
      pure (Token.tagDirective handle lead, c)
    else none
  return (token, ← c.skipToNextLine?)

namespace Lexer

def block? (l : Lexer) (folded : Bool) : Option Lexer := do
  let l ← l.dropKey?
  let (text, c) ← blockFrom folded l.indent (l.cursor.skip 1)
  return { l.push (.scalar text .literal) with cursor := c, keyAllowed := true }

/-- Reads a plain scalar. If a line ends behind it, a simple key may start again. -/
def plain? (l : Lexer) : Option Lexer := do
  let l ← l.saveKey?
  let column := (l.indent + 1).toNat
  let (text, c, broken) ← plainFrom l.inFlow column (l.cursor.rest.length + 1) [] {} l.cursor
  return { l.push (.scalar text .plain) with cursor := c, keyAllowed := broken }

def quoted? (l : Lexer) (single : Bool) : Option Lexer :=
  l.content? fun c =>
    (quotedFrom single (c.rest.length + 1) [] (c.skip 1)).map fun (text, c) =>
      (.scalar text (if single then .single else .double), c)

/-- Whether a plain scalar can start with `ch`, where `rest` follows. -/
def startsPlain (inFlow : Bool) (ch : Char) (rest : List Char) : Bool :=
  !(Text.isGap ch || isBreak ch || ['-', '?', ':', ',', '[', ']', '{', '}', '#', '&', '*', '!', '|', '>',
      '\'', '"', '%', '@', '\x60'].contains ch)
    || (ch == '-' && !rest.head?.any Text.isGap)
    || (!inFlow && (ch == '?' || ch == ':') && !endsWord rest)

/-- Reads the token at the place, which starts with `ch`, where `rest` follows. -/
def token? (l : Lexer) (ch : Char) (rest : List Char) : Option Lexer :=
  if l.cursor.column = 0 && ch = '%' then do
    let l ← l.endBlocks?
    let (token, c) ← directive? (l.cursor.skip 1)
    return { l.push token with cursor := c }
  else if l.cursor.atDocumentStart then
    l.endBlocks?.map fun l => (l.skip 3).push .documentStart
  else if l.cursor.atDocumentEnd then
    l.endBlocks?.map fun l => (l.skip 3).push .documentEnd
  else if ch = '[' then l.openFlow? .flowSequenceStart
  else if ch = '{' then l.openFlow? .flowMappingStart
  else if ch = ']' then l.closeFlow? .flowSequenceEnd
  else if ch = '}' then l.closeFlow? .flowMappingEnd
  else if ch = ',' then l.flowEntry?
  else if ch = '-' && endsWord rest then l.blockEntry?
  else if ch = '?' && (l.inFlow || endsWord rest) then l.key?
  else if ch = ':' && (l.inFlow || endsWord rest) then l.value?
  else if ch = '*' then
    l.content? fun c => (anchorName? (c.skip 1)).map fun (name, c) => (.reference name, c)
  else if ch = '&' then
    l.content? fun c => (anchorName? (c.skip 1)).map fun (name, c) => (.anchor name, c)
  else if ch = '!' then l.content? (tagToken? l.inFlow)
  else if ch = '|' && !l.inFlow then l.block? false
  else if ch = '>' && !l.inFlow then l.block? true
  else if ch = '\'' then l.quoted? true
  else if ch = '"' then l.quoted? false
  else if startsPlain l.inFlow ch rest then l.plain?
  else none

/-- All tokens from here on, in at most `n` steps. -/
def run? : Nat → Lexer → Option (List Token)
  | 0, _ => none
  | n + 1, l => do
    let l ← (skipToToken (l.cursor.rest.length + 1) l).dropStaleKeys?
    let l := l.closeBlocks l.cursor.column
    match l.cursor.rest with
    | [] => return ((← l.endBlocks?).push .streamEnd).tokens
    | ch :: rest => run? n (← l.token? ch rest)

end Lexer

/-- The tokens of a YAML text. A byte order mark may stand in front. -/
def tokens? (text : List Char) : Option (List Token) :=
  let text := match text with
    | c :: cs => if c.toNat = 0xFEFF then cs else text
    | [] => []
  if text.all isAllowed then Lexer.run? (text.length + 2) { cursor := { rest := text } } else none

end RouteDoc.Yaml
