import RouteDoc.Yaml.Tokens

/-!
The node of a YAML text, which holds one document. An alias stands for the node under a number that
its anchor got; anchors are numbered by how many names were in use when they were met, and of two
nodes with one number the one that starts later counts.
-/

namespace RouteDoc.Yaml

/-- A scalar: its text, how it stands there, and its tag. -/
structure Scalar where
  text : String
  style : Style := .plain
  tag? : Option String := none
  deriving Repr, DecidableEq

inductive Node where
  | scalar (value : Scalar)
  | sequence (tag? : Option String) (items : List Node)
  | mapping (tag? : Option String) (entries : List (Node × Node))
  | reference (number : Nat)
  deriving Repr, Inhabited

def Node.empty : Node :=
  .scalar { text := "" }

/-- A node under the number of its anchor, and how many anchored nodes started before it. -/
structure Anchored where
  number : Nat
  start : Nat
  node : Node
  deriving Repr

/-- What is known while nodes are read. -/
structure Composer where
  tokens : List Token
  /-- The handles of tags and what they stand for. -/
  handles : List (List Char × List Char) := []
  /-- The numbers of anchors by name. -/
  anchors : List (List Char × Nat) := []
  /-- How many anchored nodes have started. -/
  starts : Nat := 0
  anchored : List Anchored := []
  deriving Repr

abbrev Compose := StateT Composer Option

namespace Compose

def peek : Compose Token := do
  match (← get).tokens with
  | token :: _ => return token
  | [] => failure

def skip : Compose Unit :=
  modify fun s => { s with tokens := s.tokens.tail }

/-- Passes the next token over if it is the given one, and says whether it was. -/
def take (token : Token) : Compose Bool := do
  if (← peek) = token then
    skip
    return true
  else return false

/-- The handles that need no directive. -/
def standardHandles : List (List Char × List Char) :=
  [(['!'], ['!']), (['!', '!'], "tag:yaml.org,2002:".toList)]

/-- The tag that a handle and a suffix stand for. -/
def resolveTag (handle suffix : List Char) : Compose (List Char) := do
  if handle.isEmpty then return suffix
  else
    match ((← get).handles ++ standardHandles).lookup handle with
    | some lead => return lead ++ suffix
    | none => failure

def anchor? : Compose (Option (List Char)) := do
  match ← peek with
  | .anchor name =>
    skip
    return some name
  | _ => return none

def tag? : Compose (Option (List Char)) := do
  match ← peek with
  | .tag handle suffix =>
    skip
    return some (← resolveTag handle suffix)
  | _ => return none

/-- An anchor and a tag in any order. -/
def properties : Compose (Option (List Char) × Option (List Char)) := do
  match ← anchor? with
  | some name => return (some name, ← tag?)
  | none =>
    match ← tag? with
    | some tag => return (← anchor?, some tag)
    | none => return (none, none)

/-- Gives an anchor its number. -/
def enter (name : List Char) : Compose (Nat × Nat) := do
  let s ← get
  let number := s.anchors.length
  let anchors := (name, number) :: s.anchors.filter fun entry => entry.1 ≠ name
  set { s with anchors := anchors, starts := s.starts + 1 }
  return (number, s.starts)

/-- Remembers a node under its anchor. -/
def leave (place? : Option (Nat × Nat)) (node : Node) : Compose Node := do
  match place? with
  | some (number, start) =>
    modify fun s => { s with anchored := ⟨number, start, node⟩ :: s.anchored }
  | none => pure ()
  return node

/-- The alias of an anchor, which must be known. -/
def aliasOf (name : List Char) : Compose Node := do
  match (← get).anchors.lookup name with
  | some number => return .reference number
  | none => failure

/-- A scalar as a node. The tag that says nothing is dropped. -/
def scalarNode (text : List Char) (style : Style) (tag? : Option (List Char)) : Node :=
  .scalar
    { text := String.ofList text
      style := style
      tag? := if tag? = some ['!'] then none else tag?.map String.ofList }

/-- An empty node, which needs an anchor or a tag to stand there. -/
def emptyNode (anchored : Bool) (tag? : Option String) : Compose Node :=
  if anchored || tag?.isSome then return .scalar { text := "", tag? := tag? } else failure

mutual

/-- The next node, in at most `n` steps. Block collections count where `block` holds, and a sequence
without an indentation of its own where `indentless` does. -/
def node (n : Nat) (block indentless : Bool) : Compose Node :=
  match n with
  | 0 => failure
  | n + 1 => do
    match ← peek with
    | .reference name =>
      skip
      aliasOf name
    | _ =>
      let (anchor?, tag?) ← properties
      let place? ← match anchor? with
        | some name => some <$> enter name
        | none => pure none
      let tagText? := tag?.map String.ofList
      let next ← peek
      let result ←
        if indentless && next = .blockEntry then
          Node.sequence tagText? <$> indentlessItems n
        else match next with
          | .scalar text style =>
            skip
            pure (scalarNode text style tag?)
          | .flowSequenceStart =>
            skip
            Node.sequence tagText? <$> flowItems n true
          | .flowMappingStart =>
            skip
            Node.mapping tagText? <$> flowEntries n true
          | .blockSequenceStart =>
            if block then
              skip
              Node.sequence tagText? <$> blockItems n
            else emptyNode anchor?.isSome tagText?
          | .blockMappingStart =>
            if block then
              skip
              Node.mapping tagText? <$> blockEntries n
            else emptyNode anchor?.isSome tagText?
          | _ => emptyNode anchor?.isSome tagText?
      leave place? result

/-- The next node, unless one of the given tokens is next; then it is empty. -/
def nodeUnless (n : Nat) (block indentless : Bool) (tokens : List Token) : Compose Node :=
  match n with
  | 0 => failure
  | n + 1 => do
    if tokens.contains (← peek) then return .empty else node n block indentless

def blockItems (n : Nat) : Compose (List Node) :=
  match n with
  | 0 => failure
  | n + 1 => do
    if ← take .blockEntry then
      let item ← nodeUnless n true false [.blockEntry, .blockEnd]
      return item :: (← blockItems n)
    else if ← take .blockEnd then return []
    else failure

/-- The items of a block sequence that stands as far left as the key it belongs to. -/
def indentlessItems (n : Nat) : Compose (List Node) :=
  match n with
  | 0 => failure
  | n + 1 => do
    if ← take .blockEntry then
      let item ← nodeUnless n true false [.blockEntry, .key, .value, .blockEnd]
      return item :: (← indentlessItems n)
    else return []

def blockEntries (n : Nat) : Compose (List (Node × Node)) :=
  match n with
  | 0 => failure
  | n + 1 => do
    if ← take .key then
      let key ← nodeUnless n true true [.key, .value, .blockEnd]
      let value ←
        if ← take .value then nodeUnless n true true [.key, .value, .blockEnd] else pure .empty
      return (key, value) :: (← blockEntries n)
    else if ← take .blockEnd then return []
    else failure

/-- The items of a flow sequence; the first one needs no comma before it. A pair stands for a mapping
with one entry. -/
def flowItems (n : Nat) (first : Bool) : Compose (List Node) :=
  match n with
  | 0 => failure
  | n + 1 => do
    if ← take .flowSequenceEnd then return []
    else
      let separated ← if first then pure true else take .flowEntry
      if !separated then failure
      else if ← take .key then
        let pair ← flowPair n
        return .mapping none [pair] :: (← flowItems n false)
      else if ← take .flowSequenceEnd then return []
      else
        let item ← node n false false
        return item :: (← flowItems n false)

/-- The key and value of a pair in a flow sequence. Where the key is missing, the token in its place
is passed over. -/
def flowPair (n : Nat) : Compose (Node × Node) :=
  match n with
  | 0 => failure
  | n + 1 => do
    let next ← peek
    let key ←
      if [Token.value, .flowEntry, .flowSequenceEnd].contains next then
        skip
        pure Node.empty
      else node n false false
    let value ←
      if ← take .value then nodeUnless n false false [.flowEntry, .flowSequenceEnd]
      else pure .empty
    return (key, value)

/-- The entries of a flow mapping; the first one needs no comma before it. -/
def flowEntries (n : Nat) (first : Bool) : Compose (List (Node × Node)) :=
  match n with
  | 0 => failure
  | n + 1 => do
    if ← take .flowMappingEnd then return []
    else
      let separated ← if first then pure true else take .flowEntry
      if !separated then failure
      else if ← take .key then
        let key ← nodeUnless n false false [.value, .flowEntry, .flowMappingEnd]
        let value ←
          if ← take .value then nodeUnless n false false [.flowEntry, .flowMappingEnd]
          else pure .empty
        return (key, value) :: (← flowEntries n false)
      else if ← take .flowMappingEnd then return []
      else
        let key ← node n false false
        return (key, .empty) :: (← flowEntries n false)

end

/-- The directives in front of a document, where `versioned` says whether one gives the version;
in at most `n` steps. -/
def directives (versioned : Bool) : Nat → Compose Unit
  | 0 => failure
  | n + 1 => do
    match ← peek with
    | .version major minor =>
      if versioned || major != 1 || (minor != 1 && minor != 2) then failure
      else
        skip
        directives true n
    | .tagDirective handle lead =>
      if ((← get).handles.lookup handle).isSome then failure
      else
        modify fun s => { s with handles := s.handles ++ [(handle, lead)] }
        skip
        directives versioned n
    | _ => pure ()

/-- Passes over the marks at the end of a document, in at most `n` steps. -/
def documentEnds : Nat → Compose Unit
  | 0 => pure ()
  | n + 1 => do
    if ← take .documentEnd then documentEnds n else pure ()

/-- Whether a token belongs in front of a document. -/
def startsDocument : Token → Bool
  | .version _ _ => true
  | .tagDirective _ _ => true
  | .documentStart => true
  | _ => false

/-- The root node of the only document; a text without one has an empty root. -/
def document (n : Nat) : Compose Node := do
  skip
  let next ← peek
  let root ←
    if next = .streamEnd then pure .empty
    else if startsDocument next then
      directives false n
      if ← take .documentStart then
        let next ← peek
        if startsDocument next || next = .documentEnd || next = .streamEnd then pure .empty
        else node n true false
      else failure
    else node n true false
  documentEnds n
  if ← take .streamEnd then return root else failure

end Compose

/-- The root node of a YAML text, and the nodes of its anchors. -/
def compose? (text : List Char) : Option (Node × List Anchored) := do
  let tokens ← tokens? text
  let (root, s) ← (Compose.document (4 * tokens.length + 8)).run { tokens := tokens }
  return (root, s.anchored)

end RouteDoc.Yaml
