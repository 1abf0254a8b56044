import RouteDoc.Text.Search

/-!
Paths of files and folders. A path keeps how it was spelled, as the pieces between its slashes; what
it means is the list of its components, in which empty pieces and inner single dots do not count.
Comparing and ordering go by components, joining and printing by pieces.
-/

namespace RouteDoc

/-- A path as it is spelled: the pieces between its slashes. -/
structure Path where
  pieces : List String
  deriving Repr, Inhabited, DecidableEq

/-- What a piece of a path stands for. -/
inductive Component where
  | root
  | current
  | up
  | name (text : String)
  deriving Repr, DecidableEq

namespace Component

/-- The component that a piece behind the first one stands for; empty pieces and single dots stand
for nothing. -/
def ofPiece? (piece : String) : Option Component :=
  if piece = "" || piece = "." then none
  else if piece = ".." then some .up
  else some (.name piece)

/-- The name that a component gives, if it gives one. -/
def name? : Component → Option String
  | .name text => some text
  | _ => none

/-- The place of a component among the kinds: root, current, up, name. -/
def rank : Component → Nat
  | .root => 0
  | .current => 1
  | .up => 2
  | .name _ => 3

/-- Kinds in the order of their ranks, names among themselves by their characters. -/
def before (a b : Component) : Bool :=
  match a, b with
  | .name s, .name t => decide (s < t)
  | a, b => a.rank < b.rank

end Component

namespace Path

def ofString (s : String) : Path :=
  ⟨(Text.split '/' s.toList).map String.ofList⟩

def toString (p : Path) : String :=
  "/".intercalate p.pieces

instance : ToString Path := ⟨toString⟩

def isEmpty (p : Path) : Bool :=
  p.pieces.all (· = "") && p.pieces.length ≤ 1

def isAbsolute (p : Path) : Bool :=
  match p.pieces with
  | "" :: _ :: _ => true
  | _ => false

/-- What the path stands for. -/
def components (p : Path) : List Component :=
  match p.pieces with
  | "" :: next :: rest => .root :: (next :: rest).filterMap Component.ofPiece?
  | "." :: rest => .current :: rest.filterMap Component.ofPiece?
  | pieces => pieces.filterMap Component.ofPiece?

/-- The path of `q` seen from `p`: an absolute `q` stands for itself. -/
def join (p q : Path) : Path :=
  if q.isAbsolute || p.isEmpty then q
  else if p.pieces.getLast? = some "" then ⟨p.pieces.dropLast ++ q.pieces⟩
  else ⟨p.pieces ++ q.pieces⟩

/-- The entry `name` of the folder `p`. -/
def entry (p : Path) (name : String) : Path :=
  p.join ⟨[name]⟩

/-- The pieces without those at the end that stand for nothing. -/
def dropIdle (pieces : List String) : List String :=
  (pieces.reverse.dropWhile (fun piece => piece = "" || piece = ".")).reverse

/-- The path without its last component. -/
def parent? (p : Path) : Option Path :=
  match p.pieces with
  | "" :: next :: rest =>
    match dropIdle (next :: rest) with
    | [] => none
    | body =>
      match dropIdle body.dropLast with
      | [] => some ⟨["", ""]⟩
      | outer => some ⟨"" :: outer⟩
  | "." :: rest =>
    match dropIdle rest with
    | [] => some ⟨[""]⟩
    | body => some ⟨"." :: dropIdle body.dropLast⟩
  | pieces =>
    match dropIdle pieces with
    | [] => none
    | body =>
      match dropIdle body.dropLast with
      | [] => some ⟨[""]⟩
      | outer => some ⟨outer⟩

/-- At most `n` paths: the path itself, its parent, the parent of that, and so on. -/
def ancestorsUpTo : Nat → Path → List Path
  | 0, _ => []
  | n + 1, p =>
    match p.parent? with
    | some q => p :: ancestorsUpTo n q
    | none => [p]

def ancestors (p : Path) : List Path :=
  ancestorsUpTo (p.pieces.length + 1) p

/-- The last component, if it is a name. -/
def fileName? (p : Path) : Option String :=
  p.components.getLast?.bind Component.name?

/-- The part of the last component behind its last dot; a dot in front of everything divides
nothing. -/
def extension? (p : Path) : Option String :=
  match p.fileName?.bind (fun name => Text.cutLast? '.' name.toList) with
  | some ([], _) => none
  | some (_, ext) => some (String.ofList ext)
  | none => none

/-- What is left of a list of components behind the given first ones. -/
def behind? : List Component → List Component → Option (List Component)
  | [], rest => some rest
  | _ :: _, [] => none
  | a :: base, b :: rest => if a = b then behind? base rest else none

/-- The names that lead from the folder `base` to `p`, if `p` starts with the components of
`base`. -/
def namesBelow? (base p : Path) : Option (List String) :=
  (behind? base.components p.components).map fun rest => rest.filterMap Component.name?

/-- Whether two paths have the same components. -/
def same (p q : Path) : Bool :=
  p.components = q.components

/-- Whether the first list of components comes before the second, or is equal to it. -/
def componentsLe : List Component → List Component → Bool
  | [], _ => true
  | _ :: _, [] => false
  | a :: as, b :: bs => a.before b || (a = b && componentsLe as bs)

/-- The order of paths: component by component. -/
def le (p q : Path) : Bool :=
  componentsLe p.components q.components

def ofNames (names : List String) : Path :=
  ⟨"" :: (if names.isEmpty then [""] else names)⟩

end Path

end RouteDoc
