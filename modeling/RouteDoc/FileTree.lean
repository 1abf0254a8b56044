import RouteDoc.Path

/-!
Files and folders as a value. A `Disk` is a tree of nodes and the folder that relative paths start
from. Looking a path up walks its pieces one at a time: a name is sought in the folder reached so
far, two dots go to the folder above, and every piece but the last needs a folder to stand on.

Names are texts. Entries whose names are not valid UTF-8 are left out: a tree cannot hold them.
-/

namespace RouteDoc

/-- Why a file or folder could not be used. -/
inductive Fault where
  | missing
  | notFolder
  | isFolder
  | exists
  | notText
  deriving Repr, DecidableEq

def Fault.message : Fault → String
  | .missing => "No such file or directory (os error 2)"
  | .notFolder => "Not a directory (os error 20)"
  | .isFolder => "Is a directory (os error 21)"
  | .exists => "File exists (os error 17)"
  | .notText => "stream did not contain valid UTF-8"

/-- A file with its bytes, or a folder with its entries by name. -/
inductive Node where
  | file (bytes : ByteArray)
  | folder (entries : List (String × Node))

namespace Node

/-- The entry of that name, if the node is a folder that has one. -/
def entry? : Node → String → Option Node
  | .file _, _ => none
  | .folder entries, name => entries.lookup name

/-- The node reached by the names, one after the other. -/
def at? : Node → List String → Option Node
  | node, [] => some node
  | node, name :: names =>
    match node.entry? name with
    | some child => child.at? names
    | none => none

def isFolder : Node → Bool
  | .folder _ => true
  | .file _ => false

/-- The entries with the one of that name put in place of an older one, or at the end. -/
def putEntry (name : String) (node : Node) : List (String × Node) → List (String × Node)
  | [] => [(name, node)]
  | (other, old) :: rest =>
    if other = name then (name, node) :: rest else (other, old) :: putEntry name node rest

/-- The tree with `node` put where the names lead; folders on the way are made, and a file on the
way gives way to a folder. -/
def put (tree : Node) (names : List String) (node : Node) : Node :=
  match names with
  | [] => node
  | name :: names =>
    let entries := match tree with
      | .folder entries => entries
      | .file _ => []
    let child := (entries.lookup name).getD (.folder [])
    .folder (putEntry name (child.put names node) entries)

def erase (tree : Node) (names : List String) : Node :=
  match names, tree with
  | [], _ => tree
  | _, .file _ => tree
  | [name], .folder entries => .folder (entries.filter (fun e => e.1 ≠ name))
  | name :: names, .folder entries =>
    match entries.lookup name with
    | some child => .folder (putEntry name (child.erase names) entries)
    | none => tree

mutual

/-- The number of bytes and files in the tree; it bounds the number of lines. -/
def size : Node → Nat
  | .file bytes => bytes.size + 1
  | .folder entries => sizeEntries entries

def sizeEntries : List (String × Node) → Nat
  | [] => 0
  | (_, node) :: rest => node.size + sizeEntries rest

end

end Node

/-- A tree of files, and the names of the folder that relative paths start from. -/
structure Disk where
  tree : Node
  here : List String

namespace Disk

/-- One step of a walk that has reached the node at `names`. -/
def step (disk : Disk) (names : List String) (piece : String) : Except Fault (List String) :=
  match disk.tree.at? names with
  | none => .error .missing
  | some (.file _) => .error .notFolder
  | some (.folder entries) =>
    if piece = "" || piece = "." then .ok names
    else if piece = ".." then .ok names.dropLast
    else if (entries.lookup piece).isSome then .ok (names ++ [piece])
    else .error .missing

/-- The names of what the pieces lead to from the node at `names`. -/
def walk (disk : Disk) : List String → List String → Except Fault (List String)
  | names, [] => .ok names
  | names, piece :: rest =>
    match disk.step names piece with
    | .ok next => disk.walk next rest
    | .error fault => .error fault

/-- The names of what a path leads to. -/
def locate (disk : Disk) (p : Path) : Except Fault (List String) :=
  if p.isEmpty then .error .missing
  else match p.pieces with
    | "" :: rest => disk.walk [] rest
    | pieces => disk.walk [] (disk.here ++ pieces)

def node (disk : Disk) (p : Path) : Except Fault Node :=
  match disk.locate p with
  | .error fault => .error fault
  | .ok names =>
    match disk.tree.at? names with
    | some node => .ok node
    | none => .error .missing

/-- The absolute path without dots that leads to the same place. -/
def canonical (disk : Disk) (p : Path) : Except Fault Path :=
  (disk.locate p).map Path.ofNames

/-- The canonical path, or the path as it is where nothing is there. -/
def canonicalOrSelf (disk : Disk) (p : Path) : Path :=
  match disk.canonical p with
  | .ok q => q
  | .error _ => p

def has (disk : Disk) (p : Path) : Bool :=
  match disk.node p with
  | .ok _ => true
  | .error _ => false

def isFolder (disk : Disk) (p : Path) : Bool :=
  match disk.node p with
  | .ok (.folder _) => true
  | _ => false

def isFile (disk : Disk) (p : Path) : Bool :=
  match disk.node p with
  | .ok (.file _) => true
  | _ => false

/-- Whether two paths lead to the same place, or both nowhere. -/
def sameFile (disk : Disk) (p q : Path) : Bool :=
  p.same q ||
    match disk.locate p, disk.locate q with
    | .ok a, .ok b => a = b
    | .error _, .error _ => true
    | _, _ => false

def entries (disk : Disk) (p : Path) : Except Fault (List (String × Node)) :=
  match disk.node p with
  | .ok (.folder entries) => .ok entries
  | .ok (.file _) => .error .notFolder
  | .error fault => .error fault

def read (disk : Disk) (p : Path) : Except Fault String :=
  match disk.node p with
  | .ok (.file bytes) =>
    match String.fromUTF8? bytes with
    | some text => .ok text
    | none => .error .notText
  | .ok (.folder _) => .error .isFolder
  | .error fault => .error fault

/-- Where a new entry at the path would be: the names of its folder, which must be there, and its
own name. Slashes at the end do not count. -/
def newEntry (disk : Disk) (p : Path) : Except Fault (List String × String) :=
  match (p.pieces.reverse.dropWhile (· = "")) with
  | [] => .error .missing
  | name :: outer =>
    if name = "." || name = ".." then .error .missing
    else
      let folder : Except Fault (List String) :=
        match outer.reverse with
        | [] => .ok disk.here
        | "" :: rest => disk.walk [] rest
        | pieces => disk.walk disk.here pieces
      match folder with
      | .error fault => .error fault
      | .ok names =>
        match disk.tree.at? names with
        | some (.folder _) => .ok (names, name)
        | some (.file _) => .error .notFolder
        | none => .error .missing

def makeFolder (disk : Disk) (p : Path) : Except Fault Disk :=
  match disk.locate p with
  | .ok _ => .error .exists
  | .error .missing =>
    match disk.newEntry p with
    | .ok (names, name) => .ok { disk with tree := disk.tree.put (names ++ [name]) (.folder []) }
    | .error fault => .error fault
  | .error fault => .error fault

/-- Makes a folder and those above it that are missing, at most `n` of them. -/
def makeFoldersUpTo : Nat → Disk → Path → Except Fault Disk
  | 0, _, _ => .error .missing
  | n + 1, disk, p =>
    if p.isEmpty then .ok disk
    else match disk.makeFolder p with
      | .ok made => .ok made
      | .error fault =>
        if fault = .missing then
          match p.parent? with
          | none => .error .missing
          | some outer =>
            match makeFoldersUpTo n disk outer with
            | .error fault => .error fault
            | .ok made =>
              match made.makeFolder p with
              | .ok made => .ok made
              | .error fault => if made.isFolder p then .ok made else .error fault
        else if disk.isFolder p then .ok disk
        else .error fault

/-- Makes a folder and those above it that are missing. -/
def makeFolders (disk : Disk) (p : Path) : Except Fault Disk :=
  makeFoldersUpTo (p.pieces.length + 1) disk p

/-- Writes a file; its folder must be there. A slash at the end asks for a folder. -/
def write (disk : Disk) (p : Path) (content : String) : Except Fault Disk :=
  match disk.locate p with
  | .ok names =>
    match disk.tree.at? names with
    | some (.folder _) => .error .isFolder
    | _ => .ok { disk with tree := disk.tree.put names (.file content.toUTF8) }
  | .error fault =>
    match disk.newEntry p with
    | .ok (names, name) =>
      if p.pieces.getLast? = some "" then .error .isFolder
      else if fault = .missing then
        .ok { disk with tree := disk.tree.put (names ++ [name]) (.file content.toUTF8) }
      else .error fault
    | .error why => .error (if fault = .missing then why else fault)

def remove (disk : Disk) (p : Path) : Except Fault Disk :=
  match disk.locate p with
  | .error fault => .error fault
  | .ok names =>
    match disk.tree.at? names with
    | some (.folder _) => .error .isFolder
    | _ => .ok { disk with tree := disk.tree.erase names }

end Disk

end RouteDoc
