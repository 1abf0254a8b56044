import RouteDoc.Error
import RouteDoc.Source.Comment

/-!
Source files, read from a disk and rid of their comments.
-/

namespace RouteDoc

/-- A source file: the path it was read at, and its lines without comments. -/
structure SourceFile where
  path : Path
  lines : List (List Char)
  deriving Repr, DecidableEq

namespace Disk

def readSource (disk : Disk) (path : Path) : Except Fault SourceFile :=
  match disk.read path with
  | .ok text => .ok ⟨path, Source.stripComments text.toList⟩
  | .error fault => .error fault

/-- Reads a source file, with the path in the error when that fails. -/
def loadSource (disk : Disk) (path : Path) : Except Error SourceFile :=
  match disk.readSource path with
  | .ok file => .ok file
  | .error why => .error (.sourceIo path (.fault why))

end Disk

end RouteDoc
