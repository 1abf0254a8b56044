import RouteDoc.FileTree

/-!
Writing the text of a document. The folder of the file is made where it is missing.
-/

namespace RouteDoc

/-- Why a text could not be written. -/
inductive WriteFailure where
  /-- The folder could not be made. -/
  | folder (path : Path) (why : Fault)
  /-- The file could not be written. -/
  | file (path : Path) (why : Fault)
  deriving Repr, DecidableEq

def WriteFailure.message : WriteFailure → String
  | .folder path why => "Failed to create directory: " ++ path.toString ++ ": " ++ why.message
  | .file path why => "Failed to write to file: " ++ path.toString ++ ": " ++ why.message

namespace Disk

/-- The files with the folder of `p` made. A path without a folder of its own needs none. -/
def withFolderOf (disk : Disk) (p : Path) : Except WriteFailure Disk :=
  match p.parent? with
  | none => .ok disk
  | some folder =>
    match disk.makeFolders folder with
    | .ok made => .ok made
    | .error why => .error (.folder folder why)

/-- Writes a text in a file, in a folder that is made where it is missing. Answers the files as they
are then: a folder stays even if the file cannot be written. -/
def writeText (disk : Disk) (p : Path) (text : String) : Disk × Except WriteFailure Unit :=
  match disk.withFolderOf p with
  | .error failure => (disk, .error failure)
  | .ok made =>
    match made.write p text with
    | .error why => (made, .error (.file p why))
    | .ok written => (written, .ok ())

end Disk

end RouteDoc
