import RouteDoc.Assoc
import RouteDoc.Journal
import RouteDoc.Source.File

/-!
Source files remembered over one run. A file is known by its canonical path, or by the path as given
where nothing is there; each is read at most once, and a failure is remembered like a success.
-/

namespace RouteDoc

/-- The files read so far and those that failed, by the components of their keys, and how often the
disk was read. -/
structure SourceCache where
  loaded : List (List Component × SourceFile) := []
  failed : List (List Component × Fault) := []
  reads : Nat := 0
  deriving Repr

/-- What a run carries along: the remembered files and the journal. -/
structure Session where
  cache : SourceCache := {}
  journal : List Record := []
  deriving Repr

abbrev Run := StateM Session

namespace Run

def report (level : Level) (text : String) : Run Unit :=
  modify fun s => { s with journal := s.journal ++ [⟨level, text⟩] }

def warn (text : String) : Run Unit :=
  report .warn text

def info (text : String) : Run Unit :=
  report .info text

end Run

namespace SourceCache

/-- The path under which a file is remembered. -/
def key (disk : Disk) (path : Path) : Path :=
  disk.canonicalOrSelf path

/-- The file at `path` with the cache after asking for it, and whether the disk was read for it. -/
def request (cache : SourceCache) (disk : Disk) (path : Path) :
    Except Error SourceFile × SourceCache × Bool :=
  let key := SourceCache.key disk path
  match Assoc.get? key.components cache.loaded with
  | some file => (.ok file, cache, false)
  | none =>
    match Assoc.get? key.components cache.failed with
    | some why => (.error (.sourceIo key (.failedBefore why)), cache, false)
    | none =>
      match disk.readSource key with
      | .ok file =>
        (.ok file,
          { cache with
            loaded := (key.components, file) :: cache.loaded
            reads := cache.reads + 1 },
          true)
      | .error why =>
        (.error (.sourceIo key (.fault why)),
          { cache with
            failed := (key.components, why) :: cache.failed
            reads := cache.reads + 1 },
          true)

end SourceCache

/-- The file at `path`, read on first use; a first failure is reported. -/
def load (disk : Disk) (path : Path) : Run (Except Error SourceFile) := do
  let (answer, cache, fresh) := (← get).cache.request disk path
  modify fun s => { s with cache := cache }
  match answer with
  | .error error => if fresh then Run.warn error.message
  | .ok _ => pure ()
  return answer

end RouteDoc
