import Mathlib.Data.Finset.Card
import RouteDoc.Proofs.SourceCache

/-!
Loads one after the other. Between two loads the disk may change in any way: files are written and removed, and the
key of a path changes with them. What is remembered is settled by the first load under each key (`Recalls`): one load
keeps this (`recalls_request`), so it holds after any history (`recalls_after`). From it follow that each key is read
once and that answers are stable (`loads_stable`).

On a disk that does not change, an answer should be what reading its key gives. That fails for a path that leads
nowhere and has the components of a file: it has a key of its own, which is taken for the key of the file.
-/

namespace RouteDoc

namespace SourceCache

/-- A source file that is asked for, with the disk as it is at that time. -/
structure Load where
  disk : Disk
  path : Path

namespace Load

def key (load : Load) : Path :=
  SourceCache.key load.disk load.path

/-- What the key of the load is known by. -/
def name (load : Load) : List Component :=
  load.key.components

/-- What reading the key gives at the time of the load. -/
def found (load : Load) : Except Fault SourceFile :=
  load.disk.readSource load.key

/-- Why the key cannot be read at the time of the load. -/
def fault? (load : Load) : Option Fault :=
  match load.found with
  | .ok _ => none
  | .error why => some why

end Load

/-- The cache after loads one after the other. -/
def after (history : List Load) : SourceCache :=
  history.foldl (fun cache load => (cache.request load.disk load.path).2.1) {}

def answer (history : List Load) (load : Load) : Except Error SourceFile :=
  ((after history).request load.disk load.path).1

/-- Whether the disk is read for a load after others. -/
def isRead (history : List Load) (load : Load) : Bool :=
  ((after history).request load.disk load.path).2.2

/-- Whether an answer tells what was found: the file, or that the key failed for that reason, now or before. -/
def Tells (key : Path) (answer : Except Error SourceFile) : Except Fault SourceFile → Prop
  | .ok file => answer = .ok file
  | .error why => ∃ cause ∈ [Cause.fault why, Cause.failedBefore why], answer = .error (.sourceIo key cause)

/-! ## First loads -/

/-- The first load under a key. -/
def first? (name : List Component) (history : List Load) : Option Load :=
  history.find? fun load => load.name = name

variable {history : List Load} {load first : Load} {name : List Component}

theorem first?_eq_none_iff : first? name history = none ↔ name ∉ history.map Load.name := by
  simp [first?, List.find?_eq_none]

theorem name_of_first? (h : first? name history = some first) : first.name = name := by
  simpa using List.find?_some h

theorem first?_concat (h : first? load.name history = some first) :
    first? name (history ++ [load]) = first? name history := by
  by_cases hname : load.name = name
  · rw [← hname, h, first?, List.find?_append, ← first?, h]
    rfl
  · simp [first?, List.find?_append, hname]

theorem first?_concat_new (h : first? load.name history = none) :
    first? name (history ++ [load]) = if load.name = name then some load else first? name history := by
  split
  · rename_i hname
    rw [← hname, first?, List.find?_append, ← first?, h]
    simp
  · rename_i hname
    simp [first?, List.find?_append, hname]

/-- The load that a load behind the history goes back to: the first one under its key, or itself. -/
def origin (history : List Load) (load : Load) : Load :=
  (first? load.name history).getD load

theorem origin_of_first? (h : first? load.name history = some first) : origin history load = first := by
  rw [origin, h, Option.getD_some]

theorem origin_of_new (h : first? load.name history = none) : origin history load = load := by
  rw [origin, h, Option.getD_none]

/-- Where a load stands in a history does not matter: it goes back to the first one of all. -/
theorem first?_append_cons (before behind : List Load) (load : Load) :
    first? load.name (before ++ load :: behind) = some (origin before load) := by
  rw [first?, List.find?_append, ← first?, origin]
  cases first? load.name before <;> simp

/-! ## What is remembered -/

/-- A cache remembers, for each key of the history, what its first load found, and has read the disk once for each
key. -/
structure Recalls (history : List Load) (cache : SourceCache) : Prop where
  loaded : ∀ name, Assoc.get? name cache.loaded = (first? name history).bind fun first => first.found.toOption
  failed : ∀ name, Assoc.get? name cache.failed = (first? name history).bind fun first => first.fault?
  reads : cache.reads = (history.map Load.name).toFinset.card

variable {cache : SourceCache}

theorem recalls_empty : Recalls [] {} :=
  ⟨fun _ => rfl, fun _ => rfl, rfl⟩

/-- A key that was asked for before is answered with what its first load found, and nothing is read. -/
theorem request_of_first? (h : Recalls history cache) (hfirst : first? load.name history = some first) :
    Tells load.key (cache.request load.disk load.path).1 first.found ∧
      (cache.request load.disk load.path).2 = (cache, false) := by
  have hloaded := h.loaded load.name
  have hfailed := h.failed load.name
  simp only [hfirst, Option.bind_some, Load.fault?] at hloaded hfailed
  simp only [Load.name, Load.key] at hloaded hfailed
  cases hfound : first.found with
  | ok file =>
    simp only [hfound, Except.toOption] at hloaded
    simp only [request, hloaded]
    exact ⟨rfl, trivial⟩
  | error why =>
    simp only [hfound, Except.toOption] at hloaded hfailed
    simp only [request, hloaded, hfailed]
    exact ⟨⟨_, List.mem_cons_of_mem _ List.mem_cons_self, rfl⟩, trivial⟩

/-- A cache that has found something new. -/
def learn (cache : SourceCache) (load : Load) : SourceCache :=
  match load.found with
  | .ok file => { cache with loaded := (load.name, file) :: cache.loaded, reads := cache.reads + 1 }
  | .error why => { cache with failed := (load.name, why) :: cache.failed, reads := cache.reads + 1 }

theorem request_of_new (h : Recalls history cache) (hnew : first? load.name history = none) :
    Tells load.key (cache.request load.disk load.path).1 load.found ∧
      (cache.request load.disk load.path).2 = (cache.learn load, true) := by
  have hloaded := h.loaded load.name
  have hfailed := h.failed load.name
  simp only [hnew, Option.bind_none] at hloaded hfailed
  simp only [Load.name, Load.key] at hloaded hfailed
  simp only [request, hloaded, hfailed, learn]
  have hread : load.disk.readSource (SourceCache.key load.disk load.path) = load.found := rfl
  rw [hread]
  cases load.found with
  | ok file => exact ⟨rfl, rfl⟩
  | error why => exact ⟨⟨_, List.mem_cons_self, rfl⟩, rfl⟩

theorem get?_loaded_learn (hnew : Assoc.get? load.name cache.loaded = none) (name : List Component) :
    Assoc.get? name (cache.learn load).loaded =
      if load.name = name then load.found.toOption else Assoc.get? name cache.loaded := by
  unfold learn
  cases load.found with
  | ok file => rfl
  | error why =>
    by_cases hname : load.name = name
    · rw [if_pos hname, ← hname]
      exact hnew
    · rw [if_neg hname]

theorem get?_failed_learn (hnew : Assoc.get? load.name cache.failed = none) (name : List Component) :
    Assoc.get? name (cache.learn load).failed =
      if load.name = name then load.fault? else Assoc.get? name cache.failed := by
  unfold learn Load.fault?
  cases load.found with
  | ok file =>
    by_cases hname : load.name = name
    · rw [if_pos hname, ← hname]
      exact hnew
    · rw [if_neg hname]
  | error why => rfl

theorem reads_learn (cache : SourceCache) (load : Load) : (cache.learn load).reads = cache.reads + 1 := by
  unfold learn
  cases load.found <;> rfl

theorem recalls_learn (h : Recalls history cache) (hnew : first? load.name history = none) :
    Recalls (history ++ [load]) (cache.learn load) := by
  refine ⟨fun name => ?_, fun name => ?_, ?_⟩
  · have hloaded : Assoc.get? load.name cache.loaded = none := by rw [h.loaded, hnew, Option.bind_none]
    rw [get?_loaded_learn hloaded, first?_concat_new hnew, h.loaded]
    split <;> rfl
  · have hfailed : Assoc.get? load.name cache.failed = none := by rw [h.failed, hnew, Option.bind_none]
    rw [get?_failed_learn hfailed, first?_concat_new hnew, h.failed]
    split <;> rfl
  · have hmem : load.name ∉ (history.map Load.name).toFinset := by
      rw [List.mem_toFinset]
      exact first?_eq_none_iff.mp hnew
    rw [reads_learn, h.reads, ← Finset.card_insert_of_notMem hmem]
    congr 1
    ext name
    simp

/-- One load keeps what is remembered in step with the history. -/
theorem recalls_request (h : Recalls history cache) :
    Recalls (history ++ [load]) (cache.request load.disk load.path).2.1 := by
  cases hfirst : first? load.name history with
  | some first =>
    rw [(request_of_first? h hfirst).2]
    refine ⟨fun name => ?_, fun name => ?_, ?_⟩
    · rw [first?_concat hfirst, h.loaded]
    · rw [first?_concat hfirst, h.failed]
    · have hmem : load.name ∈ history.map Load.name := by
        by_contra hnew
        rw [first?_eq_none_iff.mpr hnew] at hfirst
        cases hfirst
      rw [h.reads]
      congr 1
      ext name
      simp only [List.map_append, List.map_cons, List.map_nil, List.mem_toFinset, List.mem_append, List.mem_singleton]
      exact ⟨Or.inl, fun hname => hname.elim id fun hname => hname ▸ hmem⟩
  | none =>
    rw [(request_of_new h hfirst).2]
    exact recalls_learn h hfirst

/-- What is remembered after a history is what its first loads found. -/
theorem recalls_after (history : List Load) : Recalls history (after history) := by
  -- from the end: the last load is one step from the history before it
  induction history using List.reverseRecOn with
  | nil => exact recalls_empty
  | append_singleton history load ih =>
    rw [after, List.foldl_concat]
    exact recalls_request ih

/-! ## Answers -/

/-- An answer tells what the load that it goes back to found. -/
theorem tells_answer (history : List Load) (load : Load) :
    Tells load.key (answer history load) (origin history load).found := by
  cases hfirst : first? load.name history with
  | some first =>
    rw [origin_of_first? hfirst]
    exact (request_of_first? (recalls_after history) hfirst).1
  | none =>
    rw [origin_of_new hfirst]
    exact (request_of_new (recalls_after history) hfirst).1

/-- The disk is read exactly for the first load under a key. -/
theorem isRead_iff (history : List Load) (load : Load) :
    isRead history load = true ↔ load.name ∉ history.map Load.name := by
  rw [← first?_eq_none_iff, isRead]
  cases hfirst : first? load.name history with
  | some first => simp [(request_of_first? (recalls_after history) hfirst).2]
  | none => simp [(request_of_new (recalls_after history) hfirst).2]

theorem loaded_or_failed (history : List Load) (name : List Component) :
    Assoc.get? name (after history).loaded = none ∨ Assoc.get? name (after history).failed = none := by
  rw [(recalls_after history).loaded, (recalls_after history).failed]
  cases first? name history with
  | none => exact .inl rfl
  | some first =>
    cases hfound : first.found with
    | ok file => exact .inr (by simp [Load.fault?, hfound])
    | error why => exact .inl (by simp [hfound, Except.toOption])

/-- Loads under one key go back to the same load, wherever they stand. -/
theorem origin_eq_of_name (before between : List Load) {first later : Load} (h : later.name = first.name) :
    origin (before ++ first :: between) later = origin before first := by
  apply origin_of_first?
  rw [h]
  exact first?_append_cons before between first

/-! ## A disk that does not change -/

variable {disk : Disk} {p q : Path}

theorem toOption_of_tells {key : Path} {answer : Except Error SourceFile} {found : Except Fault SourceFile}
    (h : Tells key answer found) : answer.toOption = found.toOption := by
  cases found with
  | ok file =>
    have hanswer : answer = .ok file := h
    rw [hanswer]
    rfl
  | error why =>
    obtain ⟨cause, -, hanswer⟩ := h
    rw [hanswer]
    rfl

/-- A path that leads nowhere and has the components of the key of a path with a file. -/
def Mistaken (disk : Disk) (bad good : Path) : Prop :=
  (∃ fault, disk.locate bad = .error fault) ∧ (∃ file, disk.source? good = some file) ∧
    bad.components = (key disk good).components

theorem name_eq_of_mistaken (h : Mistaken disk p q) : (Load.mk disk p).name = (Load.mk disk q).name := by
  obtain ⟨⟨fault, hp⟩, -, hcomponents⟩ := h
  rw [Load.name, Load.key, key, Disk.canonicalOrSelf_of_error hp]
  exact hcomponents

theorem source?_ne_of_mistaken (h : Mistaken disk p q) : disk.source? p ≠ disk.source? q := by
  obtain ⟨⟨fault, hp⟩, ⟨file, hq⟩, -⟩ := h
  rw [Disk.source?_of_error hp, hq]
  simp

/-- Paths whose keys are told apart by nothing have the same file, unless one is mistaken for the other. -/
theorem mistaken_of_name_eq (hname : (Load.mk disk p).name = (Load.mk disk q).name)
    (hne : disk.source? p ≠ disk.source? q) : Mistaken disk p q ∨ Mistaken disk q p := by
  simp only [Load.name, Load.key] at hname
  cases hp : disk.locate p with
  | ok names =>
    cases hq : disk.locate q with
    | ok others =>
      -- canonical paths with the same components are equal
      rw [key, key, Disk.canonicalOrSelf_of_locate hp, Disk.canonicalOrSelf_of_locate hq] at hname
      have hsame := Path.ofNames_inj (Disk.located_of_locate hp).isName (Disk.located_of_locate hq).isName hname
      rw [Disk.source?_of_locate hp, Disk.source?_of_locate hq, hsame] at hne
      exact absurd rfl hne
    | error fault =>
      right
      rw [Disk.source?_of_error hq] at hne
      obtain ⟨file, hfile⟩ := Option.ne_none_iff_exists'.mp hne
      refine ⟨⟨fault, hq⟩, ⟨file, hfile⟩, ?_⟩
      rw [hname, key, Disk.canonicalOrSelf_of_error hq]
  | error fault =>
    left
    rw [Disk.source?_of_error hp] at hne
    obtain ⟨file, hfile⟩ := Option.ne_none_iff_exists'.mp hne.symm
    refine ⟨⟨fault, hp⟩, ⟨file, hfile⟩, ?_⟩
    rw [← hname, key, Disk.canonicalOrSelf_of_error hp]

theorem name_eq_of_locate {names : List String} (hp : disk.locate p = .ok names) (hq : disk.locate q = .ok names) :
    (Load.mk disk p).name = (Load.mk disk q).name := by
  simp only [Load.name, Load.key, key, Disk.canonicalOrSelf_of_locate hp, Disk.canonicalOrSelf_of_locate hq]

/-- On a disk that does not change, a path is answered with the file of the first path under its key. -/
theorem answer_of_unchanged (disk : Disk) (before : List Path) (path : Path) (behind : List Path) :
    ∃ first ∈ before ++ path :: behind,
      first? (Load.mk disk path).name ((before ++ path :: behind).map (Load.mk disk)) = some ⟨disk, first⟩ ∧
        (answer (before.map (Load.mk disk)) ⟨disk, path⟩).toOption = disk.source? first := by
  have hfirst := first?_append_cons (before.map (Load.mk disk)) (behind.map (Load.mk disk)) ⟨disk, path⟩
  have hmem := List.mem_of_find?_eq_some hfirst
  have hmap : before.map (Load.mk disk) ++ Load.mk disk path :: behind.map (Load.mk disk)
      = (before ++ path :: behind).map (Load.mk disk) := by simp
  rw [hmap] at hfirst hmem
  obtain ⟨first, hmem, horigin⟩ := List.mem_map.mp hmem
  refine ⟨first, hmem, horigin ▸ hfirst, ?_⟩
  have htells := tells_answer (before.map (Load.mk disk)) ⟨disk, path⟩
  rw [← horigin] at htells
  exact toOption_of_tells htells

/-- On a disk that does not change, every load delivers what is read at its key, exactly if none of the paths is
mistaken for another. -/
theorem answers_right_iff (disk : Disk) (paths : List Path) :
    (∀ before path behind, paths = before ++ path :: behind →
        (answer (before.map (Load.mk disk)) ⟨disk, path⟩).toOption = disk.source? path) ↔
      ∀ bad ∈ paths, ∀ good ∈ paths, ¬ Mistaken disk bad good := by
  constructor
  · intro hright bad hbad good hgood hmistaken
    obtain ⟨before, behind, hpaths⟩ := List.append_of_mem hbad
    obtain ⟨before', behind', hpaths'⟩ := List.append_of_mem hgood
    obtain ⟨first, -, hfirst, hanswer⟩ := answer_of_unchanged disk before bad behind
    obtain ⟨first', -, hfirst', hanswer'⟩ := answer_of_unchanged disk before' good behind'
    rw [← hpaths, name_eq_of_mistaken hmistaken] at hfirst
    rw [← hpaths'] at hfirst'
    have hsame : Load.mk disk first = Load.mk disk first' := Option.some.inj (hfirst.symm.trans hfirst')
    apply source?_ne_of_mistaken hmistaken
    calc disk.source? bad = disk.source? first := by rw [← hright before bad behind hpaths, hanswer]
      _ = disk.source? first' := by rw [(Load.mk.inj hsame).2]
      _ = disk.source? good := by rw [← hright before' good behind' hpaths', hanswer']
  · intro hunmistaken before path behind hpaths
    obtain ⟨first, hmem, hfirst, hanswer⟩ := answer_of_unchanged disk before path behind
    rw [hanswer]
    by_contra hne
    have hpath : path ∈ paths := by simp [hpaths]
    rw [← hpaths] at hmem
    rcases mistaken_of_name_eq (name_of_first? hfirst) hne with hmistaken | hmistaken
    · exact hunmistaken first hmem path hpath hmistaken
    · exact hunmistaken path hpath first hmem hmistaken

/-- Loads are read once and answered the same ever after, whatever happens to the disk in between. On a disk that does
not change, they are answered rightly exactly if no path is mistaken for another, and spellings of one place share a
read. -/
theorem loads_stable (history : List Load) (disk : Disk) (paths : List Path) :
    (after history).reads = (history.map Load.name).toFinset.card ∧
    (∀ load, isRead history load = true ↔ load.name ∉ history.map Load.name) ∧
    (∀ name, Assoc.get? name (after history).loaded = none ∨ Assoc.get? name (after history).failed = none) ∧
    (∀ before first between later, history = before ++ first :: between → later.name = first.name →
      ∃ found, Tells first.key (answer before first) found ∧ Tells later.key (answer history later) found) ∧
    ((∀ before path behind, paths = before ++ path :: behind →
        (answer (before.map (Load.mk disk)) ⟨disk, path⟩).toOption = disk.source? path) ↔
      ∀ bad ∈ paths, ∀ good ∈ paths, ¬ Mistaken disk bad good) ∧
    ∀ p ∈ paths, ∀ q names, disk.locate p = .ok names → disk.locate q = .ok names →
      isRead (paths.map (Load.mk disk)) ⟨disk, q⟩ = false := by
  refine ⟨(recalls_after history).reads, isRead_iff history, loaded_or_failed history, ?_,
    answers_right_iff disk paths, ?_⟩
  · intro before first between later hhistory hname
    refine ⟨(origin before first).found, tells_answer before first, ?_⟩
    rw [hhistory, ← origin_eq_of_name before between hname]
    exact tells_answer (before ++ first :: between) later
  · intro p hp q names hlocate hlocate'
    have hname : (Load.mk disk q).name ∈ (paths.map (Load.mk disk)).map Load.name := by
      rw [← name_eq_of_locate hlocate hlocate', List.map_map]
      exact List.mem_map.mpr ⟨p, hp, rfl⟩
    rw [Bool.eq_false_iff, ne_eq, isRead_iff, not_not]
    exact hname

def writtenDisk : Disk :=
  ⟨.folder [("h.go", .file "package h\n".toUTF8)], []⟩

/-- A file that is written behind a failed load stays failed. Once it is there, its spellings share a read, and a slash
behind its name is taken for the file. -/
theorem loads_stable_written :
    let plain : Path := ⟨["", "h.go"]⟩
    let dotted : Path := ⟨[".", "h.go"]⟩
    let slashed : Path := ⟨["", "h.go", ""]⟩
    let missing : Load := ⟨⟨.folder [], []⟩, plain⟩
    let written : Load := ⟨writtenDisk, plain⟩
    answer [] missing = .error (.sourceIo plain (.fault .missing)) ∧
      (∃ found, Tells plain (.error (.sourceIo plain (.fault .missing))) found ∧
        Tells plain (answer [missing] written) found) ∧
      isRead ([plain].map (Load.mk writtenDisk)) ⟨writtenDisk, dotted⟩ = false ∧
      ¬ ∀ before path behind, [slashed, plain] = before ++ path :: behind →
        (answer (before.map (Load.mk writtenDisk)) ⟨writtenDisk, path⟩).toOption = writtenDisk.source? path := by
  intro plain dotted slashed missing written
  obtain ⟨-, -, -, hsame, -, hshared⟩ := loads_stable [missing] writtenDisk [plain]
  obtain ⟨-, -, -, -, hright_iff, -⟩ := loads_stable [] writtenDisk [slashed, plain]
  have hmissing : answer [] missing = .error (.sourceIo plain (.fault .missing)) := by decide +kernel
  refine ⟨hmissing, ?_, ?_, ?_⟩
  · have hkey : written.key = plain := by decide +kernel
    have htold := hsame [] missing [] written rfl (by decide +kernel)
    rw [hmissing, hkey] at htold
    exact htold
  · exact hshared plain List.mem_cons_self dotted ["h.go"] (by decide +kernel) (by decide +kernel)
  · intro hright
    apply hright_iff.mp hright slashed (by simp) plain (by simp)
    exact ⟨⟨.notFolder, by decide +kernel⟩, ⟨⟨plain, ["package h".toList]⟩, by decide +kernel⟩, by decide +kernel⟩

end SourceCache

end RouteDoc
