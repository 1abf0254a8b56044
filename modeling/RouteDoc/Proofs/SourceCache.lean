import RouteDoc.Proofs.FileTree
import RouteDoc.Source.Cache

/-!
The remembered files and the disk. As long as the disk does not change, a cache that `Agrees` with it
answers as the disk does (`toOption_request`), and goes on agreeing (`agrees_request`). Both hold of
every path that is `Unmistaken`: one that leads nowhere must not be spelled with the components of a
file that can be read, since files are known by components.
-/

namespace RouteDoc

theorem Assoc.mem_of_get? {κ α : Type} [DecidableEq κ] {key : κ} {value : α}
    {list : List (κ × α)} (h : Assoc.get? key list = some value) : (key, value) ∈ list := by
  induction list with
  | nil => cases h
  | cons entry list ih =>
    obtain ⟨k, v⟩ := entry
    simp only [Assoc.get?] at h
    split at h
    · rename_i hk
      rw [← hk, ← Option.some.inj h]
      exact List.mem_cons_self
    · exact List.mem_cons_of_mem _ (ih h)

theorem Disk.readSource_of_error {disk : Disk} {p : Path} {fault : Fault}
    (h : disk.locate p = .error fault) : (disk.readSource p).toOption = none := by
  simp [Disk.readSource, Disk.read, Disk.node, h, Except.toOption]

/-- A path that leads somewhere, or whose components are not those of a file that can be read. -/
def Disk.Unmistaken (disk : Disk) (p : Path) : Prop :=
  (∃ names, disk.locate p = .ok names) ∨
    ∀ names, disk.Located names → (Path.ofNames names).components = p.components →
      (disk.readSource (Path.ofNames names)).toOption = none

/-- A path that ends with a name is not mistaken: with the components of a file it leads to the file.
So only a slash or a dot behind a file can be. -/
theorem Disk.unmistaken_of_last_name {disk : Disk} {p : Path} {piece : String}
    (hlast : p.pieces.getLast? = some piece) (hname : Path.IsName piece) : disk.Unmistaken p := by
  cases hl : disk.locate p with
  | ok names => exact .inl ⟨names, hl⟩
  | error fault =>
    refine .inr fun names hlocated hcomponents => ?_
    have hthere := locate_of_last_name hlocated hcomponents.symm hlast hname
    rw [hl] at hthere
    cases hthere

/-- The file that a path stands for on the disk. -/
def Disk.source? (disk : Disk) (p : Path) : Option SourceFile :=
  (disk.readSource (SourceCache.key disk p)).toOption

theorem Disk.source?_of_locate {disk : Disk} {p : Path} {names : List String}
    (h : disk.locate p = .ok names) :
    disk.source? p = (disk.readSource (Path.ofNames names)).toOption := by
  rw [source?, SourceCache.key, canonicalOrSelf_of_locate h]

theorem Disk.source?_of_error {disk : Disk} {p : Path} {fault : Fault}
    (h : disk.locate p = .error fault) : disk.source? p = none := by
  rw [source?, SourceCache.key, canonicalOrSelf_of_error h]
  exact readSource_of_error h

theorem Disk.locate_of_source? {disk : Disk} {p : Path} {file : SourceFile}
    (h : disk.source? p = some file) : ∃ names, disk.locate p = .ok names := by
  cases hl : disk.locate p with
  | ok names => exact ⟨names, rfl⟩
  | error fault => rw [source?_of_error hl] at h; cases h

namespace SourceCache

/-- The remembered files are those that the disk holds: each is the one at a canonical path with the
components under which it is remembered. -/
structure Genuine (disk : Disk) (cache : SourceCache) : Prop where
  loaded : ∀ c file, (c, file) ∈ cache.loaded → ∃ names, disk.Located names ∧
    c = (Path.ofNames names).components ∧ disk.readSource (Path.ofNames names) = .ok file

/-- What is remembered is what the disk holds, failures included. -/
structure Agrees (disk : Disk) (cache : SourceCache) : Prop extends Genuine disk cache where
  /-- Where a failure is remembered, no file can be read. -/
  failed : ∀ c why, (c, why) ∈ cache.failed → ∀ names, disk.Located names →
    (Path.ofNames names).components = c → (disk.readSource (Path.ofNames names)).toOption = none

variable {disk : Disk} {cache : SourceCache} {p : Path}

theorem genuine_empty : Genuine disk {} :=
  ⟨fun _ _ h => absurd h List.not_mem_nil⟩

theorem agrees_empty : Agrees disk {} :=
  ⟨genuine_empty, fun _ _ h => absurd h List.not_mem_nil⟩

/-- A file remembered under the components of a path's key is the file of the path. -/
theorem source?_of_loaded (h : cache.Genuine disk) (hp : disk.Unmistaken p) {file : SourceFile}
    (hget : Assoc.get? (key disk p).components cache.loaded = some file) :
    disk.source? p = some file := by
  obtain ⟨names, hloc, hc, hread⟩ := h.loaded _ _ (Assoc.mem_of_get? hget)
  have hsome : (disk.readSource (Path.ofNames names)).toOption = some file := by
    rw [hread]
    rfl
  cases hl : disk.locate p with
  | ok names' =>
    rw [key, Disk.canonicalOrSelf_of_locate hl] at hc
    have hsame := Path.ofNames_inj (Disk.located_of_locate hl).isName hloc.isName hc
    rw [Disk.source?_of_locate hl, hsame]
    exact hsome
  | error fault =>
    rw [key, Disk.canonicalOrSelf_of_error hl] at hc
    rcases hp with ⟨names', hl'⟩ | hp
    · rw [hl] at hl'; cases hl'
    · rw [hp names hloc hc.symm] at hsome
      cases hsome

/-- Where a failure is remembered under the components of a path's key, the path has no file. -/
theorem source?_of_failed (h : cache.Agrees disk) {why : Fault}
    (hget : Assoc.get? (key disk p).components cache.failed = some why) :
    disk.source? p = none := by
  cases hl : disk.locate p with
  | error fault => exact Disk.source?_of_error hl
  | ok names =>
    rw [key, Disk.canonicalOrSelf_of_locate hl] at hget
    rw [Disk.source?_of_locate hl]
    exact h.failed _ _ (Assoc.mem_of_get? hget) names (Disk.located_of_locate hl) rfl

/-- Whether a file is delivered depends on the disk alone. -/
theorem toOption_request (h : cache.Agrees disk) (hp : disk.Unmistaken p) :
    (cache.request disk p).1.toOption = disk.source? p := by
  unfold request
  simp only
  cases hloaded : Assoc.get? (key disk p).components cache.loaded with
  | some file => exact (source?_of_loaded h.toGenuine hp hloaded).symm
  | none =>
    cases hfailed : Assoc.get? (key disk p).components cache.failed with
    | some why => exact (source?_of_failed h hfailed).symm
    | none =>
      simp only [Disk.source?]
      cases disk.readSource (key disk p) <;> rfl

/-- A file that is delivered is the one on the disk, whatever failures are remembered. -/
theorem source?_of_request (h : cache.Genuine disk) (hp : disk.Unmistaken p) {file : SourceFile}
    (hanswer : (cache.request disk p).1 = .ok file) : disk.source? p = some file := by
  unfold request at hanswer
  simp only at hanswer
  cases hloaded : Assoc.get? (key disk p).components cache.loaded with
  | some other =>
    rw [hloaded] at hanswer
    cases Except.ok.inj hanswer
    exact source?_of_loaded h hp hloaded
  | none =>
    rw [hloaded] at hanswer
    cases hfailed : Assoc.get? (key disk p).components cache.failed with
    | some why => rw [hfailed] at hanswer; cases hanswer
    | none =>
      rw [hfailed] at hanswer
      simp only [Disk.source?]
      cases hread : disk.readSource (key disk p) with
      | error why => rw [hread] at hanswer; cases hanswer
      | ok other =>
        rw [hread] at hanswer
        cases Except.ok.inj hanswer
        rfl

theorem genuine_loaded (h : cache.Genuine disk) {file : SourceFile} {n : Nat}
    (hread : disk.readSource (key disk p) = .ok file) :
    Genuine disk
      { cache with loaded := ((key disk p).components, file) :: cache.loaded, reads := n } := by
  refine ⟨?_⟩
  intro c f hmem
  rcases List.mem_cons.mp hmem with heq | hmem
  · obtain ⟨rfl, rfl⟩ := Prod.mk.inj heq
    have hsource : disk.source? p = some f := by
      rw [Disk.source?, hread]
      rfl
    obtain ⟨names, hl⟩ := Disk.locate_of_source? hsource
    rw [key, Disk.canonicalOrSelf_of_locate hl] at hread ⊢
    exact ⟨names, Disk.located_of_locate hl, rfl, hread⟩
  · exact h.loaded c f hmem

theorem genuine_request (h : cache.Genuine disk) : (cache.request disk p).2.1.Genuine disk := by
  unfold request
  simp only
  cases Assoc.get? (key disk p).components cache.loaded with
  | some file => exact h
  | none =>
    cases Assoc.get? (key disk p).components cache.failed with
    | some why => exact h
    | none =>
      cases hread : disk.readSource (key disk p) with
      | ok file => exact genuine_loaded h hread
      | error why => exact ⟨h.loaded⟩

theorem agrees_failed (h : cache.Agrees disk) (hp : disk.Unmistaken p) {why : Fault} {n : Nat}
    (hread : disk.readSource (key disk p) = .error why) :
    Agrees disk
      { cache with failed := ((key disk p).components, why) :: cache.failed, reads := n } := by
  refine ⟨⟨h.loaded⟩, ?_⟩
  intro c w hmem names hloc hc
  rcases List.mem_cons.mp hmem with heq | hmem
  · obtain ⟨rfl, rfl⟩ := Prod.mk.inj heq
    cases hl : disk.locate p with
    | ok names' =>
      rw [key, Disk.canonicalOrSelf_of_locate hl] at hc hread
      have hsame := Path.ofNames_inj hloc.isName (Disk.located_of_locate hl).isName hc
      rw [hsame, hread]
      rfl
    | error fault =>
      rw [key, Disk.canonicalOrSelf_of_error hl] at hc
      rcases hp with ⟨names', hl'⟩ | hp
      · rw [hl] at hl'; cases hl'
      · exact hp names hloc hc
  · exact h.failed c w hmem names hloc hc

theorem agrees_request (h : cache.Agrees disk) (hp : disk.Unmistaken p) :
    (cache.request disk p).2.1.Agrees disk := by
  unfold request
  simp only
  cases Assoc.get? (key disk p).components cache.loaded with
  | some file => exact h
  | none =>
    cases Assoc.get? (key disk p).components cache.failed with
    | some why => exact h
    | none =>
      cases hread : disk.readSource (key disk p) with
      | ok file => exact ⟨genuine_loaded h.toGenuine hread, h.failed⟩
      | error why => exact agrees_failed h hp hread

end SourceCache

/-- Loading asks the cache; only the journal tells a first failure from a later one. -/
theorem load_run (disk : Disk) (p : Path) (s : Session) : ∃ journal, load disk p s =
    ((s.cache.request disk p).1, { cache := (s.cache.request disk p).2.1, journal := journal }) := by
  rcases hreq : s.cache.request disk p with ⟨answer, cache, fresh⟩
  simp only [load, bind, StateT.bind, get, getThe, MonadStateOf.get, StateT.get, pure, modify,
    modifyGet, MonadStateOf.modifyGet, StateT.modifyGet, hreq]
  cases answer with
  | ok file => exact ⟨_, rfl⟩
  | error error =>
    cases fresh with
    | true => exact ⟨_, rfl⟩
    | false => exact ⟨_, rfl⟩

end RouteDoc
