import RouteDoc.Proofs.RouteSources

/-!
Routes do not disturb each other. All routes of a table share one cache, one resolver and one counter.
Still every route comes out as it does alone, under the number of its place in the table, and a route
whose handler is not to be had takes nothing with it but itself (`collect_isolated`); done again, the
same table gives the same routes without another look at the disk.

This needs handlers that are `Placed`, as those in the sources are. A path with a slash behind a file
leads nowhere, but has the components of the file, and the cache knows files by components. Whoever loads
such a path spoils the file for all routes after it (`collect_mistaken`).
-/

namespace RouteDoc

open RouteDoc.Types

namespace Generator

variable {g : Generator}

/-- What a fresh generator makes of a table with this entry only. -/
def alone (g : Generator) (entry : RouteEntry) : List RouteHolder :=
  match (g.collect (pure (.ok [entry])) {} {}).1.1 with
  | .ok holders => holders
  | .error _ => []

/-- The reader of a route can be located, and its file can be loaded. -/
def Served (g : Generator) (place : Symbol → Option Location) (entry : RouteEntry) : Prop :=
  ∃ location, place entry.handler.reader = some location ∧ (g.disk.source? location.file).isSome

theorem alone_eq {place : Symbol → Option Location} {entry : RouteEntry}
    (hpath : entry.path?.isSome)
    (h : ∀ symbol ∈ entry.handler.symbols, g.Placed symbol (place symbol)) :
    g.alone entry = (g.plainRoute? place (entry.base 0) entry.handler).toList := by
  have htable : Steady g.disk id (pure (.ok [entry]) : RouteTable) (.ok [entry]) :=
    Rerun.pure rfl rfl
  have hcollect := collect_lasting place htable (by simpa using h)
  have hvalue := (hcollect.first.run {} {} (sound_fresh g.disk g.packages) rfl).1
  have hrouted : routed [entry] = [entry] := by simp [routed, hpath]
  unfold alone
  rw [hvalue, merge_plainEntries, hrouted]
  simp only [List.zipIdx_cons, List.zipIdx_nil, List.filterMap_cons, List.filterMap_nil]
  cases g.plainRoute? place (entry.base 0) entry.handler <;> rfl

theorem served_iff {place : Symbol → Option Location} (base : RouteHolder) (entry : RouteEntry) :
    (g.plainRoute? place base entry.handler).isSome ↔ g.Served place entry := by
  unfold plainRoute? Served sourceAt?
  cases place entry.handler.reader <;> simp

/-- The routes with a path, each as it comes out alone, under the number of its place. -/
def oneByOne (g : Generator) (entries : List RouteEntry) : List RouteHolder :=
  (routed entries).zipIdx.flatMap fun (entry, id) => (g.alone entry).map (RouteHolder.renumber id)

/-- The routes of a table do not disturb each other. -/
structure Isolated (g : Generator) (place : Symbol → Option Location) (table : RouteTable)
    (entries : List RouteEntry) : Prop where
  /-- Every route comes out as it does alone. -/
  collected : (g.collect table {} {}).1.1 = .ok (g.oneByOne entries)
  /-- A route comes out if its reader can be located and loaded. -/
  served : ∀ entry ∈ routed entries, g.Served place entry → ∃ holder, g.alone entry = [holder]
  /-- Otherwise nothing comes out of it; its number stays unused. -/
  unserved : ∀ entry ∈ routed entries, ¬ g.Served place entry → g.alone entry = []
  increasing : ((g.oneByOne entries).map (·.id)).Pairwise (· < ·)
  joined : ∀ holder ∈ g.oneByOne entries, holder.isEndpoint = false
  /-- The same generator gives the same routes for the same table. -/
  repeated : (g.collect table (g.collect table {} {}).1.2 (g.collect table {} {}).2).1.1
    = .ok (g.oneByOne entries)
  /-- It does so without another read: the cache stays as it was, with its count of reads. -/
  unread : (g.collect table (g.collect table {} {}).1.2 (g.collect table {} {}).2).2.cache
    = (g.collect table {} {}).2.cache

theorem merge_plainEntries_alone {place : Symbol → Option Location} {entries : List RouteEntry}
    (h : ∀ entry ∈ entries, ∀ symbol ∈ entry.handler.symbols, g.Placed symbol (place symbol)) :
    RouteHolder.merge (g.plainEntries place 0 entries) = g.oneByOne entries := by
  rw [merge_plainEntries, List.filterMap_eq_flatMap_toList]
  refine List.flatMap_congr fun ⟨entry, id⟩ hmem => ?_
  obtain ⟨hentry, hpath⟩ := List.mem_filter.mp (List.fst_mem_of_mem_zipIdx hmem)
  have hbase : entry.base id = (entry.base 0).renumber id := rfl
  dsimp only at hentry hpath ⊢
  rw [alone_eq hpath (h entry hentry), hbase, plainRoute?_renumber]
  cases g.plainRoute? place (entry.base 0) entry.handler <;> rfl

theorem isolated_of_placed {place : Symbol → Option Location} {table : RouteTable}
    {entries : List RouteEntry} (htable : Steady g.disk id table (.ok entries))
    (hplaced : ∀ entry ∈ entries, ∀ symbol ∈ entry.handler.symbols,
      g.Placed symbol (place symbol)) : g.Isolated place table entries := by
  have hcollect := collect_lasting place htable hplaced
  have hmerge := merge_plainEntries_alone hplaced
  have hroute : ∀ entry ∈ routed entries, ∀ holder?,
      g.plainRoute? place (entry.base 0) entry.handler = holder? →
      g.alone entry = holder?.toList := by
    intro entry hentry holder? hholder
    obtain ⟨hmem, hpath⟩ := List.mem_filter.mp hentry
    rw [alone_eq hpath (hplaced entry hmem), hholder]
  rw [hmerge] at hcollect
  rw [merge_plainEntries] at hmerge
  obtain ⟨hvalue, hsound, hstack, -⟩ :=
    hcollect.first.run {} {} (sound_fresh g.disk g.packages) rfl
  refine ⟨hvalue, ?_, ?_, ?_, ?_, ?_, ?_⟩
  · intro entry hentry hserved
    obtain ⟨holder, hholder⟩ :=
      Option.isSome_iff_exists.mp ((served_iff (entry.base 0) entry).mpr hserved)
    exact ⟨holder, hroute entry hentry (some holder) hholder⟩
  · intro entry hentry hserved
    apply hroute entry hentry none
    rw [← Option.not_isSome_iff_eq_none, served_iff]
    exact hserved
  · rw [← hmerge]
    exact List.Pairwise.sublist (map_id_plainRoutes g place (routed entries) 0)
      List.pairwise_lt_range'
  · -- an endpoint's holder has the number of its route, so it was joined to the holder before it
    intro holder hholder
    rw [← hmerge] at hholder
    obtain ⟨⟨entry, id⟩, -, hsome⟩ := List.mem_filterMap.mp hholder
    exact g.isEndpoint_plainRoute? place (entry.base id) entry.handler rfl hsome
  · exact (hcollect.later.run _ _ hsound hstack).1
  · exact hcollect.again {} {} _ _ (sound_fresh g.disk g.packages) hsound rfl hstack
      (fun _ h => h) (.refl _)

/-! ## Mistaken paths -/

/-- A route whose handler cannot be loaded has no holder, and leaves behind what loading has changed. -/
theorem routeHolders_of_error (base : RouteHolder) (handler : HandlerRef) (memo : Memo)
    {s : Session} {e : Error} (h : (g.sourceOf handler.reader s).1 = .error e) :
    (g.routeHolders base handler memo s).1 = ([], memo) ∧
      (g.routeHolders base handler memo s).2.cache = (g.sourceOf handler.reader s).2.cache := by
  have hrun : ∀ f : Except Error (Location × SourceFile) → Resolve (List RouteHolder),
      (liftM (g.sourceOf handler.reader) >>= f) memo s
        = f (g.sourceOf handler.reader s).1 memo (g.sourceOf handler.reader s).2 :=
    fun _ => rfl
  rw [routeHolders_run, hrun, h]
  exact ⟨rfl, rfl⟩

/-- A generator that finds every handler at the place given for it. -/
def ofPlaces (disk : Disk) (packages : Packages) (place : Symbol → Location) : Generator :=
  ⟨disk, packages, fun symbol => pure (.ok (place symbol))⟩

theorem ofPlaces_steady (disk : Disk) (packages : Packages) (place : Symbol → Location)
    (symbol : Symbol) :
    Steady disk Except.toOption ((ofPlaces disk packages place).locate symbol)
      (some (place symbol)) :=
  Rerun.pure rfl rfl

theorem sourceOf_ofPlaces_run (disk : Disk) (packages : Packages) (place : Symbol → Location)
    (symbol : Symbol) :
    (ofPlaces disk packages place).sourceOf symbol = do
      match ← load disk (place symbol).file with
      | .error error => return .error error
      | .ok file => return .ok (place symbol, file) :=
  rfl

theorem sourceOf_ofPlaces (disk : Disk) (packages : Packages) (place : Symbol → Location)
    (symbol : Symbol) (s : Session) {e : Error}
    (h : (s.cache.request disk (place symbol).file).1 = .error e) :
    ((ofPlaces disk packages place).sourceOf symbol s).1 = .error e ∧
      ((ofPlaces disk packages place).sourceOf symbol s).2.cache
        = (s.cache.request disk (place symbol).file).2.1 := by
  obtain ⟨journal, hload⟩ := load_run disk (place symbol).file s
  have hrun : ∀ f : Except Error SourceFile → Run (Except Error (Location × SourceFile)),
      (load disk (place symbol).file >>= f) s
        = f (load disk (place symbol).file s).1 (load disk (place symbol).file s).2 :=
    fun _ => rfl
  rw [sourceOf_ofPlaces_run, hrun, hload]
  dsimp only
  rw [h]
  exact ⟨rfl, rfl⟩

/-- A failed request for a path spoils the file with the components of the path. -/
theorem request_mistaken {disk : Disk} {p : Path} {names : List String} {fault : Fault}
    (hp : disk.locate p = .error fault) (hnames : disk.Located names)
    (hsame : (Path.ofNames names).components = p.components) :
    ∃ e e' : Error, (SourceCache.request {} disk p).1 = .error e ∧
      ((SourceCache.request {} disk p).2.1.request disk (Path.ofNames names)).1 = .error e' := by
  have hkey : SourceCache.key disk p = p := Disk.canonicalOrSelf_of_error hp
  have hkey' : SourceCache.key disk (Path.ofNames names) = Path.ofNames names :=
    Disk.canonicalOrSelf_of_locate (Disk.locate_ofNames hnames)
  have hread := Disk.readSource_of_error hp
  cases hfile : disk.readSource p with
  | ok file =>
    rw [hfile] at hread
    cases hread
  | error why =>
    have hfirst : SourceCache.request {} disk p
        = (.error (.sourceIo p (.fault why)),
            { failed := [(p.components, why)], reads := 1 }, true) := by
      simp [SourceCache.request, hkey, Assoc.get?, hfile]
    rw [hfirst]
    refine ⟨_, .sourceIo (Path.ofNames names) (.failedBefore why), rfl, ?_⟩
    simp [SourceCache.request, hkey', Assoc.get?, hsame]

/-- Two places, one for the symbol `first` and one for all others. -/
def twoPlaces (p q : Path) (symbol : Symbol) : Location :=
  if symbol.text = "first" then ⟨symbol.text, p, 1⟩ else ⟨symbol.text, q, 1⟩

/-- Two routes, with handlers at two places. -/
def firstRoute : RouteEntry :=
  ⟨some "/first", none, .func ⟨"first", none⟩⟩

@[inherit_doc firstRoute]
def secondRoute : RouteEntry :=
  ⟨some "/second", none, .func ⟨"second", none⟩⟩

theorem file_twoPlaces_first (p q : Path) : (twoPlaces p q ⟨"first", none⟩).file = p := by
  simp [twoPlaces]

theorem file_twoPlaces_second (p q : Path) : (twoPlaces p q ⟨"second", none⟩).file = q := by
  simp [twoPlaces]

/-- Two routes come to nothing if neither handler can be loaded, the second one after the first. -/
theorem entryHolders_two {e e' : Error} {s : Session}
    (hfirst : (g.sourceOf ⟨"first", none⟩ s).1 = .error e)
    (hsecond : ∀ t : Session, t.cache = (g.sourceOf ⟨"first", none⟩ s).2.cache →
      (g.sourceOf ⟨"second", none⟩ t).1 = .error e') :
    ((g.entryHolders 0 [firstRoute, secondRoute] : Resolve _) {} s).1.1 = [] := by
  have hrun : ((g.entryHolders 0 [firstRoute, secondRoute] : Resolve _) {} s).1.1
      = let one := g.routeHolders (firstRoute.base 0) firstRoute.handler {} s
        one.1.1 ++ ((g.routeHolders (secondRoute.base 1) secondRoute.handler one.1.2 one.2).1.1
          ++ []) := rfl
  obtain ⟨hvalue, hcache⟩ := routeHolders_of_error (firstRoute.base 0) firstRoute.handler {} hfirst
  have hnext := hsecond _ hcache
  obtain ⟨hvalue', -⟩ :=
    routeHolders_of_error (secondRoute.base 1) secondRoute.handler {} hnext
  rw [hrun]
  dsimp only
  rw [hvalue, hvalue']
  rfl

theorem alone_secondRoute (disk : Disk) (packages : Packages) (p : Path) {q : Path}
    (hq : disk.Unmistaken q) (hfile : (disk.source? q).isSome) :
    ∃ holder, (ofPlaces disk packages (twoPlaces p q)).alone secondRoute = [holder] := by
  have hplace := file_twoPlaces_second p q
  have hplaced : ∀ symbol ∈ secondRoute.handler.symbols,
      (ofPlaces disk packages (twoPlaces p q)).Placed symbol (some (twoPlaces p q symbol)) := by
    intro symbol hsymbol
    rw [List.mem_singleton.mp hsymbol]
    refine ⟨ofPlaces_steady disk packages _ _, fun location hlocation => ?_⟩
    rw [← Option.some.inj hlocation, hplace]
    exact hq
  have hserved : (ofPlaces disk packages (twoPlaces p q)).Served
      (fun symbol => some (twoPlaces p q symbol)) secondRoute := by
    refine ⟨_, rfl, ?_⟩
    show (disk.source? (twoPlaces p q ⟨"second", none⟩).file).isSome
    rw [hplace]
    exact hfile
  have hsome := (served_iff (secondRoute.base 0) secondRoute).mpr hserved
  obtain ⟨holder, hholder⟩ := Option.isSome_iff_exists.mp hsome
  refine ⟨holder, ?_⟩
  rw [alone_eq rfl hplaced, hholder]
  rfl

/-- A handler that is placed at a mistaken path takes the next route with it, which comes out
alone. -/
theorem collect_mistaken (disk : Disk) (packages : Packages) {p : Path}
    (h : ¬ disk.Unmistaken p) :
    ∃ q, disk.Unmistaken q ∧
      ((ofPlaces disk packages (twoPlaces p q)).collect
        (pure (.ok [firstRoute, secondRoute])) {} {}).1.1 = .ok [] ∧
      ∃ holder, (ofPlaces disk packages (twoPlaces p q)).alone secondRoute = [holder] := by
  obtain ⟨hnowhere, hfile⟩ := not_or.mp h
  obtain ⟨fault, hp⟩ : ∃ fault, disk.locate p = .error fault := by
    cases hl : disk.locate p with
    | ok names => exact absurd ⟨names, hl⟩ hnowhere
    | error fault => exact ⟨fault, rfl⟩
  push Not at hfile
  obtain ⟨names, hnames, hsame, hreadable⟩ := hfile
  have hq : disk.Unmistaken (Path.ofNames names) := .inl ⟨names, Disk.locate_ofNames hnames⟩
  refine ⟨Path.ofNames names, hq, ?_, ?_⟩
  · obtain ⟨e, e', hfirst, hsecond⟩ := request_mistaken hp hnames hsame
    -- the report of the table's length is all that happens before the first route
    have hrun : ∀ g : Generator, ∃ s : Session, s.cache = {} ∧
        (g.collect (pure (.ok [firstRoute, secondRoute])) {} {}).1.1 = .ok
          (RouteHolder.merge ((g.entryHolders 0 [firstRoute, secondRoute] : Resolve _) {} s).1.1) :=
      fun g => ⟨(Run.info _ {}).2, rfl, rfl⟩
    obtain ⟨s, hs, hcollect⟩ := hrun (ofPlaces disk packages (twoPlaces p (Path.ofNames names)))
    rw [← hs, ← file_twoPlaces_first p (Path.ofNames names)] at hfirst hsecond
    obtain ⟨hvalue, hcache⟩ := sourceOf_ofPlaces disk packages _ ⟨"first", none⟩ s hfirst
    rw [hcollect, entryHolders_two hvalue]
    · rfl
    · intro t ht
      rw [← hcache, ← ht, ← file_twoPlaces_second p (Path.ofNames names)] at hsecond
      exact (sourceOf_ofPlaces disk packages _ ⟨"second", none⟩ t hsecond).1
  · apply alone_secondRoute disk packages p hq
    rw [Disk.source?_of_locate (Disk.locate_ofNames hnames)]
    exact Option.isSome_iff_ne_none.mpr hreadable

/-- Every route of a table comes out as it does alone, under the number of its place among the routes
with a path, if the table is listed alike at any time and the handlers are placed. Of the files that
handlers are placed in nothing less will do: a path that can be mistaken for a file disturbs some other
route. -/
theorem collect_isolated (g : Generator) (place : Symbol → Option Location) (table : RouteTable)
    (entries : List RouteEntry) (htable : Steady g.disk id table (.ok entries))
    (hplaced : ∀ entry ∈ entries, ∀ symbol ∈ entry.handler.symbols,
      g.Placed symbol (place symbol)) :
    g.Isolated place table entries ∧
      ∀ p, ¬ g.disk.Unmistaken p → ∃ q, g.disk.Unmistaken q ∧
        ¬ (ofPlaces g.disk g.packages (twoPlaces p q)).Isolated
          (fun symbol => some (twoPlaces p q symbol)) (pure (.ok [firstRoute, secondRoute]))
          [firstRoute, secondRoute] := by
  refine ⟨isolated_of_placed htable hplaced, fun p hp => ?_⟩
  obtain ⟨q, hq, hnothing, holder, halone⟩ := collect_mistaken g.disk g.packages hp
  refine ⟨q, hq, fun hisolated => ?_⟩
  have hcollected := hisolated.collected
  rw [hnothing] at hcollected
  have hmem : holder.renumber 1 ∈ (ofPlaces g.disk g.packages (twoPlaces p q)).oneByOne
      [firstRoute, secondRoute] := by
    refine List.mem_flatMap.mpr ⟨(secondRoute, 1), by simp [routed, firstRoute, secondRoute], ?_⟩
    simp [halone]
  rw [← Except.ok.inj hcollected] at hmem
  cases hmem

/-- A project with three routes, of which the first has no handler and the second has an endpoint. -/
def projectDisk : Disk :=
  let source := "package m\nfunc R() \x7b\n\tr.Handle(\"/a\", lost)\n"
    ++ "\tr.Handle(\"/b\", kit.NewServer(e(s), d, x))\n\tr.Handle(\"/c\", d)\n\x7d\n"
    ++ "func d(r T) \x7b\n\x7d\nfunc e(s S) E \x7b\n\x7d\n"
  ⟨.folder [("m", .folder [("t.go", .file source.toUTF8)])], []⟩

def projectPackages : Packages :=
  [.sourceRoot ⟨["", "m"]⟩]

def projectEntries : List RouteEntry :=
  let file? := some (⟨["", "m", "t.go"]⟩ : Path)
  [⟨some "/a", none, .func ⟨"m.lost", none⟩⟩,
    ⟨some "/b", none, .kit ⟨"m.d", file?⟩ ⟨"m.e", file?⟩⟩,
    ⟨some "/c", none, .func ⟨"m.d", file?⟩⟩]

theorem collect_isolated_project :
    (Routes.muxTable projectDisk projectPackages ⟨["", "m"]⟩ {}).1.toOption = some projectEntries ∧
      (Generator.ofSources projectDisk projectPackages).Isolated
        (Handler.plainPlace projectDisk projectPackages)
        (Routes.muxTable projectDisk projectPackages ⟨["", "m"]⟩) projectEntries := by
  have hnamed : projectDisk.tree.Named :=
    ⟨by decide, ⟨by decide, True.intro, True.intro⟩, True.intro⟩
  have hlisted : (Routes.muxTable projectDisk projectPackages ⟨["", "m"]⟩ {}).1.toOption
      = some projectEntries := by
    decide +kernel
  obtain ⟨htable, hplaced⟩ := Routes.muxTable_listed hnamed hlisted
  exact ⟨hlisted, (collect_isolated (Generator.ofSources projectDisk projectPackages)
    (Handler.plainPlace projectDisk projectPackages) _ projectEntries htable hplaced).1⟩

end Generator

end RouteDoc
