import RouteDoc.Proofs.FunctionLines
import RouteDoc.Proofs.RouteSources
import RouteDoc.Proofs.SourceHistory

/-!
Where handlers are found. Without a file of its own a symbol is sought in the files of its package in their order, and
the first line that declares it in the first file that does is its place (`FirstPlace`); a file that cannot be loaded
is passed over. With a file of its own it is sought there alone, and that the file cannot be loaded is an error. The
line handed over is the one that a scan reads the name from again.

The files are loaded through the cache, in whatever state earlier loads have left it. A search that fails adds to it,
but nothing that a later file of the search would notice (`delivered_concat`). What earlier loads have left can matter
in one case only: a path that leads nowhere was loaded first and has the components of a file, whose key it is taken
for (`Confused`). `locate_right_iff` says that handlers are found where they should be exactly if that is not so for
the file they are in.
-/

namespace RouteDoc

open RouteDoc.Text RouteDoc.Types

/-! ## The order of paths -/

namespace Component

theorem before_trans {a b c : Component} (hab : a.before b = true) (hbc : b.before c = true) :
    a.before c = true := by
  cases a <;> cases b <;> cases c <;> simp only [before, rank, decide_eq_true_eq] at hab hbc ⊢
  case name.name.name => exact String.lt_trans hab hbc
  all_goals simp_all

theorem before_or (a b : Component) : a.before b = true ∨ a = b ∨ b.before a = true := by
  cases a <;> cases b <;> simp only [before, rank, decide_eq_true_eq, name.injEq, reduceCtorEq]
  case name.name s t =>
    by_cases hst : s < t
    · exact .inl hst
    · by_cases hts : t < s
      · exact .inr (.inr hts)
      · exact .inr (.inl (String.le_antisymm (String.not_lt.mp hts) (String.not_lt.mp hst)))
  all_goals simp

end Component

namespace Path

theorem componentsLe_total (a b : List Component) : componentsLe a b = true ∨ componentsLe b a = true := by
  induction a generalizing b with
  | nil => exact .inl rfl
  | cons x a ih =>
    cases b with
    | nil => exact .inr rfl
    | cons y b =>
      simp only [componentsLe, Bool.or_eq_true, Bool.and_eq_true, decide_eq_true_eq]
      rcases Component.before_or x y with h | rfl | h
      · exact .inl (.inl h)
      · exact (ih b).imp (fun h => .inr ⟨rfl, h⟩) fun h => .inr ⟨rfl, h⟩
      · exact .inr (.inl h)

theorem componentsLe_trans {a b c : List Component} (hab : componentsLe a b = true)
    (hbc : componentsLe b c = true) : componentsLe a c = true := by
  induction a generalizing b c with
  | nil => rfl
  | cons x a ih =>
    cases b with
    | nil => cases hab
    | cons y b =>
      cases c with
      | nil => cases hbc
      | cons z c =>
        simp only [componentsLe, Bool.or_eq_true, Bool.and_eq_true, decide_eq_true_eq] at hab hbc ⊢
        rcases hab with hxy | ⟨rfl, hab⟩
        · rcases hbc with hyz | ⟨rfl, -⟩
          · exact .inl (Component.before_trans hxy hyz)
          · exact .inl hxy
        · exact hbc.imp_right fun h => ⟨h.1, ih hab h.2⟩

end Path

theorem pairwise_sortPaths (paths : List Path) : (sortPaths paths).Pairwise fun a b => a.le b = true :=
  @List.pairwise_mergeSort _ Path.le (fun _ _ _ => Path.componentsLe_trans)
    (fun a b => by simpa [Path.le] using Path.componentsLe_total a.components b.components) paths

/-! ## The files of a package -/

/-- A Go file that is no test file, directly in the folder of the package. -/
def Packages.HasSource (packages : Packages) (disk : Disk) (importPath : String) (path : Path) : Prop :=
  ∃ folder entries name node, packages.folder? disk importPath = some folder ∧ disk.entries folder = .ok entries ∧
    (name, node) ∈ entries ∧ node.isFolder = false ∧ path = folder.entry name ∧ path.isGoSource = true

theorem Disk.mem_packageFiles_iff {disk : Disk} {folder path : Path} {entries : List (String × Node)}
    {files : List Path} (hentries : disk.entries folder = .ok entries)
    (h : disk.packageFiles folder = .ok files) : path ∈ files ↔
      ∃ name node, (name, node) ∈ entries ∧ node.isFolder = false ∧ path = folder.entry name ∧
        path.isGoSource = true := by
  rw [packageFiles, hentries] at h
  rw [← Except.ok.inj h, sortPaths, List.mem_mergeSort, List.mem_filterMap]
  constructor
  · rintro ⟨⟨name, node⟩, hmem, hlisted⟩
    simp only [Option.ite_none_right_eq_some, Bool.and_eq_true, Bool.not_eq_true', Option.some.injEq] at hlisted
    obtain ⟨⟨hfile, hgo⟩, rfl⟩ := hlisted
    exact ⟨name, node, hmem, hfile, rfl, hgo⟩
  · rintro ⟨name, node, hmem, hfile, rfl, hgo⟩
    exact ⟨(name, node), hmem, by simp [hfile, hgo]⟩

theorem Packages.exists_sources (packages : Packages) (disk : Disk) (importPath : String) :
    ∃ files, files.Pairwise (fun a b => a.le b = true) ∧
      (∀ path, path ∈ files ↔ packages.HasSource disk importPath path) ∧
      (∀ path ∈ files, ∃ names, disk.locate path = .ok names) ∧
      (packages.files disk importPath = .ok files ∨
        (∃ error, packages.files disk importPath = .error error) ∧ files = []) := by
  unfold Packages.files HasSource
  cases hfolder : packages.folder? disk importPath with
  | none => exact ⟨[], .nil, by simp, by simp, .inr ⟨⟨_, rfl⟩, rfl⟩⟩
  | some folder =>
    dsimp only
    cases hlisted : disk.packageFiles folder with
    | error why =>
      cases hentries : disk.entries folder with
      | error fault => exact ⟨[], .nil, by simp [hentries], by simp, .inr ⟨⟨_, rfl⟩, rfl⟩⟩
      | ok entries => simp [Disk.packageFiles, hentries] at hlisted
    | ok files =>
      cases hentries : disk.entries folder with
      | error fault => simp [Disk.packageFiles, hentries] at hlisted
      | ok entries =>
        refine ⟨files, ?_, fun path => ?_, fun path => locate_of_packageFiles hlisted, .inl rfl⟩
        · rw [Disk.packageFiles, hentries] at hlisted
          rw [← Except.ok.inj hlisted]
          exact pairwise_sortPaths _
        · rw [Disk.mem_packageFiles_iff hentries hlisted]
          simp [hentries]

/-! ## Loads behind others -/

theorem Disk.path_of_source? {disk : Disk} {p : Path} {file : SourceFile} (h : disk.source? p = some file) :
    file.path = disk.canonicalOrSelf p := by
  obtain ⟨names, bytes, text, hl, -, -, rfl⟩ := bytes_of_source? h
  exact (canonicalOrSelf_of_locate hl).symm

theorem Disk.source?_path {disk : Disk} {p : Path} {file : SourceFile} (h : disk.source? p = some file) :
    disk.source? file.path = some file := by
  obtain ⟨names, hl⟩ := locate_of_source? h
  rw [path_of_source? h, canonicalOrSelf_of_locate hl, source?_of_locate (locate_ofNames (located_of_locate hl)),
    ← source?_of_locate hl]
  exact h

namespace SourceCache

variable {disk : Disk} {history : List Path} {p q : Path}

/-- The first path of the history under the key of the path is taken for it, or it for that path, though one of the
two leads nowhere. -/
def Confused (disk : Disk) (history : List Path) (path : Path) : Prop :=
  ∃ first, first? (Load.mk disk path).name (history.map (Load.mk disk)) = some ⟨disk, first⟩ ∧
    (Mistaken disk first path ∨ Mistaken disk path first)

/-- The file that a path is answered with when the others have been loaded before. -/
def delivered (disk : Disk) (history : List Path) (path : Path) : Option SourceFile :=
  (answer (history.map (Load.mk disk)) ⟨disk, path⟩).toOption

theorem exists_first? (disk : Disk) (history : List Path) (path : Path) :
    first? (Load.mk disk path).name (history.map (Load.mk disk)) = none ∨
      ∃ first ∈ history, first? (Load.mk disk path).name (history.map (Load.mk disk)) = some ⟨disk, first⟩ := by
  cases hfirst : first? (Load.mk disk path).name (history.map (Load.mk disk)) with
  | none => exact .inl rfl
  | some load =>
    obtain ⟨first, hmem, rfl⟩ := List.mem_map.mp (List.mem_of_find?_eq_some hfirst)
    exact .inr ⟨first, hmem, rfl⟩

theorem delivered_of_first? {first : Path}
    (h : first? (Load.mk disk p).name (history.map (Load.mk disk)) = some ⟨disk, first⟩) :
    delivered disk history p = disk.source? first := by
  have htells := tells_answer (history.map (Load.mk disk)) ⟨disk, p⟩
  rw [origin_of_first? h] at htells
  exact toOption_of_tells htells

theorem delivered_of_new (h : first? (Load.mk disk p).name (history.map (Load.mk disk)) = none) :
    delivered disk history p = disk.source? p := by
  have htells := tells_answer (history.map (Load.mk disk)) ⟨disk, p⟩
  rw [origin_of_new h] at htells
  exact toOption_of_tells htells

/-- A path is answered with its file unless it is confused with another. -/
theorem delivered_eq_source?_iff (disk : Disk) (history : List Path) (path : Path) :
    delivered disk history path = disk.source? path ↔ ¬ Confused disk history path := by
  rcases exists_first? disk history path with hnone | ⟨first, -, hfirst⟩
  · refine iff_of_true (delivered_of_new hnone) ?_
    rintro ⟨first, hfirst, -⟩
    rw [hnone] at hfirst
    cases hfirst
  · rw [delivered_of_first? hfirst]
    constructor
    · rintro hsame ⟨other, hother, hmistaken⟩
      obtain rfl : first = other := by
        have heq := Option.some.inj (hfirst.symm.trans hother)
        exact (Load.mk.inj heq).2
      rcases hmistaken with hmistaken | hmistaken
      · exact source?_ne_of_mistaken hmistaken hsame
      · exact source?_ne_of_mistaken hmistaken hsame.symm
    · intro hclear
      by_contra hne
      exact hclear ⟨first, hfirst, mistaken_of_name_eq (name_of_first? hfirst) hne⟩

/-- A path that is confused is answered with a file though it has none, or with none though it has one. -/
theorem not_confused_iff (disk : Disk) (history : List Path) (path : Path) :
    ¬ Confused disk history path ↔ (delivered disk history path = none ↔ disk.source? path = none) := by
  constructor
  · intro hclear
    rw [(delivered_eq_source?_iff disk history path).mpr hclear]
  · rintro hsame ⟨first, hfirst, ⟨⟨fault, hnowhere⟩, ⟨file, hfile⟩, -⟩ | ⟨⟨fault, hnowhere⟩, ⟨file, hfile⟩, -⟩⟩
    · rw [delivered_of_first? hfirst, Disk.source?_of_error hnowhere, hfile] at hsame
      cases hsame.mp rfl
    · rw [delivered_of_first? hfirst, hfile, Disk.source?_of_error hnowhere] at hsame
      cases hsame.mpr rfl

/-- A path that leads somewhere and is confused is answered with nothing: it is the other one that leads nowhere. -/
theorem delivered_of_confused {names : List String} (hp : disk.locate p = .ok names)
    (h : Confused disk history p) : delivered disk history p = none := by
  obtain ⟨first, hfirst, ⟨⟨fault, hnowhere⟩, -⟩ | ⟨⟨fault, hnowhere⟩, -⟩⟩ := h
  · rw [delivered_of_first? hfirst, Disk.source?_of_error hnowhere]
  · rw [hp] at hnowhere
    cases hnowhere

/-- Loading a path that leads somewhere changes nothing for others that do. -/
theorem delivered_concat {names others : List String} (hp : disk.locate p = .ok names)
    (hq : disk.locate q = .ok others) : delivered disk (history ++ [p]) q = delivered disk history q := by
  have hmap : (history ++ [p]).map (Load.mk disk) = history.map (Load.mk disk) ++ [⟨disk, p⟩] := by simp
  rcases exists_first? disk history q with hnone | ⟨first, -, hfirst⟩
  · rw [delivered_of_new hnone]
    by_cases hname : (Load.mk disk p).name = (Load.mk disk q).name
    · have hfirst : first? (Load.mk disk q).name ((history ++ [p]).map (Load.mk disk)) = some ⟨disk, p⟩ := by
        rw [hmap, first?_concat_new (hname ▸ hnone), if_pos hname]
      rw [delivered_of_first? hfirst]
      by_contra hne
      rcases mistaken_of_name_eq hname hne with ⟨⟨fault, hnowhere⟩, -⟩ | ⟨⟨fault, hnowhere⟩, -⟩
      · rw [hp] at hnowhere
        cases hnowhere
      · rw [hq] at hnowhere
        cases hnowhere
    · have hnew : first? (Load.mk disk q).name ((history ++ [p]).map (Load.mk disk)) = none := by
        rw [first?_eq_none_iff, hmap, List.map_append, List.mem_append, not_or]
        exact ⟨first?_eq_none_iff.mp hnone, by simpa using Ne.symm hname⟩
      exact delivered_of_new hnew
  · have hfirst' : first? (Load.mk disk q).name ((history ++ [p]).map (Load.mk disk)) = some ⟨disk, first⟩ := by
      rw [hmap, first?, List.find?_append, ← first?, hfirst]
      rfl
    rw [delivered_of_first? hfirst, delivered_of_first? hfirst']

/-- A path that ends with a name is confused with nothing if all paths before it do. -/
theorem not_confused_of_last_names
    (h : ∀ path ∈ p :: history, ∃ piece, path.pieces.getLast? = some piece ∧ Path.IsName piece) :
    ¬ Confused disk history p := by
  have hsure : ∀ bad ∈ p :: history, ∀ good, ¬ Mistaken disk bad good := by
    rintro bad hbad good ⟨⟨fault, hnowhere⟩, ⟨file, hfile⟩, hcomponents⟩
    obtain ⟨piece, hlast, hpiece⟩ := h bad hbad
    obtain ⟨names, hl⟩ := Disk.locate_of_source? hfile
    rw [key, Disk.canonicalOrSelf_of_locate hl] at hcomponents
    rw [Disk.locate_of_last_name (Disk.located_of_locate hl) hcomponents hlast hpiece] at hnowhere
    cases hnowhere
  rintro ⟨first, hfirst, hmistaken⟩
  have hmem : first ∈ history := by
    obtain ⟨other, hother, heq⟩ := List.mem_map.mp (List.mem_of_find?_eq_some hfirst)
    rwa [(Load.mk.inj heq).2] at hother
  rcases hmistaken with hmistaken | hmistaken
  · exact hsure first (List.mem_cons_of_mem p hmem) p hmistaken
  · exact hsure p List.mem_cons_self first hmistaken

/-- A load is answered as the cache answers, and joins the history. -/
theorem load_after (disk : Disk) (history : List Path) (path : Path) (journal : List Record) :
    ∃ journal', load disk path ⟨after (history.map (Load.mk disk)), journal⟩
      = (answer (history.map (Load.mk disk)) ⟨disk, path⟩,
          ⟨after ((history ++ [path]).map (Load.mk disk)), journal'⟩) := by
  obtain ⟨journal', hload⟩ := load_run disk path ⟨after (history.map (Load.mk disk)), journal⟩
  refine ⟨journal', hload.trans ?_⟩
  rw [List.map_append, List.map_singleton, after, after, List.foldl_concat]
  rfl

end SourceCache

/-! ## Searches -/

namespace Handler

open SourceCache

variable {disk : Disk} {packages : Packages} {symbol : Symbol} {parts : SymbolParts}

/-- The first line that declares the function, counted from one. -/
def FirstLine (parts : SymbolParts) (lines : List (List Char)) (number : Nat) : Prop :=
  ∃ before line behind, lines = before ++ line :: behind ∧ number = before.length + 1 ∧
    Go.DeclaresFunction parts.receiver? parts.name line ∧
    ∀ other ∈ before, ¬ Go.DeclaresFunction parts.receiver? parts.name other

/-- A file that can be loaded and has a line that declares the function. -/
def Declaring (disk : Disk) (parts : SymbolParts) (path : Path) : Prop :=
  ∃ source, disk.source? path = some source ∧
    ∃ line ∈ source.lines, Go.DeclaresFunction parts.receiver? parts.name line

/-- The place of a symbol among files: in the first one that declares it, the first line that does. -/
structure FirstPlace (disk : Disk) (symbol : Symbol) (files : List Path) (file : Path) (location : Location) :
    Prop where
  text : location.symbol = symbol.text
  path : location.file = disk.canonicalOrSelf file
  line : ∃ source, disk.source? file = some source ∧ FirstLine symbol.parts source.lines location.line
  first : ∃ before behind, files = before ++ file :: behind ∧
    ∀ other ∈ before, ¬ Declaring disk symbol.parts other

def placeIn (symbol : Symbol) (parts : SymbolParts) (source : SourceFile) : Option Location :=
  (Go.findFunction source.lines parts.receiver? parts.name).map fun index => ⟨symbol.text, source.path, index + 1⟩

theorem findFunction_eq_some_iff {lines : List (List Char)} {index : Nat} :
    Go.findFunction lines parts.receiver? parts.name = some index ↔ FirstLine parts lines (index + 1) := by
  unfold Go.findFunction FirstLine
  constructor
  · intro h
    obtain ⟨hlt, hline, hbefore⟩ := List.findIdx?_eq_some_iff_getElem.mp h
    refine ⟨lines.take index, lines[index], lines.drop (index + 1), ?_, ?_, Go.declares_iff.mp hline, ?_⟩
    · rw [← List.drop_eq_getElem_cons hlt, List.take_append_drop]
    · rw [List.length_take_of_le (Nat.le_of_lt hlt)]
    · intro other hother
      obtain ⟨n, hn, rfl⟩ := List.getElem_of_mem hother
      have hlt' : n < index := by
        rw [List.length_take] at hn
        omega
      rw [List.getElem_take, ← Go.declares_iff]
      exact hbefore n hlt'
  · rintro ⟨before, line, behind, rfl, hlength, hline, hbefore⟩
    have hnone : before.findIdx? (Go.declares parts.receiver? parts.name) = none := by
      rw [List.findIdx?_eq_none_iff]
      intro other hother
      rw [Bool.eq_false_iff, ne_eq, Go.declares_iff]
      exact hbefore other hother
    have hindex : before.length = index := by omega
    rw [List.findIdx?_append, hnone, List.findIdx?_cons, Go.declares_iff.mpr hline]
    simp [hindex]

theorem placeIn_eq_some_iff {source : SourceFile} {location : Location} : placeIn symbol parts source = some location ↔
    location.symbol = symbol.text ∧ location.file = source.path ∧ FirstLine parts source.lines location.line := by
  obtain ⟨text, file, line⟩ := location
  rw [placeIn, Option.map_eq_some_iff]
  constructor
  · rintro ⟨index, hindex, heq⟩
    obtain ⟨rfl, rfl, rfl⟩ := Location.mk.inj heq
    exact ⟨rfl, rfl, findFunction_eq_some_iff.mp hindex⟩
  · rintro ⟨rfl, rfl, hline⟩
    obtain ⟨before, -, -, -, hlength, -⟩ := id hline
    have hline' : line = before.length + 1 := hlength
    subst hline'
    exact ⟨before.length, findFunction_eq_some_iff.mpr hline, rfl⟩

theorem placeIn_eq_none_iff {source : SourceFile} : placeIn symbol parts source = none ↔
    ∀ line ∈ source.lines, ¬ Go.DeclaresFunction parts.receiver? parts.name line := by
  rw [placeIn, Option.map_eq_none_iff, Go.findFunction, List.findIdx?_eq_none_iff]
  refine forall₂_congr fun line _ => ?_
  rw [Bool.eq_false_iff, ne_eq, Go.declares_iff]

theorem source?_bind_placeIn_eq_none_iff {path : Path} :
    (disk.source? path).bind (placeIn symbol parts) = none ↔ ¬ Declaring disk parts path := by
  unfold Declaring
  cases disk.source? path with
  | none => simp
  | some source => simp [placeIn_eq_none_iff]

theorem firstPlace_iff {files : List Path} {file : Path} {location : Location} :
    FirstPlace disk symbol files file location ↔ ∃ before behind, files = before ++ file :: behind ∧
      (disk.source? file).bind (placeIn symbol symbol.parts) = some location ∧
      ∀ other ∈ before, (disk.source? other).bind (placeIn symbol symbol.parts) = none := by
  constructor
  · rintro ⟨htext, hpath, ⟨source, hsource, hline⟩, before, behind, rfl, hbefore⟩
    refine ⟨before, behind, rfl, ?_, fun other hother => ?_⟩
    · rw [hsource, Option.bind_some, placeIn_eq_some_iff]
      exact ⟨htext, hpath.trans (Disk.path_of_source? hsource).symm, hline⟩
    · exact source?_bind_placeIn_eq_none_iff.mpr (hbefore other hother)
  · rintro ⟨before, behind, rfl, hfile, hbefore⟩
    obtain ⟨source, hsource, hplace⟩ := Option.bind_eq_some_iff.mp hfile
    obtain ⟨htext, hpath, hline⟩ := placeIn_eq_some_iff.mp hplace
    refine ⟨htext, hpath.trans (Disk.path_of_source? hsource), ⟨source, hsource, hline⟩, before, behind, rfl,
      fun other hother => ?_⟩
    exact source?_bind_placeIn_eq_none_iff.mp (hbefore other hother)

/-- The first place is what the files give one after the other. -/
theorem findSome?_eq_some_iff {files : List Path} {location : Location} :
    files.findSome? (fun file => (disk.source? file).bind (placeIn symbol symbol.parts)) = some location ↔
      ∃ file, FirstPlace disk symbol files file location := by
  simp only [List.findSome?_eq_some_iff, firstPlace_iff]
  exact exists_comm

/-- There is a first place exactly if some file declares the symbol. -/
theorem exists_firstPlace_iff {files : List Path} :
    (∃ file location, FirstPlace disk symbol files file location) ↔
      ∃ path ∈ files, Declaring disk symbol.parts path := by
  constructor
  · rintro ⟨file, location, -, -, ⟨source, hsource, above, line, below, hlines, -, hline, -⟩, before, behind, rfl, -⟩
    exact ⟨file, by simp, source, hsource, line, by simp [hlines], hline⟩
  · rintro ⟨path, hpath, hdeclaring⟩
    cases hfound : files.findSome? fun file => (disk.source? file).bind (placeIn symbol symbol.parts) with
    | none =>
      have hnone := List.findSome?_eq_none_iff.mp hfound path hpath
      exact absurd hdeclaring (source?_bind_placeIn_eq_none_iff.mp hnone)
    | some location =>
      obtain ⟨file, hfirst⟩ := findSome?_eq_some_iff.mp hfound
      exact ⟨file, location, hfirst⟩

/-- A search without a file of its own takes the first place in what is delivered, since its own loads change nothing
for the files behind them. -/
theorem searchFiles_run (parts : SymbolParts) (hown : symbol.file? = none) {files : List Path}
    (hfiles : ∀ file ∈ files, ∃ names, disk.locate file = .ok names) (history : List Path) (journal : List Record) :
    (searchFiles disk symbol parts files ⟨after (history.map (Load.mk disk)), journal⟩).1
      = .ok (files.findSome? fun file => (delivered disk history file).bind (placeIn symbol parts)) := by
  induction files generalizing history journal with
  | nil => rfl
  | cons file files ih =>
    obtain ⟨names, hfile⟩ := hfiles file List.mem_cons_self
    have hrest := ih fun other hother => hfiles other (List.mem_cons_of_mem file hother)
    have hsame : (files.findSome? fun other => (delivered disk (history ++ [file]) other).bind (placeIn symbol parts))
        = files.findSome? fun other => (delivered disk history other).bind (placeIn symbol parts) := by
      rw [← List.head?_filterMap, ← List.head?_filterMap]
      refine congrArg List.head? (List.filterMap_congr fun other hother => ?_)
      obtain ⟨others, hother'⟩ := hfiles other (List.mem_cons_of_mem file hother)
      rw [delivered_concat hfile hother']
    obtain ⟨journal', hload⟩ := load_after disk history file journal
    have hdelivered : delivered disk history file = (answer (history.map (Load.mk disk)) ⟨disk, file⟩).toOption := rfl
    rw [List.findSome?_cons, hdelivered]
    simp only [searchFiles, bind, StateT.bind, hload]
    cases answer (history.map (Load.mk disk)) ⟨disk, file⟩ with
    | error error =>
      simp only [Except.toOption, Option.bind_none, hown, Option.isSome_none, Bool.false_eq_true, if_false]
      rw [← hsame]
      exact hrest _ _
    | ok source =>
      simp only [Except.toOption, Option.bind_some, placeIn]
      cases Go.findFunction source.lines parts.receiver? parts.name with
      | some index => rfl
      | none =>
        simp only [Option.map_none]
        rw [← hsame]
        exact hrest _ _

/-- Without a file of its own a symbol is found where the files of its package give a place. -/
theorem locate_package_iff (hname : symbol.parts.name ≠ []) (hown : symbol.file? = none) {files : List Path}
    (hlead : ∀ file ∈ files, ∃ names, disk.locate file = .ok names)
    (hfiles : packages.files disk (String.ofList symbol.parts.package) = .ok files ∨
      (∃ error, packages.files disk (String.ofList symbol.parts.package) = .error error) ∧ files = [])
    (history : List Path) (journal : List Record) (location : Location) :
    (locate disk packages symbol ⟨after (history.map (Load.mk disk)), journal⟩).1 = .ok location ↔
      files.findSome? (fun file => (delivered disk history file).bind (placeIn symbol symbol.parts))
        = some location := by
  have hnonempty : symbol.parts.name.isEmpty = false := by simpa using hname
  simp only [locate, candidates, hnonempty, hown, Bool.false_eq_true, if_false]
  rcases hfiles with hfiles | ⟨⟨error, herror⟩, rfl⟩
  · have hrun := searchFiles_run symbol.parts hown hlead history journal
    simp only [hfiles, bind, StateT.bind]
    rcases hsearch : searchFiles disk symbol symbol.parts files ⟨after (history.map (Load.mk disk)), journal⟩
      with ⟨found, next⟩
    rw [hsearch] at hrun
    obtain rfl : found = _ := hrun
    cases files.findSome? fun file => (delivered disk history file).bind (placeIn symbol symbol.parts) with
    | none => exact ⟨nofun, nofun⟩
    | some place => exact ⟨fun h => congrArg some (Except.ok.inj h), fun h => congrArg Except.ok (Option.some.inj h)⟩
  · simp only [herror]
    exact ⟨nofun, nofun⟩

/-- With a file of its own a symbol is found where this file gives a place. -/
theorem locate_own (hname : symbol.parts.name ≠ []) {file : Path} (hown : symbol.file? = some file)
    (history : List Path) (journal : List Record) :
    (locate disk packages symbol ⟨after (history.map (Load.mk disk)), journal⟩).1
      = (answer (history.map (Load.mk disk)) ⟨disk, file⟩).bind fun source =>
          (placeIn symbol symbol.parts source).elim
            (.error (.locator symbol.text (missingText (String.ofList symbol.parts.name) 1))) .ok := by
  have hnonempty : symbol.parts.name.isEmpty = false := by simpa using hname
  obtain ⟨journal', hload⟩ := load_after disk history file journal
  simp only [locate, candidates, hnonempty, hown, Bool.false_eq_true, if_false, searchFiles, bind, StateT.bind, hload]
  cases answer (history.map (Load.mk disk)) ⟨disk, file⟩ with
  | error error => rfl
  | ok source =>
    simp only [Except.bind, placeIn]
    cases Go.findFunction source.lines symbol.parts.receiver? symbol.parts.name <;> rfl

/-! ## Right places -/

theorem source?_of_delivered {history : List Path} {path : Path} {source : SourceFile}
    (h : delivered disk history path = some source) : disk.source? source.path = some source := by
  rcases exists_first? disk history path with hnone | ⟨first, -, hfirst⟩
  · rw [delivered_of_new hnone] at h
    exact Disk.source?_path h
  · rw [delivered_of_first? hfirst] at h
    exact Disk.source?_path h

/-- A scan behind the line of a place reads the name of the symbol there. -/
theorem name?_scanHandler {source : SourceFile} {location : Location}
    (h : placeIn symbol parts source = some location) :
    (Go.scanHandler source.lines location.line).name? = some (String.ofList parts.name) := by
  obtain ⟨-, -, before, line, behind, hlines, hnumber, hline, -⟩ := placeIn_eq_some_iff.mp h
  have hhere : source.lines[before.length]? = some line := by simp [hlines]
  simp only [Go.scanHandler, hnumber, hhere, Option.bind_some, hline.functionName?, Option.map_some]

/-- Files that lead somewhere give the first place exactly if the file it is in is not confused with another. -/
theorem delivered_places_iff {files : List Path} (hlead : ∀ file ∈ files, ∃ names, disk.locate file = .ok names)
    (history : List Path) :
    (∀ location, files.findSome? (fun file => (delivered disk history file).bind (placeIn symbol symbol.parts))
        = some location ↔ ∃ file, FirstPlace disk symbol files file location) ↔
      ∀ file location, FirstPlace disk symbol files file location → ¬ Confused disk history file := by
  constructor
  · intro hright file location hplace hconfused
    obtain ⟨other, hother, hfound⟩ := List.exists_of_findSome?_eq_some ((hright location).mpr ⟨file, hplace⟩)
    obtain ⟨source, hdelivered, hin⟩ := Option.bind_eq_some_iff.mp hfound
    obtain ⟨names, hl⟩ := hlead other hother
    have hclear : ¬ Confused disk history other := fun hno => by
      rw [delivered_of_confused hl hno] at hdelivered
      cases hdelivered
    -- the other file is the same one, so it is confused as well
    rw [(delivered_eq_source?_iff disk history other).mpr hclear] at hdelivered
    have hpath : disk.canonicalOrSelf other = disk.canonicalOrSelf file := by
      rw [← Disk.path_of_source? hdelivered, ← hplace.path, (placeIn_eq_some_iff.mp hin).2.1]
    have hname : (Load.mk disk other).name = (Load.mk disk file).name := congrArg Path.components hpath
    obtain ⟨before, behind, hfiles, -⟩ := hplace.first
    obtain ⟨names', hl'⟩ := hlead file (by simp [hfiles])
    obtain ⟨first, hfirst, -⟩ := id hconfused
    have hnone := delivered_of_confused hl' hconfused
    rw [delivered_of_first? hfirst] at hnone
    rw [← (delivered_eq_source?_iff disk history other).mpr hclear, delivered_of_first? (hname ▸ hfirst), hnone]
      at hdelivered
    cases hdelivered
  · intro hclear location
    rw [← findSome?_eq_some_iff]
    -- a file that gives no place gives none when it is delivered
    have hnone : ∀ file ∈ files, (disk.source? file).bind (placeIn symbol symbol.parts) = none →
        (delivered disk history file).bind (placeIn symbol symbol.parts) = none := by
      intro file hfile hempty
      obtain ⟨names, hl⟩ := hlead file hfile
      by_cases hconfused : Confused disk history file
      · rw [delivered_of_confused hl hconfused, Option.bind_none]
      · rwa [(delivered_eq_source?_iff disk history file).mpr hconfused]
    cases hfound : files.findSome? fun file => (disk.source? file).bind (placeIn symbol symbol.parts) with
    | none =>
      have hfound' := List.findSome?_eq_none_iff.mp hfound
      rw [List.findSome?_eq_none_iff.mpr fun file hfile => hnone file hfile (hfound' file hfile)]
    | some place =>
      obtain ⟨before, file, behind, hfiles, hplace, hbefore⟩ := List.findSome?_eq_some_iff.mp hfound
      have hfirst := firstPlace_iff.mpr ⟨before, behind, hfiles, hplace, hbefore⟩
      have hdelivered := (delivered_eq_source?_iff disk history file).mpr (hclear file place hfirst)
      rw [List.findSome?_eq_some_iff.mpr ⟨before, file, behind, hfiles, by rw [hdelivered, hplace], fun other hother =>
        hnone other (by simp [hfiles, hother]) (hbefore other hother)⟩]

/-- The file that a symbol names gives its place, or the failure to load it, exactly if it is not confused with
another. -/
theorem own_right_iff (hname : symbol.parts.name ≠ []) {file : Path} (hown : symbol.file? = some file)
    (history : List Path) (journal : List Record) :
    (∀ location, (locate disk packages symbol ⟨after (history.map (Load.mk disk)), journal⟩).1 = .ok location ↔
        ∃ path, FirstPlace disk symbol [file] path location) ∧
      ((∃ path cause, (locate disk packages symbol ⟨after (history.map (Load.mk disk)), journal⟩).1
        = .error (.sourceIo path cause)) ↔ disk.source? file = none) ↔
    ¬ Confused disk history file := by
  rw [locate_own hname hown, not_confused_iff]
  have htells := tells_answer (history.map (Load.mk disk)) ⟨disk, file⟩
  -- the failure to load the file is handed on, and no other error is one of loading
  have hfailed : (∃ path cause, ((answer (history.map (Load.mk disk)) ⟨disk, file⟩).bind fun source =>
      (placeIn symbol symbol.parts source).elim
        (.error (.locator symbol.text (missingText (String.ofList symbol.parts.name) 1))) .ok)
          = Except.error (.sourceIo path cause)) ↔ delivered disk history file = none := by
    rw [delivered]
    cases hfound : (origin (history.map (Load.mk disk)) ⟨disk, file⟩).found with
    | ok source =>
      rw [hfound] at htells
      have hanswer : answer (history.map (Load.mk disk)) ⟨disk, file⟩ = .ok source := htells
      rw [hanswer]
      refine iff_of_false ?_ fun hnone => by cases hnone
      rintro ⟨path, cause, herror⟩
      simp only [Except.bind] at herror
      cases hplace : placeIn symbol symbol.parts source with
      | none => rw [hplace] at herror; cases herror
      | some place => rw [hplace] at herror; cases herror
    | error why =>
      rw [hfound] at htells
      obtain ⟨cause, -, hanswer⟩ := htells
      rw [hanswer]
      exact iff_of_true ⟨_, cause, rfl⟩ rfl
  rw [hfailed]
  refine and_iff_right_of_imp fun hsame location => ?_
  rw [← findSome?_eq_some_iff, List.findSome?_singleton,
    ← (delivered_eq_source?_iff disk history file).mpr ((not_confused_iff disk history file).mpr hsame), delivered]
  cases answer (history.map (Load.mk disk)) ⟨disk, file⟩ with
  | error error => exact iff_of_false (fun h => by cases h) fun h => by cases h
  | ok source =>
    simp only [Except.bind, Except.toOption, Option.bind_some]
    cases placeIn symbol symbol.parts source with
    | none => exact iff_of_false (fun h => by cases h) fun h => by cases h
    | some place => exact ⟨fun h => congrArg some (Except.ok.inj h), fun h => congrArg Except.ok (Option.some.inj h)⟩

/-- A place that is found comes from a file that is delivered. -/
theorem placeIn_of_locate (hname : symbol.parts.name ≠ []) {history : List Path} {journal : List Record}
    {location : Location}
    (h : (locate disk packages symbol ⟨after (history.map (Load.mk disk)), journal⟩).1 = .ok location) :
    ∃ file source, delivered disk history file = some source ∧ placeIn symbol symbol.parts source = some location := by
  cases hown : symbol.file? with
  | none =>
    obtain ⟨files, -, -, hlead, hfiles⟩ := packages.exists_sources disk (String.ofList symbol.parts.package)
    rw [locate_package_iff hname hown hlead hfiles] at h
    obtain ⟨file, -, hfound⟩ := List.exists_of_findSome?_eq_some h
    obtain ⟨source, hsource, hplace⟩ := Option.bind_eq_some_iff.mp hfound
    exact ⟨file, source, hsource, hplace⟩
  | some file =>
    rw [locate_own hname hown] at h
    refine ⟨file, ?_⟩
    rw [delivered]
    cases hanswer : answer (history.map (Load.mk disk)) ⟨disk, file⟩ with
    | error error => rw [hanswer] at h; cases h
    | ok source =>
      refine ⟨source, rfl, ?_⟩
      simp only [hanswer, Except.bind] at h
      cases hplace : placeIn symbol symbol.parts source with
      | none => rw [hplace] at h; cases h
      | some place =>
        rw [hplace] at h
        exact congrArg some (Except.ok.inj h)

/-- On a disk that does not change, after any loads: a symbol without a file of its own is found at its first place in
the sorted files of its package, if there is one, exactly if the file of that place is not confused with a path
loaded before. A symbol with a file of its own is found at its first place there, and fails to be loaded if the file
does, exactly if this file is not confused. Wherever a symbol is found, a scan from there reads its name. Paths that
end with a name are never confused. -/
theorem locate_right_iff (disk : Disk) (packages : Packages) (history : List Path) (journal : List Record)
    (symbol : Symbol) (hname : symbol.parts.name ≠ []) :
    let answer := (locate disk packages symbol ⟨after (history.map (Load.mk disk)), journal⟩).1
    (symbol.file? = none → ∃ files, files.Pairwise (fun a b => a.le b = true) ∧
      (∀ path, path ∈ files ↔ packages.HasSource disk (String.ofList symbol.parts.package) path) ∧
      ((∃ file location, FirstPlace disk symbol files file location) ↔
        ∃ path ∈ files, Declaring disk symbol.parts path) ∧
      ((∀ location, answer = .ok location ↔ ∃ file, FirstPlace disk symbol files file location) ↔
        ∀ file location, FirstPlace disk symbol files file location → ¬ Confused disk history file)) ∧
    (∀ file, symbol.file? = some file →
      ((∀ location, answer = .ok location ↔ ∃ path, FirstPlace disk symbol [file] path location) ∧
        ((∃ path cause, answer = .error (.sourceIo path cause)) ↔ disk.source? file = none) ↔
      ¬ Confused disk history file)) ∧
    (∀ location, answer = .ok location → ∃ source, disk.source? location.file = some source ∧
      (Go.scanHandler source.lines location.line).name? = some (String.ofList symbol.parts.name)) ∧
    ∀ file, (∀ path ∈ file :: history, ∃ piece, path.pieces.getLast? = some piece ∧ Path.IsName piece) →
      ¬ Confused disk history file := by
  refine ⟨fun hown => ?_, fun file hown => own_right_iff hname hown history journal, fun location hfound => ?_,
    fun file => not_confused_of_last_names⟩
  · obtain ⟨files, hsorted, hmem, hlead, hfiles⟩ := packages.exists_sources disk (String.ofList symbol.parts.package)
    refine ⟨files, hsorted, hmem, exists_firstPlace_iff, ?_⟩
    simp only [locate_package_iff hname hown hlead hfiles]
    exact delivered_places_iff hlead history
  · obtain ⟨file, source, hsource, hplace⟩ := placeIn_of_locate hname hfound
    refine ⟨source, ?_, name?_scanHandler hplace⟩
    rw [(placeIn_eq_some_iff.mp hplace).2.1]
    exact source?_of_delivered hsource

/-- A package with one file that declares one function. -/
def placedDisk : Disk :=
  ⟨.folder [("p", .folder [("h", .folder [("f.go", .file "package h\n\nfunc F() \x7b\n\x7d\n".toUTF8)])])], []⟩

/-- The function is found in the file, from the package and by the name of the file. Once the file has been asked for
with a slash behind its name, it counts as failed, though it can be loaded. -/
theorem locate_right_iff_slashed :
    let file : Path := ⟨["", "p", "h", "f.go"]⟩
    let slashed : Path := ⟨["", "p", "h", "f.go", ""]⟩
    let packages : Packages := [.sourceRoot ⟨["", "p"]⟩]
    let symbol : Symbol := ⟨"h.F", none⟩
    let own : Symbol := ⟨"h.F", some file⟩
    let fresh : Session := ⟨after ([].map (Load.mk placedDisk)), []⟩
    let spoiled : Session := ⟨after ([slashed].map (Load.mk placedDisk)), []⟩
    (symbol.parts.name ≠ [] ∧ (locate placedDisk packages symbol fresh).1 = .ok ⟨"h.F", file, 3⟩ ∧
      ∃ files path, FirstPlace placedDisk symbol files path ⟨"h.F", file, 3⟩) ∧
    (own.parts.name ≠ [] ∧ Confused placedDisk [slashed] file ∧ (∃ source, placedDisk.source? file = some source) ∧
      ¬ ((∀ location, (locate placedDisk packages own spoiled).1 = .ok location ↔
          ∃ path, FirstPlace placedDisk own [file] path location) ∧
        ((∃ path cause, (locate placedDisk packages own spoiled).1 = .error (.sourceIo path cause)) ↔
          placedDisk.source? file = none))) := by
  intro file slashed packages symbol own fresh spoiled
  have hsource : placedDisk.source? file
      = some ⟨file, ["package h".toList, [], "func F() \x7b".toList, "\x7d".toList]⟩ := by decide +kernel
  constructor
  · have hfound : (locate placedDisk packages symbol fresh).1 = .ok ⟨"h.F", file, 3⟩ := by decide +kernel
    obtain ⟨hpackage, -, -⟩ := locate_right_iff placedDisk packages [] [] symbol (by decide)
    obtain ⟨files, -, -, -, hright⟩ := hpackage rfl
    have hclear : ∀ path location, FirstPlace placedDisk symbol files path location → ¬ Confused placedDisk [] path := by
      rintro path location - ⟨first, hfirst, -⟩
      cases hfirst
    obtain ⟨path, hplace⟩ := (hright.mpr hclear ⟨"h.F", file, 3⟩).mp hfound
    exact ⟨by decide, hfound, files, path, hplace⟩
  · obtain ⟨-, hown, -⟩ := locate_right_iff placedDisk packages [slashed] [] own (by decide)
    have hconfused : Confused placedDisk [slashed] file := by
      refine ⟨slashed, ?_, .inl ⟨⟨.notFolder, by decide +kernel⟩, ⟨_, hsource⟩, by decide +kernel⟩⟩
      have hname : (Load.mk placedDisk slashed).name = (Load.mk placedDisk file).name := by decide +kernel
      simp [first?, hname]
    exact ⟨by decide, hconfused, ⟨_, hsource⟩, fun hright => (hown file rfl).mp hright hconfused⟩

end Handler

end RouteDoc
