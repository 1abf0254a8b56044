import RouteDoc.Proofs.ImportPaths
import RouteDoc.Proofs.RouteSources

/-!
The folder in which the types of a handler are looked up. It should be the folder of the handler's file. It is
found by a detour instead: the folder gives the package an import path, the symbol of the handler is spelled with
it, and the path that is cut off the symbol is looked up again. The detour ends where it began if the import path
leads back to the folder and no dot stands in its last segment (`Housed.typeFolder_of_leadsBack`). That is so for
the packages of a module, and below a root that belongs to no module (`leadsBack_module`, `leadsBack_sourceRoot`).

It is not so at such a root itself. A package there has no import path, and goes by the name in its clause; the
name is looked up as if it were a path, and a folder that bears it is taken for the package (`typeFolder_eq_iff`).
-/

namespace RouteDoc

open RouteDoc.Types RouteDoc.Text

/-! ## Names of the tree -/

namespace Node

/-- Every entry at or below the node has a proper name: one that is not empty and has no slash. -/
def Proper (node : Node) : Prop :=
  node.AllNames fun name _ => name ≠ "" ∧ '/' ∉ name.toList

theorem Proper.named {node : Node} (h : node.Proper) : node.Named :=
  h.imp fun _ _ hname => hname.1

theorem Proper.slash_not_mem {node child : Node} {names : List String} (h : node.Proper)
    (hat : node.at? names = some child) : ∀ name ∈ names, '/' ∉ name.toList := by
  intro name hname
  obtain ⟨-, -, hslash⟩ := (h.of_at? hat).1 name hname
  exact hslash

end Node

/-! ## Files below a root -/

namespace Disk

variable {disk : Disk}

theorem Located.isSegment {names : List String} (h : disk.Located names) (hproper : disk.tree.Proper) :
    ∀ name ∈ names, Path.IsSegment name := by
  intro name hname
  obtain ⟨node, hat⟩ := h.there
  exact ⟨h.isName name hname, hproper.slash_not_mem hat name hname⟩

theorem Located.of_append {names rest : List String} (h : disk.Located (names ++ rest)) : disk.Located names := by
  refine ⟨fun name hname => h.isName name (List.mem_append_left rest hname), ?_, h.root⟩
  obtain ⟨node, hat⟩ := h.there
  rw [Node.at?_append] at hat
  obtain ⟨child, hchild, -⟩ := Option.bind_eq_some_iff.mp hat
  exact ⟨child, hchild⟩

theorem isFolder_ofNames {names : List String} {entries : List (String × Node)} (h : disk.Located names)
    (hat : disk.tree.at? names = some (.folder entries)) : disk.isFolder (Path.ofNames names) = true := by
  simp [isFolder, node, locate_ofNames h, hat]

theorem folder_of_at?_concat {names : List String} {name : String} {node : Node}
    (h : disk.tree.at? (names ++ [name]) = some node) :
    ∃ entries, disk.tree.at? names = some (.folder entries) := by
  rw [Node.at?_append] at h
  obtain ⟨child, hchild, hname⟩ := Option.bind_eq_some_iff.mp h
  cases child with
  | file bytes => cases hname
  | folder entries => exact ⟨entries, hchild⟩

/-- A step other than to the folder above goes down or stays. -/
theorem prefix_of_step {names next : List String} {piece : String} (hup : piece ≠ "..")
    (h : disk.step names piece = .ok next) : names <+: next := by
  unfold step at h
  split at h
  · cases h
  · cases h
  · split at h
    · rw [← Except.ok.inj h]
    · split at h
      · rw [← Except.ok.inj h]
        exact List.prefix_append names [piece]
      · cases h

theorem eq_concat_of_step {names next : List String} {piece : String} (hname : Path.IsName piece)
    (h : disk.step names piece = .ok next) : next = names ++ [piece] := by
  obtain ⟨hempty, hdot, hup⟩ := hname
  unfold step at h
  simp only [hempty, hdot, hup, decide_false, Bool.or_self, Bool.false_eq_true, if_false] at h
  split at h
  · cases h
  · cases h
  · split at h
    · exact (Except.ok.inj h).symm
    · cases h

theorem locate_of_locate_entry {p : Path} {name : String} {names : List String} (hempty : p.isEmpty = false)
    (h : disk.locate (p.entry name) = .ok names) :
    ∃ above, disk.locate p = .ok above ∧ disk.step above name = .ok names := by
  have hne : p.pieces ≠ [] := by
    intro hnil
    simp [Path.isEmpty, hnil] at hempty
  have hstep : ∀ init, disk.walk [] (disk.startOf init ++ [name]) = .ok names →
      ∃ above, disk.walk [] (disk.startOf init) = .ok above ∧ disk.step above name = .ok names := by
    intro init hwalk
    cases hinit : disk.walk [] (disk.startOf init) with
    | error fault => rw [walk_append, hinit] at hwalk; cases hwalk
    | ok above =>
      rw [walk_concat name hinit] at hwalk
      exact ⟨above, rfl, hwalk⟩
  rw [locate_eq_walk hempty]
  rcases pieces_entry name hempty with ⟨-, hpieces⟩ | ⟨init, hinit, hpieces⟩
  · rw [locate_eq_walk (isEmpty_of_concat hne hpieces), hpieces, startOf_concat name hne] at h
    exact hstep p.pieces h
  · have hinit' : init ≠ [] := by
      rintro rfl
      simp [Path.isEmpty, hinit] at hempty
    rw [locate_eq_walk (isEmpty_of_concat hinit' hpieces), hpieces, startOf_concat name hinit'] at h
    obtain ⟨above, hwalk, hname⟩ := hstep init h
    obtain ⟨entries, hat, -⟩ := step_cases hname
    refine ⟨above, ?_, hname⟩
    rw [hinit, startOf_concat "" hinit', walk_concat "" hwalk, step_idle hat]

theorem isEmpty_of_locate {p : Path} {names : List String} (h : disk.locate p = .ok names) : p.isEmpty = false := by
  cases hempty : p.isEmpty with
  | true => simp [locate, hempty] at h
  | false => rfl

end Disk

theorem Path.isEmpty_entry {p : Path} (h : p.isEmpty = false) (name : String) : (p.entry name).isEmpty = false := by
  rcases Disk.pieces_entry name h with ⟨-, hpieces⟩ | ⟨init, hinit, hpieces⟩
  · refine Disk.isEmpty_of_concat ?_ hpieces
    intro hnil
    simp [Path.isEmpty, hnil] at h
  · refine Disk.isEmpty_of_concat ?_ hpieces
    rintro rfl
    simp [Path.isEmpty, hinit] at h

namespace Project

variable {disk : Disk} {path : Path} {names : List String}

mutual

/-- A file that is listed at or below a node lies at or below the place of the node. -/
theorem below_filesAt {p : Path} (node : Node) (hempty : p.isEmpty = false) (hpath : path ∈ filesAt p node)
    (hl : disk.locate path = .ok names) : ∃ above, disk.locate p = .ok above ∧ above <+: names := by
  cases node with
  | file bytes =>
    simp only [filesAt] at hpath
    split at hpath
    · rw [← List.mem_singleton.mp hpath]
      exact ⟨names, hl, List.prefix_rfl⟩
    · cases hpath
  | folder entries => exact below_filesBelow entries hempty hpath hl

theorem below_filesBelow {p : Path} (entries : List (String × Node)) (hempty : p.isEmpty = false)
    (hpath : path ∈ filesBelow p entries) (hl : disk.locate path = .ok names) :
    ∃ above, disk.locate p = .ok above ∧ above <+: names := by
  match entries with
  | [] => cases hpath
  | (name, node) :: rest =>
    simp only [filesBelow] at hpath
    rcases List.mem_append.mp hpath with hpath | hpath
    · split at hpath
      · cases hpath
      · rename_i hkept
        have hup : name ≠ ".." := by
          rintro rfl
          simp [isIgnored] at hkept
        obtain ⟨next, hnext, hbelow⟩ := below_filesAt node (Path.isEmpty_entry hempty name) hpath hl
        obtain ⟨above, habove, hstep⟩ := Disk.locate_of_locate_entry hempty hnext
        exact ⟨above, habove, (Disk.prefix_of_step hup hstep).trans hbelow⟩
    · exact below_filesBelow rest hempty hpath hl

end

theorem below_files {root : Path} {files : List Path} {rootNames : List String}
    (hroot : disk.locate root = .ok rootNames) (h : Project.files disk root = .ok files) (hpath : path ∈ files)
    (hl : disk.locate path = .ok names) : rootNames <+: names := by
  unfold Project.files at h
  split at h
  · rename_i node hnode
    rw [← Except.ok.inj h, sortPaths] at hpath
    obtain ⟨above, habove, hbelow⟩ :=
      below_filesAt node (Disk.isEmpty_of_locate hroot) (List.mem_mergeSort.mp hpath) hl
    rw [hroot] at habove
    rw [Except.ok.inj habove]
    exact hbelow
  · cases h

end Project

/-- A module is found at or above the place where it is sought. -/
theorem Locator.eq_module_of_discover {disk : Disk} {start : Path} {names : List String} {locator : Locator}
    (hstart : disk.locate start = .ok names) (h : discover disk start = some locator) :
    ∃ modulePath above, locator = .module modulePath (Path.ofNames above) ∧ above <+: names := by
  obtain ⟨folder, hfolder, h⟩ := Option.bind_eq_some_iff.mp h
  obtain ⟨content, -, h⟩ := Option.bind_eq_some_iff.mp h
  obtain ⟨modulePath, -, h⟩ := Option.bind_eq_some_iff.mp h
  have hmem := List.mem_of_find?_eq_some hfolder
  rw [Disk.canonicalOrSelf_of_locate hstart] at hmem
  obtain ⟨above, habove, rfl⟩ :=
    Path.ancestorsUpTo_ofNames _ (Disk.located_of_locate hstart).isName folder hmem
  exact ⟨String.ofList modulePath, above, (Option.some.inj h).symm, habove⟩

/-! ## Handlers at home -/

theorem Handler.file_of_locate {disk : Disk} {packages : Packages} {symbol : Symbol} {file : Path}
    {location : Location} {t : Session} (ht : t.cache.Agrees disk) (hsure : disk.Unmistaken file)
    (hfile : symbol.file? = some file) (h : (locate disk packages symbol t).1 = .ok location) :
    location.symbol = symbol.text ∧ ∃ source, disk.source? file = some source ∧ location.file = source.path := by
  have hown : ∀ other, symbol.file? = some other → disk.Unmistaken other := by
    intro other hother
    rw [hfile] at hother
    rwa [← Option.some.inj hother]
  have hplace : plainPlace disk packages symbol = some location := by
    rw [← ((locate_steady hown).first.run t ht).1, h]
    rfl
  unfold plainPlace at hplace
  split at hplace
  · cases hplace
  · simp only [candidates, hfile, plainSearch, Option.isSome_some, if_true] at hplace
    cases hsource : disk.source? file with
    | none => simp [hsource] at hplace
    | some source =>
      simp only [hsource] at hplace
      split at hplace
      · obtain rfl := Option.some.inj hplace
        exact ⟨rfl, source, rfl, rfl⟩
      · cases hplace

namespace Routes

variable {disk : Disk} {packages : Packages}

theorem names_of_package {folder names : List String} {base : String} {path : Path}
    {entries : List (String × Node)} {bytes : ByteArray} (hlocated : disk.Located (folder ++ [base]))
    (hfolder : disk.tree.at? folder = some (.folder entries))
    (hpath : path ∈ Path.ofNames (folder ++ [base]) :: siblings disk (Path.ofNames (folder ++ [base])))
    (hl : disk.locate path = .ok names) (hat : disk.tree.at? names = some (.file bytes)) :
    ∃ name, names = folder ++ [name] := by
  rcases List.mem_cons.mp hpath with rfl | hpath
  · rw [Disk.locate_ofNames hlocated] at hl
    exact ⟨base, (Except.ok.inj hl).symm⟩
  · rw [siblings, Path.parent?_ofNames hlocated.isName] at hpath
    dsimp only [Option.map_some] at hpath
    split at hpath
    · rename_i files hfiles
      obtain ⟨names', entries', hl', -, hlisted⟩ := entries_of_packageFiles (Option.some.inj hfiles)
      obtain ⟨name, node, -, rfl⟩ := hlisted path (List.mem_filter.mp hpath).1
      rw [Disk.locate_entry name (Disk.locate_ofNames hlocated.of_append)] at hl
      obtain ⟨-, -, rfl | rfl | ⟨-, -, rfl⟩⟩ := Disk.step_cases hl
      · rw [hfolder] at hat
        cases hat
      · -- what lies above a folder is one
        rcases List.eq_nil_or_concat' folder with rfl | ⟨init, last, rfl⟩
        · rw [List.dropLast_nil, hfolder] at hat
          cases hat
        · obtain ⟨above, habove⟩ := Disk.folder_of_at?_append hfolder
          rw [List.dropLast_concat, habove] at hat
          cases hat
      · exact ⟨name, rfl⟩
    · cases hpath

/-- A handler at home: its file lies in the folder that `rest` leads to from the root at `names`, and its symbol
is spelled with the import path that a file of the folder has. -/
structure Housed (disk : Disk) (packages : Packages) (names rest : List String) (location : Location) : Prop where
  located : disk.Located (names ++ rest)
  isFolder : disk.isFolder (Path.ofNames (names ++ rest)) = true
  parent : location.file.parent? = some (Path.ofNames (names ++ rest))
  spelled : ∃ source tail, OnDisk disk source ∧ source.path.parent? = some (Path.ofNames (names ++ rest)) ∧
    '/' ∉ tail ∧ location.symbol.toList = (FileContext.of disk packages source).package.toList ++ '.' :: tail

theorem housed_of_muxTable {root file : Path} {s t : Session} {entries : List RouteEntry} {entry : RouteEntry}
    {symbol : Symbol} {location : Location} (hproper : disk.tree.Proper) (hs : s.cache.Agrees disk)
    (ht : t.cache.Agrees disk) (htable : (muxTable disk packages root s).1 = .ok entries) (hentry : entry ∈ entries)
    (hsymbol : symbol ∈ entry.handler.symbols) (hfile : symbol.file? = some file)
    (hlocation : (Handler.locate disk packages symbol t).1 = .ok location) :
    location.file = disk.canonicalOrSelf file ∧
      ∃ names rest, disk.locate root = .ok names ∧ Housed disk packages names rest location := by
  -- the registration stands in a file of the project, and the handler in the package of that file
  obtain ⟨answer, hsteady, hlisted⟩ := muxTable_settles packages root hproper.named
  have hanswer : (muxTable disk packages root s).1 = answer := (hsteady.first.run s hs).1
  rw [htable] at hanswer
  obtain ⟨hroot, files, hfiles, hhome⟩ := hlisted entries hanswer.symm
  obtain ⟨path, hpath, source, hsource, hathome⟩ := hhome entry hentry symbol hsymbol
  obtain ⟨hpackage, tail, htail, htext⟩ := hathome file hfile
  have hsure : disk.Unmistaken file := hathome.sure ⟨path, hsource⟩ file hfile
  obtain ⟨hspelled, target, htarget, hplace⟩ := Handler.file_of_locate ht hsure hfile hlocation
  obtain ⟨sourceNames, bytes, text, hl, hat, -, hsourceEq⟩ := bytes_of_source? hsource
  obtain ⟨targetNames, bytes', text', hl', hat', -, htargetEq⟩ := bytes_of_source? htarget
  have hsourcePath : source.path = Path.ofNames sourceNames := by rw [hsourceEq]
  have htargetPath : location.file = Path.ofNames targetNames := by rw [hplace, htargetEq]
  refine ⟨htargetPath.trans (Disk.canonicalOrSelf_of_locate hl').symm, ?_⟩
  -- it lies below the root, which is a folder
  obtain ⟨names, entries', hnames, hfolder⟩ := Disk.folder_of_isFolder hroot
  obtain ⟨below, rfl⟩ := Project.below_files hnames hfiles hpath hl
  rcases List.eq_nil_or_concat' below with rfl | ⟨rest, base, rfl⟩
  · rw [List.append_nil, hfolder] at hat
    cases hat
  rw [← List.append_assoc] at hl hat hsourcePath
  have hlocated := Disk.located_of_locate hl
  obtain ⟨inner, hinner⟩ := Disk.folder_of_at?_concat hat
  obtain ⟨name, rfl⟩ := names_of_package hlocated hinner (hsourcePath ▸ hpackage) hl' hat'
  refine ⟨names, rest, hnames, hlocated.of_append, Disk.isFolder_ofNames hlocated.of_append hinner, ?_, ?_⟩
  · rw [htargetPath]
    exact Path.parent?_ofNames (Disk.located_of_locate hl').isName
  · refine ⟨source, tail, ⟨path, hsource⟩, ?_, htail, hspelled ▸ htext⟩
    rw [hsourcePath]
    exact Path.parent?_ofNames hlocated.isName

/-! ## Where types are looked up -/

/-- The folder in which the types of a handler are looked up, as it lies on the disk. -/
def typeFolder (disk : Disk) (packages : Packages) (location : Location) : Path :=
  disk.canonicalOrSelf (packageFolder disk packages location.package location.file)

/-- No dot stands in the last segment of the folder's import path, if it has one. -/
def Dotless (disk : Disk) (packages : Packages) (folder : Path) : Prop :=
  ∀ path ∈ packages.importPath? disk folder, '.' ∉ Symbol.lastSegment path.toList

/-- The name that a package without an import path goes by: that in its clause. -/
def clauseName (lines : List (List Char)) : String :=
  ((lines.findSome? packageClause?).map String.ofList).getD "main"

theorem isSegment_of_isIdent {name : List Char} (h : Go.isIdent name = true) :
    Path.IsSegment (String.ofList name) ∧ '.' ∉ name := by
  have hword := isWord_of_isIdent h
  have hdot : '.' ∉ name := fun hmem => absurd (hword '.' hmem) (by decide +kernel)
  refine ⟨⟨⟨?_, ?_, ?_⟩, ?_⟩, hdot⟩
  · simpa using Go.isIdent_ne_nil h
  · intro heq
    have hname : name = ['.'] := by simpa using congrArg String.toList heq
    exact hdot (by simp [hname])
  · intro heq
    have hname : name = ['.', '.'] := by simpa using congrArg String.toList heq
    exact hdot (by simp [hname])
  · simpa using Worded.slash_not_mem hword

/-- The name in a package clause is one segment without a dot, as an import path may be too. -/
theorem clauseName_spec (lines : List (List Char)) :
    Path.IsSegment (clauseName lines) ∧ '.' ∉ (clauseName lines).toList := by
  unfold clauseName
  cases hname : lines.findSome? packageClause? with
  | none => exact ⟨⟨⟨by decide, by decide, by decide⟩, by decide⟩, by decide⟩
  | some name =>
    obtain ⟨line, -, hline⟩ := List.exists_of_findSome?_eq_some hname
    obtain ⟨rest, -, hline⟩ := Option.bind_eq_some_iff.mp hline
    obtain ⟨behind, -, hline⟩ := Option.bind_eq_some_iff.mp hline
    obtain ⟨found, hfound, hline⟩ := Option.bind_eq_some_iff.mp hline
    obtain rfl := Option.some.inj hline
    simpa using isSegment_of_isIdent (Go.ident?_isIdent behind found hfound)

theorem package_of_spelled {location : Location} {path : String} {tail : List Char} (htail : '/' ∉ tail)
    (h : location.symbol.toList = path.toList ++ '.' :: tail)
    (hdot : '.' ∉ Symbol.lastSegment path.toList) : location.package = path := by
  obtain ⟨package, behind, hcut, hwhole, -⟩ := Symbol.cutPackage?_spec path.toList htail
  rw [Location.package, packagePath, h, hcut]
  dsimp only
  rw [hwhole.mpr hdot, String.ofList_toList]

namespace Housed

variable {names rest : List String} {location : Location}

/-- The package of a folder that has an import path goes by it. -/
theorem package_of_importPath (h : Housed disk packages names rest location) {path : String}
    (hpath : packages.importPath? disk (Path.ofNames (names ++ rest)) = some path)
    (hdot : '.' ∉ Symbol.lastSegment path.toList) : location.package = path := by
  obtain ⟨source, tail, -, hparent, htail, hspelled⟩ := h.spelled
  have hpackage : (FileContext.of disk packages source).package = path := by
    simp [FileContext.of, hparent, hpath]
  rw [hpackage] at hspelled
  exact package_of_spelled htail hspelled hdot

/-- The package of a folder without an import path goes by the name in the clause of a file. -/
theorem package_of_clause (h : Housed disk packages names rest location)
    (hnone : packages.importPath? disk (Path.ofNames (names ++ rest)) = none) :
    ∃ source, OnDisk disk source ∧ source.path.parent? = some (Path.ofNames (names ++ rest)) ∧
      location.package = clauseName source.lines := by
  obtain ⟨source, tail, hsource, hparent, htail, hspelled⟩ := h.spelled
  refine ⟨source, hsource, hparent, ?_⟩
  have hpackage : (FileContext.of disk packages source).package = clauseName source.lines := by
    simp only [FileContext.of, hparent, hnone, Option.bind_some, clauseName]
    cases source.lines.findSome? packageClause? <;> rfl
  rw [hpackage] at hspelled
  refine package_of_spelled htail hspelled fun hmem => ?_
  exact (clauseName_spec source.lines).2 ((List.rtakeWhile_suffix _ _).subset hmem)

theorem typeFolder_iff (h : Housed disk packages names rest location) :
    typeFolder disk packages location = Path.ofNames (names ++ rest) ↔
      ∀ found ∈ packages.folder? disk location.package,
        disk.canonicalOrSelf found = Path.ofNames (names ++ rest) := by
  unfold typeFolder packageFolder
  dsimp only
  cases packages.folder? disk location.package with
  | none =>
    rw [h.parent, Option.getD_some, Disk.canonicalOrSelf_of_locate (Disk.locate_ofNames h.located)]
    simp
  | some found => simp

theorem typeFolder_of_leadsBack (h : Housed disk packages names rest location)
    (hback : packages.LeadsBack disk (Path.ofNames (names ++ rest)))
    (hdot : Dotless disk packages (Path.ofNames (names ++ rest))) :
    typeFolder disk packages location = Path.ofNames (names ++ rest) := by
  obtain ⟨path, hpath, hfolder⟩ := hback
  rw [h.typeFolder_iff, h.package_of_importPath hpath (hdot path hpath)]
  intro found hfound
  obtain rfl := Option.some.inj (hfolder.symm.trans hfound)
  exact Disk.canonicalOrSelf_of_locate (Disk.locate_ofNames h.located)

/-- At a root that belongs to no module, the types of a handler are looked up in the root unless a folder bears
the name that the package goes by. -/
theorem typeFolder_at_root {locator : Locator}
    (h : Housed disk [.sourceRoot (Path.ofNames names), locator] names [] location)
    (hsegment : Path.IsSegment location.package) :
    typeFolder disk [.sourceRoot (Path.ofNames names), locator] location = Path.ofNames names ↔
      disk.isFolder ((Path.ofNames names).entry location.package) = false ∧
        ∀ found ∈ locator.packageFolder? disk location.package,
          disk.canonicalOrSelf found = Path.ofNames names := by
  have hlocated : disk.Located names := by simpa using h.located
  have hiff := h.typeFolder_iff
  rw [List.append_nil] at hiff
  have hjoin : joinImportPath (Path.ofNames names) location.package.toList
      = (Path.ofNames names).entry location.package := by
    have hone : ∀ name ∈ [location.package], Path.IsSegment name := by simpa using hsegment
    rw [Path.entry_ofNames hlocated.isName, ← joinImportPath_intercalate hlocated.isName hone]
    rfl
  rw [hiff, Packages.folder?, List.findSome?_cons, Locator.packageFolder?, hjoin]
  cases hfolder : disk.isFolder ((Path.ofNames names).entry location.package) with
  | false =>
    simp only [Bool.false_eq_true, if_false, true_and, List.findSome?_cons, List.findSome?_nil]
    cases locator.packageFolder? disk location.package <;> rfl
  | true =>
    simp only [if_true, Bool.true_eq_false, false_and, iff_false]
    intro hback
    -- the folder lies below the root, so it is not the root
    obtain ⟨below, -, hbelow, -⟩ := Disk.folder_of_isFolder hfolder
    have hstep := hbelow
    rw [Disk.locate_entry _ (Disk.locate_ofNames hlocated)] at hstep
    obtain rfl := Disk.eq_concat_of_step hsegment.1 hstep
    have hsame := hback _ rfl
    rw [Disk.canonicalOrSelf_of_locate hbelow] at hsame
    have hnames := Path.ofNames_inj (Disk.located_of_locate hbelow).isName hlocated.isName
      (congrArg Path.components hsame)
    simpa using congrArg List.length hnames

variable {env : Environment} {root : Path}

theorem typeFolder_of_module (h : Housed disk (.ofProject disk env root) names rest location)
    (hproper : disk.tree.Proper) (hnames : disk.locate root = .ok names) {modulePath : String} {moduleRoot : Path}
    (hmodule : Locator.discover disk root = some (.module modulePath moduleRoot))
    (hvendor : ∀ inner, (moduleRoot.entry "vendor").namesBelow? (Path.ofNames (names ++ rest)) = some inner →
      inner = [])
    (hdot : Dotless disk (.ofProject disk env root) (Path.ofNames (names ++ rest))) :
    typeFolder disk (.ofProject disk env root) location = Path.ofNames (names ++ rest) := by
  refine h.typeFolder_of_leadsBack ?_ hdot
  obtain ⟨otherPath, above, hsame, between, rfl⟩ := Locator.eq_module_of_discover hnames hmodule
  obtain ⟨rfl, rfl⟩ := Locator.module.inj hsame
  have hlocated := h.located
  have hfolder := h.isFolder
  have hsegments := h.located.isSegment hproper
  rw [List.append_assoc] at hlocated hfolder hsegments hvendor ⊢
  rw [Packages.ofProject, hmodule]
  refine Packages.leadsBack_module modulePath hlocated hlocated.of_append hfolder
    (fun name hname => hsegments name (List.mem_append_right above hname)) fun inner hinner => hvendor inner ?_
  rw [hinner, Path.entry_ofNames hlocated.of_append.isName]
  rw [hinner] at hlocated
  have hbelow : (Path.ofNames (above ++ ["vendor"])).namesBelow? (Path.ofNames (above ++ ["vendor"] ++ inner))
      = some inner := Path.namesBelow?_ofNames (by simpa using hlocated.isName)
  simpa using hbelow

theorem typeFolder_below_root (h : Housed disk (.ofProject disk env root) names rest location)
    (hproper : disk.tree.Proper) (hnames : disk.locate root = .ok names)
    (hmodule : Locator.discover disk root = none) (hroot : disk.canonicalOrSelf root = root)
    (hne : Path.ofNames (names ++ rest) ≠ root)
    (hdot : Dotless disk (.ofProject disk env root) (Path.ofNames (names ++ rest))) :
    typeFolder disk (.ofProject disk env root) location = Path.ofNames (names ++ rest) := by
  refine h.typeFolder_of_leadsBack ?_ hdot
  rw [Disk.canonicalOrSelf_of_locate hnames] at hroot
  rw [Packages.ofProject, hmodule, ← hroot]
  have hsegments := h.located.isSegment hproper
  refine Packages.leadsBack_sourceRoot h.located h.isFolder
    (fun name hname => hsegments name (List.mem_append_right names hname)) ?_
  rintro rfl
  exact hne (by rw [List.append_nil, hroot])

theorem typeFolder_of_clause (h : Housed disk (.ofProject disk env root) names rest location)
    (hnames : disk.locate root = .ok names) (hmodule : Locator.discover disk root = none)
    (hroot : disk.canonicalOrSelf root = root) (hfolder : Path.ofNames (names ++ rest) = root)
    (hnone : (Packages.ofProject disk env root).importPath? disk root = none) :
    (∃ source, OnDisk disk source ∧ source.path.parent? = some root ∧
      location.package = clauseName source.lines) ∧
    (typeFolder disk (.ofProject disk env root) location = root ↔
      disk.isFolder (root.entry location.package) = false ∧
        ∀ found ∈ (Locator.ofEnvironment env).packageFolder? disk location.package,
          disk.canonicalOrSelf found = root) := by
  rw [Disk.canonicalOrSelf_of_locate hnames] at hroot
  have hpackages : Packages.ofProject disk env root = [.sourceRoot (Path.ofNames names), .ofEnvironment env] := by
    rw [Packages.ofProject, hmodule, ← hroot]
    rfl
  have hrest : rest = [] := by
    rw [← hroot] at hfolder
    have hsame := Path.ofNames_inj h.located.isName h.located.of_append.isName
      (congrArg Path.components hfolder)
    simpa using hsame
  rw [hrest, hpackages] at h
  rw [hpackages, ← hroot] at hnone
  rw [hpackages, ← hroot]
  have hclause := h.package_of_clause (by rw [List.append_nil]; exact hnone)
  rw [List.append_nil] at hclause
  refine ⟨hclause, h.typeFolder_at_root ?_⟩
  obtain ⟨source, -, -, hname⟩ := hclause
  rw [hname]
  exact (clauseName_spec source.lines).1

end Housed

/-- The types of a handler of a project are looked up in the folder of its file, exactly if the path that is cut
off its symbol leads to no other folder. In a module it leads there, unless the folder is in the vendor folder
or has a dot at the end of its path; so it does below a root without a module. At such a root, where the path is
the name in the package clause, it leads to the folder of that name if there is one. -/
theorem typeFolder_eq_iff (disk : Disk) (env : Environment) (root file : Path) (s t : Session)
    (entries : List RouteEntry) (entry : RouteEntry) (symbol : Symbol) (location : Location)
    (hproper : disk.tree.Proper) (hs : s.cache.Agrees disk) (ht : t.cache.Agrees disk)
    (htable : (muxTable disk (.ofProject disk env root) root s).1 = .ok entries) (hentry : entry ∈ entries)
    (hsymbol : symbol ∈ entry.handler.symbols) (hfile : symbol.file? = some file)
    (hlocation : (Handler.locate disk (.ofProject disk env root) symbol t).1 = .ok location) :
    ∃ folder, location.file = disk.canonicalOrSelf file ∧ location.file.parent? = some folder ∧
      (typeFolder disk (.ofProject disk env root) location = folder ↔
        ∀ found ∈ (Packages.ofProject disk env root).folder? disk location.package,
          disk.canonicalOrSelf found = folder) ∧
      (∀ modulePath moduleRoot, Locator.discover disk root = some (.module modulePath moduleRoot) →
        (∀ inner, (moduleRoot.entry "vendor").namesBelow? folder = some inner → inner = []) →
        Dotless disk (.ofProject disk env root) folder →
        typeFolder disk (.ofProject disk env root) location = folder) ∧
      (Locator.discover disk root = none → disk.canonicalOrSelf root = root → folder ≠ root →
        Dotless disk (.ofProject disk env root) folder →
        typeFolder disk (.ofProject disk env root) location = folder) ∧
      (Locator.discover disk root = none → disk.canonicalOrSelf root = root → folder = root →
        (Packages.ofProject disk env root).importPath? disk root = none →
        (∃ source, OnDisk disk source ∧ source.path.parent? = some root ∧
          location.package = clauseName source.lines) ∧
        (typeFolder disk (.ofProject disk env root) location = root ↔
          disk.isFolder (root.entry location.package) = false ∧
            ∀ found ∈ (Locator.ofEnvironment env).packageFolder? disk location.package,
              disk.canonicalOrSelf found = root)) := by
  obtain ⟨hplace, names, rest, hnames, hhoused⟩ :=
    housed_of_muxTable hproper hs ht htable hentry hsymbol hfile hlocation
  refine ⟨Path.ofNames (names ++ rest), hplace, hhoused.parent, hhoused.typeFolder_iff, ?_, ?_, ?_⟩
  · intro modulePath moduleRoot hmodule hvendor hdot
    exact hhoused.typeFolder_of_module hproper hnames hmodule hvendor hdot
  · intro hmodule hroot hne hdot
    exact hhoused.typeFolder_below_root hproper hnames hmodule hroot hne hdot
  · intro hmodule hroot hfolder hnone
    exact hhoused.typeFolder_of_clause hnames hmodule hroot hfolder hnone

/-- A file that registers the handler it declares. -/
def handlerSource : String :=
  "package main\nfunc R() \x7b\n\tr.Handle(\"/a\", h)\n\x7d\nfunc h(t T) \x7b\n\x7d\n"

/-- The file at the root of a project without a module, beside a folder with the name of its package. -/
def rootDisk : Disk :=
  ⟨.folder [("p", .folder [("a.go", .file handlerSource.toUTF8), ("main", .folder [])])], []⟩

/-- The file in a package of a module, beside such a folder. -/
def moduleDisk : Disk :=
  ⟨.folder [("p", .folder [("go.mod", .file "module m\n".toUTF8),
    ("api", .folder [("a.go", .file handlerSource.toUTF8), ("main", .folder [])])])], []⟩

def registered (package : String) (file : Path) : Symbol :=
  ⟨package ++ ".h", some file⟩

/-- The types of the handler are looked up in the other folder at the root, and in the right one in the module. -/
theorem typeFolder_eq_iff_projects :
    let root : Path := ⟨["", "p"]⟩
    let symbol := registered "main" ⟨["", "p", "a.go"]⟩
    let location : Location := ⟨"main.h", ⟨["", "p", "a.go"]⟩, 5⟩
    let symbol' := registered "m/api" ⟨["", "p", "api", "a.go"]⟩
    let location' : Location := ⟨"m/api.h", ⟨["", "p", "api", "a.go"]⟩, 5⟩
    ((muxTable rootDisk (.ofProject rootDisk {} root) root {}).1 = .ok [⟨some "/a", none, .func symbol⟩] ∧
      (Handler.locate rootDisk (.ofProject rootDisk {} root) symbol {}).1 = .ok location ∧
      location.file.parent? = some root ∧ typeFolder rootDisk (.ofProject rootDisk {} root) location ≠ root) ∧
    ((muxTable moduleDisk (.ofProject moduleDisk {} root) root {}).1 = .ok [⟨some "/a", none, .func symbol'⟩] ∧
      (Handler.locate moduleDisk (.ofProject moduleDisk {} root) symbol' {}).1 = .ok location' ∧
      some (typeFolder moduleDisk (.ofProject moduleDisk {} root) location') = location'.file.parent?) := by
  intro root symbol location symbol' location'
  constructor
  · have htable : (muxTable rootDisk (.ofProject rootDisk {} root) root {}).1
        = .ok [⟨some "/a", none, .func symbol⟩] := by decide +kernel
    have hlocation : (Handler.locate rootDisk (.ofProject rootDisk {} root) symbol {}).1 = .ok location := by
      decide +kernel
    have hproper : rootDisk.tree.Proper :=
      ⟨by decide, ⟨by decide, True.intro, by decide, True.intro, True.intro⟩, True.intro⟩
    obtain ⟨folder, -, hparent, -, -, -, hroot⟩ := typeFolder_eq_iff rootDisk {} root ⟨["", "p", "a.go"]⟩ {} {} _ _
      symbol location hproper SourceCache.agrees_empty SourceCache.agrees_empty htable List.mem_cons_self
      List.mem_cons_self rfl hlocation
    have hfolder : location.file.parent? = some root := by decide
    obtain rfl := Option.some.inj (hparent.symm.trans hfolder)
    obtain ⟨-, hiff⟩ := hroot (by decide +kernel) (by decide +kernel) rfl (by decide +kernel)
    refine ⟨htable, hlocation, hfolder, fun hright => ?_⟩
    exact absurd (hiff.mp hright).1 (by decide +kernel)
  · have htable : (muxTable moduleDisk (.ofProject moduleDisk {} root) root {}).1
        = .ok [⟨some "/a", none, .func symbol'⟩] := by decide +kernel
    have hlocation : (Handler.locate moduleDisk (.ofProject moduleDisk {} root) symbol' {}).1 = .ok location' := by
      decide +kernel
    have hproper : moduleDisk.tree.Proper :=
      ⟨by decide, ⟨by decide, True.intro, by decide, ⟨by decide, True.intro, by decide, True.intro, True.intro⟩,
        True.intro⟩, True.intro⟩
    obtain ⟨folder, -, hparent, -, hmodule, -, -⟩ := typeFolder_eq_iff moduleDisk {} root
      ⟨["", "p", "api", "a.go"]⟩ {} {} _ _ symbol' location' hproper SourceCache.agrees_empty
      SourceCache.agrees_empty htable List.mem_cons_self List.mem_cons_self rfl hlocation
    have hfolder : location'.file.parent? = some ⟨["", "p", "api"]⟩ := by decide
    obtain rfl := Option.some.inj (hparent.symm.trans hfolder)
    refine ⟨htable, hlocation, ?_⟩
    have hpath : (Packages.ofProject moduleDisk {} root).importPath? moduleDisk ⟨["", "p", "api"]⟩ = some "m/api" := by
      decide +kernel
    have hdotless : Dotless moduleDisk (.ofProject moduleDisk {} root) ⟨["", "p", "api"]⟩ := by
      intro path hmem
      obtain rfl := Option.some.inj (hpath.symm.trans hmem)
      decide
    rw [hmodule "m" root (by decide +kernel) (fun inner hinner => by cases hinner) hdotless, hfolder]

end Routes

end RouteDoc
