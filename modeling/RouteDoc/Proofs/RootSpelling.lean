import RouteDoc.Proofs.FileListings
import RouteDoc.Proofs.TwinHandlers

/-!
The root of a project, spelled in two ways. A project is given by a path to its root, and every file of it is known by
its canonical path. The locator of a module goes by canonical paths on both sides. The locator of a project without a
module compares the components of the root as it was spelled, and so it knows the folders below exactly if the
spelling is absolute and never goes up (`Path.Straight`). Two spellings agree on the import path of a folder exactly if
there is a module, or the folder is the root itself, or both or none are straight, or the environment happens to
give the folder the same path (`Packages.samePath_iff`).

Nothing else depends on the spelling: if the import paths below the root agree, packages are found alike
(`packagesAlike_ofProject`), and the tables of registrations are the same (`muxTable_spelling`).
-/

namespace RouteDoc

open RouteDoc.Text RouteDoc.Types

/-! ## Straight spellings -/

/-- The spelling starts at the root of the tree, and no piece of it goes up. -/
def Path.Straight (p : Path) : Prop :=
  p.isAbsolute = true ∧ ".." ∉ p.pieces

instance (p : Path) : Decidable p.Straight :=
  inferInstanceAs (Decidable (_ ∧ _))

namespace Disk

variable {disk : Disk} {p : Path} {names : List String}

theorem step_straight {next : List String} {piece : String} (hup : piece ≠ "..")
    (h : disk.step names piece = .ok next) :
    next.map Component.name = names.map .name ++ (Component.ofPiece? piece).toList := by
  unfold step at h
  unfold Component.ofPiece?
  split at h
  · cases h
  · cases h
  · split at h
    · rename_i hidle
      rw [if_pos hidle, ← Except.ok.inj h]
      simp
    · rename_i hidle
      rw [if_neg hidle, if_neg hup]
      split at h
      · rw [← Except.ok.inj h, List.map_append]
        rfl
      · cases h

/-- A walk that never goes up leads to the names that it is made of. -/
theorem walk_straight {out pieces : List String} (hup : ".." ∉ pieces) (h : disk.walk names pieces = .ok out) :
    out.map Component.name = names.map .name ++ pieces.filterMap Component.ofPiece? := by
  induction pieces generalizing names with
  | nil =>
    rw [← Except.ok.inj h]
    simp
  | cons piece pieces ih =>
    rw [List.mem_cons, not_or] at hup
    rw [walk] at h
    split at h
    · rename_i next hstep
      rw [ih hup.2 h, step_straight (Ne.symm hup.1) hstep, List.append_assoc, List.filterMap_cons]
      cases Component.ofPiece? piece <;> rfl
    · cases h

theorem components_of_straight (h : disk.locate p = .ok names) (hstraight : p.Straight) :
    p.components = (Path.ofNames names).components := by
  obtain ⟨habsolute, hup⟩ := hstraight
  rw [Path.components_ofNames (located_of_locate h).isName]
  have hempty := isEmpty_of_locate h
  unfold Path.isAbsolute at habsolute
  split at habsolute
  · rename_i next rest hpieces
    rw [locate_eq_walk hempty, hpieces] at h
    rw [hpieces, List.mem_cons, not_or] at hup
    rw [Path.components_eq hempty hpieces, walk_straight hup.2 h]
    rfl
  · cases habsolute

end Disk

/-- Only a straight spelling has the first components of a path of names. -/
theorem Path.straight_of_components {p : Path} (hempty : p.isEmpty = false) {names : List String}
    {rest : List Component} (h : p.components ++ rest = .root :: names.map .name) : p.Straight := by
  cases hp : p.pieces with
  | nil => simp [isEmpty, hp] at hempty
  | cons first pieces =>
    rw [components_eq hempty hp, List.append_assoc] at h
    -- the first component is the root, and no other first piece stands for it
    have hroot : first = "" := by
      unfold Component.ofFirst at h
      split at h
      · assumption
      · split at h
        · cases (List.cons.inj h).1
        · rename_i hne hdot
          have hsome : Component.ofPiece? first = some .up ∨ Component.ofPiece? first = some (.name first) := by
            unfold Component.ofPiece?
            rw [if_neg (by simp [hne, hdot])]
            split
            · exact .inl rfl
            · exact .inr rfl
          rcases hsome with hsome | hsome
          · rw [hsome] at h
            cases (List.cons.inj h).1
          · rw [hsome] at h
            cases (List.cons.inj h).1
    subst hroot
    refine ⟨?_, fun hup => ?_⟩
    · cases pieces with
      | nil => simp [isEmpty, hp] at hempty
      | cons next pieces => simp [isAbsolute, hp]
    · rw [hp, List.mem_cons] at hup
      have hmem : Component.up ∈ pieces.filterMap Component.ofPiece? :=
        List.mem_filterMap.mpr ⟨"..", hup.resolve_left (by decide), by decide⟩
      have hnames : pieces.filterMap Component.ofPiece? ++ rest = names.map .name := (List.cons.inj h).2
      have hname : Component.up ∈ names.map Component.name := by
        rw [← hnames]
        exact List.mem_append_left rest hmem
      obtain ⟨name, -, hname⟩ := List.mem_map.mp hname
      cases hname

/-! ## Import paths -/

theorem Path.eq_append_of_behind? {base whole rest : List Component} (h : behind? base whole = some rest) :
    whole = base ++ rest := by
  induction base generalizing whole with
  | nil => exact Option.some.inj h
  | cons component base ih =>
    cases whole with
    | nil => cases h
    | cons other whole =>
      rw [behind?] at h
      split at h
      · rename_i hsame
        rw [hsame, ih h]
        rfl
      · cases h

namespace Locator

variable {disk : Disk} {root root' : Path} {names folder : List String}

theorem importPath?_sourceRoot_eq_none {folder : Path} (h : ∀ rest, folder.components ≠ root.components ++ rest) :
    importPath? disk folder (.sourceRoot root) = none := by
  have hbehind : Path.behind? root.components folder.components = none := by
    rw [Option.eq_none_iff_forall_ne_some]
    intro rest hrest
    exact h rest (Path.eq_append_of_behind? hrest)
  show ((Option.map _ (Option.map _ (Path.behind? _ _))).filter _) = none
  rw [hbehind]
  rfl

/-- A root that is not spelled straight knows no folder by its canonical path. -/
theorem importPath?_sourceRoot_of_not (hempty : root.isEmpty = false) (hfolder : ∀ name ∈ folder, Path.IsName name)
    (hnot : ¬ root.Straight) : importPath? disk (Path.ofNames folder) (.sourceRoot root) = none := by
  apply importPath?_sourceRoot_eq_none
  intro rest hrest
  rw [Path.components_ofNames hfolder] at hrest
  exact hnot (Path.straight_of_components hempty hrest.symm)

/-- A root that is spelled straight knows what its canonical path knows. -/
theorem importPath?_sourceRoot_of_straight (hroot : disk.locate root = .ok names) (hstraight : root.Straight)
    (folder : Path) :
    importPath? disk folder (.sourceRoot root) = importPath? disk folder (.sourceRoot (Path.ofNames names)) := by
  simp only [importPath?, relativeImportPath?, Path.namesBelow?, Disk.components_of_straight hroot hstraight]

theorem importPath?_sourceRoot_outside (hroot : disk.locate root = .ok names)
    (hfolder : ∀ name ∈ folder, Path.IsName name) (houtside : ¬ names <+: folder) :
    importPath? disk (Path.ofNames folder) (.sourceRoot root) = none := by
  by_cases hstraight : root.Straight
  · apply importPath?_sourceRoot_eq_none
    intro rest hrest
    rw [Disk.components_of_straight hroot hstraight, Path.components_ofNames hfolder,
      Path.components_ofNames (Disk.located_of_locate hroot).isName] at hrest
    obtain ⟨above, below, rfl, habove, -⟩ := List.map_eq_append_iff.mp (List.cons.inj hrest).2
    have hname : Function.Injective Component.name := fun _ _ hxy => Component.name.inj hxy
    rw [List.map_injective_iff.mpr hname habove] at houtside
    exact houtside (List.prefix_append names below)
  · exact importPath?_sourceRoot_of_not (Disk.isEmpty_of_locate hroot) hfolder hstraight

theorem discover_spelling (hroot : disk.locate root = .ok names) (hroot' : disk.locate root' = .ok names) :
    discover disk root = discover disk root' := by
  rw [discover, discover, Disk.canonicalOrSelf_of_locate hroot, Disk.canonicalOrSelf_of_locate hroot']

/-- The module of a project gives an import path to every folder below the project's root. -/
theorem isSome_importPath?_of_discover (hroot : disk.locate root = .ok names) {rest : List String}
    (hfolder : disk.Located (names ++ rest)) {locator : Locator} (h : discover disk root = some locator) :
    (locator.importPath? disk (Path.ofNames (names ++ rest))).isSome := by
  obtain ⟨modulePath, above, rfl, between, rfl⟩ := eq_module_of_discover hroot h
  have habove : disk.Located above := (Disk.located_of_locate hroot).of_append
  rw [List.append_assoc] at hfolder ⊢
  rw [importPath?_module (Disk.locate_ofNames habove) (Disk.locate_ofNames hfolder)]
  rfl

end Locator

namespace Packages

variable {disk : Disk} {env : Environment} {root root' : Path} {names : List String}

/-- What a project's chain answers: its module, or else its root, or else the environment. -/
theorem findSome?_ofProject {α : Type} (ask : Locator → Option α) (disk : Disk) (env : Environment) (root : Path) :
    (ofProject disk env root).findSome? ask
      = ((Locator.discover disk root).bind ask).or
          ((ask (.sourceRoot root)).or (ask (.ofEnvironment env))) := by
  rw [ofProject, List.findSome?_append]
  congr 1
  · cases Locator.discover disk root with
    | none => rfl
    | some locator =>
      rw [Option.toList_some, List.findSome?_cons, Option.bind_some]
      cases ask locator <;> rfl
  · rw [List.findSome?_cons, List.findSome?_cons]
    cases ask (.sourceRoot root) with
    | some answer => rfl
    | none => cases ask (.ofEnvironment env) <;> rfl

/-- The project gives the folder the same import path under both spellings of its root. -/
def SamePath (disk : Disk) (env : Environment) (root root' folder : Path) : Prop :=
  (ofProject disk env root).importPath? disk folder = (ofProject disk env root').importPath? disk folder

/-- When two spellings of a root agree on the import path of a folder below it. -/
theorem samePath_iff {rest : List String} (hproper : disk.tree.Proper) (hroot : disk.locate root = .ok names)
    (hroot' : disk.locate root' = .ok names) (hfolder : disk.Located (names ++ rest)) :
    SamePath disk env root root' (Path.ofNames (names ++ rest)) ↔
      (Locator.discover disk root).isSome ∨ rest = [] ∨ (root.Straight ↔ root'.Straight) ∨
        Locator.importPath? disk (Path.ofNames (names ++ rest)) (.ofEnvironment env)
          = some ("/".intercalate rest) := by
  rw [SamePath, importPath?, importPath?, findSome?_ofProject, findSome?_ofProject,
    ← Locator.discover_spelling hroot hroot']
  cases hmodule : Locator.discover disk root with
  | some locator =>
    obtain ⟨path, hpath⟩ := Option.isSome_iff_exists.mp (Locator.isSome_importPath?_of_discover hroot hfolder hmodule)
    simp [hpath]
  | none =>
    have hsegments : ∀ name ∈ rest, Path.IsSegment name :=
      fun name hname => hfolder.isSegment hproper name (List.mem_append_right names hname)
    -- what each spelling knows by itself
    have hknown : ∀ p, disk.locate p = .ok names →
        Locator.importPath? disk (Path.ofNames (names ++ rest)) (.sourceRoot p)
        = if p.Straight ∧ rest ≠ [] then some ("/".intercalate rest) else none := by
      intro p hp
      by_cases hstraight : p.Straight
      · rw [Locator.importPath?_sourceRoot_of_straight hp hstraight, sourceRoot_importPath? hfolder.isName hsegments]
        by_cases hnil : rest = [] <;> simp [hnil, hstraight]
      · rw [Locator.importPath?_sourceRoot_of_not (Disk.isEmpty_of_locate hp) hfolder.isName hstraight,
          if_neg fun h => hstraight h.1]
    rw [hknown root hroot, hknown root' hroot']
    by_cases hnil : rest = []
    · simp [hnil]
    · by_cases hstraight : root.Straight <;> by_cases hstraight' : root'.Straight <;>
        simp [hnil, hstraight, hstraight', eq_comm]

/-- If two spellings of a root agree on the folders below it, they agree on every folder. -/
theorem samePath_of_below (hroot : disk.locate root = .ok names) (hroot' : disk.locate root' = .ok names)
    (hbelow : ∀ rest entries, disk.tree.at? (names ++ rest) = some (.folder entries) →
      SamePath disk env root root' (Path.ofNames (names ++ rest)))
    {folder : List String} (hfolder : ∀ name ∈ folder, Path.IsName name) {entries : List (String × Node)}
    (hat : disk.tree.at? folder = some (.folder entries)) :
    SamePath disk env root root' (Path.ofNames folder) := by
  by_cases hprefix : names <+: folder
  · obtain ⟨rest, rfl⟩ := hprefix
    exact hbelow rest entries hat
  · rw [SamePath, importPath?, importPath?, findSome?_ofProject, findSome?_ofProject,
      Locator.discover_spelling hroot hroot',
      Locator.importPath?_sourceRoot_outside hroot hfolder hprefix,
      Locator.importPath?_sourceRoot_outside hroot' hfolder hprefix]

theorem folder?_ofProject_meets (env : Environment) (hroot : disk.locate root = .ok names)
    (hroot' : disk.locate root' = .ok names) (importPath : String) :
    Option.Rel disk.Meets ((ofProject disk env root).folder? disk importPath)
      ((ofProject disk env root').folder? disk importPath) := by
  have hrefl : ∀ found : Option Path, Option.Rel disk.Meets found found := by
    intro found
    cases found with
    | none => exact .none
    | some folder => exact .some fun _ => Iff.rfl
  -- the folder that the import path leads to from the root
  have hjoin : disk.Meets (joinImportPath root importPath.toList) (joinImportPath root' importPath.toList) := by
    rw [joinImportPath, joinImportPath, ← List.foldl_map (f := String.ofList), ← List.foldl_map (f := String.ofList)]
    exact Disk.Meets.foldl_entry hroot hroot' _
  rw [folder?, folder?, findSome?_ofProject, findSome?_ofProject, Locator.discover_spelling hroot hroot']
  cases (Locator.discover disk root').bind fun locator => locator.packageFolder? disk importPath with
  | some folder => exact hrefl _
  | none =>
    rw [Option.none_or, Option.none_or, Locator.packageFolder?, Locator.packageFolder?, hjoin.isFolder]
    split
    · exact .some hjoin
    · exact hrefl _

end Packages

/-! ## Tables -/

namespace Routes

variable {a b disk : Disk} {packages packages' : Packages} {ctx ctx' : FileContext}

theorem FilesAlike.refl {file : SourceFile} (h : OnDisk disk file) : FilesAlike disk disk file file :=
  ⟨rfl, .refl file.lines, h, h⟩

theorem pathsAlike_of_interchangeable {p q : Path} (h : disk.Interchangeable p q) : PathsAlike disk disk p q := by
  refine ⟨h.sure, h.sure', ?_⟩
  rw [← h.meets.source?]
  cases hfile : disk.source? p with
  | none => exact .inl ⟨rfl, rfl⟩
  | some file => exact .inr ⟨file, file, rfl, rfl, .refl ⟨p, hfile⟩⟩

/-- Spellings of a root that agree on the import paths below it find packages alike. -/
theorem packagesAlike_ofProject {env : Environment} {root root' : Path} {names : List String}
    (hregular : disk.tree.Regular) (hroot : disk.locate root = .ok names) (hroot' : disk.locate root' = .ok names)
    (hbelow : ∀ rest entries, disk.tree.at? (names ++ rest) = some (.folder entries) →
      Packages.SamePath disk env root root' (Path.ofNames (names ++ rest))) :
    PackagesAlike disk disk (.ofProject disk env root) (.ofProject disk env root') := by
  refine ⟨⟨Node.twin_refl BytesAlike.refl _, rfl⟩, fun file hfile => ?_, fun importPath => ?_⟩
  · -- the folder of a file is a folder of the tree
    obtain ⟨p, hp⟩ := hfile
    obtain ⟨path, bytes, text, hl, hat, -, rfl⟩ := bytes_of_source? hp
    have hlocated := Disk.located_of_locate hl
    rcases List.eq_nil_or_concat' path with rfl | ⟨folder, last, rfl⟩
    · rfl
    · obtain ⟨entries, hfolder⟩ := Disk.folder_of_at?_concat hat
      show (Path.ofNames (folder ++ [last])).parent?.bind _ = (Path.ofNames (folder ++ [last])).parent?.bind _
      rw [Path.parent?_ofNames hlocated.isName, Option.bind_some, Option.bind_some]
      exact Packages.samePath_of_below hroot hroot' hbelow hlocated.of_append.isName hfolder
  · have hfiles := Packages.files_meets (Packages.folder?_ofProject_meets env hroot hroot' importPath) hregular
    generalize ((Packages.ofProject disk env root).files disk importPath).toOption = files?,
      ((Packages.ofProject disk env root').files disk importPath).toOption = files?' at hfiles
    cases hfiles with
    | none => exact .none
    | some hfiles => exact .some (hfiles.imp fun _ _ => pathsAlike_of_interchangeable)

namespace PackagesAlike

theorem registration (h : PackagesAlike a b packages packages') (hctx : ContextsAlike a b ctx ctx')
    (base chain : List Char) :
    Alike a b Eq (Routes.registration a packages ctx base chain) (Routes.registration b packages' ctx' base chain) := by
  unfold Routes.registration
  cases hexpr : (handlerArgument? chain).bind readHandler with
  | none => exact Alike.pure rfl
  | some expr =>
    obtain ⟨argument, -, hread⟩ := Option.bind_eq_some_iff.mp hexpr
    refine Alike.bind (qualifyHandler_alike h hctx (readHandler_chains hread)) fun handler handler' hhandler => ?_
    exact Alike.pure (by rw [hhandler])

theorem scanStatements (h : PackagesAlike a b packages packages') (hctx : ContextsAlike a b ctx ctx')
    (known : Prefixes) (statements : List (List Char)) :
    Alike a b Eq (Routes.scanStatements a packages ctx known statements)
      (Routes.scanStatements b packages' ctx' known statements) := by
  have hcall : routerCall? ctx = routerCall? ctx' := by
    funext statement
    rw [routerCall?, routerCall?, hctx.imports]
  induction statements generalizing known with
  | nil => exact Alike.pure rfl
  | cons statement statements ih =>
    unfold Routes.scanStatements
    rw [hcall]
    cases routerCall? ctx' statement with
    | none => exact ih known
    | some call =>
      obtain ⟨target?, receiver, chain⟩ := call
      dsimp only
      split
      · exact ih _
      · refine Alike.bind (h.registration hctx _ chain) fun entry? entry?' hentry => ?_
        refine Alike.bind (ih known) fun rest rest' hrest => ?_
        exact Alike.pure (by rw [hentry, hrest])

theorem scanFiles (h : PackagesAlike disk disk packages packages') {files files' : List Path}
    (hfiles : List.Forall₂ disk.Interchangeable files files') :
    Alike disk disk Eq (Routes.scanFiles disk packages files) (Routes.scanFiles disk packages' files') := by
  induction hfiles with
  | nil => exact Alike.pure rfl
  | @cons path path' files files' hpath hfiles hrest =>
    have hsame := hpath.meets.source?
    unfold Routes.scanFiles
    cases hfile : disk.source? path with
    | none =>
      -- the warnings name the paths as they are spelled, which only the journal shows
      rw [hfile] at hsame
      exact Alike.load_none hfile hsame.symm hpath.sure hpath.sure' hrest (.inr ⟨_, fun _ => rfl⟩)
        (.inr ⟨_, fun _ => rfl⟩)
    | some file =>
      rw [hfile] at hsame
      refine Alike.load_some hfile hsame.symm hpath.sure hpath.sure' ?_
      have hctx := contextsAlike_of h (.refl ⟨path, hfile⟩)
      refine Alike.bind (h.scanStatements hctx [] _) fun entries entries' hentries => ?_
      refine Alike.bind hrest fun rest rest' hrest => ?_
      exact Alike.pure (by rw [hentries, hrest])

end PackagesAlike

/-- Spellings of a root that agree on the import paths below it give the same table. -/
theorem muxTable_spelling {root root' : Path} {names : List String} {entries : List (String × Node)}
    (h : PackagesAlike disk disk packages packages') (hregular : disk.tree.Regular)
    (hroot : disk.locate root = .ok names) (hroot' : disk.locate root' = .ok names)
    (hat : disk.tree.at? names = some (.folder entries)) :
    Alike disk disk Eq (muxTable disk packages root) (muxTable disk packages' root') := by
  have hentries : (Node.folder entries).Regular := hregular.of_at? hat
  have hfiles := Project.files_eq hroot hat hentries
  have hfiles' := Project.files_eq hroot' hat hentries
  -- the files are listed by different paths, but pairwise they are the same files
  have hlistings := Disk.listing_meets hroot hroot' (Project.below_namesBelow entries hentries)
  unfold muxTable
  refine Alike.report_bind ?_
  simp only [Disk.isFolder_of_locate hroot hat, Disk.isFolder_of_locate hroot' hat, Bool.not_true, Bool.false_eq_true,
    if_false, Project.scan, hfiles, hfiles', pure_bind]
  refine Alike.bind (h.scanFiles hlistings) fun found found' hfound => ?_
  exact Alike.report_bind (Alike.pure (by rw [hfound]))

end Routes

/-- **The root of a project, spelled in two ways.** Let two paths lead to the same folder of a tree with regular names.
For every folder at or below it, given by its canonical path, the two spellings give the same import path exactly if
there is a module around the root, or the folder is the root itself, or both spellings or none are straight, or the
environment gives the folder its path below the root. And if they give the same import path to every such folder, the
table of the registrations is the same, from whatever caches. -/
theorem root_spelling_iff (disk : Disk) (env : Environment) (root root' : Path) (names : List String)
    (entries : List (String × Node)) (hregular : disk.tree.Regular) (hroot : disk.locate root = .ok names)
    (hroot' : disk.locate root' = .ok names) (hat : disk.tree.at? names = some (.folder entries)) :
    (∀ rest inner, disk.tree.at? (names ++ rest) = some (.folder inner) →
      (Packages.SamePath disk env root root' (Path.ofNames (names ++ rest)) ↔
        (Locator.discover disk root).isSome ∨ rest = [] ∨ (root.Straight ↔ root'.Straight) ∨
          Locator.importPath? disk (Path.ofNames (names ++ rest)) (.ofEnvironment env)
            = some ("/".intercalate rest))) ∧
    ((∀ rest inner, disk.tree.at? (names ++ rest) = some (.folder inner) →
        Packages.SamePath disk env root root' (Path.ofNames (names ++ rest))) →
      ∀ session session' : Session, session.cache.Agrees disk → session'.cache.Agrees disk →
        (Routes.muxTable disk (.ofProject disk env root) root session).1
          = (Routes.muxTable disk (.ofProject disk env root') root' session').1) := by
  constructor
  · intro rest inner hinner
    have hlocated : disk.Located (names ++ rest) :=
      ⟨fun name hname => (hregular.isSegment hinner name hname).1, ⟨_, hinner⟩, (Disk.located_of_locate hroot).root⟩
    exact Packages.samePath_iff hregular.proper hroot hroot' hlocated
  · intro hbelow session session' hcache hcache'
    have halike := Routes.packagesAlike_ofProject hregular hroot hroot' hbelow
    obtain ⟨answer, answer', hanswer, hanswer', rfl⟩ := Routes.muxTable_spelling halike hregular hroot hroot' hat
    calc (Routes.muxTable disk (.ofProject disk env root) root session).1
        = answer := (hanswer.first.run session hcache).1
      _ = (Routes.muxTable disk (.ofProject disk env root') root' session').1 :=
        (hanswer'.first.run session' hcache').1.symm

/-- A project without a module in the folder `w`, which relative paths start from. Its package is in a folder that has
another name. -/
def plainProject : Disk :=
  let source := "package b\nfunc R() \x7b\n\tr.Handle(\"/x\", h)\n\x7d\n"
  ⟨.folder [("w", .folder [("a", .folder [("a.go", .file source.toUTF8)])])], ["w"]⟩

/-- The project spelled by a dot does not know the package that it knows by its absolute path, and its table has
another symbol. With a slash behind the absolute path the table is the same. -/
theorem root_spelling_iff_dot :
    ¬ Packages.SamePath plainProject {} ⟨["."]⟩ ⟨["", "w"]⟩ (Path.ofNames ["w", "a"]) ∧
    (Routes.muxTable plainProject (.ofProject plainProject {} ⟨["."]⟩) ⟨["."]⟩ {}).1
      ≠ (Routes.muxTable plainProject (.ofProject plainProject {} ⟨["", "w"]⟩) ⟨["", "w"]⟩ {}).1 ∧
    (Routes.muxTable plainProject (.ofProject plainProject {} ⟨["", "w", ""]⟩) ⟨["", "w", ""]⟩ {}).1
      = (Routes.muxTable plainProject (.ofProject plainProject {} ⟨["", "w"]⟩) ⟨["", "w"]⟩ {}).1 := by
  have hregular : plainProject.tree.Regular :=
    ⟨by decide, ⟨by decide, ⟨by decide, True.intro, True.intro⟩, True.intro⟩, True.intro⟩
  have hdot := root_spelling_iff plainProject {} ⟨["."]⟩ ⟨["", "w"]⟩ ["w"] _ hregular rfl rfl rfl
  have hslash := root_spelling_iff plainProject {} ⟨["", "w", ""]⟩ ⟨["", "w"]⟩ ["w"] _ hregular rfl rfl rfl
  refine ⟨fun hsame => ?_, by decide +kernel, ?_⟩
  · exact absurd ((hdot.1 ["a"] _ rfl).mp hsame) (by decide +kernel)
  · refine hslash.2 (fun rest inner hinner => ?_) {} {} SourceCache.agrees_empty SourceCache.agrees_empty
    rw [hslash.1 rest inner hinner]
    exact .inr (.inr (.inl (by decide)))

end RouteDoc
