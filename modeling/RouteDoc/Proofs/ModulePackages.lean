import RouteDoc.Proofs.HandlerPackages

/-!
The packages of a module, there and back. A locator of a module tells the folder of an import path, and the import
path of a folder; the two are written apart, each with its own rules for the root of the module and for its vendor
folder. They undo each other (`module_roundTrip`): the folder of an import path has that import path, unless the
path spells out the way into the vendor folder; and the import path of a folder at or below the root leads to the
folder, unless the folder lies inside the vendor folder.

The root may be spelled in any way that leads to it. What counts is where a path leads: joining names to a path
leads from where the path leads to what has these names below (`locate_foldl_entry`, `locate_foldl_entry_of_at?`).
-/

namespace RouteDoc

open RouteDoc.Text

/-! ## Names behind a path -/

theorem Path.isEmpty_foldl_entry {p : Path} (h : p.isEmpty = false) (names : List String) :
    (names.foldl Path.entry p).isEmpty = false := by
  induction names generalizing p with
  | nil => exact h
  | cons name names ih => exact ih (isEmpty_entry h name)

namespace Disk

variable {disk : Disk} {p : Path} {names rest : List String}

/-- If a path with names behind it leads somewhere, it leads to what has these names below the path. -/
theorem locate_foldl_entry {out : List String} (hp : disk.locate p = .ok names)
    (hrest : ∀ name ∈ rest, Path.IsName name) (h : disk.locate (rest.foldl Path.entry p) = .ok out) :
    out = names ++ rest := by
  -- from the end: the last name is one step from where all before it lead
  induction rest using List.reverseRecOn generalizing out with
  | nil =>
    rw [List.append_nil]
    exact (Except.ok.inj (hp.symm.trans h)).symm
  | append_singleton init last ih =>
    rw [List.foldl_concat] at h
    have hempty := Path.isEmpty_foldl_entry (isEmpty_of_locate hp) init
    obtain ⟨above, habove, hstep⟩ := locate_of_locate_entry hempty h
    have hinit : above = names ++ init := ih (fun name hname => hrest name (by simp [hname])) habove
    rw [eq_concat_of_step (hrest last (by simp)) hstep, hinit, List.append_assoc]

theorem locate_foldl_entry_of_at? {node : Node} (hp : disk.locate p = .ok names)
    (hrest : ∀ name ∈ rest, Path.IsName name) (hat : disk.tree.at? (names ++ rest) = some node) :
    disk.locate (rest.foldl Path.entry p) = .ok (names ++ rest) := by
  induction rest generalizing p names with
  | nil => simpa using hp
  | cons name rest ih =>
    have hstep := step_of_isName (hrest name (by simp)) hat
    have hentry : disk.locate (p.entry name) = .ok (names ++ [name]) := (locate_entry name hp).trans hstep
    have hassoc : names ++ name :: rest = (names ++ [name]) ++ rest := by simp
    rw [hassoc] at hat ⊢
    exact ih hentry (fun other hother => hrest other (by simp [hother])) hat

theorem isFolder_of_locate {entries : List (String × Node)} (hl : disk.locate p = .ok names)
    (hat : disk.tree.at? names = some (.folder entries)) : disk.isFolder p = true := by
  simp [isFolder, node, hl, hat]

end Disk

/-! ## Segments of import paths -/

namespace Text

theorem split_append_cons (sep : Char) (a b : List Char) :
    split sep (a ++ sep :: b) = split sep a ++ split sep b := by
  simp only [Source.split_eq_splitOnP]
  exact List.splitOnP_append_cons a b (by simp)

end Text

def importSegments (path : String) : List String :=
  (split '/' path.toList).map String.ofList

theorem intercalate_importSegments (path : String) : "/".intercalate (importSegments path) = path := by
  have hpieces : (importSegments path).map String.toList = split '/' path.toList := by
    simp [importSegments]
  apply String.toList_inj.mp
  calc ("/".intercalate (importSegments path)).toList
      = ['/'].intercalate ((importSegments path).map String.toList) := String.toList_intercalate
    _ = ['/'].intercalate (path.toList.splitOn '/') := by
        rw [hpieces, Source.split_eq_splitOnP, List.splitOn_eq_splitOnP]
    _ = path.toList := List.intercalate_splitOn '/'

theorem importSegments_ne_nil (path : String) : importSegments path ≠ [] := by
  simpa [importSegments] using split_ne_nil '/' path.toList

theorem isSegment_of_mem_importSegments {path name : String} (h : name ∈ importSegments path) (hname : Path.IsName name) :
    Path.IsSegment name := by
  refine ⟨hname, ?_⟩
  obtain ⟨piece, hpiece, rfl⟩ := List.mem_map.mp h
  simpa using not_mem_of_mem_split hpiece

/-! ## Folders of import paths -/

namespace Locator

variable {disk : Disk} {modulePath path : String} {root folder : Path} {names rest : List String}

/-- What a module can answer for an import path: its root, a folder below the root, or one below its vendor
folder. -/
theorem packageFolder?_module_cases (h : packageFolder? disk path (.module modulePath root) = some folder) :
    disk.isFolder folder = true ∧
      ((path = modulePath ∧ folder = root) ∨
        (∃ inner, path = modulePath ++ "/" ++ inner ∧ folder = joinImportPath root inner.toList) ∨
        folder = joinImportPath (root.entry "vendor") path.toList) := by
  rw [packageFolder?] at h
  split at h
  · rename_i own hown
    obtain rfl := Option.some.inj h
    obtain ⟨hown, hfolder⟩ := Option.filter_eq_some_iff.mp hown
    refine ⟨hfolder, ?_⟩
    unfold ownFolder? at hown
    split at hown
    · rename_i hsame
      exact .inl ⟨hsame, (Option.some.inj hown).symm⟩
    · split at hown
      · rename_i inner hafter
        rw [after?_eq_some_iff] at hafter
        refine .inr (.inl ⟨String.ofList inner, ?_, ?_⟩)
        · apply String.toList_inj.mp
          simp [hafter]
        · simpa using (Option.some.inj hown).symm
      · cases hown
  · dsimp only at h
    split at h
    · rename_i hfolder
      obtain rfl := Option.some.inj h
      exact ⟨hfolder, .inr (.inr rfl)⟩
    · cases h

/-- The import path of a folder is made of the names that lead to it from the root. -/
theorem importPath?_module (hroot : disk.locate root = .ok names) (hfolder : disk.locate folder = .ok (names ++ rest)) :
    importPath? disk folder (.module modulePath root) = some (moduleImportPath modulePath ("/".intercalate rest)) := by
  have hnames := (Disk.located_of_locate hfolder).isName
  unfold importPath?
  dsimp only
  rw [Disk.canonicalOrSelf_of_locate hroot, Disk.canonicalOrSelf_of_locate hfolder, relativeImportPath?_ofNames hnames,
    Option.map_some]

theorem moduleImportPath_vendored (hne : rest ≠ []) :
    moduleImportPath modulePath ("/".intercalate ("vendor" :: rest)) = "/".intercalate rest := by
  obtain ⟨name, rest, rfl⟩ := List.exists_cons_of_ne_nil hne
  have hafter : after? ['v', 'e', 'n', 'd', 'o', 'r', '/'] ("/".intercalate ("vendor" :: name :: rest)).toList
      = some ("/".intercalate (name :: rest)).toList := by
    rw [after?_eq_some_iff]
    simp [String.toList_intercalate]
  have hempty : "/".intercalate ("vendor" :: name :: rest) ≠ "" := by
    intro hempty
    rw [hempty] at hafter
    cases hafter
  rw [moduleImportPath, if_neg hempty, hafter]
  exact String.ofList_toList

/-- The folder of an import path that does not spell out the way into the vendor folder goes by the path. -/
theorem importPath?_of_packageFolder? (hroot : disk.locate root = .ok names)
    (hsegments : ∀ segment ∈ importSegments path, Path.IsName segment)
    (hvendor : ¬ (modulePath ++ "/vendor/").toList <+: path.toList)
    (h : packageFolder? disk path (.module modulePath root) = some folder) :
    importPath? disk folder (.module modulePath root) = some path := by
  obtain ⟨hfolder, hcases⟩ := packageFolder?_module_cases h
  obtain ⟨out, entries, hout, -⟩ := Disk.folder_of_isFolder hfolder
  rcases hcases with ⟨rfl, rfl⟩ | ⟨inner, rfl, rfl⟩ | rfl
  · -- the root itself
    have hbelow : disk.locate folder = .ok (names ++ []) := by simpa using hroot
    rw [importPath?_module hroot hbelow]
    rfl
  · -- a folder of the module's own: its names are the segments behind the path of the module
    have hsplit : importSegments (modulePath ++ "/" ++ inner) = importSegments modulePath ++ importSegments inner := by
      simp [importSegments, Text.split_append_cons]
    have hinner : ∀ name ∈ importSegments inner, Path.IsSegment name := fun name hname =>
      isSegment_of_mem_importSegments hname (hsegments name (by simp [hsplit, hname]))
    have hjoin := joinImportPath_eq_foldl root hinner
    rw [intercalate_importSegments] at hjoin
    rw [hjoin] at hout ⊢
    obtain rfl := Disk.locate_foldl_entry hroot (fun name hname => (hinner name hname).1) hout
    rw [importPath?_module hroot hout, Packages.moduleImportPath_of_outside modulePath hinner, Packages.ownPath,
      if_neg (importSegments_ne_nil inner), intercalate_importSegments]
    intro below hbelow
    by_contra hne
    apply hvendor
    obtain ⟨name, below, rfl⟩ := List.exists_cons_of_ne_nil hne
    refine ⟨("/".intercalate (name :: below)).toList, ?_⟩
    rw [← intercalate_importSegments inner, hbelow]
    simp [String.toList_intercalate]
  · -- a folder below the vendor folder: its names are all segments of the path
    have hpath : ∀ name ∈ importSegments path, Path.IsSegment name := fun name hname =>
      isSegment_of_mem_importSegments hname (hsegments name hname)
    have hjoin := joinImportPath_eq_foldl (root.entry "vendor") hpath
    rw [intercalate_importSegments] at hjoin
    rw [hjoin] at hout ⊢
    have hall : ∀ name ∈ "vendor" :: importSegments path, Path.IsName name :=
      List.forall_mem_cons.mpr ⟨⟨by decide, by decide, by decide⟩, hsegments⟩
    have hout' : disk.locate (("vendor" :: importSegments path).foldl Path.entry root) = .ok out := hout
    obtain rfl := Disk.locate_foldl_entry hroot hall hout'
    rw [importPath?_module hroot hout, moduleImportPath_vendored (importSegments_ne_nil path),
      intercalate_importSegments]

/-- A folder at or below the root, and not inside the vendor folder, is the one that its import path leads to. -/
theorem packageFolder?_of_importPath? (hproper : disk.tree.Proper) (hroot : disk.locate root = .ok names)
    (hlocate : disk.locate folder = .ok (names ++ rest)) (hfolder : disk.isFolder folder = true)
    (houtside : ∀ inner, rest = "vendor" :: inner → inner = []) :
    ∃ path found, importPath? disk folder (.module modulePath root) = some path ∧
      packageFolder? disk path (.module modulePath root) = some found ∧ disk.locate found = .ok (names ++ rest) := by
  obtain ⟨out, entries, hout, hat⟩ := Disk.folder_of_isFolder hfolder
  obtain rfl : out = names ++ rest := Except.ok.inj (hout.symm.trans hlocate)
  have hsegments := (Disk.located_of_locate hlocate).isSegment hproper
  have hrest : ∀ name ∈ rest, Path.IsSegment name := fun name hname =>
    hsegments name (List.mem_append_right names hname)
  have hfound := Disk.locate_foldl_entry_of_at? hroot (fun name hname => (hrest name hname).1) hat
  refine ⟨Packages.ownPath modulePath rest, rest.foldl Path.entry root, ?_, ?_, hfound⟩
  · rw [importPath?_module hroot hlocate, Packages.moduleImportPath_of_outside modulePath hrest houtside]
  · rw [packageFolder?, Packages.ownFolder?_ownPath modulePath root hrest, Option.filter_some,
      if_pos (Disk.isFolder_of_locate hfound hat)]

/-- The import paths of a module and its folders lead to each other: from a path with proper segments that does not
spell out the way into the vendor folder to its folder and back, and from a folder at or below the root that is not
inside the vendor folder to its path and back, wherever the root is and however it is spelled. -/
theorem module_roundTrip (disk : Disk) (modulePath : String) (root : Path) (names : List String)
    (hproper : disk.tree.Proper) (hroot : disk.locate root = .ok names) :
    (∀ path folder, (∀ segment ∈ importSegments path, Path.IsName segment) →
      ¬ (modulePath ++ "/vendor/").toList <+: path.toList →
      packageFolder? disk path (.module modulePath root) = some folder →
      importPath? disk folder (.module modulePath root) = some path) ∧
    ∀ folder rest, disk.locate folder = .ok (names ++ rest) → disk.isFolder folder = true →
      (∀ inner, rest = "vendor" :: inner → inner = []) →
      ∃ path found, importPath? disk folder (.module modulePath root) = some path ∧
        packageFolder? disk path (.module modulePath root) = some found ∧
        disk.locate found = .ok (names ++ rest) := by
  constructor
  · intro path folder hsegments hvendor h
    exact importPath?_of_packageFolder? hroot hsegments hvendor h
  · intro folder rest hlocate hfolder houtside
    exact packageFolder?_of_importPath? hproper hroot hlocate hfolder houtside

/-- A module with a package of its own, and with a vendored package whose path starts with that of the module. -/
def vendoringDisk : Disk :=
  ⟨.folder [("p", .folder [("api", .folder []), ("vendor", .folder [("m", .folder [("x", .folder [])])])])], ["p"]⟩

/-- Asked from the folder `api`, the vendored package and the vendor folder itself lead there and back. -/
theorem module_roundTrip_vendored :
    let root : Path := ⟨["api", ".."]⟩
    let vendored : Path := ⟨["api", "..", "vendor", "m", "x"]⟩
    let vendor : Path := ⟨["", "p", "vendor"]⟩
    vendoringDisk.locate root = .ok ["p"] ∧
      packageFolder? vendoringDisk "m/x" (.module "m" root) = some vendored ∧
      importPath? vendoringDisk vendored (.module "m" root) = some "m/x" ∧
      ∃ path found, importPath? vendoringDisk vendor (.module "m" root) = some path ∧
        packageFolder? vendoringDisk path (.module "m" root) = some found ∧
        vendoringDisk.locate found = .ok ["p", "vendor"] := by
  intro root vendored vendor
  have hroot : vendoringDisk.locate root = .ok ["p"] := by decide +kernel
  have hpackage : packageFolder? vendoringDisk "m/x" (.module "m" root) = some vendored := by decide +kernel
  have hproper : vendoringDisk.tree.Proper :=
    ⟨by decide, ⟨by decide, True.intro, by decide, ⟨by decide, ⟨by decide, True.intro, True.intro⟩, True.intro⟩,
      True.intro⟩, True.intro⟩
  have hsegments : ∀ segment ∈ importSegments "m/x", Path.IsName segment := by
    intro segment hsegment
    have hmem : segment ∈ ["m", "x"] := hsegment
    rcases List.mem_cons.mp hmem with rfl | hmem
    · exact ⟨by decide, by decide, by decide⟩
    · obtain rfl := List.mem_singleton.mp hmem
      exact ⟨by decide, by decide, by decide⟩
  obtain ⟨hback, hforth⟩ := module_roundTrip vendoringDisk "m" root ["p"] hproper hroot
  refine ⟨hroot, hpackage, hback "m/x" vendored hsegments (by decide) hpackage, ?_⟩
  refine hforth vendor ["vendor"] (by decide +kernel) (by decide +kernel) fun inner hinner => ?_
  exact (List.cons.inj hinner).2.symm

end Locator

end RouteDoc
