import RouteDoc.Packages
import RouteDoc.Proofs.FileTree
import RouteDoc.Proofs.TextSearch
import RouteDoc.Proofs.TypeDeclarations

/-!
Folders and import paths, there and back. A folder below a root has the path of its names as an import path, and
that path leads back to it (`namesBelow?_ofNames`, `joinImportPath_intercalate`), as long as names are proper ones.
A module gives its packages paths that lead to them again, except in its vendor folder, where a package goes by a
path of its own (`leadsBack_module`); below a root that belongs to no module the relative path does, except at the
root itself, which has no import path (`leadsBack_sourceRoot`, `sourceRoot_importPath?`).
-/

namespace RouteDoc

open RouteDoc.Text

/-! ## Paths of plain names -/

namespace Path

variable {names rest : List String} {name : String}

theorem entry_ofNames (h : ∀ other ∈ names, IsName other) (name : String) :
    (ofNames names).entry name = ofNames (names ++ [name]) := by
  rcases List.eq_nil_or_concat' names with rfl | ⟨init, last, rfl⟩
  · simp [entry, join, isAbsolute, ofNames, isEmpty]
  · have hlast : last ≠ "" := (h last (by simp)).1
    have hpieces : (ofNames (init ++ [last])).pieces = ("" :: init) ++ [last] := by simp [ofNames]
    have hgetLast : (ofNames (init ++ [last])).pieces.getLast? ≠ some "" := by
      rw [hpieces, List.getLast?_concat]
      simpa using hlast
    unfold entry join
    rw [if_neg (by simp [isAbsolute, isEmpty_ofNames]), if_neg hgetLast, hpieces]
    simp [ofNames]

theorem dropIdle_of_isName (h : ∀ name ∈ names, IsName name) : dropIdle names = names := by
  rcases List.eq_nil_or_concat' names with rfl | ⟨init, last, rfl⟩
  · rfl
  · obtain ⟨hempty, hdot, -⟩ := h last (by simp)
    simp [dropIdle, hempty, hdot]

theorem parent?_ofNames (h : ∀ other ∈ names ++ [name], IsName other) :
    (ofNames (names ++ [name])).parent? = some (ofNames names) := by
  have hidle := dropIdle_of_isName h
  have hidle' := dropIdle_of_isName fun other hother => h other (List.mem_append_left [name] hother)
  cases names with
  | nil => simp_all [parent?, ofNames]
  | cons first names =>
    have hdrop : (first :: (names ++ [name])).dropLast = first :: names := by
      rw [← List.cons_append, List.dropLast_concat]
    simp_all [parent?, ofNames]

theorem ancestorsUpTo_ofNames (n : Nat) (h : ∀ name ∈ names, IsName name) :
    ∀ p ∈ ancestorsUpTo n (ofNames names), ∃ above, above <+: names ∧ p = ofNames above := by
  induction n generalizing names with
  | zero => intro p hp; cases hp
  | succ n ih =>
    intro p hp
    rcases List.eq_nil_or_concat' names with rfl | ⟨init, last, rfl⟩
    · have hroot : (ofNames []).parent? = none := by decide
      rw [ancestorsUpTo, hroot, List.mem_singleton] at hp
      exact ⟨[], List.prefix_rfl, hp⟩
    · rw [ancestorsUpTo, parent?_ofNames h] at hp
      rcases List.mem_cons.mp hp with rfl | hp
      · exact ⟨init ++ [last], List.prefix_rfl, rfl⟩
      · obtain ⟨above, habove, hp⟩ := ih (fun other hother => h other (List.mem_append_left [last] hother)) p hp
        exact ⟨above, habove.trans (List.prefix_append init [last]), hp⟩

theorem behind?_append (base rest : List Component) : behind? base (base ++ rest) = some rest := by
  induction base with
  | nil => rfl
  | cons component base ih => simpa [behind?] using ih

theorem namesBelow?_ofNames (h : ∀ name ∈ names ++ rest, IsName name) :
    (ofNames names).namesBelow? (ofNames (names ++ rest)) = some rest := by
  have hnames : ∀ name ∈ names, IsName name := fun name hname => h name (List.mem_append_left rest hname)
  rw [namesBelow?, components_ofNames h, components_ofNames hnames, List.map_append, ← List.cons_append,
    behind?_append, Option.map_some, List.filterMap_map]
  exact congrArg some List.filterMap_some

end Path

/-! ## Import paths of plain names -/

/-- A name that may stand in an import path: a plain one without a slash. -/
def Path.IsSegment (name : String) : Prop :=
  Path.IsName name ∧ '/' ∉ name.toList

theorem split_intercalate_names {names : List String} (hne : names ≠ [])
    (h : ∀ name ∈ names, Path.IsSegment name) :
    split '/' ("/".intercalate names).toList = names.map String.toList := by
  have htext : ("/".intercalate names).toList = ['/'].intercalate (names.map String.toList) :=
    String.toList_intercalate
  rw [htext]
  refine split_intercalate (by simpa using hne) fun segment hsegment => ?_
  obtain ⟨name, hname, rfl⟩ := List.mem_map.mp hsegment
  exact (h name hname).2

theorem relativeImportPath?_ofNames {names rest : List String} (h : ∀ name ∈ names ++ rest, Path.IsName name) :
    relativeImportPath? (Path.ofNames names) (Path.ofNames (names ++ rest)) = some ("/".intercalate rest) := by
  rw [relativeImportPath?, Path.namesBelow?_ofNames h]
  rfl

theorem foldl_entry_ofNames {names rest : List String} (h : ∀ name ∈ names ++ rest, Path.IsName name) :
    rest.foldl Path.entry (Path.ofNames names) = Path.ofNames (names ++ rest) := by
  induction rest generalizing names with
  | nil => simp
  | cons name rest ih =>
    have hnames : ∀ other ∈ names, Path.IsName other := fun other hother => h other (by simp [hother])
    rw [List.foldl_cons, Path.entry_ofNames hnames, ih (by simpa using h)]
    simp

theorem joinImportPath_eq_foldl (base : Path) {rest : List String} (h : ∀ name ∈ rest, Path.IsSegment name) :
    joinImportPath base ("/".intercalate rest).toList = rest.foldl Path.entry base := by
  have hsegments : (split '/' ("/".intercalate rest).toList).filter (fun segment => !segment.isEmpty)
      = rest.map String.toList := by
    cases rest with
    | nil => rfl
    | cons name rest =>
      rw [split_intercalate_names (by simp) h, List.filter_eq_self]
      intro segment hsegment
      obtain ⟨other, hother, rfl⟩ := List.mem_map.mp hsegment
      simpa using (h other hother).1.1
  rw [joinImportPath, hsegments, List.foldl_map]
  simp

theorem joinImportPath_intercalate {names rest : List String} (hnames : ∀ name ∈ names, Path.IsName name)
    (hrest : ∀ name ∈ rest, Path.IsSegment name) :
    joinImportPath (Path.ofNames names) ("/".intercalate rest).toList = Path.ofNames (names ++ rest) := by
  have hall : ∀ name ∈ names ++ rest, Path.IsName name := by
    intro name hname
    rcases List.mem_append.mp hname with hname | hname
    · exact hnames name hname
    · exact (hrest name hname).1
  rw [joinImportPath_eq_foldl _ hrest, foldl_entry_ofNames hall]

theorem intercalate_ne_empty {names : List String} (hne : names ≠ []) (h : ∀ name ∈ names, Path.IsSegment name) :
    "/".intercalate names ≠ "" := by
  intro hempty
  have hsplit := split_intercalate_names hne h
  rw [hempty] at hsplit
  cases names with
  | nil => exact hne rfl
  | cons name names =>
    have hname : [] = name.toList := (List.cons.inj hsplit).1
    exact (h name List.mem_cons_self).1.1 (String.toList_eq_nil_iff.mp hname.symm)

/-! ## Packages -/

namespace Packages

/-- The folder has an import path, and its import path leads to it. -/
def LeadsBack (packages : Packages) (disk : Disk) (folder : Path) : Prop :=
  ∃ path, packages.importPath? disk folder = some path ∧ packages.folder? disk path = some folder

variable {disk : Disk} {names rest : List String} {packages : Packages}

/-- The path of the package that the names lead to from the root of a module. -/
def ownPath (modulePath : String) (names : List String) : String :=
  if names = [] then modulePath else modulePath ++ "/" ++ "/".intercalate names

/-- A package of a module that is not in its vendor folder goes by its place. -/
theorem moduleImportPath_of_outside (modulePath : String) (hrest : ∀ name ∈ rest, Path.IsSegment name)
    (houtside : ∀ inner, rest = "vendor" :: inner → inner = []) :
    Locator.moduleImportPath modulePath ("/".intercalate rest) = ownPath modulePath rest := by
  unfold ownPath
  by_cases hnil : rest = []
  · simp [hnil, Locator.moduleImportPath]
  · rw [Locator.moduleImportPath, if_neg (intercalate_ne_empty hnil hrest), if_neg hnil]
    split
    · rename_i vendored hvendored
      -- the names would start with the vendor folder and go on
      rw [after?_eq_some_iff] at hvendored
      have hsplit := split_intercalate_names hnil hrest
      have hcut := split_append (by decide : '/' ∉ ['v', 'e', 'n', 'd', 'o', 'r']) vendored
      simp only [List.cons_append, List.nil_append] at hvendored hcut
      rw [hvendored, hcut] at hsplit
      obtain ⟨name, inner, rfl⟩ := List.exists_cons_of_ne_nil hnil
      obtain ⟨hname, hinner⟩ := List.cons.inj hsplit
      have hvendor : name = "vendor" := by
        rw [← String.ofList_toList (s := name), ← hname]
      rw [houtside inner (by rw [hvendor])] at hinner
      exact absurd hinner (split_ne_nil '/' vendored)
    · rfl

theorem ownFolder?_ownPath (modulePath : String) (root : Path) (hrest : ∀ name ∈ rest, Path.IsSegment name) :
    Locator.ownFolder? modulePath root (ownPath modulePath rest) = some (rest.foldl Path.entry root) := by
  unfold Locator.ownFolder? ownPath
  by_cases hnil : rest = []
  · simp [hnil]
  · have hlonger : modulePath ++ "/" ++ "/".intercalate rest ≠ modulePath := by
      intro heq
      have hlength := congrArg (fun s : String => s.toList.length) heq
      simp at hlength
    have hafter : after? modulePath.toList (modulePath ++ "/" ++ "/".intercalate rest).toList
        = some ('/' :: ("/".intercalate rest).toList) := by
      rw [after?_eq_some_iff]
      simp
    simp only [hnil, if_false, hlonger, hafter]
    rw [joinImportPath_eq_foldl root hrest]

theorem leadsBack_module (modulePath : String) (hlocated : disk.Located (names ++ rest))
    (hroot : disk.Located names) (hfolder : disk.isFolder (Path.ofNames (names ++ rest)) = true)
    (hrest : ∀ name ∈ rest, Path.IsSegment name) (houtside : ∀ inner, rest = "vendor" :: inner → inner = []) :
    LeadsBack (.module modulePath (Path.ofNames names) :: packages) disk (Path.ofNames (names ++ rest)) := by
  have hpath : Locator.importPath? disk (Path.ofNames (names ++ rest)) (.module modulePath (Path.ofNames names))
      = some (ownPath modulePath rest) := by
    unfold Locator.importPath?
    dsimp only
    rw [Disk.canonicalOrSelf_of_locate (Disk.locate_ofNames hroot),
      Disk.canonicalOrSelf_of_locate (Disk.locate_ofNames hlocated), relativeImportPath?_ofNames hlocated.isName,
      Option.map_some, moduleImportPath_of_outside modulePath hrest houtside]
  refine ⟨ownPath modulePath rest, ?_, ?_⟩
  · rw [importPath?, List.findSome?_cons, hpath]
  · rw [folder?, List.findSome?_cons, Locator.packageFolder?, ownFolder?_ownPath modulePath _ hrest,
      foldl_entry_ofNames hlocated.isName, Option.filter_some, if_pos hfolder]

theorem sourceRoot_importPath? (hall : ∀ name ∈ names ++ rest, Path.IsName name)
    (hrest : ∀ name ∈ rest, Path.IsSegment name) :
    Locator.importPath? disk (Path.ofNames (names ++ rest)) (.sourceRoot (Path.ofNames names))
      = if rest = [] then none else some ("/".intercalate rest) := by
  unfold Locator.importPath?
  dsimp only
  rw [relativeImportPath?_ofNames hall]
  by_cases hnil : rest = []
  · simp [hnil]
  · simp [hnil, intercalate_ne_empty hnil hrest, Option.filter]

theorem leadsBack_sourceRoot (hlocated : disk.Located (names ++ rest))
    (hfolder : disk.isFolder (Path.ofNames (names ++ rest)) = true)
    (hrest : ∀ name ∈ rest, Path.IsSegment name) (hne : rest ≠ []) :
    LeadsBack (.sourceRoot (Path.ofNames names) :: packages) disk (Path.ofNames (names ++ rest)) := by
  have hnames : ∀ name ∈ names, Path.IsName name :=
    fun name hname => hlocated.isName name (List.mem_append_left rest hname)
  refine ⟨"/".intercalate rest, ?_, ?_⟩
  · rw [importPath?, List.findSome?_cons, sourceRoot_importPath? hlocated.isName hrest, if_neg hne]
  · rw [folder?, List.findSome?_cons, Locator.packageFolder?, joinImportPath_intercalate hnames hrest]
    simp [hfolder]

end Packages

end RouteDoc
