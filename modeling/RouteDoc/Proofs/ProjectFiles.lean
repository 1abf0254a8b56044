import Mathlib.Data.List.Sort
import RouteDoc.Proofs.FileListings
import RouteDoc.Proofs.HandlerPlaces

/-!
The files of a project. A scan walks the tree below the root and decides on the way what it passes over. What it finds
can be told from the names alone that lead from the root to a file (`Project.Eligible`, `mem_namesBelow_iff`), so the
walk lists exactly these files, each once and in the order of their names (`scan_eligible`).
-/

namespace RouteDoc

open RouteDoc.Text

/-! ## Trees without repeated names -/

namespace Node

/-- No folder at or below the node has two entries of one name. -/
def Distinct (node : Node) : Prop :=
  node.AllNames fun name later => name ∉ later

theorem Distinct.lookup_iff {entries : List (String × Node)} (h : (folder entries).Distinct) {name : String}
    {node : Node} : entries.lookup name = some node ↔ (name, node) ∈ entries := by
  induction entries with
  | nil => simp
  | cons entry entries ih =>
    obtain ⟨other, child⟩ := entry
    obtain ⟨hother, -, hrest⟩ := h
    rw [List.lookup_cons, List.mem_cons, Prod.mk.injEq]
    by_cases hname : name = other
    · subst hname
      have hnone : (name, node) ∉ entries := fun hmem => hother (List.mem_map_of_mem hmem)
      simp [hnone, eq_comm]
    · have htest : (name == other) = false := beq_eq_false_iff_ne.mpr hname
      simp [htest, hname, ih hrest]

/-- A tree as a disk holds it: entries go by plain names, and no folder has two of one name. -/
structure Tidy (node : Node) : Prop where
  regular : node.Regular
  distinct : node.Distinct

theorem Tidy.of_at? {node child : Node} {names : List String} (h : node.Tidy) (hat : node.at? names = some child) :
    child.Tidy := by
  exact ⟨h.regular.of_at? hat, (h.distinct.of_at? hat).2⟩

theorem Tidy.of_lookup {entries : List (String × Node)} {name : String} {node : Node}
    (h : (Node.folder entries).Tidy) (hlookup : entries.lookup name = some node) : Path.IsName name ∧ node.Tidy := by
  have hat : (Node.folder entries).at? [name] = some node := by simp [at?, entry?, hlookup]
  exact ⟨(h.regular.isSegment hat name List.mem_cons_self).1, h.of_at? hat⟩

theorem at?_file {bytes : ByteArray} {names : List String} (h : names ≠ []) : (Node.file bytes).at? names = none := by
  cases names with
  | nil => exact absurd rfl h
  | cons name names => rfl

end Node

/-! ## Names of Go files -/

theorem Text.endsWith_iff {word s : List Char} : endsWith word s = true ↔ word <:+ s := by
  rw [endsWith, startsWith, Option.isSome_iff_exists]
  constructor
  · rintro ⟨rest, hrest⟩
    rw [after?_eq_some_iff, List.reverse_eq_iff, List.reverse_append, List.reverse_reverse] at hrest
    exact ⟨rest.reverse, hrest.symm⟩
  · rintro ⟨front, rfl⟩
    exact ⟨front.reverse, after?_eq_some_iff.mpr List.reverse_append⟩

theorem Text.cutLast?_eq_some_iff {sep : Char} {s a b : List Char} :
    cutLast? sep s = some (a, b) ↔ s = a ++ sep :: b ∧ sep ∉ b := by
  constructor
  · intro h
    obtain ⟨⟨behind, before⟩, hcut, heq⟩ := Option.map_eq_some_iff.mp h
    obtain ⟨rfl, rfl⟩ := Prod.mk.inj heq
    obtain ⟨hsep, hs⟩ := Go.cut?_eq_some hcut
    rw [List.reverse_eq_iff] at hs
    exact ⟨by simpa using hs, by simpa using hsep⟩
  · rintro ⟨rfl, hsep⟩
    exact cutLast?_append a hsep

namespace Path

/-- The name of a file with the extension `go`, and not that of a test file. -/
@[mk_iff]
structure GoName (name : String) : Prop where
  extension : ['.', 'g', 'o'] <:+ name.toList
  stem : name.toList ≠ ['.', 'g', 'o']
  noTest : ¬ ['_', 't', 'e', 's', 't', '.', 'g', 'o'] <:+ name.toList

instance (name : String) : Decidable (GoName name) :=
  decidable_of_iff _ (goName_iff name).symm

instance (name : String) : Decidable (IsName name) :=
  inferInstanceAs (Decidable (_ ∧ _ ∧ _))

variable {p : Path} {name : String}

theorem extension?_eq_go_iff (hname : p.fileName? = some name) :
    p.extension? = some "go" ↔ ['.', 'g', 'o'] <:+ name.toList ∧ name.toList ≠ ['.', 'g', 'o'] := by
  rw [extension?, hname, Option.bind_some]
  constructor
  · intro h
    split at h
    · cases h
    · rename_i stem ext hstem hcut
      obtain ⟨hs, -⟩ := cutLast?_eq_some_iff.mp hcut
      have hext : ext = ['g', 'o'] := by
        rw [← String.toList_ofList (l := ext), Option.some.inj h]
        rfl
      rw [hs, hext]
      refine ⟨⟨stem, rfl⟩, fun hshort => hstem ?_⟩
      rw [List.append_left_eq_self.mp hshort]
    · cases h
  · rintro ⟨⟨stem, hs⟩, hlong⟩
    rw [cutLast?_eq_some_iff.mpr ⟨hs.symm, by decide⟩]
    cases stem with
    | nil => exact absurd hs.symm hlong
    | cons c stem => rfl

theorem GoName.isName (h : GoName name) : IsName name := by
  have hlength := h.extension.length_le
  refine ⟨?_, ?_, ?_⟩ <;> rintro rfl <;> simp at hlength

theorem isGoName_iff (hname : IsName name) : isGoName name = true ↔ GoName name := by
  have hempty : (Path.mk ["."]).isEmpty = false := by decide
  rw [← isGoSource_entry hempty hname, isGoSource, Bool.and_eq_true, decide_eq_true_eq,
    extension?_eq_go_iff (fileName?_entry hempty hname), fileName?_entry hempty hname, Option.any_some,
    Bool.not_eq_true', ← Bool.not_eq_true, endsWith_iff, goName_iff, and_assoc]

end Path

/-! ## What a scan counts -/

namespace Project

def IsHidden (name : String) : Prop :=
  name.toList.head? = some '.'

instance (name : String) : Decidable (IsHidden name) :=
  inferInstanceAs (Decidable (_ = _))

/-- A scan goes into folders of this name. -/
@[mk_iff]
structure Entered (name : String) : Prop where
  shown : ¬ IsHidden name
  ownCode : name ≠ "vendor" ∧ name ≠ "testdata"

/-- The file of a name, behind the folders from the root on, counts: nothing is hidden, no folder is one that is passed
over, and it is a Go source file. -/
@[mk_iff]
structure Eligible (folders : List String) (name : String) : Prop where
  entered : ∀ folder ∈ folders, Entered folder
  shown : ¬ IsHidden name
  source : Path.GoName name

instance (name : String) : Decidable (Entered name) :=
  decidable_of_iff _ (entered_iff name).symm

instance (folders : List String) (name : String) : Decidable (Eligible folders name) :=
  decidable_of_iff _ (eligible_iff folders name).symm

theorem isIgnored_file (name : String) (bytes : ByteArray) : isIgnored name (.file bytes) = false ↔ ¬ IsHidden name := by
  simp [isIgnored, Node.isFolder, IsHidden]

theorem isIgnored_folder (name : String) (entries : List (String × Node)) :
    isIgnored name (.folder entries) = false ↔ Entered name := by
  rw [isIgnored, Bool.or_eq_false_iff, decide_eq_false_iff_not, Node.isFolder, Bool.true_and, Bool.or_eq_false_iff,
    decide_eq_false_iff_not, decide_eq_false_iff_not, entered_iff]
  rfl

theorem eligible_cons_iff {folder : String} {folders : List String} {name : String} :
    Eligible (folder :: folders) name ↔ Entered folder ∧ Eligible folders name := by
  rw [eligible_iff, eligible_iff, List.forall_mem_cons, and_assoc]

theorem head?_of_mem_namesAt {name : String} {node : Node} {names : List String} (h : names ∈ namesAt name node) :
    names.head? = some name := by
  cases node with
  | file bytes =>
    rw [namesAt] at h
    split at h
    · rw [List.mem_singleton.mp h]
      rfl
    · cases h
  | folder entries =>
    rw [namesAt] at h
    obtain ⟨rest, -, rfl⟩ := List.mem_map.mp h
    rfl

theorem mem_namesBelow_iff_exists {entries : List (String × Node)} {names : List String} :
    names ∈ namesBelow entries ↔
      ∃ name node, (name, node) ∈ entries ∧ isIgnored name node = false ∧ names ∈ namesAt name node := by
  induction entries with
  | nil => simp [namesBelow]
  | cons entry entries ih =>
    obtain ⟨name, node⟩ := entry
    rw [namesBelow, List.mem_append, ih]
    constructor
    · rintro (hfirst | ⟨other, child, hmem, hfound⟩)
      · split at hfirst
        · cases hfirst
        · rename_i hkept
          exact ⟨name, node, List.mem_cons_self, Bool.eq_false_of_not_eq_true hkept, hfirst⟩
      · exact ⟨other, child, List.mem_cons_of_mem _ hmem, hfound⟩
    · rintro ⟨other, child, hmem, hkept, hfound⟩
      rcases List.mem_cons.mp hmem with heq | hmem
      · obtain ⟨rfl, rfl⟩ := Prod.mk.inj heq
        exact .inl (by rwa [hkept])
      · exact .inr ⟨other, child, hmem, hkept, hfound⟩

/-- What is found below an entry is found at the entry of its first name. -/
theorem cons_mem_namesBelow_iff {entries : List (String × Node)} (h : (Node.folder entries).Distinct) {name : String}
    {rest : List String} : name :: rest ∈ namesBelow entries ↔
      ∃ node, entries.lookup name = some node ∧ isIgnored name node = false ∧ name :: rest ∈ namesAt name node := by
  rw [mem_namesBelow_iff_exists]
  constructor
  · rintro ⟨other, node, hmem, hkept, hfound⟩
    obtain rfl : name = other := Option.some.inj (head?_of_mem_namesAt hfound)
    exact ⟨node, h.lookup_iff.mpr hmem, hkept, hfound⟩
  · rintro ⟨node, hlookup, hkept, hfound⟩
    exact ⟨name, node, h.lookup_iff.mp hlookup, hkept, hfound⟩

theorem namesBelow_ne_nil {entries : List (String × Node)} (h : (Node.folder entries).Regular) :
    [] ∉ namesBelow entries := fun hmem => (below_namesBelow entries h [] hmem).1 rfl

/-- What the walk finds below a folder is told by the names on the way alone. -/
theorem concat_mem_namesBelow_iff {entries : List (String × Node)} (h : (Node.folder entries).Tidy)
    {folders : List String} {name : String} : folders ++ [name] ∈ namesBelow entries ↔
      Eligible folders name ∧ ∃ bytes, (Node.folder entries).at? (folders ++ [name]) = some (.file bytes) := by
  induction folders generalizing entries with
  | nil =>
    rw [List.nil_append, cons_mem_namesBelow_iff h.distinct]
    cases hfound : entries.lookup name with
    | none => simp [Node.at?, Node.entry?, hfound]
    | some node =>
      obtain ⟨hname, htidy⟩ := h.of_lookup hfound
      cases node with
      | file bytes =>
        simp [Node.at?, Node.entry?, hfound, isIgnored_file, namesAt, eligible_iff, Path.isGoName_iff hname]
      | folder inner =>
        simp [Node.at?, Node.entry?, hfound, namesAt, namesBelow_ne_nil htidy.regular]
  | cons folder folders ih =>
    rw [List.cons_append, cons_mem_namesBelow_iff h.distinct, eligible_cons_iff]
    cases hfound : entries.lookup folder with
    | none => simp [Node.at?, Node.entry?, hfound]
    | some node =>
      cases node with
      | file bytes =>
        have hnone : (Node.file bytes).at? (folders ++ [name]) = none := Node.at?_file (by simp)
        simp [Node.at?, Node.entry?, hfound, namesAt, hnone]
      | folder inner =>
        have hinner := ih (h.of_lookup hfound).2
        simp [Node.at?, Node.entry?, hfound, isIgnored_folder, namesAt, hinner, and_assoc]

theorem mem_namesBelow_iff {entries : List (String × Node)} (h : (Node.folder entries).Tidy) {names : List String} :
    names ∈ namesBelow entries ↔ ∃ folders name, names = folders ++ [name] ∧ Eligible folders name ∧
      ∃ bytes, (Node.folder entries).at? names = some (.file bytes) := by
  constructor
  · intro hmem
    rcases List.eq_nil_or_concat' names with rfl | ⟨folders, name, rfl⟩
    · exact absurd hmem (namesBelow_ne_nil h.regular)
    · exact ⟨folders, name, rfl, (concat_mem_namesBelow_iff h).mp hmem⟩
  · rintro ⟨folders, name, rfl, hfound⟩
    exact (concat_mem_namesBelow_iff h).mpr hfound

/-! ## Each file once, and in order -/

theorem head?_of_mem_namesBelow {entries : List (String × Node)} {names : List String}
    (h : names ∈ namesBelow entries) : ∃ name ∈ entries.map Prod.fst, names.head? = some name := by
  obtain ⟨name, node, hmem, -, hfound⟩ := mem_namesBelow_iff_exists.mp h
  exact ⟨name, List.mem_map_of_mem hmem, head?_of_mem_namesAt hfound⟩

mutual

theorem nodup_namesAt (name : String) (node : Node) (h : node.Distinct) : (namesAt name node).Nodup := by
  cases node with
  | file bytes =>
    rw [namesAt]
    split <;> simp
  | folder entries =>
    rw [namesAt]
    exact (nodup_namesBelow entries h).map fun _ _ heq => (List.cons.inj heq).2

theorem nodup_namesBelow (entries : List (String × Node)) (h : (Node.folder entries).Distinct) :
    (namesBelow entries).Nodup := by
  match entries with
  | [] => exact List.nodup_nil
  | (name, node) :: rest =>
    obtain ⟨hname, hnode, hrest⟩ := h
    rw [namesBelow, List.nodup_append]
    refine ⟨?_, nodup_namesBelow rest hrest, ?_⟩
    · split
      · exact List.nodup_nil
      · exact nodup_namesAt name node hnode
    · -- what is found at the entry starts with its name, and no other entry has it
      rintro names hfound _ hother rfl
      obtain ⟨other, hmem, hhead⟩ := head?_of_mem_namesBelow hother
      split at hfound
      · cases hfound
      · rw [head?_of_mem_namesAt hfound] at hhead
        exact hname (Option.some.inj hhead ▸ hmem)

end

end Project

theorem Path.namesLe_iff {a b : List String} : namesLe a b = true ↔ a < b ∨ a = b := by
  induction a generalizing b with
  | nil => cases b <;> simp [namesLe, componentsLe]
  | cons x a ih =>
    cases b with
    | nil => simp [namesLe, componentsLe]
    | cons y b =>
      simp only [namesLe] at ih
      simp only [namesLe, List.map_cons, componentsLe, Bool.or_eq_true, Bool.and_eq_true, decide_eq_true_eq,
        Component.before, Component.name.injEq, ih, List.cons_lt_cons_iff, List.cons.injEq]
      tauto

theorem pairwise_mergeSort_namesLe {found : List (List String)} (h : found.Nodup) :
    (found.mergeSort Path.namesLe).Pairwise (· < ·) := by
  have hsorted : (found.mergeSort Path.namesLe).Pairwise fun a b => Path.namesLe a b = true :=
    @List.pairwise_mergeSort _ Path.namesLe (fun _ _ _ => Path.componentsLe_trans)
      (fun a b => by simpa [Path.namesLe] using Path.componentsLe_total (a.map .name) (b.map .name)) found
  have hnodup : (found.mergeSort Path.namesLe).Nodup := (List.mergeSort_perm found Path.namesLe).nodup_iff.mpr h
  exact hsorted.imp₂ (fun _ _ hle hne => (Path.namesLe_iff.mp hle).resolve_right hne) hnodup

/-- Behind one folder plain names are told apart by the components of their paths. -/
theorem Path.components_foldl_entry_inj {p : Path} {a b : List String} (hempty : p.isEmpty = false)
    (ha : ∀ name ∈ a, IsName name) (hb : ∀ name ∈ b, IsName name) :
    (a.foldl entry p).components = (b.foldl entry p).components ↔ a = b := by
  have hname : Function.Injective Component.name := fun _ _ heq => Component.name.inj heq
  rw [components_foldl_entry hempty ha, components_foldl_entry hempty hb, List.append_cancel_left_eq,
    (List.map_injective_iff.mpr hname).eq_iff]

/-! ## The scan of a project -/

namespace Disk

variable {disk : Disk} {root : Path} {above names : List String}

theorem isFile_foldl_entry_iff (hroot : disk.locate root = .ok above) (hnames : ∀ name ∈ names, Path.IsName name) :
    disk.isFile (names.foldl Path.entry root) = true ↔
      ∃ bytes, disk.tree.at? (above ++ names) = some (.file bytes) := by
  constructor
  · intro h
    unfold isFile node at h
    cases hl : disk.locate (names.foldl Path.entry root) with
    | error fault => simp [hl] at h
    | ok out =>
      obtain rfl := locate_foldl_entry hroot hnames hl
      obtain ⟨found, hat⟩ := (located_of_locate hl).there
      cases found with
      | file bytes => exact ⟨bytes, hat⟩
      | folder entries => simp [hl, hat] at h
  · rintro ⟨bytes, hat⟩
    simp [isFile, node, locate_foldl_entry_of_at? hroot hnames hat, hat]

end Disk

namespace Project

/-- The names lead from the root to a file. -/
@[mk_iff]
structure FileBelow (disk : Disk) (root : Path) (names : List String) : Prop where
  isName : ∀ name ∈ names, Path.IsName name
  isFile : disk.isFile (names.foldl Path.entry root) = true

instance (disk : Disk) (root : Path) (names : List String) : Decidable (FileBelow disk root names) :=
  decidable_of_iff _ (fileBelow_iff disk root names).symm

variable {disk : Disk} {root : Path} {above names : List String} {entries : List (String × Node)}

theorem fileBelow_iff_at? (htree : disk.tree.Tidy) (hroot : disk.locate root = .ok above)
    (hat : disk.tree.at? above = some (.folder entries)) :
    FileBelow disk root names ↔ ∃ bytes, (Node.folder entries).at? names = some (.file bytes) := by
  have happend : disk.tree.at? (above ++ names) = (Node.folder entries).at? names := by
    rw [Node.at?_append, hat, Option.bind_some]
  constructor
  · rintro ⟨hnames, hfile⟩
    rwa [Disk.isFile_foldl_entry_iff hroot hnames, happend] at hfile
  · rintro ⟨bytes, hfile⟩
    have hnames : ∀ name ∈ names, Path.IsName name := fun name hname =>
      ((htree.of_at? hat).regular.isSegment hfile name hname).1
    exact ⟨hnames, (Disk.isFile_foldl_entry_iff hroot hnames).mpr ⟨bytes, by rwa [happend]⟩⟩

/-- The names that lead to the files of a project, in order. -/
def foundNames (entries : List (String × Node)) : List (List String) :=
  (namesBelow entries).mergeSort Path.namesLe

theorem scan_eq (htree : disk.tree.Tidy) (hroot : disk.locate root = .ok above)
    (hat : disk.tree.at? above = some (.folder entries)) (session : Session) :
    scan disk root session = (((foundNames entries).map fun names => names.foldl Path.entry root, []), session) := by
  rw [scan, files_eq hroot hat (htree.of_at? hat).regular]
  rfl

theorem mem_foundNames_iff (htree : disk.tree.Tidy) (hroot : disk.locate root = .ok above)
    (hat : disk.tree.at? above = some (.folder entries)) : names ∈ foundNames entries ↔
      ∃ folders name, names = folders ++ [name] ∧ Eligible folders name ∧ FileBelow disk root names := by
  rw [foundNames, List.mem_mergeSort, mem_namesBelow_iff (htree.of_at? hat), fileBelow_iff_at? htree hroot hat]

theorem increasing_foundNames (h : (Node.folder entries).Distinct) : (foundNames entries).Pairwise (· < ·) :=
  pairwise_mergeSort_namesLe (nodup_namesBelow entries h)

/-- **A scan finds exactly the eligible files.** Let a path lead to a folder of a tree. Its scan succeeds without a
warning, and what it finds are the files below the folder with a Go name, such that neither the file nor a folder on the
way is hidden and no folder on the way is called `vendor` or `testdata`. No file is found twice, by whatever spelling,
and they are ordered by their names from the folder on, one by one. The name of the folder itself does not matter. -/
theorem scan_eligible (disk : Disk) (root : Path) (htree : disk.tree.Tidy) (hroot : disk.isFolder root = true)
    (session : Session) :
    ∃ found : List (List String),
      scan disk root session = ((found.map fun names => names.foldl Path.entry root, []), session) ∧
      (∀ names, names ∈ found ↔
        ∃ folders name, names = folders ++ [name] ∧ Eligible folders name ∧ FileBelow disk root names) ∧
      found.Pairwise (· < ·) ∧
      (found.map fun names => names.foldl Path.entry root).Pairwise fun p q => p.same q = false := by
  obtain ⟨above, entries, hl, hat⟩ := Disk.folder_of_isFolder hroot
  have hincreasing := increasing_foundNames (htree.of_at? hat).distinct
  refine ⟨foundNames entries, scan_eq htree hl hat session, fun names => mem_foundNames_iff htree hl hat, hincreasing, ?_⟩
  rw [List.pairwise_map]
  refine hincreasing.imp_of_mem fun {a b} ha hb hlt => ?_
  obtain ⟨-, -, -, -, hfile⟩ := (mem_foundNames_iff htree hl hat).mp ha
  obtain ⟨-, -, -, -, hfile'⟩ := (mem_foundNames_iff htree hl hat).mp hb
  rw [Path.same, decide_eq_false_iff_not,
    Path.components_foldl_entry_inj (Disk.isEmpty_of_locate hl) hfile.isName hfile'.isName]
  rintro rfl
  exact List.lt_irrefl a hlt

/-- A project in a hidden folder. Beside its packages lie a hidden draft and the code of others. -/
def draftProject : Disk :=
  let source := Node.file "package p\n".toUTF8
  ⟨.folder [(".w", .folder [("b.go", source), (".a.go", source), ("vendor", .folder [("c.go", source)]),
    ("api", .folder [("vendor.go", source), ("d_test.go", source)])])], [".w"]⟩

theorem tidy_draftProject : draftProject.tree.Tidy := by
  refine ⟨⟨by decide, ⟨by decide, True.intro, by decide, True.intro, by decide, ⟨by decide, True.intro, True.intro⟩,
    by decide, ⟨by decide, True.intro, by decide, True.intro, True.intro⟩, True.intro⟩, True.intro⟩, ?_⟩
  exact ⟨by decide, ⟨by decide, True.intro, by decide, True.intro, by decide, ⟨by decide, True.intro, True.intro⟩,
    by decide, ⟨by decide, True.intro, by decide, True.intro, True.intro⟩, True.intro⟩, True.intro⟩

/-- The scan finds the file of each package, but neither the draft, nor the test, nor the code of others. -/
theorem scan_eligible_draft : draftProject.isFolder ⟨["."]⟩ = true ∧ ∃ found : List (List String),
    scan draftProject ⟨["."]⟩ {} = ((found.map fun names => names.foldl Path.entry ⟨["."]⟩, []), {}) ∧
    ["b.go"] ∈ found ∧ ["api", "vendor.go"] ∈ found ∧
    [".a.go"] ∉ found ∧ ["vendor", "c.go"] ∉ found ∧ ["api", "d_test.go"] ∉ found := by
  have hroot : draftProject.isFolder ⟨["."]⟩ = true := by decide
  obtain ⟨found, hscan, hfound, -⟩ := scan_eligible draftProject ⟨["."]⟩ tidy_draftProject hroot {}
  have hnot (folders : List String) (name : String) (h : ¬ Eligible folders name) : folders ++ [name] ∉ found := by
    rw [hfound]
    rintro ⟨others, other, heq, heligible, -⟩
    obtain ⟨rfl, hname⟩ := List.append_inj' heq rfl
    exact h ((List.cons.inj hname).1 ▸ heligible)
  refine ⟨hroot, found, hscan, (hfound _).mpr ⟨[], "b.go", rfl, by decide, by decide⟩,
    (hfound _).mpr ⟨["api"], "vendor.go", rfl, by decide, by decide⟩, hnot [] _ (by decide),
    hnot ["vendor"] _ (by decide), hnot ["api"] _ (by decide)⟩

end Project

end RouteDoc
