import RouteDoc.Proofs.ProjectFiles

/-!
The packages of a project. The files of one package are listed without a walk, and nothing is looked at but the folder
itself. A scan of the project that comes through the folder finds the same files there, in the same order, except that
only the package lists Go files with hidden names (`filesIn_scan`). So the two agree exactly if there are none
(`packageFiles_scanned_iff`).
-/

namespace RouteDoc

/-! ## The folder of an entry -/

namespace Path

variable {p : Path} {name : String}

theorem filterMap_dropIdle (pieces : List String) :
    (dropIdle pieces).filterMap Component.ofPiece? = pieces.filterMap Component.ofPiece? := by
  induction pieces using List.reverseRecOn with
  | nil => rfl
  | append_singleton init last ih =>
    by_cases hidle : last = "" ∨ last = "."
    · have hdrop : dropIdle (init ++ [last]) = dropIdle init := by simp [dropIdle, hidle]
      have hnone : Component.ofPiece? last = none := by simp [Component.ofPiece?, hidle]
      rw [hdrop, ih, List.filterMap_append, List.filterMap_cons_none hnone, List.filterMap_nil, List.append_nil]
    · have hdrop : dropIdle (init ++ [last]) = init ++ [last] := by simp [dropIdle, hidle]
      rw [hdrop]

theorem dropIdle_concat (init : List String) (hname : IsName name) : dropIdle (init ++ [name]) = init ++ [name] := by
  simp [dropIdle, hname.1, hname.2.1]

theorem dropIdle_cons {first : String} (hempty : first ≠ "") (hdot : first ≠ ".") (rest : List String) :
    dropIdle (first :: rest) = first :: dropIdle rest := by
  rw [dropIdle, List.reverse_cons, List.dropWhile_append]
  split
  · rename_i hnil
    rw [dropIdle, List.isEmpty_iff.mp hnil]
    simp [hempty, hdot]
  · rw [List.reverse_append, dropIdle]
    rfl

theorem parent?_of_pieces {first : String} {rest : List String} (hp : p.pieces = first :: (rest ++ [name]))
    (hname : IsName name) :
    ∃ q, p.parent? = some q ∧ q.components = Component.ofFirst first ++ rest.filterMap Component.ofPiece? := by
  obtain ⟨next, more, hcons⟩ : ∃ next more, rest ++ [name] = next :: more := List.exists_cons_of_ne_nil (by simp)
  have hbody := dropIdle_concat rest hname
  have hdrop : (rest ++ [name]).dropLast = rest := List.dropLast_concat
  rw [hcons] at hp hbody hdrop
  unfold parent?
  rw [hp]
  by_cases hroot : first = ""
  · subst hroot
    simp only [hbody, hdrop]
    rw [← filterMap_dropIdle rest]
    split
    · rename_i hnil
      exact ⟨_, rfl, by rw [hnil]; rfl⟩
    · rename_i hne
      obtain ⟨piece, pieces, houter⟩ := List.exists_cons_of_ne_nil hne
      refine ⟨_, rfl, ?_⟩
      rw [houter]
      rfl
  · by_cases hcurrent : first = "."
    · subst hcurrent
      simp only [hbody, hdrop]
      exact ⟨_, rfl, by rw [← filterMap_dropIdle rest]; rfl⟩
    · have hall := dropIdle_cons hroot hcurrent (next :: more)
      have hlast : (first :: next :: more).dropLast = first :: rest := by rw [List.dropLast_cons_cons, hdrop]
      split
      · rename_i heq
        exact absurd (List.cons.inj heq).1 hroot
      · rename_i heq
        exact absurd (List.cons.inj heq).1 hcurrent
      · rw [hall, hbody]
        simp only [hlast, dropIdle_cons hroot hcurrent rest]
        refine ⟨_, rfl, ?_⟩
        rw [components_eq (by simp [isEmpty, hroot]) rfl, filterMap_dropIdle]

theorem parent?_entry (hempty : p.isEmpty = false) (hname : IsName name) :
    ∃ q, (p.entry name).parent? = some q ∧ q.components = p.components := by
  rcases Disk.pieces_entry name hempty with ⟨-, hpieces⟩ | ⟨init, hinit, hpieces⟩
  · cases hp : p.pieces with
    | nil => simp [isEmpty, hp] at hempty
    | cons first rest =>
      rw [hp, List.cons_append] at hpieces
      obtain ⟨q, hq, hcomponents⟩ := parent?_of_pieces hpieces hname
      exact ⟨q, hq, hcomponents.trans (components_eq hempty hp).symm⟩
  · cases init with
    | nil => simp [isEmpty, hinit] at hempty
    | cons first rest =>
      rw [List.cons_append] at hinit hpieces
      obtain ⟨q, hq, hcomponents⟩ := parent?_of_pieces hpieces hname
      refine ⟨q, hq, hcomponents.trans ?_⟩
      -- the slash at the end of the folder stands for nothing
      rw [components_eq hempty hinit, List.filterMap_append]
      simp [Component.ofPiece?]

end Path

/-! ## The packages of a project -/

theorem Node.Distinct.pairwise {entries : List (String × Node)} (h : (folder entries).Distinct) :
    entries.Pairwise fun a b => a.1 ≠ b.1 := by
  induction entries with
  | nil => exact .nil
  | cons entry entries ih =>
    obtain ⟨name, node⟩ := entry
    refine List.pairwise_cons.mpr ⟨fun other hother heq => h.1 ?_, ih h.2.2⟩
    rw [show name = other.1 from heq]
    exact List.mem_map_of_mem hother

theorem nodup_goNames {entries : List (String × Node)} (h : (Node.folder entries).Distinct) :
    (goNames entries).Nodup := by
  rw [goNames, List.Nodup, List.pairwise_filterMap]
  refine h.pairwise.imp fun {a b} hne found hfound other hother heq => hne ?_
  obtain rfl := Option.some.inj (Option.ite_none_right_eq_some.mp hfound).2
  obtain rfl := Option.some.inj (Option.ite_none_right_eq_some.mp hother).2
  exact (List.cons.inj heq).1

theorem mem_goNames_iff {entries : List (String × Node)} (h : (Node.folder entries).Tidy) {names : List String} :
    names ∈ goNames entries ↔ ∃ name, names = [name] ∧ Path.GoName name ∧
      ∃ bytes, (Node.folder entries).at? [name] = some (.file bytes) := by
  have hat (name : String) : (Node.folder entries).at? [name] = entries.lookup name := by
    simp only [Node.at?, Node.entry?]
    cases entries.lookup name <;> rfl
  rw [goNames, List.mem_filterMap]
  constructor
  · rintro ⟨⟨name, node⟩, hmem, hfound⟩
    obtain ⟨hkept, hname⟩ := Option.ite_none_right_eq_some.mp hfound
    obtain rfl := Option.some.inj hname
    rw [← h.distinct.lookup_iff] at hmem
    cases node with
    | folder inner => simp [Node.isFolder] at hkept
    | file bytes =>
      have hgo : Path.isGoName name = true := by simpa [Node.isFolder] using hkept
      exact ⟨name, rfl, (Path.isGoName_iff (h.of_lookup hmem).1).mp hgo, bytes, (hat name).trans hmem⟩
  · rintro ⟨name, rfl, hgo, bytes, hfile⟩
    rw [hat] at hfile
    refine ⟨(name, .file bytes), h.distinct.lookup_iff.mp hfile, ?_⟩
    simp [Node.isFolder, (Path.isGoName_iff (h.of_lookup hfile).1).mpr hgo]

def Path.isHidden (p : Path) : Bool :=
  p.fileName?.any fun name => decide (Project.IsHidden name)

theorem Path.isHidden_entry {p : Path} {name : String} (hempty : p.isEmpty = false) (hname : IsName name) :
    (p.entry name).isHidden = decide (Project.IsHidden name) := by
  rw [isHidden, fileName?_entry hempty hname, Option.any_some]

namespace Project

/-- The files that lie in the folder itself. -/
def filesIn (folder : Path) (files : List Path) : List Path :=
  files.filter fun p => p.parent?.any (·.same folder)

theorem filesIn_map {root : Path} {folders : List String} {found : List (List String)} (hempty : root.isEmpty = false)
    (hfound : Below found) (hfolders : ∀ name ∈ folders, Path.IsName name) :
    filesIn (folders.foldl Path.entry root) (found.map fun names => names.foldl Path.entry root)
      = (found.filter fun names => names.dropLast = folders).map fun names => names.foldl Path.entry root := by
  rw [filesIn, List.filter_map]
  congr 1
  refine List.filter_congr fun names hnames => ?_
  obtain ⟨hne, hnames⟩ := hfound names hnames
  obtain ⟨init, last, rfl⟩ := (List.eq_nil_or_concat' names).resolve_left hne
  obtain ⟨hinit, hlast⟩ := List.forall_mem_append.mp hnames
  obtain ⟨q, hparent, hq⟩ := Path.parent?_entry (Path.isEmpty_foldl_entry hempty init) (hlast last (by simp))
  rw [Function.comp_apply, List.foldl_concat, hparent, Option.any_some, List.dropLast_concat, Path.same, hq,
    decide_eq_decide]
  exact Path.components_foldl_entry_inj hempty hinit hfolders

/-- The names that the scan finds directly in a folder it comes through are the Go names that the folder lists, without
those that are hidden. -/
theorem filter_foundNames {entries inner : List (String × Node)} {folders : List String}
    (h : (Node.folder entries).Tidy) (hentered : ∀ folder ∈ folders, Entered folder)
    (hinner : (Node.folder entries).at? folders = some (.folder inner)) :
    (foundNames entries).filter (fun names => names.dropLast = folders)
      = (((goNames inner).mergeSort Path.namesLe).filter fun names => names.all (¬ IsHidden ·)).map (folders ++ ·) := by
  have htidy := h.of_at? hinner
  have hat (name : String) : (Node.folder entries).at? (folders ++ [name]) = (Node.folder inner).at? [name] := by
    rw [Node.at?_append, hinner, Option.bind_some]
  -- both are in strict order, so it is enough that they hold the same names
  refine List.Pairwise.eq_of_mem_iff ((increasing_foundNames h.distinct).filter _) ?_ fun names => ?_
  · rw [List.pairwise_map]
    exact ((pairwise_mergeSort_namesLe (nodup_goNames htidy.distinct)).filter _).imp List.append_left_lt
  · rw [List.mem_filter, foundNames, List.mem_mergeSort, mem_namesBelow_iff h, decide_eq_true_eq]
    simp only [List.mem_map, List.mem_filter, List.mem_mergeSort, mem_goNames_iff htidy]
    constructor
    · rintro ⟨⟨_, name, rfl, heligible, hfile⟩, rfl⟩
      rw [List.dropLast_concat] at hat ⊢
      exact ⟨[name], ⟨⟨name, rfl, heligible.source, by rwa [← hat]⟩, by simpa using heligible.shown⟩, rfl⟩
    · rintro ⟨_, ⟨⟨name, rfl, hgo, hfile⟩, hshown⟩, rfl⟩
      refine ⟨⟨folders, name, rfl, ⟨hentered, by simpa using hshown, hgo⟩, by rwa [hat]⟩, List.dropLast_concat⟩

variable {disk : Disk} {root : Path} {above folders : List String} {entries inner : List (String × Node)}

/-- The files of a package in the scan of its project are those that the package lists, without the hidden ones. -/
theorem filesIn_scan (htree : disk.tree.Tidy) (hroot : disk.locate root = .ok above)
    (hat : disk.tree.at? above = some (.folder entries)) (hentered : ∀ folder ∈ folders, Entered folder)
    (hinner : (Node.folder entries).at? folders = some (.folder inner)) :
    filesIn (folders.foldl Path.entry root) ((foundNames entries).map fun names => names.foldl Path.entry root)
      = (listing (folders.foldl Path.entry root) (goNames inner)).filter fun p => !p.isHidden := by
  have h := htree.of_at? hat
  have hempty := Disk.isEmpty_of_locate hroot
  have hfolders : ∀ name ∈ folders, Path.IsName name := fun name hname => (h.regular.isSegment hinner name hname).1
  have hbelow : Below (foundNames entries) := fun names hnames =>
    below_namesBelow entries h.regular names (List.mem_mergeSort.mp hnames)
  rw [filesIn_map hempty hbelow hfolders, filter_foundNames h hentered hinner, List.map_map, listing, List.filter_map]
  simp only [Function.comp_def, List.foldl_append]
  congr 1
  refine List.filter_congr fun names hnames => ?_
  obtain ⟨name, rfl, hgo, -⟩ := (mem_goNames_iff (h.of_at? hinner)).mp (List.mem_mergeSort.mp hnames)
  simp [Path.isHidden_entry (Path.isEmpty_foldl_entry hempty folders) hgo.isName]

theorem forall_listing_shown_iff {folder : Path} {names : List String} (htree : disk.tree.Tidy)
    (hfolder : disk.locate folder = .ok names) (hat : disk.tree.at? names = some (.folder inner)) :
    (∀ p ∈ listing folder (goNames inner), (!p.isHidden) = true) ↔
      ∀ name, IsHidden name → Path.GoName name → disk.isFile (folder.entry name) = false := by
  have htidy := htree.of_at? hat
  have hempty := Disk.isEmpty_of_locate hfolder
  have hfile {name : String} (hgo : Path.GoName name) : disk.isFile (folder.entry name) = true ↔
      ∃ bytes, (Node.folder inner).at? [name] = some (.file bytes) := by
    have hiff : disk.isFile ([name].foldl Path.entry folder) = true ↔ _ :=
      Disk.isFile_foldl_entry_iff hfolder (by simpa using hgo.isName)
    rwa [Node.at?_append, hat, Option.bind_some] at hiff
  simp only [listing, List.forall_mem_map, List.mem_mergeSort, mem_goNames_iff htidy]
  constructor
  · intro h name hname hgo
    by_contra hthere
    have hshown := h [name] ⟨name, rfl, hgo, (hfile hgo).mp (Bool.eq_true_of_not_eq_false hthere)⟩
    rw [List.foldl_cons, List.foldl_nil, Path.isHidden_entry hempty hgo.isName] at hshown
    simp [hname] at hshown
  · rintro h _ ⟨name, rfl, hgo, hthere⟩
    rw [List.foldl_cons, List.foldl_nil, Path.isHidden_entry hempty hgo.isName, Bool.not_eq_true', decide_eq_false_iff_not]
    intro hname
    have hyes := (hfile hgo).mpr hthere
    rw [h name hname hgo] at hyes
    cases hyes

/-- **The files of a package, listed alone and found by a scan.** Let a scan of a project come through a folder. The
package in that folder can be listed. The files that the scan finds directly in it are those that the package lists,
in the same order, without the ones that are hidden; so both are the same exactly if the folder has no Go file with a
hidden name. -/
theorem packageFiles_scanned_iff (disk : Disk) (root : Path) (folders : List String) (htree : disk.tree.Tidy)
    (hroot : disk.isFolder root = true) (hfolders : ∀ folder ∈ folders, Path.IsName folder ∧ Entered folder)
    (hfolder : disk.isFolder (folders.foldl Path.entry root) = true) (session : Session) :
    ∃ scanned listed,
      scan disk root session = ((scanned, []), session) ∧
      disk.packageFiles (folders.foldl Path.entry root) = .ok listed ∧
      filesIn (folders.foldl Path.entry root) scanned = listed.filter (fun p => !p.isHidden) ∧
      (listed = filesIn (folders.foldl Path.entry root) scanned ↔
        ∀ name, IsHidden name → Path.GoName name →
          disk.isFile ((folders.foldl Path.entry root).entry name) = false) := by
  obtain ⟨above, entries, hl, hat⟩ := Disk.folder_of_isFolder hroot
  obtain ⟨names, inner, hl', hat'⟩ := Disk.folder_of_isFolder hfolder
  obtain rfl := Disk.locate_foldl_entry hl (fun name hname => (hfolders name hname).1) hl'
  have hinner : (Node.folder entries).at? folders = some (.folder inner) := by
    rwa [Node.at?_append, hat, Option.bind_some] at hat'
  have hscanned := filesIn_scan htree hl hat (fun folder hfolder => (hfolders folder hfolder).2) hinner
  refine ⟨_, _, scan_eq htree hl hat session, Disk.packageFiles_eq hl' hat' (htree.of_at? hat').regular, hscanned, ?_⟩
  rw [hscanned, eq_comm, List.filter_eq_self, forall_listing_shown_iff htree hl' hat']

/-- The draft is listed with the package at the root, though the scan does not find it. In the other package both
listings agree. -/
theorem packageFiles_scanned_iff_draft : ∃ scanned listed listed',
    scan draftProject ⟨["."]⟩ {} = ((scanned, []), {}) ∧
    draftProject.packageFiles ⟨["."]⟩ = .ok listed ∧ listed ≠ filesIn ⟨["."]⟩ scanned ∧
    draftProject.packageFiles ⟨[".", "api"]⟩ = .ok listed' ∧ listed' = filesIn ⟨[".", "api"]⟩ scanned := by
  have hroot : draftProject.isFolder ⟨["."]⟩ = true := by decide
  obtain ⟨scanned, listed, hscan, hlisted, -, hiff⟩ :=
    packageFiles_scanned_iff draftProject ⟨["."]⟩ [] tidy_draftProject hroot (by simp) hroot {}
  obtain ⟨scanned', listed', hscan', hlisted', -, hiff'⟩ :=
    packageFiles_scanned_iff draftProject ⟨["."]⟩ ["api"] tidy_draftProject hroot (by decide) (by decide) {}
  obtain rfl : scanned' = scanned := by
    rw [hscan] at hscan'
    exact (Prod.mk.inj (Prod.mk.inj hscan').1).1.symm
  refine ⟨scanned', listed, listed', hscan, hlisted, fun heq => ?_, hlisted', hiff'.mpr fun name hname hgo => ?_⟩
  · exact absurd (hiff.mp heq ".a.go" (by decide) (by decide)) (by decide)
  · -- the package has two entries, and neither of them is hidden
    have hfirst : (name == "vendor.go") = false := beq_eq_false_iff_ne.mpr fun heq => absurd (heq ▸ hname) (by decide)
    have hsecond : (name == "d_test.go") = false := beq_eq_false_iff_ne.mpr fun heq => absurd (heq ▸ hname) (by decide)
    have hstep : draftProject.step [".w", "api"] name = .error .missing := by
      obtain ⟨hempty, hdot, hup⟩ := hgo.isName
      simp [Disk.step, draftProject, Node.at?, Node.entry?, List.lookup_cons, hempty, hdot, hup, hfirst, hsecond]
    have hplace : draftProject.locate ⟨[".", "api"]⟩ = .ok [".w", "api"] := by decide
    have hentry : draftProject.locate (Path.entry ⟨[".", "api"]⟩ name) = .error .missing :=
      (Disk.locate_entry name hplace).trans hstep
    show draftProject.isFile (Path.entry ⟨[".", "api"]⟩ name) = false
    rw [Disk.isFile, Disk.node, hentry]

end Project

end RouteDoc
