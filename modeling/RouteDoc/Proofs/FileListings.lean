import RouteDoc.Proofs.ModulePackages

/-!
Listings of files, and how the folder is spelled. The Go files of a package and of a project are listed by paths that
start with the folder as it was given, and they are sorted by their components. What decides is behind the folder:
both listings are the names below it, sorted among themselves, each put behind the spelling (`packageFiles_eq`,
`Project.files_eq`). So two spellings of one folder have listings that lead to the same files in the same order
(`listing_meets`).
-/

namespace RouteDoc

open RouteDoc.Text

/-! ## Trees with regular names -/

instance (name : String) : Decidable (Path.IsSegment name) :=
  inferInstanceAs (Decidable ((_ ∧ _ ∧ _) ∧ _))

namespace Node

/-- Every entry at or below the node goes by a plain name without a slash. -/
def Regular (node : Node) : Prop :=
  node.AllNames fun name _ => Path.IsSegment name

theorem Regular.proper {node : Node} (h : node.Regular) : node.Proper :=
  h.imp fun _ _ hname => ⟨hname.1.1, hname.2⟩

theorem Regular.of_at? {node child : Node} {names : List String} (h : node.Regular)
    (hat : node.at? names = some child) : child.Regular :=
  (AllNames.of_at? h hat).2

theorem Regular.isSegment {node child : Node} {names : List String} (h : node.Regular)
    (hat : node.at? names = some child) : ∀ name ∈ names, Path.IsSegment name := by
  intro name hname
  obtain ⟨-, hsegment⟩ := (AllNames.of_at? h hat).1 name hname
  exact hsegment

theorem Regular.isSegment_of_mem {entries : List (String × Node)} (h : (folder entries).Regular)
    {name : String} {node : Node} (hentry : (name, node) ∈ entries) : Path.IsSegment name := by
  obtain ⟨⟨-, hsegment⟩, -⟩ := AllNamesIn.of_mem h (name, node) hentry
  exact hsegment

end Node

/-! ## Components of entries -/

/-- What the first piece of a path stands for. -/
def Component.ofFirst (piece : String) : List Component :=
  if piece = "" then [.root] else if piece = "." then [.current] else (ofPiece? piece).toList

namespace Path

variable {p : Path} {name : String} {names : List String}

theorem components_eq {first : String} {rest : List String} (hempty : p.isEmpty = false)
    (hp : p.pieces = first :: rest) :
    p.components = Component.ofFirst first ++ rest.filterMap Component.ofPiece? := by
  unfold components Component.ofFirst
  rw [hp]
  by_cases hroot : first = ""
  · subst hroot
    cases rest with
    | nil => simp [isEmpty, hp] at hempty
    | cons next rest => simp
  · by_cases hcurrent : first = "."
    · subst hcurrent
      simp
    · rw [if_neg hroot, if_neg hcurrent]
      split
      · rename_i heq
        exact absurd (List.cons.inj heq).1 hroot
      · rename_i heq
        exact absurd (List.cons.inj heq).1 hcurrent
      · rw [List.filterMap_cons]
        cases Component.ofPiece? first <;> rfl

theorem components_entry (hempty : p.isEmpty = false) (hname : IsName name) :
    (p.entry name).components = p.components ++ [.name name] := by
  have hentry := isEmpty_entry hempty name
  have hlast : [name].filterMap Component.ofPiece? = [.name name] := by
    rw [List.filterMap_cons_some (Component.ofPiece?_of_isName hname), List.filterMap_nil]
  obtain ⟨first, rest, hp⟩ : ∃ first rest, p.pieces = first :: rest := by
    cases hp : p.pieces with
    | nil => simp [isEmpty, hp] at hempty
    | cons first rest => exact ⟨first, rest, rfl⟩
  rcases Disk.pieces_entry name hempty with ⟨-, hpieces⟩ | ⟨init, hinit, hpieces⟩
  · rw [hp, List.cons_append] at hpieces
    rw [components_eq hentry hpieces, components_eq hempty hp, List.filterMap_append, hlast, List.append_assoc]
  · -- a slash at the end of the folder stands for nothing, and the name takes its place
    cases init with
    | nil => simp [isEmpty, hinit] at hempty
    | cons first' init =>
      rw [List.cons_append] at hinit hpieces
      have hidle : [""].filterMap Component.ofPiece? = [] := by decide
      rw [components_eq hentry hpieces, components_eq hempty hinit, List.filterMap_append, List.filterMap_append, hlast,
        hidle, List.append_nil, List.append_assoc]

theorem components_foldl_entry (hempty : p.isEmpty = false) (hnames : ∀ name ∈ names, IsName name) :
    (names.foldl entry p).components = p.components ++ names.map .name := by
  induction names generalizing p with
  | nil => simp
  | cons name names ih =>
    rw [List.foldl_cons, ih (isEmpty_entry hempty name) fun other hother => hnames other (by simp [hother]),
      components_entry hempty (hnames name (by simp)), List.append_assoc]
    rfl

theorem componentsLe_append (front a b : List Component) :
    componentsLe (front ++ a) (front ++ b) = componentsLe a b := by
  induction front with
  | nil => rfl
  | cons component front ih =>
    have hirrefl : component.before component = false := by
      cases component <;> simp [Component.before]
    simp [componentsLe, hirrefl, ih]

/-- The order of names below a folder, component by component. -/
def namesLe (a b : List String) : Bool :=
  componentsLe (a.map .name) (b.map .name)

/-- Whether a file of this name is a Go source file and no test file. -/
def isGoName (name : String) : Bool :=
  isGoSource ⟨[name]⟩

theorem fileName?_entry (hempty : p.isEmpty = false) (hname : IsName name) : (p.entry name).fileName? = some name := by
  rw [fileName?, components_entry hempty hname, List.getLast?_concat]
  rfl

theorem isGoSource_entry (hempty : p.isEmpty = false) (hname : IsName name) :
    (p.entry name).isGoSource = isGoName name := by
  have hsingle : Path.fileName? ⟨[name]⟩ = some name := by
    have hone : Path.isEmpty ⟨[name]⟩ = false := by simp [isEmpty, hname.1]
    rw [fileName?, components_eq hone rfl, Component.ofFirst, if_neg hname.1, if_neg hname.2.1,
      Component.ofPiece?_of_isName hname]
    rfl
  unfold isGoName isGoSource extension?
  rw [fileName?_entry hempty hname, hsingle]

end Path

/-! ## Listings -/

/-- The paths to what has these names below `p`, in order. -/
def listing (p : Path) (found : List (List String)) : List Path :=
  (found.mergeSort Path.namesLe).map fun names => names.foldl Path.entry p

/-- Lists of names that lead below a folder. -/
def Below (found : List (List String)) : Prop :=
  ∀ names ∈ found, names ≠ [] ∧ ∀ name ∈ names, Path.IsName name

/-- Paths that start with one folder are sorted by what stands behind it. -/
theorem sortPaths_map {p : Path} (hempty : p.isEmpty = false) {found : List (List String)} (hfound : Below found) :
    sortPaths (found.map fun names => names.foldl Path.entry p) = listing p found := by
  rw [sortPaths, listing]
  -- sorting and putting the names behind the folder commute, since the folder's components cancel
  symm
  apply List.map_mergeSort
  intro a ha b hb
  rw [Path.le, Path.components_foldl_entry hempty (hfound a ha).2, Path.components_foldl_entry hempty (hfound b hb).2,
    Path.componentsLe_append]
  rfl

def goNames (entries : List (String × Node)) : List (List String) :=
  entries.filterMap fun (name, node) => if !node.isFolder && Path.isGoName name then some [name] else none

theorem below_goNames {entries : List (String × Node)} (h : (Node.folder entries).Regular) :
    Below (goNames entries) := by
  intro names hnames
  obtain ⟨⟨name, node⟩, hentry, hfound⟩ := List.mem_filterMap.mp hnames
  obtain rfl := Option.some.inj (Option.ite_none_right_eq_some.mp hfound).2
  refine ⟨by simp, fun other hother => ?_⟩
  rw [List.mem_singleton.mp hother]
  exact (h.isSegment_of_mem hentry).1

/-- The Go files of a folder are the Go names of its entries, behind the spelling of the folder. -/
theorem Disk.packageFiles_eq {disk : Disk} {folder : Path} {names : List String} {entries : List (String × Node)}
    (hl : disk.locate folder = .ok names) (hat : disk.tree.at? names = some (.folder entries))
    (hregular : (Node.folder entries).Regular) :
    disk.packageFiles folder = .ok (listing folder (goNames entries)) := by
  have hempty := isEmpty_of_locate hl
  have hentries : disk.entries folder = .ok entries := by
    simp [Disk.entries, Disk.node, hl, hat]
  have hfound : (entries.filterMap fun (name, node) =>
      if !node.isFolder && (folder.entry name).isGoSource then some (folder.entry name) else none)
        = (goNames entries).map fun names => names.foldl Path.entry folder := by
    rw [goNames, List.map_filterMap]
    refine List.filterMap_congr fun entry hentry => ?_
    obtain ⟨name, node⟩ := entry
    dsimp only
    rw [Path.isGoSource_entry hempty (hregular.isSegment_of_mem hentry).1]
    split <;> rfl
  rw [Disk.packageFiles, hentries, ← sortPaths_map hempty (below_goNames hregular), ← hfound]

namespace Project

mutual

/-- The names that lead to the Go files at and below a node that goes by `name`. -/
def namesAt (name : String) : Node → List (List String)
  | .file _ => if Path.isGoName name then [[name]] else []
  | .folder entries => (namesBelow entries).map (name :: ·)

def namesBelow : List (String × Node) → List (List String)
  | [] => []
  | (name, node) :: rest => (if isIgnored name node then [] else namesAt name node) ++ namesBelow rest

end

mutual

theorem filesAt_eq {p : Path} (hempty : p.isEmpty = false) {name : String} (hname : Path.IsName name) (node : Node)
    (h : node.Regular) :
    filesAt (p.entry name) node = (namesAt name node).map fun names => names.foldl Path.entry p := by
  cases node with
  | file bytes =>
    rw [filesAt, namesAt, Path.isGoSource_entry hempty hname]
    split <;> rfl
  | folder entries =>
    rw [filesAt, namesAt, filesBelow_eq (Path.isEmpty_entry hempty name) entries h, List.map_map]
    rfl

/-- The Go files below a folder are listed by their names behind the spelling of the folder. -/
theorem filesBelow_eq {p : Path} (hempty : p.isEmpty = false) (entries : List (String × Node))
    (h : (Node.folder entries).Regular) :
    filesBelow p entries = (namesBelow entries).map fun names => names.foldl Path.entry p := by
  match entries with
  | [] => rfl
  | (name, node) :: rest =>
    obtain ⟨hname, hnode, hrest⟩ := h
    rw [filesBelow, namesBelow, List.map_append, filesBelow_eq hempty rest hrest, filesAt_eq hempty hname.1 node hnode]
    split <;> rfl

end

mutual

theorem below_namesAt {name : String} (hname : Path.IsName name) (node : Node) (h : node.Regular) :
    Below (namesAt name node) := by
  cases node with
  | file bytes =>
    intro names hnames
    rw [namesAt] at hnames
    split at hnames
    · rw [List.mem_singleton.mp hnames]
      exact ⟨by simp, fun other hother => by rwa [List.mem_singleton.mp hother]⟩
    · cases hnames
  | folder entries =>
    intro names hnames
    rw [namesAt] at hnames
    obtain ⟨rest, hrest, rfl⟩ := List.mem_map.mp hnames
    refine ⟨by simp, fun other hother => ?_⟩
    rcases List.mem_cons.mp hother with rfl | hother
    · exact hname
    · exact (below_namesBelow entries h rest hrest).2 other hother

theorem below_namesBelow (entries : List (String × Node)) (h : (Node.folder entries).Regular) :
    Below (namesBelow entries) := by
  match entries with
  | [] => intro names hnames; cases hnames
  | (name, node) :: rest =>
    obtain ⟨hname, hnode, hrest⟩ := h
    intro names hnames
    rw [namesBelow] at hnames
    rcases List.mem_append.mp hnames with hnames | hnames
    · split at hnames
      · cases hnames
      · exact below_namesAt hname.1 node hnode names hnames
    · exact below_namesBelow rest hrest names hnames

end

/-- The Go files of a project are the names below its root, behind the spelling of the root. -/
theorem files_eq {disk : Disk} {root : Path} {names : List String} {entries : List (String × Node)}
    (hl : disk.locate root = .ok names) (hat : disk.tree.at? names = some (.folder entries))
    (hregular : (Node.folder entries).Regular) : files disk root = .ok (listing root (namesBelow entries)) := by
  have hempty := Disk.isEmpty_of_locate hl
  have hnode : disk.node root = .ok (.folder entries) := by
    simp [Disk.node, hl, hat]
  rw [files, hnode]
  show Except.ok (sortPaths (filesBelow root entries)) = _
  rw [filesBelow_eq hempty entries hregular, sortPaths_map hempty (below_namesBelow entries hregular)]

end Project

/-! ## Two spellings of one folder -/

namespace Disk

variable {disk : Disk} {p q : Path} {names : List String}

/-- The paths lead to the same place, or both nowhere. -/
def Meets (disk : Disk) (p q : Path) : Prop :=
  ∀ names, disk.locate p = .ok names ↔ disk.locate q = .ok names

theorem locate_foldl_entry_iff (hp : disk.locate p = .ok names) (pieces out : List String) :
    disk.locate (pieces.foldl Path.entry p) = .ok out ↔ disk.walk names pieces = .ok out := by
  -- from the end: the last piece is one step from where all before it lead
  induction pieces using List.reverseRecOn generalizing out with
  | nil =>
    rw [List.foldl_nil, hp, walk]
  | append_singleton init last ih =>
    have hempty := Path.isEmpty_foldl_entry (isEmpty_of_locate hp) init
    rw [List.foldl_concat]
    constructor
    · intro h
      obtain ⟨above, habove, hstep⟩ := locate_of_locate_entry hempty h
      rw [walk_concat last ((ih above).mp habove), hstep]
    · intro h
      rw [walk_append] at h
      split at h
      · rename_i above habove
        rw [locate_entry last ((ih above).mpr habove)]
        rw [walk] at h
        split at h
        · rename_i next hstep
          rw [hstep, ← h, walk]
        · cases h
      · cases h

theorem Meets.foldl_entry (hp : disk.locate p = .ok names) (hq : disk.locate q = .ok names) (pieces : List String) :
    disk.Meets (pieces.foldl Path.entry p) (pieces.foldl Path.entry q) := by
  intro out
  rw [locate_foldl_entry_iff hp, locate_foldl_entry_iff hq]

theorem Meets.source? (h : disk.Meets p q) : disk.source? p = disk.source? q := by
  cases hp : disk.locate p with
  | ok names => rw [source?_of_locate hp, source?_of_locate ((h names).mp hp)]
  | error fault =>
    cases hq : disk.locate q with
    | ok names =>
      rw [(h names).mpr hq] at hp
      cases hp
    | error fault' => rw [source?_of_error hp, source?_of_error hq]

theorem Meets.isFolder (h : disk.Meets p q) : disk.isFolder p = disk.isFolder q := by
  unfold Disk.isFolder node
  cases hp : disk.locate p with
  | ok names => rw [(h names).mp hp]
  | error fault =>
    cases hq : disk.locate q with
    | ok names =>
      rw [(h names).mpr hq] at hp
      cases hp
    | error fault' => rfl

/-- Paths that can be asked for, and that lead to the same place. -/
structure Interchangeable (disk : Disk) (p q : Path) : Prop where
  meets : disk.Meets p q
  sure : disk.Unmistaken p
  sure' : disk.Unmistaken q

theorem unmistaken_foldl_entry (p : Path) (hne : names ≠ []) (hnames : ∀ name ∈ names, Path.IsName name) :
    disk.Unmistaken (names.foldl Path.entry p) := by
  rcases List.eq_nil_or_concat' names with rfl | ⟨init, last, rfl⟩
  · exact absurd rfl hne
  · rw [List.foldl_concat]
    exact unmistaken_of_last_name (Path.getLast?_entry _ last) (hnames last (by simp))

/-- Two spellings of a folder list the same files in the same order. -/
theorem listing_meets (hp : disk.locate p = .ok names) (hq : disk.locate q = .ok names) {found : List (List String)}
    (hfound : Below found) : List.Forall₂ disk.Interchangeable (listing p found) (listing q found) := by
  rw [listing, listing, List.forall₂_map_left_iff, List.forall₂_map_right_iff, List.forall₂_same]
  intro rest hrest
  obtain ⟨hne, hnames⟩ := hfound rest (List.mem_mergeSort.mp hrest)
  exact ⟨Meets.foldl_entry hp hq rest, unmistaken_foldl_entry p hne hnames, unmistaken_foldl_entry q hne hnames⟩

theorem Meets.packageFiles (h : disk.Meets p q) (hregular : disk.tree.Regular) :
    Option.Rel (List.Forall₂ disk.Interchangeable) (disk.packageFiles p).toOption (disk.packageFiles q).toOption := by
  cases hp : disk.locate p with
  | error fault =>
    cases hq : disk.locate q with
    | ok names =>
      rw [(h names).mpr hq] at hp
      cases hp
    | error fault' =>
      simp only [Disk.packageFiles, Disk.entries, Disk.node, hp, hq]
      exact .none
  | ok names =>
    have hq := (h names).mp hp
    obtain ⟨node, hat⟩ := (located_of_locate hp).there
    cases node with
    | file bytes =>
      simp only [Disk.packageFiles, Disk.entries, Disk.node, hp, hq, hat]
      exact .none
    | folder entries =>
      have hentries : (Node.folder entries).Regular := hregular.of_at? hat
      rw [packageFiles_eq hp hat hentries, packageFiles_eq hq hat hentries]
      exact .some (listing_meets hp hq (below_goNames hentries))

end Disk

theorem Packages.files_meets {disk : Disk} {packages packages' : Packages} {importPath : String}
    (h : Option.Rel disk.Meets (packages.folder? disk importPath) (packages'.folder? disk importPath))
    (hregular : disk.tree.Regular) :
    Option.Rel (List.Forall₂ disk.Interchangeable) (packages.files disk importPath).toOption
      (packages'.files disk importPath).toOption := by
  have hfiles : ∀ chain : Packages, (chain.files disk importPath).toOption
      = (chain.folder? disk importPath).bind fun folder => (disk.packageFiles folder).toOption := by
    intro chain
    rw [Packages.files]
    cases chain.folder? disk importPath with
    | none => rfl
    | some folder =>
      dsimp only
      rw [Option.bind_some]
      cases disk.packageFiles folder <;> rfl
  rw [hfiles, hfiles]
  generalize packages.folder? disk importPath = found, packages'.folder? disk importPath = found' at h
  cases h with
  | none => exact .none
  | some hmeets => exact hmeets.packageFiles hregular

end RouteDoc
