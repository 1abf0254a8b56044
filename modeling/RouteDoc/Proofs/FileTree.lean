import Mathlib.Data.List.Basic
import RouteDoc.FileTree

/-!
Canonical paths. A path that leads somewhere leads to a list of plain names (`located_of_locate`), and
the absolute path with these names leads to the same place (`locate_ofNames`). Plain names are told
apart by the components of their paths (`ofNames_inj`), so a canonical path may be known by its
components.
-/

namespace RouteDoc

/-- Whether a piece of a path is a name, and not nothing, one dot or two dots. -/
def Path.IsName (piece : String) : Prop :=
  piece ≠ "" ∧ piece ≠ "." ∧ piece ≠ ".."

theorem Component.ofPiece?_of_isName {piece : String} (h : Path.IsName piece) :
    Component.ofPiece? piece = some (.name piece) := by
  obtain ⟨h₁, h₂, h₃⟩ := h
  simp [Component.ofPiece?, h₁, h₂, h₃]

namespace Path

theorem components_ofNames {names : List String} (h : ∀ name ∈ names, IsName name) :
    (ofNames names).components = .root :: names.map .name := by
  have hmap : names.filterMap Component.ofPiece? = names.map .name := by
    induction names with
    | nil => rfl
    | cons name names ih =>
      rw [List.filterMap_cons_some (Component.ofPiece?_of_isName (h name (by simp))),
        ih fun other hmem => h other (by simp [hmem])]
      rfl
  cases names with
  | nil => rfl
  | cons name names =>
    show Component.root :: (name :: names).filterMap Component.ofPiece? = _
    rw [hmap]

theorem ofNames_inj {a b : List String} (ha : ∀ name ∈ a, IsName name)
    (hb : ∀ name ∈ b, IsName name) (h : (ofNames a).components = (ofNames b).components) :
    a = b := by
  rw [components_ofNames ha, components_ofNames hb] at h
  have hname : Function.Injective Component.name := fun _ _ hxy => Component.name.inj hxy
  exact List.map_injective_iff.mpr hname (List.cons.inj h).2

theorem isEmpty_ofNames (names : List String) : (ofNames names).isEmpty = false := by
  cases names <;> simp [ofNames, isEmpty]

end Path

theorem Node.at?_append (node : Node) (a b : List String) :
    node.at? (a ++ b) = (node.at? a).bind fun child => child.at? b := by
  induction a generalizing node with
  | nil => simp [Node.at?]
  | cons name a ih =>
    simp only [List.cons_append, Node.at?]
    cases node.entry? name with
    | none => rfl
    | some child => exact ih child

/-! ## Names in a tree -/

namespace Node

variable {p q : String → List String → Prop}

mutual

/-- The name of every entry at or below the node meets the condition, which may look at the names behind it in its
folder. -/
def AllNames (p : String → List String → Prop) : Node → Prop
  | .file _ => True
  | .folder entries => AllNamesIn p entries

def AllNamesIn (p : String → List String → Prop) : List (String × Node) → Prop
  | [] => True
  | (name, node) :: rest => p name (rest.map Prod.fst) ∧ node.AllNames p ∧ AllNamesIn p rest

end

mutual

theorem AllNames.imp (hpq : ∀ name later, p name later → q name later) (node : Node) (h : node.AllNames p) :
    node.AllNames q := by
  cases node with
  | file bytes => exact True.intro
  | folder entries => exact AllNamesIn.imp hpq entries h

theorem AllNamesIn.imp (hpq : ∀ name later, p name later → q name later) (entries : List (String × Node))
    (h : AllNamesIn p entries) : AllNamesIn q entries := by
  match entries with
  | [] => exact True.intro
  | (name, node) :: rest =>
    obtain ⟨hname, hnode, hrest⟩ := h
    exact ⟨hpq name _ hname, hnode.imp hpq, AllNamesIn.imp hpq rest hrest⟩

end

theorem AllNamesIn.of_mem {entries : List (String × Node)} (h : AllNamesIn p entries) (entry : String × Node)
    (hentry : entry ∈ entries) : (∃ later, p entry.1 later) ∧ entry.2.AllNames p := by
  induction entries with
  | nil => cases hentry
  | cons first rest ih =>
    obtain ⟨hname, hnode, hrest⟩ := h
    rcases List.mem_cons.mp hentry with rfl | hentry
    · exact ⟨⟨_, hname⟩, hnode⟩
    · exact ih hrest hentry

/-- The condition holds along the way to a node, and below it. -/
theorem AllNames.of_at? {node child : Node} {names : List String} (h : node.AllNames p)
    (hat : node.at? names = some child) : (∀ name ∈ names, ∃ later, p name later) ∧ child.AllNames p := by
  induction names generalizing node with
  | nil =>
    obtain rfl := Option.some.inj hat
    exact ⟨fun name hname => absurd hname List.not_mem_nil, h⟩
  | cons first names ih =>
    cases node with
    | file bytes => simp [at?, entry?] at hat
    | folder entries =>
      cases hlookup : entries.lookup first with
      | none => simp [at?, entry?, hlookup] at hat
      | some next =>
        obtain ⟨front, behind, hentries, -⟩ := List.lookup_eq_some_iff.mp hlookup
        obtain ⟨hfirst, hnext⟩ := AllNamesIn.of_mem h (first, next) (by simp [hentries])
        simp only [at?, entry?, hlookup] at hat
        obtain ⟨hnames, hchild⟩ := ih hnext hat
        exact ⟨List.forall_mem_cons.mpr ⟨hfirst, hnames⟩, hchild⟩

end Node

namespace Disk

/-- The names lead from the root of the tree to a node, and every one of them is a plain name. -/
structure Located (disk : Disk) (names : List String) : Prop where
  isName : ∀ name ∈ names, Path.IsName name
  there : ∃ node, disk.tree.at? names = some node
  root : disk.tree.isFolder = true

variable {disk : Disk}

theorem walk_append (names a b : List String) :
    disk.walk names (a ++ b) =
      match disk.walk names a with
      | .ok next => disk.walk next b
      | .error fault => .error fault := by
  induction a generalizing names with
  | nil => rfl
  | cons piece a ih =>
    simp only [List.cons_append, walk]
    cases disk.step names piece with
    | error fault => rfl
    | ok next => exact ih next

/-- What one step of a walk can do. -/
theorem step_cases {names next : List String} {piece : String}
    (h : disk.step names piece = .ok next) :
    ∃ entries, disk.tree.at? names = some (.folder entries) ∧
      (next = names ∨ next = names.dropLast ∨
        (Path.IsName piece ∧ (entries.lookup piece).isSome ∧ next = names ++ [piece])) := by
  unfold step at h
  split at h
  · cases h
  · cases h
  · rename_i entries hat
    refine ⟨entries, hat, ?_⟩
    split at h
    · exact .inl (Except.ok.inj h).symm
    · rename_i hidle
      split at h
      · exact .inr (.inl (Except.ok.inj h).symm)
      · rename_i hup
        split at h
        · rename_i hthere
          have hplain : piece ≠ "" ∧ piece ≠ "." := by simpa using hidle
          exact .inr (.inr ⟨⟨hplain.1, hplain.2, hup⟩, hthere, (Except.ok.inj h).symm⟩)
        · cases h

theorem located_dropLast {names : List String} (h : disk.Located names) :
    disk.Located names.dropLast := by
  refine ⟨fun name hmem => h.isName name (List.dropLast_subset names hmem), ?_, h.root⟩
  obtain ⟨node, hat⟩ := h.there
  rcases List.eq_nil_or_concat' names with rfl | ⟨init, last, rfl⟩
  · exact ⟨node, hat⟩
  · rw [Node.at?_append] at hat
    obtain ⟨child, hchild, -⟩ := Option.bind_eq_some_iff.mp hat
    rw [List.dropLast_concat]
    exact ⟨child, hchild⟩

theorem located_concat {names : List String} {entries : List (String × Node)} {piece : String}
    (h : disk.Located names) (hat : disk.tree.at? names = some (.folder entries))
    (hname : Path.IsName piece) (hthere : (entries.lookup piece).isSome) :
    disk.Located (names ++ [piece]) := by
  refine ⟨?_, ?_, h.root⟩
  · intro name hmem
    rcases List.mem_append.mp hmem with hmem | hmem
    · exact h.isName name hmem
    · rw [List.mem_singleton.mp hmem]
      exact hname
  · obtain ⟨child, hchild⟩ := Option.isSome_iff_exists.mp hthere
    refine ⟨child, ?_⟩
    rw [Node.at?_append, hat]
    simp [Node.at?, Node.entry?, hchild]

theorem located_of_walk {names pieces out : List String} (h : disk.Located names)
    (hwalk : disk.walk names pieces = .ok out) : disk.Located out := by
  induction pieces generalizing names with
  | nil => rwa [← Except.ok.inj hwalk]
  | cons piece pieces ih =>
    simp only [walk] at hwalk
    cases hstep : disk.step names piece with
    | error fault => rw [hstep] at hwalk; cases hwalk
    | ok next =>
      rw [hstep] at hwalk
      obtain ⟨entries, hat, rfl | rfl | ⟨hname, hthere, rfl⟩⟩ := step_cases hstep
      · exact ih h hwalk
      · exact ih (located_dropLast h) hwalk
      · exact ih (located_concat h hat hname hthere) hwalk

/-- A walk that takes at least one step starts from a folder. -/
theorem located_of_walk_root {pieces out : List String} (hne : pieces ≠ [])
    (hwalk : disk.walk [] pieces = .ok out) : disk.Located out := by
  cases pieces with
  | nil => exact absurd rfl hne
  | cons piece pieces =>
    have hroot : disk.tree.isFolder = true := by
      simp only [walk] at hwalk
      cases hstep : disk.step [] piece with
      | error fault => rw [hstep] at hwalk; cases hwalk
      | ok next =>
        obtain ⟨entries, hat, -⟩ := step_cases hstep
        have htree : disk.tree = .folder entries := Option.some.inj hat
        rw [htree]
        rfl
    exact located_of_walk ⟨by simp, ⟨disk.tree, rfl⟩, hroot⟩ hwalk

theorem located_of_locate {p : Path} {names : List String} (h : disk.locate p = .ok names) :
    disk.Located names := by
  unfold locate at h
  split at h
  · cases h
  · rename_i hempty
    split at h
    · rename_i rest hpieces
      refine located_of_walk_root ?_ h
      intro hnil
      rw [hnil] at hpieces
      simp [Path.isEmpty, hpieces] at hempty
    · refine located_of_walk_root ?_ h
      intro hnil
      have hpieces : p.pieces = [] := (List.append_eq_nil_iff.mp hnil).2
      simp [Path.isEmpty, hpieces] at hempty

theorem step_of_isName {names : List String} {piece : String} {rest : List String} {node : Node}
    (hname : Path.IsName piece) (hat : disk.tree.at? (names ++ piece :: rest) = some node) :
    disk.step names piece = .ok (names ++ [piece]) := by
  rw [Node.at?_append] at hat
  obtain ⟨child, hchild, hrest⟩ := Option.bind_eq_some_iff.mp hat
  cases child with
  | file bytes => simp [Node.at?, Node.entry?] at hrest
  | folder entries =>
    have hthere : (entries.lookup piece).isSome = true := by
      cases hl : entries.lookup piece with
      | none => simp [Node.at?, Node.entry?, hl] at hrest
      | some _ => rfl
    obtain ⟨h₁, h₂, h₃⟩ := hname
    simp [step, hchild, h₁, h₂, h₃, hthere]

theorem walk_names {names rest : List String} {node : Node}
    (hname : ∀ name ∈ rest, Path.IsName name)
    (hat : disk.tree.at? (names ++ rest) = some node) :
    disk.walk names rest = .ok (names ++ rest) := by
  induction rest generalizing names with
  | nil => simp [walk]
  | cons piece rest ih =>
    rw [walk, step_of_isName (hname piece (by simp)) hat]
    have hassoc : names ++ piece :: rest = (names ++ [piece]) ++ rest := by simp
    rw [hassoc] at hat ⊢
    exact ih (fun name hmem => hname name (by simp [hmem])) hat

theorem walk_of_located {names : List String} (h : disk.Located names) :
    disk.walk [] names = .ok names := by
  obtain ⟨node, hat⟩ := h.there
  exact walk_names h.isName hat

theorem step_idle {names : List String} {entries : List (String × Node)}
    (hat : disk.tree.at? names = some (.folder entries)) : disk.step names "" = .ok names := by
  simp [step, hat]

theorem locate_ofNames {names : List String} (h : disk.Located names) :
    disk.locate (Path.ofNames names) = .ok names := by
  unfold locate
  rw [Path.isEmpty_ofNames]
  cases names with
  | nil =>
    obtain ⟨entries, htree⟩ : ∃ entries, disk.tree = .folder entries := by
      cases htree : disk.tree with
      | file bytes => have := h.root; rw [htree] at this; cases this
      | folder entries => exact ⟨entries, rfl⟩
    have hat : disk.tree.at? [] = some (.folder entries) := congrArg some htree
    show disk.walk [] [""] = .ok []
    simp [walk, step_idle hat]
  | cons name names => exact walk_of_located h

theorem canonicalOrSelf_of_locate {p : Path} {names : List String}
    (h : disk.locate p = .ok names) : disk.canonicalOrSelf p = Path.ofNames names := by
  simp [canonicalOrSelf, canonical, h, Except.map]

theorem canonicalOrSelf_of_error {p : Path} {fault : Fault} (h : disk.locate p = .error fault) :
    disk.canonicalOrSelf p = p := by
  simp [canonicalOrSelf, canonical, h, Except.map]

/-- A canonical path is its own canonical path. -/
theorem canonicalOrSelf_canonicalOrSelf (p : Path) :
    disk.canonicalOrSelf (disk.canonicalOrSelf p) = disk.canonicalOrSelf p := by
  cases h : disk.locate p with
  | error fault => rw [canonicalOrSelf_of_error h, canonicalOrSelf_of_error h]
  | ok names =>
    rw [canonicalOrSelf_of_locate h]
    exact canonicalOrSelf_of_locate (locate_ofNames (located_of_locate h))

theorem canonicalOrSelf_eq_ofNames {p : Path} {names : List String}
    (h : disk.locate (disk.canonicalOrSelf p) = .ok names) :
    disk.canonicalOrSelf p = Path.ofNames names := by
  rw [← canonicalOrSelf_canonicalOrSelf]
  exact canonicalOrSelf_of_locate h

theorem walk_of_concat_idle {names init out : List String}
    (h : disk.walk names (init ++ [""]) = .ok out) : disk.walk names init = .ok out := by
  rw [walk_append] at h
  cases hinit : disk.walk names init with
  | error fault => rw [hinit] at h; cases h
  | ok next =>
    rw [hinit] at h
    cases hstep : disk.step next "" with
    | error fault => simp [walk, hstep] at h
    | ok same =>
      have hidle : same = next := by
        obtain ⟨entries, hat, -⟩ := step_cases hstep
        rw [step_idle hat] at hstep
        exact (Except.ok.inj hstep).symm
      simp only [walk, hstep, hidle] at h
      exact h

theorem walk_concat {names init out : List String} (piece : String)
    (h : disk.walk names init = .ok out) :
    disk.walk names (init ++ [piece]) = disk.step out piece := by
  rw [walk_append, h]
  show disk.walk out [piece] = disk.step out piece
  rw [walk]
  cases disk.step out piece <;> rfl

/-- The pieces that are walked from the root for a path with the given ones. -/
def startOf (disk : Disk) : List String → List String
  | "" :: rest => rest
  | pieces => disk.here ++ pieces

theorem locate_eq_walk {p : Path} (h : p.isEmpty = false) :
    disk.locate p = disk.walk [] (disk.startOf p.pieces) := by
  unfold locate startOf
  simp only [h, Bool.false_eq_true, if_false]
  cases p.pieces with
  | nil => rfl
  | cons first rest =>
    by_cases hfirst : first = ""
    · simp [hfirst]
    · simp [hfirst]

theorem startOf_concat {pieces : List String} (piece : String) (h : pieces ≠ []) :
    disk.startOf (pieces ++ [piece]) = disk.startOf pieces ++ [piece] := by
  cases pieces with
  | nil => exact absurd rfl h
  | cons first rest =>
    by_cases hfirst : first = ""
    · simp [startOf, hfirst]
    · simp [startOf, hfirst]

theorem isEmpty_of_concat {p : Path} {init : List String} {piece : String} (h : init ≠ [])
    (hp : p.pieces = init ++ [piece]) : p.isEmpty = false := by
  have hlength : 0 < init.length := List.length_pos_iff.mpr h
  unfold Path.isEmpty
  rw [hp, List.length_append, List.length_singleton]
  have hlong : ¬ init.length + 1 ≤ 1 := by omega
  simp [hlong]

theorem pieces_entry {p : Path} (name : String) (hempty : p.isEmpty = false) :
    (p.pieces.getLast? ≠ some "" ∧ (p.entry name).pieces = p.pieces ++ [name]) ∨
      ∃ init, p.pieces = init ++ [""] ∧ (p.entry name).pieces = init ++ [name] := by
  have habsolute : Path.isAbsolute ⟨[name]⟩ = false := by
    unfold Path.isAbsolute
    split
    · rename_i hname
      cases hname
    · rfl
  by_cases hlast : p.pieces.getLast? = some ""
  · obtain ⟨init, hinit⟩ := List.getLast?_eq_some_iff.mp hlast
    refine .inr ⟨init, hinit, ?_⟩
    simp [Path.entry, Path.join, habsolute, hempty, hinit]
  · refine .inl ⟨hlast, ?_⟩
    simp [Path.entry, Path.join, habsolute, hempty, hlast]

theorem locate_entry {p : Path} {names : List String} (name : String)
    (h : disk.locate p = .ok names) : disk.locate (p.entry name) = disk.step names name := by
  have hempty : p.isEmpty = false := by
    cases hempty : p.isEmpty with
    | true => simp [locate, hempty] at h
    | false => rfl
  have hentry : (p.entry name).isEmpty = false → disk.locate (p.entry name)
      = disk.walk [] (disk.startOf (p.entry name).pieces) := locate_eq_walk
  rw [locate_eq_walk hempty] at h
  rcases pieces_entry name hempty with ⟨-, hpieces⟩ | ⟨init, hinit, hpieces⟩
  · have hne : p.pieces ≠ [] := by
      intro hnil
      simp [Path.isEmpty, hnil] at hempty
    rw [hentry (isEmpty_of_concat hne hpieces), hpieces, startOf_concat name hne]
    exact walk_concat name h
  · have hne : init ≠ [] := by
      rintro rfl
      simp [Path.isEmpty, hinit] at hempty
    rw [hinit, startOf_concat "" hne] at h
    rw [hentry (isEmpty_of_concat hne hpieces), hpieces, startOf_concat name hne]
    exact walk_concat name (walk_of_concat_idle h)

theorem step_of_lookup {names : List String} {entries : List (String × Node)} {name : String}
    (hat : disk.tree.at? names = some (.folder entries))
    (hthere : (entries.lookup name).isSome) : ∃ out, disk.step names name = .ok out := by
  simp only [step, hat, hthere, if_true]
  split
  · exact ⟨_, rfl⟩
  · split
    · exact ⟨_, rfl⟩
    · exact ⟨_, rfl⟩

/-- What lies above a node is a folder. -/
theorem folder_of_isFolder {p : Path} (h : disk.isFolder p = true) :
    ∃ names entries, disk.locate p = .ok names ∧ disk.tree.at? names = some (.folder entries) := by
  unfold isFolder node at h
  split at h
  · rename_i entries hnode
    split at hnode
    · cases hnode
    · rename_i names hl
      split at hnode
      · rename_i node hat
        rw [Except.ok.inj hnode] at hat
        exact ⟨names, entries, hl, hat⟩
      · cases hnode
  · cases h

theorem folder_of_at?_append {names rest : List String} {entries : List (String × Node)}
    (h : disk.tree.at? (names ++ rest) = some (.folder entries)) :
    ∃ above, disk.tree.at? names = some (.folder above) := by
  rw [Node.at?_append] at h
  obtain ⟨child, hchild, hrest⟩ := Option.bind_eq_some_iff.mp h
  cases child with
  | folder above => exact ⟨above, hchild⟩
  | file bytes =>
    cases rest with
    | nil => cases Option.some.inj hrest
    | cons name rest => cases hrest

/-- Pieces that stand for the names of a folder lead to it. -/
theorem walk_of_components {names rest pieces : List String} {entries : List (String × Node)}
    (hat : disk.tree.at? (names ++ rest) = some (.folder entries))
    (hpieces : pieces.filterMap Component.ofPiece? = rest.map .name) :
    disk.walk names pieces = .ok (names ++ rest) := by
  induction pieces generalizing names rest with
  | nil =>
    have hnil : rest = [] := List.map_eq_nil_iff.mp hpieces.symm
    simp [walk, hnil]
  | cons piece pieces ih =>
    rw [List.filterMap_cons] at hpieces
    cases hpiece : Component.ofPiece? piece with
    | none =>
      -- the step stays where it is, which takes a folder; there is one, as the walk goes on below it
      rw [hpiece] at hpieces
      obtain ⟨above, habove⟩ := folder_of_at?_append hat
      have hidle : piece = "" ∨ piece = "." := by
        unfold Component.ofPiece? at hpiece
        split at hpiece
        · rename_i hidle
          simpa using hidle
        · split at hpiece <;> cases hpiece
      have hstep : disk.step names piece = .ok names := by
        rcases hidle with rfl | rfl <;> simp [step, habove]
      rw [walk, hstep]
      exact ih hat hpieces
    | some component =>
      rw [hpiece] at hpieces
      cases rest with
      | nil => cases hpieces
      | cons name rest =>
        obtain ⟨hname, hrest⟩ := List.cons.inj hpieces
        have hplain : Path.IsName name ∧ piece = name := by
          rw [hname] at hpiece
          unfold Component.ofPiece? at hpiece
          split at hpiece
          · cases hpiece
          · rename_i hidle
            split at hpiece
            · cases hpiece
            · rename_i hup
              have hsame : piece = name := Component.name.inj (Option.some.inj hpiece)
              have hne : piece ≠ "" ∧ piece ≠ "." := by simpa using hidle
              rw [← hsame]
              exact ⟨⟨hne.1, hne.2, hup⟩, rfl⟩
        have hassoc : names ++ name :: rest = (names ++ [name]) ++ rest := by simp
        rw [hplain.2, walk, step_of_isName hplain.1 hat, hassoc]
        rw [hassoc] at hat
        exact ih hat hrest

/-- A path with the components of an absolute one is absolute. -/
theorem absolute_of_components {p : Path} {names : List String} (h : disk.Located names)
    (hp : p.components = (Path.ofNames names).components) :
    ∃ next rest, p.pieces = "" :: next :: rest ∧
      (next :: rest).filterMap Component.ofPiece? = names.map .name := by
  rw [Path.components_ofNames h.isName] at hp
  unfold Path.components at hp
  split at hp
  · rename_i next rest hpieces
    exact ⟨next, rest, hpieces, (List.cons.inj hp).2⟩
  · cases (List.cons.inj hp).1
  · have hroot : Component.root ∈ p.pieces.filterMap Component.ofPiece? := by
      rw [hp]
      exact List.mem_cons_self
    obtain ⟨piece, -, hpiece⟩ := List.mem_filterMap.mp hroot
    unfold Component.ofPiece? at hpiece
    split at hpiece
    · cases hpiece
    · split at hpiece <;> cases hpiece

/-- A path with the components of a folder leads to the folder, however it is spelled. -/
theorem locate_of_components {p : Path} {names : List String} {entries : List (String × Node)}
    (h : disk.Located names) (hat : disk.tree.at? names = some (.folder entries))
    (hp : p.components = (Path.ofNames names).components) : disk.locate p = .ok names := by
  obtain ⟨next, rest, hpieces, hrest⟩ := absolute_of_components h hp
  have hempty : p.isEmpty = false := by simp [Path.isEmpty, hpieces]
  have hat' : disk.tree.at? ([] ++ names) = some (.folder entries) := hat
  unfold locate
  rw [hempty, hpieces]
  exact walk_of_components hat' hrest

/-- A path with the components of a file leads to the file if a name stands last. -/
theorem locate_of_last_name {p : Path} {names : List String} {piece : String}
    (h : disk.Located names) (hp : p.components = (Path.ofNames names).components)
    (hlast : p.pieces.getLast? = some piece) (hname : Path.IsName piece) :
    disk.locate p = .ok names := by
  obtain ⟨next, rest, hpieces, hrest⟩ := absolute_of_components h hp
  obtain ⟨init, hinit⟩ : ∃ init, next :: rest = init ++ [piece] := by
    rw [hpieces, List.getLast?_cons_cons] at hlast
    exact List.getLast?_eq_some_iff.mp hlast
  rw [hinit, List.filterMap_append,
    List.filterMap_cons_some (Component.ofPiece?_of_isName hname)] at hrest
  -- the names are those of the pieces before the last, and the last
  obtain ⟨above, last, rfl, habove, hsingle⟩ := List.map_eq_append_iff.mp hrest.symm
  obtain ⟨name, rfl, hsame⟩ := List.map_eq_singleton_iff.mp hsingle
  obtain rfl : name = piece := Component.name.inj hsame
  obtain ⟨node, hat⟩ := h.there
  have hstep := step_of_isName hname hat
  obtain ⟨entries, hfolder, -⟩ := step_cases hstep
  have hfolder' : disk.tree.at? ([] ++ above) = some (.folder entries) := hfolder
  have hempty : p.isEmpty = false := by simp [Path.isEmpty, hpieces]
  unfold locate
  rw [hempty, hpieces]
  show disk.walk [] (next :: rest) = .ok (above ++ [name])
  rw [hinit, walk_append, walk_of_components hfolder' habove.symm]
  show disk.walk above [name] = .ok (above ++ [name])
  have hnil : disk.walk above [] = .ok above := by simp [walk]
  exact (walk_concat name hnil).trans hstep

end Disk

end RouteDoc
