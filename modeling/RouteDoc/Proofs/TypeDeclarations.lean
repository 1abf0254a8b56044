import RouteDoc.Proofs.Rereading
import RouteDoc.Types.Resolve

/-!
The type declarations of a disk. `definitionOn?` is the definition of a name in a folder, read off the
disk without a cache; searching through a cache that agrees with the disk finds the same one
(`findDefinition_steady`). Only finitely many names are declared: every declaration takes a line of a file
of its own (`mem_typeKeys`), so there are no more of them than bytes (`length_typeKeys_le`).
-/

namespace RouteDoc

namespace Go

open RouteDoc.Text

/-- The type names that the lines declare behind `depth` open braces, in an open group or not. -/
def declaredFrom : Nat → Bool → List (List Char) → List (List Char)
  | _, _, [] => []
  | depth, inGroup, line :: lines =>
    let text := trim line
    if depth = 0 && opensTypes text then declaredFrom depth true lines
    else if depth = 0 && inGroup && text = [')'] then declaredFrom depth false lines
    else
      (if depth = 0 then ((specOn? inGroup text).bind typeSpec?).map (·.1) else none).toList
        ++ declaredFrom (depth + braceNesting line).toNat inGroup lines

theorem mem_declaredFrom {name : List Char} {depth : Nat} {inGroup : Bool}
    {lines : List (List Char)} {definition : TypeDefinition}
    (h : definitionFrom name depth inGroup lines = some definition) :
    name ∈ declaredFrom depth inGroup lines := by
  induction lines generalizing depth inGroup with
  | nil => cases h
  | cons line lines ih =>
    simp only [definitionFrom, declaredFrom] at h ⊢
    split
    · rename_i hopens
      rw [if_pos hopens] at h
      exact ih h
    · rename_i hopens
      rw [if_neg hopens] at h
      split
      · rename_i hcloses
        rw [if_pos hcloses] at h
        exact ih h
      · rename_i hcloses
        rw [if_neg hcloses] at h
        split at h
        · -- the definition starts on this line, outside of all braces
          rename_i type htype
          by_cases hdepth : depth = 0
          · rw [if_pos hdepth] at htype ⊢
            unfold declaredAs? at htype
            split at htype
            · rename_i declared type' hspec
              split at htype
              · rename_i hsame
                simp [hspec, hsame]
              · cases htype
            · cases htype
          · rw [if_neg hdepth] at htype
            cases htype
        · exact List.mem_append_right _ (ih h)

theorem length_declaredFrom_le (depth : Nat) (inGroup : Bool) (lines : List (List Char)) :
    (declaredFrom depth inGroup lines).length ≤ lines.length := by
  induction lines generalizing depth inGroup with
  | nil => simp [declaredFrom]
  | cons line lines ih =>
    simp only [declaredFrom, List.length_cons]
    split
    · exact Nat.le_succ_of_le (ih _ _)
    · split
      · exact Nat.le_succ_of_le (ih _ _)
      · have hone : ∀ o : Option (List Char), o.toList.length ≤ 1 := by
          intro o
          cases o <;> simp
        rw [List.length_append]
        have hrest := ih (depth + braceNesting line).toNat inGroup
        have hfirst := hone
          (if depth = 0 then ((specOn? inGroup (trim line)).bind typeSpec?).map (·.1) else none)
        omega

end Go

namespace Text

theorem split_ne_nil (sep : Char) (s : List Char) : split sep s ≠ [] := by
  cases s with
  | nil => simp [split]
  | cons c cs =>
    simp only [split]
    split
    · simp
    · split <;> simp

theorem length_lines_le (s : List Char) : (lines s).length ≤ s.length := by
  unfold lines
  induction s with
  | nil => simp [split, linesOfPieces]
  | cons c cs ih =>
    simp only [split]
    cases hpieces : split '\n' cs with
    | nil => exact absurd hpieces (split_ne_nil _ _)
    | cons piece pieces =>
      rw [hpieces] at ih
      split
      · simp only [linesOfPieces, List.length_cons]
        omega
      · cases pieces with
        | nil => simp [linesOfPieces]
        | cons next pieces =>
          simp only [linesOfPieces, List.length_cons] at ih ⊢
          omega

end Text

theorem Source.length_stripFrom (mode : Source.Mode) (lines : List (List Char)) :
    (Source.stripFrom mode lines).length = lines.length := by
  induction lines generalizing mode with
  | nil => rfl
  | cons line lines ih => simp [Source.stripFrom, ih]

theorem length_le_encoded (s : List Char) : s.length ≤ s.utf8Encode.size := by
  induction s with
  | nil => simp
  | cons c s ih =>
    have hpos : 1 ≤ (String.utf8EncodeChar c).length := by
      rw [String.length_utf8EncodeChar]
      exact c.utf8Size_pos
    simp only [List.utf8Encode, List.size_toByteArray, List.flatMap_cons, List.length_append,
      List.length_cons] at ih ⊢
    omega

theorem length_toList_le_size {bytes : ByteArray} {text : String}
    (h : String.fromUTF8? bytes = some text) : text.toList.length ≤ bytes.size := by
  unfold String.fromUTF8? at h
  split at h
  · have hbytes : text.toByteArray = bytes := by
      rw [← Option.some.inj h]
      rfl
    rw [← hbytes]
    simpa using length_le_encoded text.toList
  · cases h

namespace Types

def fileTypes (bytes : ByteArray) : List (List Char) :=
  match String.fromUTF8? bytes with
  | some text => Go.declaredFrom 0 false (Source.stripComments text.toList)
  | none => []

theorem length_fileTypes_le (bytes : ByteArray) : (fileTypes bytes).length ≤ bytes.size := by
  unfold fileTypes
  split
  · rename_i text htext
    calc (Go.declaredFrom 0 false (Source.stripComments text.toList)).length
        ≤ (Source.stripComments text.toList).length := Go.length_declaredFrom_le _ _ _
      _ = (Text.lines text.toList).length := Source.length_stripFrom _ _
      _ ≤ text.toList.length := Text.length_lines_le _
      _ ≤ bytes.size := length_toList_le_size htext
  · simp

def keyAt (names : List String) (name : List Char) : TypeKey :=
  ((Path.ofNames names).components, name)

mutual

/-- The types declared at and below a node at `names`. -/
def typeKeysAt (names : List String) : Node → List TypeKey
  | .file _ => []
  | .folder entries => typeKeysBelow names entries

def typeKeysBelow (names : List String) : List (String × Node) → List TypeKey
  | [] => []
  | (_, .file bytes) :: rest => (fileTypes bytes).map (keyAt names) ++ typeKeysBelow names rest
  | (name, .folder entries) :: rest =>
    typeKeysBelow (names ++ [name]) entries ++ typeKeysBelow names rest

end

def typeKeys (disk : Disk) : List TypeKey :=
  typeKeysAt [] disk.tree

theorem length_typeKeysBelow_le (names : List String) (entries : List (String × Node)) :
    (typeKeysBelow names entries).length ≤ Node.sizeEntries entries := by
  match entries with
  | [] => simp [typeKeysBelow]
  | (_, .file bytes) :: rest =>
    have hrest := length_typeKeysBelow_le names rest
    have hfile := length_fileTypes_le bytes
    simp only [typeKeysBelow, List.length_append, List.length_map, Node.sizeEntries, Node.size]
    omega
  | (name, .folder inner) :: rest =>
    have hrest := length_typeKeysBelow_le names rest
    have hinner := length_typeKeysBelow_le (names ++ [name]) inner
    simp only [typeKeysBelow, List.length_append, Node.sizeEntries, Node.size]
    omega

theorem length_typeKeys_le (disk : Disk) : (typeKeys disk).length ≤ disk.tree.size := by
  unfold typeKeys
  cases disk.tree with
  | file bytes => simp [typeKeysAt]
  | folder entries => exact length_typeKeysBelow_le [] entries

theorem keyAt_mem_below (names : List String) {entries : List (String × Node)} {file : String}
    {bytes : ByteArray} {name : List Char} (hfile : entries.lookup file = some (.file bytes))
    (hname : name ∈ fileTypes bytes) : keyAt names name ∈ typeKeysBelow names entries := by
  induction entries with
  | nil => cases hfile
  | cons entry entries ih =>
    obtain ⟨other, node⟩ := entry
    rw [List.lookup_cons] at hfile
    split at hfile
    · cases Option.some.inj hfile
      rw [typeKeysBelow]
      exact List.mem_append_left _ (List.mem_map_of_mem hname)
    · cases node <;> rw [typeKeysBelow] <;> exact List.mem_append_right _ (ih hfile)

theorem below_subset_below {names : List String} {entries inner : List (String × Node)}
    {name : String} (h : entries.lookup name = some (.folder inner)) :
    typeKeysBelow (names ++ [name]) inner ⊆ typeKeysBelow names entries := by
  induction entries with
  | nil => cases h
  | cons entry entries ih =>
    obtain ⟨other, node⟩ := entry
    rw [List.lookup_cons] at h
    intro key hkey
    split at h
    · rename_i hsame
      cases Option.some.inj h
      rw [beq_iff_eq] at hsame
      rw [← hsame, typeKeysBelow]
      exact List.mem_append_left _ hkey
    · cases node <;> rw [typeKeysBelow] <;> exact List.mem_append_right _ (ih h hkey)

theorem below_subset_at {names : List String} {entries : List (String × Node)} (node : Node)
    (base : List String) (h : node.at? names = some (.folder entries)) :
    typeKeysBelow (base ++ names) entries ⊆ typeKeysAt base node := by
  induction names generalizing node base with
  | nil =>
    cases Option.some.inj h
    simp [typeKeysAt]
  | cons name names ih =>
    simp only [Node.at?] at h
    split at h
    · rename_i child hchild
      have hassoc : base ++ name :: names = (base ++ [name]) ++ names := by simp
      rw [hassoc]
      have hsub := ih child (base ++ [name]) h
      cases node with
      | file bytes => cases hchild
      | folder outer =>
        cases child with
        | file bytes => cases names <;> cases h
        | folder inner => exact List.Subset.trans hsub (below_subset_below hchild)
    · cases h

/-- The first of the files that can be read and declares the type, with its definition. -/
def definitionAmong? (disk : Disk) (name : List Char) (files : List Path) :
    Option (SourceFile × Go.TypeDefinition) :=
  files.findSome? fun path =>
    (disk.source? path).bind fun file => (Go.definition? file.lines name).map fun d => (file, d)

def definitionOn? (disk : Disk) (folder : Path) (name : List Char) :
    Option (SourceFile × Go.TypeDefinition) :=
  match disk.packageFiles folder with
  | .ok files => definitionAmong? disk name files
  | .error _ => none

/-- The key of a type that is sought in a folder. -/
def keyOf (disk : Disk) (folder : Path) (name : List Char) : TypeKey :=
  ((disk.canonicalOrSelf folder).components, name)

variable {disk : Disk}

theorem entries_of_packageFiles {folder : Path} {files : List Path}
    (h : disk.packageFiles folder = .ok files) :
    ∃ names entries, disk.locate folder = .ok names ∧
      disk.tree.at? names = some (.folder entries) ∧
      ∀ path ∈ files, ∃ name node, (name, node) ∈ entries ∧ path = folder.entry name := by
  unfold Disk.packageFiles Disk.entries Disk.node at h
  cases hl : disk.locate folder with
  | error fault => simp [hl] at h
  | ok names =>
    cases hat : disk.tree.at? names with
    | none => simp [hl, hat] at h
    | some node =>
      simp only [hl, hat] at h
      cases node with
      | file bytes => cases h
      | folder entries =>
        refine ⟨names, entries, rfl, hat, ?_⟩
        intro path hpath
        rw [← Except.ok.inj h, sortPaths] at hpath
        obtain ⟨⟨name, node⟩, hmem, hsome⟩ := List.mem_filterMap.mp (List.mem_mergeSort.mp hpath)
        refine ⟨name, node, hmem, ?_⟩
        simp only at hsome
        split at hsome
        · exact (Option.some.inj hsome).symm
        · cases hsome

theorem isSome_lookup_of_mem {name : String} {node : Node} {entries : List (String × Node)}
    (h : (name, node) ∈ entries) : (entries.lookup name).isSome = true := by
  induction entries with
  | nil => cases h
  | cons entry entries ih =>
    obtain ⟨other, node'⟩ := entry
    rw [List.lookup_cons]
    split
    · rfl
    · rename_i hne
      rcases List.mem_cons.mp h with heq | hmem
      · obtain ⟨rfl, rfl⟩ := Prod.mk.inj heq
        simp at hne
      · exact ih hmem

theorem locate_of_packageFiles {folder : Path} {files : List Path} {path : Path}
    (h : disk.packageFiles folder = .ok files) (hpath : path ∈ files) :
    ∃ out, disk.locate path = .ok out := by
  obtain ⟨names, entries, hl, hat, hfiles⟩ := entries_of_packageFiles h
  obtain ⟨name, node, hmem, rfl⟩ := hfiles path hpath
  rw [Disk.locate_entry name hl]
  exact Disk.step_of_lookup hat (isSome_lookup_of_mem hmem)

/-- A file that is there is a text of the tree without its comments. -/
theorem bytes_of_source? {p : Path} {file : SourceFile} (h : disk.source? p = some file) :
    ∃ names bytes text, disk.locate p = .ok names ∧ disk.tree.at? names = some (.file bytes) ∧
      String.fromUTF8? bytes = some text ∧
      file = ⟨Path.ofNames names, Source.stripComments text.toList⟩ := by
  obtain ⟨names, hl⟩ := Disk.locate_of_source? h
  rw [Disk.source?_of_locate hl] at h
  have hloc := Disk.locate_ofNames (Disk.located_of_locate hl)
  cases hat : disk.tree.at? names with
  | none => simp [Disk.readSource, Disk.read, Disk.node, hloc, hat, Except.toOption] at h
  | some node =>
    cases node with
    | folder entries =>
      simp [Disk.readSource, Disk.read, Disk.node, hloc, hat, Except.toOption] at h
    | file bytes =>
      cases htext : String.fromUTF8? bytes with
      | none =>
        simp [Disk.readSource, Disk.read, Disk.node, hloc, hat, htext, Except.toOption] at h
      | some text =>
        simp [Disk.readSource, Disk.read, Disk.node, hloc, hat, htext, Except.toOption] at h
        exact ⟨names, bytes, text, hl, hat, htext, h.symm⟩

theorem lookup_of_step {names out : List String} {entries : List (String × Node)} {name : String}
    {bytes : ByteArray} (hat : disk.tree.at? names = some (.folder entries))
    (hstep : disk.step names name = .ok out) (hout : disk.tree.at? out = some (.file bytes)) :
    entries.lookup name = some (.file bytes) := by
  obtain ⟨entries', hat', rfl | rfl | ⟨-, -, rfl⟩⟩ := Disk.step_cases hstep
  · rw [hat] at hout
    cases hout
  · rcases List.eq_nil_or_concat' names with rfl | ⟨init, last, rfl⟩
    · rw [List.dropLast_nil, hat] at hout
      cases hout
    · obtain ⟨above, habove⟩ := Disk.folder_of_at?_append hat
      rw [List.dropLast_concat, habove] at hout
      cases hout
  · rw [Node.at?_append, hat] at hout
    cases hl : entries.lookup name with
    | none => simp [Node.at?, Node.entry?, hl] at hout
    | some node =>
      simp [Node.at?, Node.entry?, hl] at hout
      rw [hout]

/-- A definition is found in a folder of the tree, in a file with a line for it. -/
theorem mem_typeKeys {folder : Path} {name : List Char} {file : SourceFile}
    {definition : Go.TypeDefinition}
    (h : definitionOn? disk (disk.canonicalOrSelf folder) name = some (file, definition)) :
    keyOf disk folder name ∈ typeKeys disk := by
  unfold definitionOn? at h
  split at h
  · rename_i files hfiles
    obtain ⟨path, hpath, hsome⟩ := List.exists_of_findSome?_eq_some h
    obtain ⟨source, hsource, hdef⟩ := Option.bind_eq_some_iff.mp hsome
    obtain ⟨d, hd, -⟩ := Option.map_eq_some_iff.mp hdef
    obtain ⟨names, entries, hl, hat, hentries⟩ := entries_of_packageFiles hfiles
    obtain ⟨entry, node, hmem, rfl⟩ := hentries path hpath
    obtain ⟨out, bytes, text, hout, hbytes, htext, rfl⟩ := bytes_of_source? hsource
    rw [Disk.locate_entry entry hl] at hout
    have hname : name ∈ fileTypes bytes := by
      rw [fileTypes, htext]
      exact Go.mem_declaredFrom hd
    have hbelow := keyAt_mem_below names (lookup_of_step hat hout hbytes) hname
    rw [keyOf, Disk.canonicalOrSelf_eq_ofNames hl]
    exact below_subset_at disk.tree [] hat hbelow
  · cases h

/-- Two folders that give types the same key are the same one, if a type is declared there. -/
theorem canonicalOrSelf_eq_of_keyOf {folder other : Path} {name name' : List Char}
    {found : SourceFile × Go.TypeDefinition}
    (h : definitionOn? disk (disk.canonicalOrSelf folder) name = some found)
    (hkey : keyOf disk other name' = keyOf disk folder name) :
    disk.canonicalOrSelf other = disk.canonicalOrSelf folder ∧ name' = name := by
  obtain ⟨hcomponents, hname⟩ := Prod.mk.inj hkey
  refine ⟨?_, hname⟩
  unfold definitionOn? at h
  split at h
  · rename_i files hfiles
    obtain ⟨names, entries, hl, hat, -⟩ := entries_of_packageFiles hfiles
    have hself := Disk.canonicalOrSelf_eq_ofNames hl
    rw [hself] at hcomponents ⊢
    have hother := Disk.locate_of_components (Disk.located_of_locate hl) hat hcomponents
    rw [← Disk.canonicalOrSelf_canonicalOrSelf]
    exact Disk.canonicalOrSelf_of_locate hother
  · cases h

theorem definitionIn_steady (name : List Char) {files : List Path}
    (hfiles : ∀ path ∈ files, disk.Unmistaken path) :
    Steady disk id (definitionIn disk name files) (definitionAmong? disk name files) := by
  induction files with
  | nil => exact Rerun.pure rfl rfl
  | cons path files ih =>
    have hrest := ih fun p hp => hfiles p (by simp [hp])
    have hload := Rerun.load (hfiles path (by simp))
    rw [definitionAmong?, List.findSome?_cons]
    refine Rerun.bind_except hload (fun file hfile => ?_) (fun e e' hnone => ?_)
    · simp only [hfile, Option.bind_some]
      cases Go.definition? file.lines name with
      | some definition => exact Rerun.pure rfl rfl
      | none => exact hrest
    · rw [hnone]
      exact hrest

/-- Searching for a definition finds the one on the disk, whatever the cache remembers. -/
theorem findDefinition_steady (folder : Path) (name : List Char) :
    Steady disk id (findDefinition disk (disk.canonicalOrSelf folder) name)
      (definitionOn? disk (disk.canonicalOrSelf folder) name) := by
  unfold findDefinition definitionOn?
  cases hfiles : disk.packageFiles (disk.canonicalOrSelf folder) with
  | ok files =>
    exact definitionIn_steady name fun path hpath => .inl (locate_of_packageFiles hfiles hpath)
  | error why => exact Rerun.warn_bind (Rerun.pure rfl rfl)

end Types

end RouteDoc
