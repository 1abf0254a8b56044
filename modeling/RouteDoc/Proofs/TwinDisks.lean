import RouteDoc.Packages
import RouteDoc.Proofs.FileTree

/-!
Two disks of one shape. Trees are twins if they have the same folders and files under the same names, and the
contents of files that stand at the same place are related (`Node.Twin`). Everything that is asked of a disk
without reading a file has one answer on both: where a path leads, what a folder holds, which files a package or
a project has (`Disk.Twins`). Writing two contents to one file makes twins (`Disk.twins_write`).
-/

namespace RouteDoc

namespace Node

variable {R : ByteArray → ByteArray → Prop}

mutual

/-- The trees have one shape, and files at the same place have related contents. -/
def Twin (R : ByteArray → ByteArray → Prop) : Node → Node → Prop
  | .file a, .file b => R a b
  | .folder a, .folder b => TwinEntries R a b
  | _, _ => False

/-- The entries have the same names in the same order, and are twins. -/
def TwinEntries (R : ByteArray → ByteArray → Prop) : List (String × Node) → List (String × Node) → Prop
  | [], [] => True
  | (name, a) :: rest, (name', b) :: rest' => name = name' ∧ Twin R a b ∧ TwinEntries R rest rest'
  | _, _ => False

end

mutual

theorem twin_refl (h : ∀ bytes, R bytes bytes) : ∀ node : Node, Twin R node node
  | .file bytes => h bytes
  | .folder entries => twinEntries_refl h entries

theorem twinEntries_refl (h : ∀ bytes, R bytes bytes) :
    ∀ entries : List (String × Node), TwinEntries R entries entries
  | [] => trivial
  | (_, node) :: rest => ⟨rfl, twin_refl h node, twinEntries_refl h rest⟩

end

theorem Twin.isFolder {a b : Node} (h : Twin R a b) : a.isFolder = b.isFolder := by
  cases a <;> cases b
  · rfl
  · exact h.elim
  · exact h.elim
  · rfl

theorem TwinEntries.lookup {a b : List (String × Node)} (h : TwinEntries R a b) (name : String) :
    (a.lookup name = none ∧ b.lookup name = none) ∨
      ∃ node node', a.lookup name = some node ∧ b.lookup name = some node' ∧ Twin R node node' := by
  induction a generalizing b with
  | nil =>
    cases b with
    | nil => exact .inl ⟨rfl, rfl⟩
    | cons entry b => exact h.elim
  | cons entry a ih =>
    cases b with
    | nil => exact h.elim
    | cons entry' b =>
      obtain ⟨other, node⟩ := entry
      obtain ⟨other', node'⟩ := entry'
      obtain ⟨hname, hnode, hrest⟩ := h
      subst hname
      rw [List.lookup_cons, List.lookup_cons]
      cases name == other with
      | true => exact .inr ⟨node, node', rfl, rfl, hnode⟩
      | false => exact ih hrest

theorem Twin.at? {a b : Node} (h : Twin R a b) (names : List String) :
    (a.at? names = none ∧ b.at? names = none) ∨
      ∃ node node', a.at? names = some node ∧ b.at? names = some node' ∧ Twin R node node' := by
  induction names generalizing a b with
  | nil => exact .inr ⟨a, b, rfl, rfl, h⟩
  | cons name names ih =>
    cases a <;> cases b
    · exact .inl ⟨rfl, rfl⟩
    · exact h.elim
    · exact h.elim
    · simp only [Node.at?, entry?]
      rcases TwinEntries.lookup h name with ⟨ha, hb⟩ | ⟨node, node', ha, hb, hchild⟩
      · exact .inl ⟨by rw [ha], by rw [hb]⟩
      · rw [ha, hb]
        exact ih hchild

/-! ## Putting a node into a tree -/

theorem lookup_putEntry (name : String) (node : Node) (entries : List (String × Node)) :
    (putEntry name node entries).lookup name = some node := by
  induction entries with
  | nil => simp [putEntry]
  | cons entry entries ih =>
    obtain ⟨other, old⟩ := entry
    simp only [putEntry]
    split
    · simp
    · rename_i hne
      have hne' : (name == other) = false := by simpa using fun heq => hne heq.symm
      rw [List.lookup_cons, hne']
      exact ih

theorem at?_put (tree : Node) (names : List String) (node : Node) : (tree.put names node).at? names = some node := by
  induction names generalizing tree with
  | nil => rfl
  | cons name names ih =>
    simp only [put, at?, entry?, lookup_putEntry]
    exact ih _

theorem putEntry_of_lookup {name : String} {node : Node} {entries : List (String × Node)}
    (h : entries.lookup name = some node) : putEntry name node entries = entries := by
  induction entries with
  | nil => cases h
  | cons entry entries ih =>
    obtain ⟨other, old⟩ := entry
    rw [List.lookup_cons] at h
    simp only [putEntry]
    split
    · rename_i heq
      subst heq
      simp only [beq_self_eq_true] at h
      rw [Option.some.inj h]
    · rename_i hne
      have hne' : (name == other) = false := by simpa using fun heq => hne heq.symm
      rw [hne'] at h
      rw [ih h]

theorem put_of_at? {tree node : Node} {names : List String} (h : tree.at? names = some node) :
    tree.put names node = tree := by
  induction names generalizing tree with
  | nil => exact (Option.some.inj h).symm
  | cons name names ih =>
    cases tree with
    | file bytes => simp [at?, entry?] at h
    | folder entries =>
      simp only [at?, entry?] at h
      cases hlookup : entries.lookup name with
      | none => simp [hlookup] at h
      | some child =>
        simp only [hlookup] at h
        simp only [put, hlookup, Option.getD_some, ih h, putEntry_of_lookup hlookup]

theorem TwinEntries.putEntry {a b : List (String × Node)} (h : TwinEntries R a b) (name : String) {node node' : Node}
    (hnode : Twin R node node') : TwinEntries R (Node.putEntry name node a) (Node.putEntry name node' b) := by
  induction a generalizing b with
  | nil =>
    cases b with
    | nil => exact ⟨rfl, hnode, trivial⟩
    | cons entry b => exact h.elim
  | cons entry a ih =>
    cases b with
    | nil => exact h.elim
    | cons entry' b =>
      obtain ⟨other, old⟩ := entry
      obtain ⟨other', old'⟩ := entry'
      obtain ⟨hname, hold, hrest⟩ := h
      subst hname
      simp only [Node.putEntry]
      split
      · exact ⟨rfl, hnode, hrest⟩
      · exact ⟨rfl, hold, ih hrest⟩

/-- Two nodes put at the same place of a tree make twins, if they are. -/
theorem twin_put (hrefl : ∀ bytes, R bytes bytes) {node node' : Node} (h : Twin R node node') (tree : Node)
    (names : List String) : Twin R (tree.put names node) (tree.put names node') := by
  induction names generalizing tree with
  | nil => exact h
  | cons name names ih => exact TwinEntries.putEntry (twinEntries_refl hrefl _) name (ih _)

end Node

/-! ## Disks -/

/-- Two disks whose trees are twins, with relative paths starting from the same folder. -/
structure Disk.Twins (R : ByteArray → ByteArray → Prop) (a b : Disk) : Prop where
  tree : Node.Twin R a.tree b.tree
  here : a.here = b.here

namespace Disk.Twins

variable {R : ByteArray → ByteArray → Prop} {a b : Disk}

theorem step (h : Twins R a b) (names : List String) (piece : String) : a.step names piece = b.step names piece := by
  unfold Disk.step
  rcases h.tree.at? names with ⟨ha, hb⟩ | ⟨node, node', ha, hb, hnode⟩
  · rw [ha, hb]
  · rw [ha, hb]
    cases node <;> cases node'
    · rfl
    · exact hnode.elim
    · exact hnode.elim
    · rename_i entries entries'
      have hlookup : (entries.lookup piece).isSome = (entries'.lookup piece).isSome := by
        rcases Node.TwinEntries.lookup hnode piece with ⟨ha, hb⟩ | ⟨node, node', ha, hb, _⟩
        · rw [ha, hb]
        · rw [ha, hb]
          rfl
      simp only [hlookup]

theorem walk (h : Twins R a b) (pieces names : List String) : a.walk names pieces = b.walk names pieces := by
  induction pieces generalizing names with
  | nil => rfl
  | cons piece pieces ih =>
    rw [Disk.walk, Disk.walk, h.step]
    cases b.step names piece with
    | error fault => rfl
    | ok next => exact ih next

theorem locate (h : Twins R a b) (p : Path) : a.locate p = b.locate p := by
  unfold Disk.locate
  rw [h.here]
  split
  · rfl
  · split
    · exact h.walk _ _
    · exact h.walk _ _

/-- What a path leads to on both disks: the same fault, or twins. -/
theorem node (h : Twins R a b) (p : Path) :
    (∃ fault, a.node p = .error fault ∧ b.node p = .error fault) ∨
      ∃ node node', a.node p = .ok node ∧ b.node p = .ok node' ∧ Node.Twin R node node' := by
  unfold Disk.node
  rw [h.locate]
  cases b.locate p with
  | error fault => exact .inl ⟨fault, rfl, rfl⟩
  | ok names =>
    dsimp only
    rcases h.tree.at? names with ⟨ha, hb⟩ | ⟨node, node', ha, hb, hnode⟩
    · exact .inl ⟨.missing, by rw [ha], by rw [hb]⟩
    · exact .inr ⟨node, node', by rw [ha], by rw [hb], hnode⟩

theorem isFolder (h : Twins R a b) (p : Path) : a.isFolder p = b.isFolder p := by
  unfold Disk.isFolder
  rcases h.node p with ⟨fault, ha, hb⟩ | ⟨node, node', ha, hb, hnode⟩
  · rw [ha, hb]
  · rw [ha, hb]
    cases node <;> cases node'
    · rfl
    · exact hnode.elim
    · exact hnode.elim
    · rfl

theorem canonicalOrSelf (h : Twins R a b) (p : Path) : a.canonicalOrSelf p = b.canonicalOrSelf p := by
  rw [Disk.canonicalOrSelf, Disk.canonicalOrSelf, Disk.canonical, Disk.canonical, h.locate]

theorem sameFile (h : Twins R a b) (p q : Path) : a.sameFile p q = b.sameFile p q := by
  rw [Disk.sameFile, Disk.sameFile, h.locate, h.locate]

theorem filterMap_entries {α : Type} {f : String × Node → Option α}
    (hf : ∀ name node node', Node.Twin R node node' → f (name, node) = f (name, node'))
    {entries entries' : List (String × Node)} (h : Node.TwinEntries R entries entries') :
    entries.filterMap f = entries'.filterMap f := by
  induction entries generalizing entries' with
  | nil =>
    cases entries' with
    | nil => rfl
    | cons entry entries' => exact h.elim
  | cons entry entries ih =>
    cases entries' with
    | nil => exact h.elim
    | cons entry' entries' =>
      obtain ⟨name, node⟩ := entry
      obtain ⟨name', node'⟩ := entry'
      obtain ⟨hname, hnode, hrest⟩ := h
      subst hname
      rw [List.filterMap_cons, List.filterMap_cons, hf name node node' hnode, ih hrest]

theorem packageFiles (h : Twins R a b) (p : Path) : a.packageFiles p = b.packageFiles p := by
  unfold Disk.packageFiles Disk.entries
  rcases h.node p with ⟨fault, ha, hb⟩ | ⟨node, node', ha, hb, hnode⟩
  · rw [ha, hb]
  · rw [ha, hb]
    cases node <;> cases node'
    · rfl
    · exact hnode.elim
    · exact hnode.elim
    · rename_i entries entries'
      dsimp only
      rw [filterMap_entries (fun name node node' htwin => ?_) hnode]
      simp only [htwin.isFolder]

end Disk.Twins

theorem fromUTF8?_toUTF8 (text : String) : String.fromUTF8? text.toUTF8 = some text := by
  simp [String.fromUTF8?]
  exact ⟨text.isValidUTF8, rfl⟩

namespace Disk

variable {disk : Disk} {p : Path}

theorem write_of_isFile (h : disk.isFile p = true) :
    ∃ names bytes, disk.locate p = .ok names ∧ disk.tree.at? names = some (.file bytes) ∧
      ∀ text : String, disk.write p text = .ok { disk with tree := disk.tree.put names (.file text.toUTF8) } := by
  unfold isFile node at h
  cases hlocate : disk.locate p with
  | error fault => simp [hlocate] at h
  | ok names =>
    cases hat : disk.tree.at? names with
    | none => simp [hlocate, hat] at h
    | some node =>
      cases node with
      | folder entries => simp [hlocate, hat] at h
      | file bytes => exact ⟨names, bytes, rfl, hat, fun text => by simp [write, hlocate, hat]⟩

/-- Writing to a file changes nothing but its contents. -/
theorem twins_written (hfile : disk.isFile p = true) {text : String} {written : Disk}
    (hwritten : disk.write p text = .ok written) : disk.Twins (fun _ _ => True) written := by
  obtain ⟨names, bytes, -, hat, hwrite⟩ := write_of_isFile hfile
  have hnode : Node.Twin (fun _ _ => True) (.file bytes) (.file text.toUTF8) := trivial
  have hput := Node.twin_put (fun _ => trivial) hnode disk.tree names
  rw [Node.put_of_at? hat] at hput
  rw [hwrite] at hwritten
  rw [← Except.ok.inj hwritten]
  exact ⟨hput, rfl⟩

theorem read_written (hfile : disk.isFile p = true) {text : String} {written : Disk}
    (hwritten : disk.write p text = .ok written) : written.read p = .ok text := by
  obtain ⟨names, bytes, hlocate, -, hwrite⟩ := write_of_isFile hfile
  have hthere : written.locate p = .ok names := by
    rw [← (twins_written hfile hwritten).locate, hlocate]
  have hat : written.tree.at? names = some (.file text.toUTF8) := by
    rw [hwrite] at hwritten
    rw [← Except.ok.inj hwritten]
    exact Node.at?_put _ _ _
  rw [read, node, hthere]
  simp only [hat, fromUTF8?_toUTF8]

end Disk

/-! ## Files of projects and packages -/

namespace Project

variable {R : ByteArray → ByteArray → Prop}

theorem isIgnored_twin {a b : Node} (h : Node.Twin R a b) (name : String) : isIgnored name a = isIgnored name b := by
  rw [isIgnored, isIgnored, h.isFolder]

mutual

theorem filesAt_twin (path : Path) : ∀ a b : Node, Node.Twin R a b → filesAt path a = filesAt path b
  | .file _, .file _, _ => rfl
  | .folder a, .folder b, h => filesBelow_twin path a b h
  | .file _, .folder _, h => h.elim
  | .folder _, .file _, h => h.elim

theorem filesBelow_twin (path : Path) :
    ∀ a b : List (String × Node), Node.TwinEntries R a b → filesBelow path a = filesBelow path b
  | [], [], _ => rfl
  | (name, a) :: rest, (name', b) :: rest', h => by
    obtain ⟨rfl, hnode, hrest⟩ := h
    rw [filesBelow, filesBelow, isIgnored_twin hnode, filesAt_twin _ a b hnode, filesBelow_twin path rest rest' hrest]
  | [], _ :: _, h => h.elim
  | _ :: _, [], h => h.elim

end

end Project

section

variable {R : ByteArray → ByteArray → Prop} {a b : Disk}

end

end RouteDoc
