import Mathlib.Logic.Relation
import RouteDoc.Proofs.Expansion
import RouteDoc.Proofs.TypeDeclarations

/-!
Expansion of declared types without a memory. `plainDeclared` knows only the types around the one it
expands, and ends because every type on the stack is one declaration less to go (`remaining_lt`).

Types name types. A type from which no chain of names goes on forever is `Settled`: it lies on no cycle
and leads to none. For such a type the stack does not matter, as long as it leads to nothing on the
stack (`plainDeclared_of_free`). Nor does it if everything on the stack leads to it
(`plainDeclared_of_settled`): what it names cannot lead back.

`Tracking` is a way of comparing an expansion with a memory to the plain one. Whatever is compared, it
holds of a definition if it holds of the types that the definition names (`Tracking.definedType`).
-/

namespace RouteDoc.Types

open RouteDoc.Go Relation

/-- The declared types that are not on the stack. -/
def remaining (disk : Disk) (stack : List TypeKey) : Nat :=
  ((typeKeys disk).filter (!stack.contains ·)).length

theorem remaining_lt {disk : Disk} {stack : List TypeKey} {key : TypeKey}
    (hkey : key ∈ typeKeys disk) (hnew : key ∉ stack) :
    remaining disk (key :: stack) < remaining disk stack := by
  have hfilter : (typeKeys disk).filter (!(key :: stack).contains ·)
      = ((typeKeys disk).filter (!stack.contains ·)).filter (· != key) := by
    rw [List.filter_filter]
    refine List.filter_congr fun other _ => ?_
    rw [List.contains_cons, Bool.not_or]
    rfl
  unfold remaining
  rw [hfilter, List.length_filter_lt_length_iff_exists]
  exact ⟨key, List.mem_filter.mpr ⟨hkey, by simpa using hnew⟩, by simp⟩

theorem remaining_lt_chainBound (disk : Disk) (stack : List TypeKey) :
    remaining disk stack < chainBound disk := by
  have hfilter : remaining disk stack ≤ (typeKeys disk).length := List.length_filter_le _ _
  have hkeys := length_typeKeys_le disk
  unfold chainBound
  omega

/-- What a definition is expanded with when nothing is remembered. -/
def plainSurroundings (disk : Disk) (packages : PackageFinder)
    (below : Path → List Char → InferredType) : Surroundings Id :=
  { imports := fun file => fileImports file.lines
    folder? := packages.folder? disk
    warn := fun _ => ()
    declared := below }

set_option linter.unusedVariables false in
/-- The type that a name declares in the package of a folder, where the types of the stack are being
expanded around it. -/
def plainDeclared (disk : Disk) (packages : PackageFinder) (stack : List TypeKey) (folder : Path)
    (name : List Char) : InferredType :=
  if hstack : keyOf disk folder name ∈ stack then .unknown
  else
    match h : definitionOn? disk (disk.canonicalOrSelf folder) name with
    | none => .unknown
    | some (file, definition) =>
      Id.run (expandDefinition
        (plainSurroundings disk packages fun folder' name' =>
          plainDeclared disk packages (keyOf disk folder name :: stack) folder' name')
        ⟨file, disk.canonicalOrSelf folder⟩ definition)
termination_by remaining disk stack
decreasing_by exact remaining_lt (mem_typeKeys h) hstack

/-- The declared type that a base asks for, if it asks for one. -/
def requestedBy? (disk : Disk) (packages : PackageFinder) (scope : Scope) :
    Base → Option (Path × List Char)
  | .schema _ => none
  | .shapeless => none
  | .own name => some (scope.folder, name)
  | .imported label name =>
    ((Assoc.get? (String.ofList label) (fileImports scope.file.lines)).bind
      (packages.folder? disk)).map fun folder => (folder, name)

def requested? (disk : Disk) (packages : PackageFinder) (scope : Scope) (token : List Char) :
    Option (Path × List Char) :=
  requestedBy? disk packages scope (readToken token).2

/-- The definition of the first type asks for the second one. -/
def Names (disk : Disk) (packages : PackageFinder) (key key' : TypeKey) : Prop :=
  ∃ folder name file definition, keyOf disk folder name = key ∧
    definitionOn? disk (disk.canonicalOrSelf folder) name = some (file, definition) ∧
    ∃ token ∈ definition.tokens, ∃ folder' name',
      requested? disk packages ⟨file, disk.canonicalOrSelf folder⟩ token = some (folder', name') ∧
      keyOf disk folder' name' = key'

/-- No chain of names goes on forever from the type. -/
def Settled (disk : Disk) (packages : PackageFinder) (key : TypeKey) : Prop :=
  Acc (fun below above => Names disk packages above below) key

variable {disk : Disk} {packages : PackageFinder}

theorem Settled.of_names {key : TypeKey}
    (h : ∀ key', Names disk packages key key' → Settled disk packages key') :
    Settled disk packages key :=
  Acc.intro key h

/-- What a type names, its definition asks for; it has only one. -/
theorem Names.requested {folder : Path} {name : List Char} {key : TypeKey}
    (h : Names disk packages (keyOf disk folder name) key) :
    ∃ file definition, definitionOn? disk (disk.canonicalOrSelf folder) name
        = some (file, definition) ∧
      ∃ token ∈ definition.tokens, ∃ folder' name',
        requested? disk packages ⟨file, disk.canonicalOrSelf folder⟩ token = some (folder', name') ∧
        keyOf disk folder' name' = key := by
  obtain ⟨other, name', file, definition, hkey, hdef, hasks⟩ := h
  obtain ⟨hfolder, rfl⟩ := canonicalOrSelf_eq_of_keyOf hdef hkey.symm
  rw [← hfolder] at hdef hasks
  exact ⟨file, definition, hdef, hasks⟩

theorem plainDeclared_of_mem {stack : List TypeKey} {folder : Path} {name : List Char}
    (h : keyOf disk folder name ∈ stack) :
    plainDeclared disk packages stack folder name = .unknown := by
  rw [plainDeclared, dif_pos h]

theorem plainDeclared_of_none {stack : List TypeKey} {folder : Path} {name : List Char}
    (h : definitionOn? disk (disk.canonicalOrSelf folder) name = none) :
    plainDeclared disk packages stack folder name = .unknown := by
  rw [plainDeclared]
  split
  · rfl
  · split
    · rfl
    · rename_i hsome
      rw [h] at hsome
      cases hsome

theorem plainDeclared_of_some {stack : List TypeKey} {folder : Path} {name : List Char}
    {file : SourceFile} {definition : TypeDefinition} (hnew : keyOf disk folder name ∉ stack)
    (h : definitionOn? disk (disk.canonicalOrSelf folder) name = some (file, definition)) :
    plainDeclared disk packages stack folder name =
      Id.run (expandDefinition
        (plainSurroundings disk packages
          (plainDeclared disk packages (keyOf disk folder name :: stack)))
        ⟨file, disk.canonicalOrSelf folder⟩ definition) := by
  rw [plainDeclared, dif_neg hnew]
  split
  · rename_i hnone
    rw [h] at hnone
    cases hnone
  · rename_i hsome
    rw [h] at hsome
    obtain ⟨rfl, rfl⟩ := Prod.mk.inj (Option.some.inj hsome)
    rfl

theorem plainDeclared_congr {stack : List TypeKey} {folder other : Path} {name name' : List Char}
    (h : keyOf disk other name' = keyOf disk folder name) :
    plainDeclared disk packages stack other name'
      = plainDeclared disk packages stack folder name := by
  cases hdef : definitionOn? disk (disk.canonicalOrSelf folder) name with
  | some found =>
    obtain ⟨hfolder, rfl⟩ := canonicalOrSelf_eq_of_keyOf hdef h
    by_cases hstack : keyOf disk folder name' ∈ stack
    · rw [plainDeclared_of_mem hstack, plainDeclared_of_mem (h ▸ hstack)]
    · rw [plainDeclared_of_some hstack hdef,
        plainDeclared_of_some (h ▸ hstack) (by rw [hfolder]; exact hdef), h, hfolder]
  | none =>
    cases hdef' : definitionOn? disk (disk.canonicalOrSelf other) name' with
    | none => rw [plainDeclared_of_none hdef, plainDeclared_of_none hdef']
    | some found =>
      obtain ⟨hfolder, rfl⟩ := canonicalOrSelf_eq_of_keyOf hdef' h.symm
      rw [hfolder, hdef'] at hdef
      cases hdef

/-- Plain expansions that answer alike. -/
def alike : InStep Id Id where
  Rel x y P := x = y ∧ P
  pure _ := ⟨rfl, True.intro⟩
  bind := by
    intro α β x y f g P Q hx hf
    obtain ⟨rfl, hP⟩ := hx
    exact ⟨(hf x).1, hP, (hf x).2⟩
  weaken h hPQ := ⟨h.1, hPQ h.2⟩

theorem expandBase_plain_congr {below below' : Path → List Char → InferredType} {scope : Scope}
    {base : Base} (h : ∀ folder name, requestedBy? disk packages scope base
      = some (folder, name) → below folder name = below' folder name) :
    expandBase (plainSurroundings disk packages below) scope base
      = expandBase (plainSurroundings disk packages below') scope base := by
  cases base with
  | schema type => rfl
  | shapeless => rfl
  | own name => exact h _ _ rfl
  | imported label name =>
    simp only [expandBase, plainSurroundings, requestedBy?] at h ⊢
    cases hfolder : (Assoc.get? (String.ofList label) (fileImports scope.file.lines)).bind
        (packages.folder? disk) with
    | none => simp [hfolder, bind]
    | some folder =>
      have hbelow := h folder name (by simp [hfolder])
      simp [hfolder, bind, hbelow]

theorem expandToken_plain_congr {below below' : Path → List Char → InferredType} {scope : Scope}
    {token : List Char} (h : ∀ folder name, requested? disk packages scope token
      = some (folder, name) → below folder name = below' folder name) :
    expandToken (plainSurroundings disk packages below) scope token
      = expandToken (plainSurroundings disk packages below') scope token := by
  unfold expandToken
  simp only [expandBase_plain_congr h]

theorem Settled.not_leads_self {key : TypeKey} (h : Settled disk packages key) :
    ¬ TransGen (Names disk packages) key key := by
  have hacc : Acc (TransGen fun below above => Names disk packages above below) key :=
    Acc.transGen h
  intro hloop
  have hswap : TransGen (fun below above => Names disk packages above below) key key :=
    transGen_swap.mp hloop
  clear h hloop
  induction hacc with
  | intro key _ ih => exact ih key hswap hswap

/-- Nothing that the type leads to, itself included, is on the stack. -/
def Free (disk : Disk) (packages : PackageFinder) (stack : List TypeKey) (key : TypeKey) : Prop :=
  ∀ other, ReflTransGen (Names disk packages) key other → other ∉ stack

theorem Free.nil {key : TypeKey} : Free disk packages [] key :=
  fun _ _ => List.not_mem_nil

theorem Free.below {stack : List TypeKey} {key key' : TypeKey} (h : Free disk packages stack key)
    (hnames : Names disk packages key key') : Free disk packages stack key' :=
  fun other hother => h other (.head hnames hother)

/-- What a settled type names does not lead back to it. -/
theorem Free.cons {stack : List TypeKey} {key key' : TypeKey} (h : Free disk packages stack key)
    (hsettled : Settled disk packages key) (hnames : Names disk packages key key') :
    Free disk packages (key :: stack) key' := by
  intro other hother hmem
  rcases List.mem_cons.mp hmem with rfl | hmem
  · exact hsettled.not_leads_self (TransGen.head' hnames hother)
  · exact h.below hnames other hother hmem

/-- The stack does not matter for a settled type that leads to nothing on it. -/
theorem plainDeclared_of_free {key : TypeKey} (h : Settled disk packages key)
    {stack stack' : List TypeKey} (hfree : Free disk packages stack key)
    (hfree' : Free disk packages stack' key) {folder : Path} {name : List Char}
    (hkey : keyOf disk folder name = key) :
    plainDeclared disk packages stack folder name
      = plainDeclared disk packages stack' folder name := by
  -- induction over what the type names: below it, both stacks have grown by the type itself
  induction h generalizing stack stack' folder name with
  | intro key hbelow ih =>
    cases hdef : definitionOn? disk (disk.canonicalOrSelf folder) name with
    | none => rw [plainDeclared_of_none hdef, plainDeclared_of_none hdef]
    | some found =>
      obtain ⟨file, definition⟩ := found
      have hnew := hfree key .refl
      have hnew' := hfree' key .refl
      rw [plainDeclared_of_some (hkey ▸ hnew) hdef, plainDeclared_of_some (hkey ▸ hnew') hdef]
      refine (expandDefinition_inStep alike (P := fun _ => True) definition ?_).1
      intro token htoken
      refine ⟨expandToken_plain_congr ?_, True.intro⟩
      intro folder' name' hrequest
      have hnames : Names disk packages key (keyOf disk folder' name') :=
        ⟨folder, name, file, definition, hkey, hdef, token, htoken, folder', name', hrequest, rfl⟩
      have hsettled : Settled disk packages key := .of_names hbelow
      rw [hkey]
      exact ih _ hnames (hfree.cons hsettled hnames) (hfree'.cons hsettled hnames) rfl

/-- Every type on the stack leads to the type. -/
def LeadsTo (disk : Disk) (packages : PackageFinder) (stack : List TypeKey) (key : TypeKey) : Prop :=
  ∀ outer ∈ stack, TransGen (Names disk packages) outer key

theorem LeadsTo.nil {key : TypeKey} : LeadsTo disk packages [] key := by
  intro outer houter
  cases houter

theorem LeadsTo.cons {stack : List TypeKey} {key key' : TypeKey}
    (h : LeadsTo disk packages stack key) (hnames : Names disk packages key key') :
    LeadsTo disk packages (key :: stack) key' := by
  intro outer houter
  rcases List.mem_cons.mp houter with rfl | houter
  · exact TransGen.single hnames
  · exact TransGen.tail (h outer houter) hnames

/-- A settled type cannot lead back to the types that lead to it. -/
theorem Settled.free {stack : List TypeKey} {key : TypeKey} (h : Settled disk packages key)
    (hstack : LeadsTo disk packages stack key) : Free disk packages stack key :=
  fun other hother hmem => h.not_leads_self (TransGen.trans_right hother (hstack other hmem))

theorem Settled.not_mem {stack : List TypeKey} {key : TypeKey} (h : Settled disk packages key)
    (hstack : LeadsTo disk packages stack key) : key ∉ stack :=
  h.free hstack key .refl

/-- The stack does not matter for a settled type that it leads to. -/
theorem plainDeclared_of_settled {key : TypeKey} (h : Settled disk packages key)
    {stack stack' : List TypeKey} (hstack : LeadsTo disk packages stack key)
    (hstack' : LeadsTo disk packages stack' key) {folder : Path} {name : List Char}
    (hkey : keyOf disk folder name = key) :
    plainDeclared disk packages stack folder name
      = plainDeclared disk packages stack' folder name :=
  plainDeclared_of_free h (h.free hstack) (h.free hstack') hkey

/-- What a name that is not on the stack declares without a memory. -/
def plainDefined (disk : Disk) (packages : PackageFinder) (stack : List TypeKey) (folder : Path)
    (name : List Char) : InferredType :=
  match definitionOn? disk (disk.canonicalOrSelf folder) name with
  | some (file, definition) =>
    Id.run (expandDefinition
      (plainSurroundings disk packages
        (plainDeclared disk packages (keyOf disk folder name :: stack)))
      ⟨file, disk.canonicalOrSelf folder⟩ definition)
  | none => .unknown

theorem plainDeclared_of_not_mem {stack : List TypeKey} {folder : Path} {name : List Char}
    (h : keyOf disk folder name ∉ stack) :
    plainDeclared disk packages stack folder name
      = plainDefined disk packages stack folder name := by
  unfold plainDefined
  cases hdef : definitionOn? disk (disk.canonicalOrSelf folder) name with
  | none => exact plainDeclared_of_none hdef
  | some found => exact plainDeclared_of_some h hdef

/-- A source file as the disk holds it. -/
def OnDisk (disk : Disk) (file : SourceFile) : Prop :=
  ∃ p, disk.source? p = some file

theorem OnDisk.eq_of_components {file other : SourceFile} (h : OnDisk disk file)
    (h' : OnDisk disk other) (hpath : other.path.components = file.path.components) :
    other = file := by
  obtain ⟨p, hp⟩ := h
  obtain ⟨q, hq⟩ := h'
  obtain ⟨names, bytes, text, hl, hat, htext, rfl⟩ := bytes_of_source? hp
  obtain ⟨names', bytes', text', hl', hat', htext', rfl⟩ := bytes_of_source? hq
  have hnames : names' = names :=
    Path.ofNames_inj (Disk.located_of_locate hl').isName (Disk.located_of_locate hl).isName hpath
  subst hnames
  rw [hat] at hat'
  cases hat'
  rw [htext] at htext'
  cases htext'
  rfl

theorem onDisk_of_definitionOn? {folder : Path} {name : List Char} {file : SourceFile}
    {definition : TypeDefinition}
    (h : definitionOn? disk folder name = some (file, definition)) : OnDisk disk file := by
  unfold definitionOn? at h
  split at h
  · obtain ⟨path, -, hsome⟩ := List.exists_of_findSome?_eq_some h
    obtain ⟨source, hsource, hdef⟩ := Option.bind_eq_some_iff.mp hsome
    obtain ⟨d, -, hpair⟩ := Option.map_eq_some_iff.mp hdef
    obtain ⟨rfl, rfl⟩ := Prod.mk.inj hpair
    exact ⟨path, hsource⟩
  · cases h

/-- A relation between the computations of a monad that runs a resolver and what they answer: they
answer as without a memory, and the proposition holds of what happens on the way. -/
structure Tracking (disk : Disk) (m : Type → Type) [Monad m] [MonadStateOf Memo m]
    [MonadLiftT Run m] where
  Rel : ∀ {α : Type}, m α → α → Prop → Prop
  pure : ∀ {α : Type} (a : α), Rel (pure a) a True
  bind : ∀ {α β : Type} {x : m α} {a : α} {f : α → m β} {b : β} {P Q : Prop},
    Rel x a P → Rel (f a) b Q → Rel (x >>= f) b (P ∧ Q)
  weaken : ∀ {α : Type} {x : m α} {a : α} {P Q : Prop}, Rel x a P → (P → Q) → Rel x a Q
  lift : ∀ {α : Type} {x : Run α} {a : α}, Steady disk id x a → Rel (liftM x : m α) a True
  imports : ∀ {file : SourceFile}, OnDisk disk file →
    Rel (importsOf file : m Imports) (fileImports file.lines) True

namespace Tracking

variable {m : Type → Type} [Monad m] [MonadStateOf Memo m] [MonadLiftT Run m]
  (T : Tracking disk m) {below : Path → List Char → m InferredType}
  {plain : Path → List Char → InferredType} {scope : Scope}

theorem bind_left {α β : Type} {x : m α} {a : α} {f : α → m β} {b : β} {P : Prop}
    (hx : T.Rel x a P) (hf : T.Rel (f a) b True) : T.Rel (x >>= f) b P :=
  T.weaken (T.bind hx hf) And.left

theorem bind_right {α β : Type} {x : m α} {a : α} {f : α → m β} {b : β} {Q : Prop}
    (hx : T.Rel x a True) (hf : T.Rel (f a) b Q) : T.Rel (x >>= f) b Q :=
  T.weaken (T.bind hx hf) And.right

theorem warn (text : String) : T.Rel (liftM (Run.warn text) : m Unit) () True :=
  T.lift (Rerun.report .warn .warn text text)

/-- Tracking a plain expansion is a way of being in step with it. -/
def toInStep : InStep m Id where
  Rel x y P := T.Rel x y P
  pure := T.pure
  bind hx hf := T.bind hx (hf _)
  weaken := T.weaken

theorem expandBase {base : Base} {P : Path → List Char → Prop} (hfile : OnDisk disk scope.file)
    (h : ∀ folder name, requestedBy? disk packages scope base = some (folder, name) →
      T.Rel (below folder name) (plain folder name) (P folder name)) :
    T.Rel (Types.expandBase (surroundingsOver disk packages below) scope base)
      (Id.run (Types.expandBase (plainSurroundings disk packages plain) scope base))
      (∀ folder name, requestedBy? disk packages scope base = some (folder, name) →
        P folder name) := by
  cases base with
  | schema type =>
    refine T.weaken (T.pure (InferredType.primitive type)) ?_
    intro _ folder name hsome
    cases hsome
  | shapeless =>
    refine T.weaken (T.pure InferredType.unknown) ?_
    intro _ folder name hsome
    cases hsome
  | own name =>
    refine T.weaken (h scope.folder name rfl) ?_
    intro hP folder name' hsome
    obtain ⟨rfl, rfl⟩ := Prod.mk.inj (Option.some.inj hsome)
    exact hP
  | imported label name =>
    refine T.bind_right (T.imports hfile) ?_
    simp only [Types.expandBase, plainSurroundings, surroundingsOver, requestedBy?, Id.run,
      Bind.bind] at h ⊢
    cases hfolder : (Assoc.get? (String.ofList label) (fileImports scope.file.lines)).bind
        (packages.folder? disk) with
    | none =>
      refine T.bind_right (T.warn _) (T.weaken (T.pure InferredType.unknown) ?_)
      intro _ folder name' hsome
      cases hsome
    | some folder =>
      rw [hfolder] at h
      refine T.weaken (h folder name rfl) ?_
      intro hP folder' name' hsome
      obtain ⟨rfl, rfl⟩ := Prod.mk.inj (Option.some.inj hsome)
      exact hP

theorem expandToken {token : List Char} {P : Path → List Char → Prop}
    (hfile : OnDisk disk scope.file)
    (h : ∀ folder name, requested? disk packages scope token = some (folder, name) →
      T.Rel (below folder name) (plain folder name) (P folder name)) :
    T.Rel (Types.expandToken (surroundingsOver disk packages below) scope token)
      (Id.run (Types.expandToken (plainSurroundings disk packages plain) scope token))
      (∀ folder name, requested? disk packages scope token = some (folder, name) →
        P folder name) :=
  T.bind_left (T.expandBase hfile h) (T.pure _)

/-- The definition of a name, expanded under the name itself, is tracked if the types that it names
are. -/
theorem definedType [LawfulMonad m] {stack : List TypeKey} {folder : Path} {name : List Char}
    {P : TypeKey → Prop}
    (h : ∀ folder' name', Names disk packages (keyOf disk folder name) (keyOf disk folder' name') →
      keyOf disk folder name ∈ typeKeys disk →
      T.Rel (below folder' name')
        (plainDeclared disk packages (keyOf disk folder name :: stack) folder' name')
        (P (keyOf disk folder' name'))) :
    T.Rel (Types.definedType disk packages below (disk.canonicalOrSelf folder) name)
      (plainDefined disk packages stack folder name)
      (∀ key, Names disk packages (keyOf disk folder name) key → P key) := by
  refine T.bind_right (T.lift (findDefinition_steady folder name)) ?_
  unfold plainDefined
  cases hdef : definitionOn? disk (disk.canonicalOrSelf folder) name with
  | none =>
    refine T.bind_right (T.warn _) (T.weaken (T.pure InferredType.unknown) ?_)
    intro _ key hnames
    obtain ⟨file, definition, hsome, -⟩ := hnames.requested
    rw [hdef] at hsome
    cases hsome
  | some found =>
    obtain ⟨file, definition⟩ := found
    have hfile := onDisk_of_definitionOn? hdef
    refine T.weaken (expandDefinition_inStep T.toInStep definition fun token htoken =>
      T.expandToken hfile fun folder' name' hrequest =>
        h folder' name' ⟨folder, name, file, definition, rfl, hdef, token, htoken, folder', name',
          hrequest, rfl⟩ (mem_typeKeys hdef)) ?_
    intro htokens key hnames
    obtain ⟨file', definition', hsome, token, htoken, folder', name', hrequest, rfl⟩ :=
      hnames.requested
    rw [hdef] at hsome
    obtain ⟨rfl, rfl⟩ := Prod.mk.inj (Option.some.inj hsome)
    exact htokens token htoken folder' name' hrequest

end Tracking

end RouteDoc.Types
