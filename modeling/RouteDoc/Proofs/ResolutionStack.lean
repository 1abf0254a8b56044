import Mathlib.Data.Set.Card
import RouteDoc.Proofs.ResolutionCache

/-!
Type expansion ends, and its stack is kept in order. The resolver is written for every monad that
carries its memory; `Watched` is one that also keeps every stack the memory has ever had. A watched run
does what the resolver's own run does (`Keeps`), so what is seen in it is what happens.

The recursion is bounded by a number of steps. `resolveOver` leaves open what happens when the steps
are used up: since the outcome does not depend on it (`resolveOver_keeps`), that never happens, and the
recursion ends by itself. The measure is the number of declarations that are not on the stack.
-/

namespace RouteDoc.Types

open RouteDoc.Go

/-- Runs of a resolver that keep the stacks it has had, latest first. -/
def Watched (α : Type) : Type :=
  StateT (List (List TypeKey)) Resolve α

namespace Watched

instance : Monad Watched :=
  inferInstanceAs (Monad (StateT (List (List TypeKey)) Resolve))

instance : LawfulMonad Watched :=
  inferInstanceAs (LawfulMonad (StateT (List (List TypeKey)) Resolve))

/-- Every change of the memory leaves the stack behind that it ends with. -/
instance : MonadStateOf Memo Watched where
  get := fun seen memo s => (((memo, seen), memo), s)
  set memo := fun seen _ s => ((((), memo.stack :: seen), memo), s)
  modifyGet f := fun seen memo s => ((((f memo).1, (f memo).2.stack :: seen), (f memo).2), s)

instance : MonadLiftT Run Watched where
  monadLift x := fun seen memo s => ((((x s).1, seen), memo), (x s).2)

end Watched

section

variable {m : Type → Type} [Monad m] [MonadStateOf Memo m] [MonadLiftT Run m]

/-- Expansion through at most `n` declarations, behind which `stop` takes over. -/
def resolveOver (disk : Disk) (packages : PackageFinder)
    (stop : Path → List Char → m InferredType) : Nat → Path → List Char → m InferredType
  | 0, folder, name => stop folder name
  | n + 1, folder, name => declaredType disk packages (resolveOver disk packages stop n) folder name

end

/-- The types that are declared on the disk, each by its folder and name. -/
def declarations (disk : Disk) : Set TypeKey :=
  { key | ∃ folder name, keyOf disk folder name = key ∧
    (definitionOn? disk (disk.canonicalOrSelf folder) name).isSome }

variable {disk : Disk} {packages : PackageFinder} {stack : List TypeKey}

theorem declarations_subset (disk : Disk) : declarations disk ⊆ {key | key ∈ typeKeys disk} := by
  rintro key ⟨folder, name, rfl, hdef⟩
  obtain ⟨⟨file, definition⟩, hfound⟩ := Option.isSome_iff_exists.mp hdef
  exact mem_typeKeys hfound

theorem declarations_finite (disk : Disk) : (declarations disk).Finite :=
  (List.finite_toSet (typeKeys disk)).subset (declarations_subset disk)

/-- The types around a name that is asked for: declared ones, each of them once. -/
structure Open (disk : Disk) (stack : List TypeKey) : Prop where
  nodup : stack.Nodup
  declared : ∀ key ∈ stack, key ∈ declarations disk

theorem open_nil (disk : Disk) : Open disk [] :=
  ⟨List.nodup_nil, fun _ h => absurd h List.not_mem_nil⟩

/-- A stack that holds no type twice and is at most by one longer than there are declarations. -/
structure InOrder (disk : Disk) (stack : List TypeKey) : Prop where
  nodup : stack.Nodup
  length_le : stack.length ≤ 1 + (declarations disk).ncard

theorem Open.length_le (h : Open disk stack) : stack.length ≤ (declarations disk).ncard := by
  have hsub : (stack.toFinset : Set TypeKey) ⊆ declarations disk := by
    intro key hkey
    exact h.declared key (List.mem_toFinset.mp hkey)
  calc stack.length = stack.toFinset.card := (List.toFinset_card_of_nodup h.nodup).symm
    _ = (stack.toFinset : Set TypeKey).ncard := (Set.ncard_coe_finset _).symm
    _ ≤ (declarations disk).ncard := Set.ncard_le_ncard hsub (declarations_finite disk)

theorem Open.inOrder (h : Open disk stack) : InOrder disk stack :=
  ⟨h.nodup, Nat.le_trans h.length_le (Nat.le_add_left _ _)⟩

/-- Entering a new type keeps the stack in order, whether the type is declared or not. -/
theorem Open.inOrder_cons (h : Open disk stack) {key : TypeKey} (hnew : key ∉ stack) :
    InOrder disk (key :: stack) := by
  refine ⟨List.nodup_cons.mpr ⟨hnew, h.nodup⟩, ?_⟩
  have hlen := h.length_le
  rw [List.length_cons]
  omega

theorem Open.cons (h : Open disk stack) {key : TypeKey} (hnew : key ∉ stack)
    (hkey : key ∈ declarations disk) : Open disk (key :: stack) := by
  refine ⟨List.nodup_cons.mpr ⟨hnew, h.nodup⟩, ?_⟩
  intro other hother
  rcases List.mem_cons.mp hother with rfl | hother
  · exact hkey
  · exact h.declared other hother

/-- The watched computation does what the other one does from every memory with the given stack; the
stack is the same afterwards, and every stack on the way is in order. -/
structure Keeps (disk : Disk) (stack : List TypeKey) {α : Type} (x : Watched α) (y : Resolve α) :
    Prop where
  run : ∀ seen memo s, s.cache.Genuine disk → memo.stack = stack →
    ∃ more, x seen memo s = ((((y memo s).1.1, more ++ seen), (y memo s).1.2), (y memo s).2) ∧
      (y memo s).1.2.stack = stack ∧ (y memo s).2.cache.Genuine disk ∧
      ∀ between ∈ more, InOrder disk between

namespace Keeps

variable {α β : Type}

theorem pure (a : α) : Keeps disk stack (Pure.pure a) (Pure.pure a) :=
  ⟨fun _ _ _ hs hstack => ⟨[], rfl, hstack, hs, by simp⟩⟩

theorem bind {x : Watched α} {y : Resolve α} {f : α → Watched β} {g : α → Resolve β}
    (hx : Keeps disk stack x y) (hf : ∀ a, Keeps disk stack (f a) (g a)) :
    Keeps disk stack (x >>= f) (y >>= g) := by
  refine ⟨fun seen memo s hs hstack => ?_⟩
  obtain ⟨more₁, hrun₁, hstack₁, hs₁, hin₁⟩ := hx.run seen memo s hs hstack
  obtain ⟨more₂, hrun₂, hstack₂, hs₂, hin₂⟩ :=
    (hf (y memo s).1.1).run (more₁ ++ seen) (y memo s).1.2 (y memo s).2 hs₁ hstack₁
  refine ⟨more₂ ++ more₁, ?_, hstack₂, hs₂, ?_⟩
  · show f (x seen memo s).1.1.1 (x seen memo s).1.1.2 (x seen memo s).1.2 (x seen memo s).2 = _
    rw [hrun₁, hrun₂, List.append_assoc]
    rfl
  · intro between hbetween
    rcases List.mem_append.mp hbetween with h | h
    · exact hin₂ between h
    · exact hin₁ between h

theorem lift {x : Run α} (h : ∀ s, s.cache.Genuine disk → (x s).2.cache.Genuine disk) :
    Keeps disk stack (liftM x) (liftM x) :=
  ⟨fun _ _ s hs hstack => ⟨[], rfl, hstack, h s hs, by simp⟩⟩

theorem warn (text : String) :
    Keeps disk stack (liftM (Run.warn text)) (liftM (Run.warn text)) :=
  lift fun _ h => h

end Keeps

/-- Being watched is a way of being in step. -/
def watching (disk : Disk) (stack : List TypeKey) : InStep Watched Resolve where
  Rel x y _ := Keeps disk stack x y
  pure := Keeps.pure
  bind := Keeps.bind
  weaken h _ := h

theorem Keeps.lift_bind {α β : Type} {x : Run α} {f : α → Watched β} {g : α → Resolve β}
    {P : α → Prop} (hx : ∀ s, s.cache.Genuine disk → P (x s).1 ∧ (x s).2.cache.Genuine disk)
    (hf : ∀ a, P a → Keeps disk stack (f a) (g a)) :
    Keeps disk stack (liftM x >>= f) (liftM x >>= g) := by
  refine ⟨fun seen memo s hs hstack => ?_⟩
  obtain ⟨hP, hs'⟩ := hx s hs
  exact (hf _ hP).run seen memo (x s).2 hs' hstack

/-- Every change of the memory that leaves the stack alone is watched in order. -/
theorem Keeps.update {f : Memo → Memo} (hin : InOrder disk stack)
    (hf : ∀ memo, (f memo).stack = memo.stack) :
    Keeps disk stack (modify f) (modify f) := by
  refine ⟨fun seen memo s hs hstack => ⟨[(f memo).stack], rfl, ?_, hs, ?_⟩⟩
  · exact (hf memo).trans hstack
  · intro between hbetween
    rw [List.mem_singleton.mp hbetween, hf memo, hstack]
    exact hin

theorem Keeps.get_bind {α : Type} {f : Memo → Watched α} {g : Memo → Resolve α}
    (h : ∀ memo, memo.stack = stack → Keeps disk stack (f memo) (g memo)) :
    Keeps disk stack (get >>= f) (get >>= g) :=
  ⟨fun seen memo s hs hstack => (h memo hstack).run seen memo s hs hstack⟩

/-- What is done between entering a type and leaving it happens under the type; afterwards the stack
is the one from before. -/
theorem Keeps.under {key : TypeKey} {cuts : Nat} {x : Watched InferredType}
    {y : Resolve InferredType} (hin : InOrder disk stack) (hkey : InOrder disk (key :: stack))
    (h : Keeps disk (key :: stack) x y) :
    Keeps disk stack
      (do modify (Memo.enter key); let type ← x; modify (Memo.leave key type cuts); return type)
      (do modify (Memo.enter key); let type ← y; modify (Memo.leave key type cuts); return type) := by
  refine ⟨fun seen memo s hs hstack => ?_⟩
  have henter : (memo.enter key).stack = key :: stack := congrArg (key :: ·) hstack
  obtain ⟨more, hrun, hstack', hs', hmore⟩ :=
    h.run ((key :: stack) :: seen) (memo.enter key) s hs henter
  have hleave : ∀ type, ((y (memo.enter key) s).1.2.leave key type cuts).stack = stack :=
    fun type => congrArg List.tail hstack'
  -- the stacks seen, the latest first: that after leaving, those in between, that after entering
  refine ⟨stack :: (more ++ [key :: stack]), ?_, hleave _, hs', ?_⟩
  · change (let after := x ((memo.enter key).stack :: seen) (memo.enter key) s
      (((after.1.1.1, (after.1.2.leave key after.1.1.1 cuts).stack :: after.1.1.2),
        after.1.2.leave key after.1.1.1 cuts), after.2)) = _
    rw [henter, hrun]
    simp only [hleave, List.cons_append, List.append_assoc, List.nil_append]
    rfl
  · intro between hbetween
    rcases List.mem_cons.mp hbetween with rfl | hbetween
    · exact hin
    · rcases List.mem_append.mp hbetween with hbetween | hbetween
      · exact hmore between hbetween
      · rw [List.mem_singleton.mp hbetween]
        exact hkey

theorem importsOf_keeps (hin : InOrder disk stack) (file : SourceFile) :
    Keeps disk stack (importsOf file) (importsOf file) := by
  refine Keeps.get_bind fun memo _ => ?_
  cases Assoc.get? file.path.components memo.imports with
  | some imports => exact Keeps.pure imports
  | none => exact Keeps.bind (Keeps.update hin fun _ => rfl) fun _ => Keeps.pure _

section

variable {below : Path → List Char → Watched InferredType}
  {below' : Path → List Char → Resolve InferredType} {scope : Scope}

theorem surroundingsOver_keeps (hin : InOrder disk stack)
    (h : ∀ folder name, Keeps disk stack (below folder name) (below' folder name)) :
    (watching disk stack).Around (surroundingsOver disk packages below)
      (surroundingsOver disk packages below') :=
  ⟨importsOf_keeps hin, rfl, Keeps.warn, h⟩

theorem expandBase_keeps (hin : InOrder disk stack)
    (h : ∀ folder name, Keeps disk stack (below folder name) (below' folder name))
    (base : Base) :
    Keeps disk stack (expandBase (surroundingsOver disk packages below) scope base)
      (expandBase (surroundingsOver disk packages below') scope base) :=
  (surroundingsOver_keeps hin h).expandBase base

theorem expandToken_keeps (hin : InOrder disk stack)
    (h : ∀ folder name, Keeps disk stack (below folder name) (below' folder name))
    (token : List Char) :
    Keeps disk stack (expandToken (surroundingsOver disk packages below) scope token)
      (expandToken (surroundingsOver disk packages below') scope token) :=
  (surroundingsOver_keeps hin h).expandToken token

theorem expandFields_keeps (hin : InOrder disk stack)
    (h : ∀ folder name, Keeps disk stack (below folder name) (below' folder name))
    (fields : List Field) :
    Keeps disk stack (expandFields (surroundingsOver disk packages below) scope fields)
      (expandFields (surroundingsOver disk packages below') scope fields) :=
  expandFields_inStep (watching disk stack) (P := fun _ => True) fields
    fun token _ => expandToken_keeps hin h token

theorem expandDefinition_keeps (hin : InOrder disk stack)
    (h : ∀ folder name, Keeps disk stack (below folder name) (below' folder name))
    (definition : TypeDefinition) :
    Keeps disk stack (expandDefinition (surroundingsOver disk packages below) scope definition)
      (expandDefinition (surroundingsOver disk packages below') scope definition) :=
  expandDefinition_inStep (watching disk stack) (P := fun _ => True) definition
    fun token _ => expandToken_keeps hin h token

end

theorem definitionIn_genuine {s : Session} (name : List Char) {files : List Path}
    (h : s.cache.Genuine disk) (hfiles : ∀ path ∈ files, disk.Unmistaken path) :
    ((definitionIn disk name files s).1.isSome → (definitionAmong? disk name files).isSome) ∧
      (definitionIn disk name files s).2.cache.Genuine disk := by
  induction files generalizing s with
  | nil => exact ⟨id, h⟩
  | cons path files ih =>
    have hpath := hfiles path (by simp)
    have hrest : ∀ path ∈ files, disk.Unmistaken path := fun p hp => hfiles p (by simp [hp])
    have hgenuine := SourceCache.genuine_request (p := path) h
    obtain ⟨journal, hload⟩ := load_run disk path s
    obtain ⟨hrec, hafter⟩ := ih (s := ⟨(s.cache.request disk path).2.1, journal⟩) hgenuine hrest
    have hlater : (definitionAmong? disk name files).isSome →
        (definitionAmong? disk name (path :: files)).isSome := by
      intro hsome
      rw [definitionAmong?, List.findSome?_cons]
      split
      · rfl
      · exact hsome
    simp only [definitionIn, bind, StateT.bind, hload]
    cases hanswer : (s.cache.request disk path).1 with
    | error error => exact ⟨fun hsome => hlater (hrec hsome), hafter⟩
    | ok file =>
      have hsource := SourceCache.source?_of_request h hpath hanswer
      cases hdef : Go.definition? file.lines name with
      | none =>
        simp only [hdef]
        exact ⟨fun hsome => hlater (hrec hsome), hafter⟩
      | some definition =>
        simp only [hdef]
        refine ⟨fun _ => ?_, hgenuine⟩
        simp [definitionAmong?, hsource, hdef]

/-- A definition is found for declared types only, and searching keeps the cache genuine. -/
theorem findDefinition_genuine {s : Session} (folder : Path) (name : List Char)
    (h : s.cache.Genuine disk) :
    ((findDefinition disk (disk.canonicalOrSelf folder) name s).1.isSome →
        keyOf disk folder name ∈ declarations disk) ∧
      (findDefinition disk (disk.canonicalOrSelf folder) name s).2.cache.Genuine disk := by
  have hdeclared : (definitionOn? disk (disk.canonicalOrSelf folder) name).isSome →
      keyOf disk folder name ∈ declarations disk := fun hdef => ⟨folder, name, rfl, hdef⟩
  unfold findDefinition
  unfold definitionOn? at hdeclared
  cases hfiles : disk.packageFiles (disk.canonicalOrSelf folder) with
  | error why => exact ⟨fun hsome => (Bool.false_ne_true hsome).elim, h⟩
  | ok files =>
    rw [hfiles] at hdeclared
    obtain ⟨hfound, hafter⟩ := definitionIn_genuine name h
      fun path hpath => .inl (locate_of_packageFiles hfiles hpath)
    exact ⟨fun hsome => hdeclared (hfound hsome), hafter⟩

/-- The definition of a type is expanded under the type, which is declared then. -/
theorem definedType_keeps {below : Path → List Char → Watched InferredType}
    {below' : Path → List Char → Resolve InferredType} {folder : Path} {name : List Char}
    (hopen : Open disk stack) (hnew : keyOf disk folder name ∉ stack)
    (h : keyOf disk folder name ∈ declarations disk → ∀ folder' name',
      Keeps disk (keyOf disk folder name :: stack) (below folder' name') (below' folder' name')) :
    Keeps disk (keyOf disk folder name :: stack)
      (definedType disk packages below (disk.canonicalOrSelf folder) name)
      (definedType disk packages below' (disk.canonicalOrSelf folder) name) := by
  have hin := hopen.inOrder_cons hnew
  refine Keeps.lift_bind
    (P := fun found => found.isSome → keyOf disk folder name ∈ declarations disk)
    (fun s hs => findDefinition_genuine folder name hs) ?_
  intro found hfound
  cases found with
  | none => exact Keeps.bind (Keeps.warn _) fun _ => Keeps.pure _
  | some pair =>
    obtain ⟨file, definition⟩ := pair
    exact expandDefinition_keeps hin (h (hfound rfl)) definition

theorem declaredType_keeps {below : Path → List Char → Watched InferredType}
    {below' : Path → List Char → Resolve InferredType} {folder : Path} {name : List Char}
    (hopen : Open disk stack)
    (h : keyOf disk folder name ∉ stack → Keeps disk (keyOf disk folder name :: stack)
      (definedType disk packages below (disk.canonicalOrSelf folder) name)
      (definedType disk packages below' (disk.canonicalOrSelf folder) name)) :
    Keeps disk stack (declaredType disk packages below folder name)
      (declaredType disk packages below' folder name) := by
  have hkey : ((disk.canonicalOrSelf folder).components, name) = keyOf disk folder name := rfl
  unfold declaredType
  refine Keeps.get_bind fun memo hmemo => ?_
  rw [hkey, hmemo]
  cases Assoc.get? (keyOf disk folder name) memo.types with
  | some type => exact Keeps.pure type
  | none =>
    by_cases hmem : keyOf disk folder name ∈ stack
    · simp only [if_pos hmem]
      exact Keeps.bind (Keeps.warn _) fun _ =>
        Keeps.bind (Keeps.update hopen.inOrder fun _ => rfl) fun _ => Keeps.pure _
    · simp only [if_neg hmem]
      exact Keeps.under hopen.inOrder (hopen.inOrder_cons hmem) (h hmem)

/-- The steps are never used up: with more of them than declarations to go, it does not matter how
many there are, nor what would happen behind them. -/
theorem resolveOver_keeps {stop : Path → List Char → Watched InferredType} {n k : Nat}
    (hn : remaining disk stack < n) (hk : remaining disk stack < k) (hopen : Open disk stack)
    (folder : Path) (name : List Char) :
    Keeps disk stack (resolveOver disk packages stop n folder name)
      (resolveDeclared disk packages k folder name) := by
  induction n generalizing stack k folder name with
  | zero => exact absurd hn (Nat.not_lt_zero _)
  | succ n ih =>
    cases k with
    | zero => exact absurd hk (Nat.not_lt_zero _)
    | succ k =>
      refine declaredType_keeps hopen fun hnew => definedType_keeps hopen hnew ?_
      intro hkey folder' name'
      -- the type on top is declared and was not there before: one declaration less to go
      have hless := remaining_lt (declarations_subset disk hkey) hnew
      exact ih (by omega) (by omega) (hopen.cons hnew hkey) folder' name'

/-- Type expansion ends and keeps its stack in order. Whatever `stop` would do behind the last of the
steps, and however many steps there are, tokens, bases, names, definitions and fields are expanded as
the resolver expands them: so the recursion ends by itself. On the way every stack holds no type twice
and is at most by one longer than there are declarations, and afterwards the stack is the one from
before. -/
theorem resolution_terminates (disk : Disk) (packages : PackageFinder)
    (stop : Path → List Char → Watched InferredType) (n : Nat) (hn : chainBound disk ≤ n)
    (stack : List TypeKey) (hopen : Open disk stack) (scope : Scope) :
    (∀ token, Keeps disk stack
      (expandToken (surroundingsOver disk packages (resolveOver disk packages stop n)) scope token)
      (expandToken (surroundings disk packages) scope token)) ∧
    (∀ base, Keeps disk stack
      (expandBase (surroundingsOver disk packages (resolveOver disk packages stop n)) scope base)
      (expandBase (surroundings disk packages) scope base)) ∧
    (∀ folder name, Keeps disk stack (resolveOver disk packages stop n folder name)
      (resolveDeclared disk packages (chainBound disk) folder name)) ∧
    (∀ definition, Keeps disk stack
      (expandDefinition (surroundingsOver disk packages (resolveOver disk packages stop n)) scope
        definition)
      (expandDefinition (surroundings disk packages) scope definition)) ∧
    ∀ fields, Keeps disk stack
      (expandFields (surroundingsOver disk packages (resolveOver disk packages stop n)) scope fields)
      (expandFields (surroundings disk packages) scope fields) := by
  have hin := hopen.inOrder
  have hbound := remaining_lt_chainBound disk stack
  have hdeclared : ∀ folder name, Keeps disk stack (resolveOver disk packages stop n folder name)
      (resolveDeclared disk packages (chainBound disk) folder name) :=
    fun folder name =>
      resolveOver_keeps (Nat.lt_of_lt_of_le hbound hn) hbound hopen folder name
  exact ⟨expandToken_keeps hin hdeclared, expandBase_keeps hin hdeclared, hdeclared,
    expandDefinition_keeps hin hdeclared, expandFields_keeps hin hdeclared⟩

/-- Two names that are declared as each other. -/
def aliasDisk : Disk :=
  ⟨.folder [("m", .folder [("t.go", .file "package m\n\ntype A B\n\ntype B A\n".toUTF8)])], []⟩

/-- The first of the two names, asked for with a primitive type behind the last step. -/
def aliasWatched : Watched InferredType :=
  resolveOver aliasDisk ⟨fun _ _ => none⟩ (fun _ _ => pure (.primitive "string"))
    (chainBound aliasDisk) ⟨["", "m"]⟩ ['A']

/-- The first of the two names, as the resolver expands it. -/
def aliasOwn : Resolve InferredType :=
  resolveDeclared aliasDisk ⟨fun _ _ => none⟩ (chainBound aliasDisk) ⟨["", "m"]⟩ ['A']

/-- The cycle of the two names, watched from a fresh memory. -/
theorem resolution_terminates_aliases :
    chainBound aliasDisk ≤ chainBound aliasDisk ∧ Open aliasDisk [] ∧
      ∃ more, aliasWatched [] {} {}
          = ((((aliasOwn {} {}).1.1, more ++ []), (aliasOwn {} {}).1.2), (aliasOwn {} {}).2) ∧
        (aliasOwn {} {}).1.2.stack = [] ∧ ∀ between ∈ more, InOrder aliasDisk between := by
  have hall := resolution_terminates aliasDisk ⟨fun _ _ => none⟩
    (fun _ _ => pure (.primitive "string")) (chainBound aliasDisk) (Nat.le_refl _) []
    (open_nil aliasDisk) ⟨⟨⟨[]⟩, []⟩, ⟨[]⟩⟩
  obtain ⟨more, hrun, hstack, -, hmore⟩ :=
    (hall.2.2.1 ⟨["", "m"]⟩ ['A']).run [] {} {} SourceCache.genuine_empty rfl
  exact ⟨Nat.le_refl _, open_nil aliasDisk, more, hrun, hstack, hmore⟩

end RouteDoc.Types
