import RouteDoc.Proofs.ResolutionReads

/-!
The states of a resolver. `Traced` runs keep every state that the resolver has been in; they do what its
own runs do (`mirroring`), as every two monads do that agree on the steps of a memory
(`resolveDeclared_inStep`). `Reached` states are those between two requests and those in the midst of
one, where types are being expanded.

What is remembered in a reached state does not depend on the types being expanded. The invariant is
`Coherent`: with a finished type everything that it names is finished, and no type being expanded is.
So no finished type leads to the stack. Every step of a resolver keeps it (`resolveDeclared_passes`), and
from a coherent state fields are expanded as they are without a memory under the same stack
(`expandFields_of_coherent`).
-/

namespace RouteDoc.Types

open RouteDoc.Go Relation

/-- What a resolver remembers, and the session in which it does. -/
abbrev ResolverState := Memo × Session

/-- Runs of a resolver that keep the states it has been in, latest first. -/
def Traced (α : Type) : Type :=
  StateT (List ResolverState) Resolve α

namespace Traced

instance : Monad Traced :=
  inferInstanceAs (Monad (StateT (List ResolverState) Resolve))

instance : LawfulMonad Traced :=
  inferInstanceAs (LawfulMonad (StateT (List ResolverState) Resolve))

/-- Every change of the memory leaves the state behind that it ends with. -/
instance : MonadStateOf Memo Traced where
  get := fun seen memo s => (((memo, seen), memo), s)
  set memo := fun seen _ s => ((((), (memo, s) :: seen), memo), s)
  modifyGet f := fun seen memo s => ((((f memo).1, ((f memo).2, s) :: seen), (f memo).2), s)

/-- So does every step that leaves the memory alone. -/
instance : MonadLiftT Run Traced where
  monadLift x := fun seen memo s => ((((x s).1, (memo, (x s).2) :: seen), memo), (x s).2)

/-- The run without the states that it keeps. -/
def forget {α : Type} (x : Traced α) (seen : List ResolverState) : Resolve α :=
  fun memo s => (((x seen memo s).1.1.1, (x seen memo s).1.2), (x seen memo s).2)

end Traced

section

variable {m n : Type → Type} [Monad m] [MonadStateOf Memo m] [MonadLiftT Run m]
  [Monad n] [MonadStateOf Memo n] [MonadLiftT Run n]

/-- Two monads are in step on all that a resolver does with its memory and its session. -/
structure InStep.Steps (R : InStep m n) : Prop where
  get : R.Rel (get : m Memo) get True
  modify : ∀ f : Memo → Memo, R.Rel (modify f : m PUnit) (modify f) True
  lift : ∀ {α : Type} (x : Run α), R.Rel (liftM x : m α) (liftM x) True

variable {R : InStep m n} {disk : Disk} {packages : PackageFinder}
  {below : Path → List Char → m InferredType} {below' : Path → List Char → n InferredType}

theorem importsOf_inStep (hR : R.Steps) (file : SourceFile) :
    R.Rel (importsOf file : m Imports) (importsOf file) True := by
  apply R.bind_left hR.get
  intro memo
  cases Assoc.get? file.path.components memo.imports with
  | some imports => exact R.pure imports
  | none => exact R.bind_left (hR.modify _) fun _ => R.pure _

theorem surroundingsOver_inStep (hR : R.Steps)
    (h : ∀ folder name, R.Rel (below folder name) (below' folder name) True) :
    R.Around (surroundingsOver disk packages below) (surroundingsOver disk packages below') :=
  ⟨importsOf_inStep hR, rfl, fun _ => hR.lift _, h⟩

variable [LawfulMonad m] [LawfulMonad n]

theorem definedType_inStep (hR : R.Steps)
    (h : ∀ folder name, R.Rel (below folder name) (below' folder name) True)
    (folder : Path) (name : List Char) :
    R.Rel (definedType disk packages below folder name)
      (definedType disk packages below' folder name) True := by
  apply R.bind_left (hR.lift _)
  intro found
  cases found with
  | none => exact R.bind_left (hR.lift _) fun _ => R.pure _
  | some pair =>
    obtain ⟨file, definition⟩ := pair
    apply R.trivial
    exact expandDefinition_inStep R definition fun token _ =>
      (surroundingsOver_inStep hR h).expandToken token

theorem declaredType_inStep (hR : R.Steps)
    (h : ∀ folder name, R.Rel (below folder name) (below' folder name) True)
    (folder : Path) (name : List Char) :
    R.Rel (declaredType disk packages below folder name)
      (declaredType disk packages below' folder name) True := by
  apply R.bind_left hR.get
  intro memo
  cases Assoc.get? ((disk.canonicalOrSelf folder).components, name) memo.types with
  | some type => exact R.pure type
  | none =>
    by_cases hstack : ((disk.canonicalOrSelf folder).components, name) ∈ memo.stack
    · simp only [if_pos hstack]
      exact R.bind_left (hR.lift _) fun _ => R.bind_left (hR.modify _) fun _ => R.pure _
    · simp only [if_neg hstack]
      apply R.bind_left (hR.modify _)
      intro _
      apply R.bind_left (definedType_inStep hR h _ name)
      intro type
      exact R.bind_left (hR.modify _) fun _ => R.pure _

/-- The expansion of declared types is the same code in both monads, so they are in step on it. -/
theorem resolveDeclared_inStep (hR : R.Steps) (k : Nat) (folder : Path) (name : List Char) :
    R.Rel (resolveDeclared disk packages k folder name : m InferredType)
      (resolveDeclared disk packages k folder name) True := by
  induction k generalizing folder name with
  | zero => exact R.pure _
  | succ k ih => exact declaredType_inStep hR ih folder name

end

/-- Runs that do the same once the states are forgotten. -/
def mirroring : InStep Traced Resolve where
  Rel x y _ := ∀ seen, x.forget seen = y
  pure _ _ := rfl
  bind := by
    intro α β x y f g P Q hx hf seen
    funext memo s
    have hfirst : (((x seen memo s).1.1.1, (x seen memo s).1.2), (x seen memo s).2) = y memo s :=
      congrFun (congrFun (hx seen) memo) s
    show (f (x seen memo s).1.1.1).forget (x seen memo s).1.1.2 (x seen memo s).1.2
      (x seen memo s).2 = g (y memo s).1.1 (y memo s).1.2 (y memo s).2
    rw [hf, ← hfirst]
  weaken h _ := h

theorem mirroring_steps : mirroring.Steps :=
  ⟨fun _ => rfl, fun _ _ => rfl, fun _ _ => rfl⟩

/-- What tokens are expanded with in a traced run. -/
def tracedSurroundings (disk : Disk) (packages : PackageFinder) : Surroundings Traced :=
  surroundingsOver disk packages (resolveDeclared disk packages (chainBound disk))

variable {disk : Disk} {packages : PackageFinder} {scope : Scope}

theorem expandToken_forget (token : List Char) (seen : List ResolverState) :
    (expandToken (tracedSurroundings disk packages) scope token).forget seen
      = expandToken (surroundings disk packages) scope token :=
  (surroundingsOver_inStep mirroring_steps (resolveDeclared_inStep mirroring_steps _)).expandToken
    token seen

theorem expandFields_forget (fields : List Field) (seen : List ResolverState) :
    (expandFields (tracedSurroundings disk packages) scope fields).forget seen
      = expandFields (surroundings disk packages) scope fields :=
  expandFields_inStep mirroring (P := fun _ => True) fields
    (fun token _ => expandToken_forget token) seen

/-! ## Coherent states -/

/-- What a resolver remembers in the midst of a request: with a finished type all that it names, and
nothing that is being expanded. -/
structure Coherent (disk : Disk) (packages : PackageFinder) (memo : Memo) (s : Session) : Prop
    extends Sound disk packages memo s where
  closed : ∀ key key', Assoc.has key memo.types → Names disk packages key key' →
    Assoc.has key' memo.types
  apart : ∀ key ∈ memo.stack, ¬ Assoc.has key memo.types

theorem coherent_fresh (disk : Disk) (packages : PackageFinder) : Coherent disk packages {} {} :=
  ⟨sound_fresh disk packages, fun _ _ h => absurd h Bool.false_ne_true,
    fun _ h => absurd h List.not_mem_nil⟩

theorem Sound.settled_of_has {memo : Memo} {s : Session} (h : Sound disk packages memo s)
    {key : TypeKey} (hkey : Assoc.has key memo.types) : Settled disk packages key := by
  obtain ⟨type, hget⟩ := Option.isSome_iff_exists.mp hkey
  exact (h.types key type (Assoc.mem_of_get? hget)).1

namespace Coherent

variable {memo : Memo} {s : Session} {key : TypeKey}

theorem has_of_leads (h : Coherent disk packages memo s) (hkey : Assoc.has key memo.types)
    {other : TypeKey} (hother : ReflTransGen (Names disk packages) key other) :
    Assoc.has other memo.types := by
  induction hother with
  | refl => exact hkey
  | tail _ hnames ih => exact h.closed _ _ ih hnames

/-- A finished type leads to nothing that is being expanded. -/
theorem free (h : Coherent disk packages memo s) (hkey : Assoc.has key memo.types) :
    Free disk packages memo.stack key :=
  fun other hother hmem => h.apart other hmem (h.has_of_leads hkey hother)

/-- What names only finished types, under which it is being expanded, leads to nothing around it. -/
theorem free_of_names {stack : List TypeKey} (h : Coherent disk packages memo s)
    (hstack : memo.stack = key :: stack) (hnew : key ∉ stack)
    (hnames : ∀ key', Names disk packages key key' → Assoc.has key' memo.types) :
    Free disk packages stack key := by
  intro other hother
  rcases ReflTransGen.cases_head hother with rfl | ⟨key', hfirst, hrest⟩
  · exact hnew
  · have hfree := h.free (hnames key' hfirst) other hrest
    rw [hstack] at hfree
    exact fun hmem => hfree (List.mem_cons_of_mem key hmem)

theorem step {t : Session} (h : Coherent disk packages memo s) (ht : t.cache.Agrees disk) :
    Coherent disk packages memo t :=
  ⟨h.toSound.step ht, h.closed, h.apart⟩

theorem keepImports (h : Coherent disk packages memo s) {file : SourceFile}
    (hfile : OnDisk disk file) :
    Coherent disk packages (memo.keepImports file (fileImports file.lines)) s :=
  ⟨h.toSound.keepImports hfile, h.closed, h.apart⟩

theorem cut (h : Coherent disk packages memo s) : Coherent disk packages memo.cut s :=
  ⟨⟨h.cache, h.types, h.imports⟩, h.closed, h.apart⟩

theorem enter (h : Coherent disk packages memo s) (hkey : ¬ Assoc.has key memo.types) :
    Coherent disk packages (memo.enter key) s := by
  refine ⟨h.toSound.enter key, h.closed, ?_⟩
  intro other hother
  rcases List.mem_cons.mp hother with rfl | hother
  · exact hkey
  · exact h.apart other hother

/-- A finished type may be remembered if no cycle was cut below it: all that it names is remembered
then, so it leads to no type around it. -/
theorem leave {stack : List TypeKey} {folder : Path} {name : List Char} {cuts : Nat}
    (h : Coherent disk packages memo s) (hstack : memo.stack = keyOf disk folder name :: stack)
    (hnew : keyOf disk folder name ∉ stack)
    (hnames : memo.cuts = cuts → ∀ key, Names disk packages (keyOf disk folder name) key →
      Assoc.has key memo.types) :
    Coherent disk packages (memo.leave (keyOf disk folder name)
      (plainDeclared disk packages stack folder name) cuts) s := by
  have houter : ∀ key ∈ stack, ¬ Assoc.has key memo.types := by
    intro key hkey
    apply h.apart
    rw [hstack]
    exact List.mem_cons_of_mem _ hkey
  by_cases hcuts : memo.cuts = cuts
  · have hall := hnames hcuts
    have hsettled : Settled disk packages (keyOf disk folder name) :=
      .of_names fun key hkey => h.settled_of_has (hall key hkey)
    have hfree := h.free_of_names hstack hnew hall
    have htypes : (memo.leave (keyOf disk folder name)
        (plainDeclared disk packages stack folder name) cuts).types
          = (keyOf disk folder name, plainDeclared disk packages stack folder name)
            :: memo.types := by
      rw [Memo.leave, if_pos hcuts]
    refine ⟨⟨h.cache, ?_, h.imports⟩, ?_, ?_⟩
    · rw [htypes]
      intro key type hmem
      rcases List.mem_cons.mp hmem with heq | hmem
      · obtain ⟨rfl, rfl⟩ := Prod.mk.inj heq
        refine ⟨hsettled, fun folder' name' hkey => ?_⟩
        rw [plainDeclared_congr hkey]
        exact plainDeclared_of_free hsettled .nil hfree rfl
      · exact h.types key type hmem
    · rw [htypes]
      intro key key' hkey hbelow
      apply Assoc.has_cons
      rcases Assoc.has_cons_iff.mp hkey with rfl | hkey
      · exact hall key' hbelow
      · exact h.closed key key' hkey hbelow
    · rw [htypes]
      intro key hkey hhas
      have hmem : key ∈ stack := by simpa [Memo.leave, hstack] using hkey
      rcases Assoc.has_cons_iff.mp hhas with rfl | hhas
      · exact hnew hmem
      · exact houter key hmem hhas
  · have htypes : (memo.leave (keyOf disk folder name)
        (plainDeclared disk packages stack folder name) cuts).types = memo.types := by
      rw [Memo.leave, if_neg hcuts]
    refine ⟨⟨h.cache, htypes ▸ h.types, h.imports⟩, htypes ▸ h.closed, ?_⟩
    rw [htypes]
    intro key hkey
    exact houter key (by simpa [Memo.leave, hstack] using hkey)

end Coherent

/-- What is left behind by a traced run from a memory: it answers `y`, was in coherent states only, has
left the stack as it was, and forgot neither cuts nor types. If it cut no cycle and `K` holds of all that
is remembered at the end, then `P` holds. -/
structure Passed (disk : Disk) (packages : PackageFinder) (K : TypeKey → Prop) (memo : Memo)
    {α : Type} (after : ((α × List ResolverState) × Memo) × Session) (y : α) (P : Prop) : Prop where
  value : after.1.1.1 = y
  states : ∀ state ∈ after.1.1.2, Coherent disk packages state.1 state.2
  coherent : Coherent disk packages after.1.2 after.2
  stack : after.1.2.stack = memo.stack
  cuts : memo.cuts ≤ after.1.2.cuts
  within : memo.Within after.1.2
  kept : after.1.2.cuts = memo.cuts → (∀ key, Assoc.has key after.1.2.types → K key) → P

/-- The traced computation passes from every coherent state with the given stack. -/
structure Passes (disk : Disk) (packages : PackageFinder) (K : TypeKey → Prop)
    (stack : List TypeKey) {α : Type} (x : Traced α) (y : α) (P : Prop) : Prop where
  run : ∀ seen memo s, (∀ state ∈ seen, Coherent disk packages state.1 state.2) →
    Coherent disk packages memo s → memo.stack = stack →
    Passed disk packages K memo (x seen memo s) y P

variable {K : TypeKey → Prop} {stack : List TypeKey}

namespace Passes

variable {α β : Type}

theorem pure (a : α) : Passes disk packages K stack (Pure.pure a) a True :=
  ⟨fun _ _ _ hseen hcoherent _ =>
    ⟨rfl, hseen, hcoherent, rfl, Nat.le_refl _, fun _ h => h, fun _ _ => True.intro⟩⟩

theorem weaken {x : Traced α} {y : α} {P Q : Prop} (h : Passes disk packages K stack x y P)
    (hPQ : P → Q) : Passes disk packages K stack x y Q := by
  refine ⟨fun seen memo s hseen hcoherent hstack => ?_⟩
  have hrun := h.run seen memo s hseen hcoherent hstack
  exact { hrun with kept := fun hcuts hall => hPQ (hrun.kept hcuts hall) }

/-- One run after the other; neither forgets, so what is there at the end of the first is there at the
end of both. -/
theorem bind {x : Traced α} {y : α} {f : α → Traced β} {z : β} {P Q : Prop}
    (hx : Passes disk packages K stack x y P) (hf : Passes disk packages K stack (f y) z Q) :
    Passes disk packages K stack (x >>= f) z (P ∧ Q) := by
  refine ⟨fun seen memo s hseen hcoherent hstack => ?_⟩
  have hfirst := hx.run seen memo s hseen hcoherent hstack
  have hrest := hf.run _ _ _ hfirst.states hfirst.coherent (hfirst.stack.trans hstack)
  have hrun : (x >>= f) seen memo s = f y (x seen memo s).1.1.2 (x seen memo s).1.2
      (x seen memo s).2 := by
    rw [← hfirst.value]
    rfl
  rw [hrun]
  have hcuts := hfirst.cuts
  have hcuts' := hrest.cuts
  refine { hrest with
    stack := hrest.stack.trans hfirst.stack
    cuts := Nat.le_trans hcuts hcuts'
    within := hfirst.within.trans hrest.within
    kept := fun hsame hall => ⟨hfirst.kept (by omega) ?_, hrest.kept (by omega) hall⟩ }
  intro key hkey
  exact hall key (hrest.within key hkey)

theorem lift {x : Run α} {y : α} (h : Answers disk id x y) :
    Passes disk packages K stack (liftM x) y True := by
  refine ⟨fun seen memo s hseen hcoherent _ => ?_⟩
  obtain ⟨hvalue, hagrees, -⟩ := h.run s hcoherent.cache
  have hafter := hcoherent.step hagrees
  exact ⟨hvalue, List.forall_mem_cons.mpr ⟨hafter, hseen⟩, hafter, rfl, Nat.le_refl _,
    fun _ hkey => hkey, fun _ _ => True.intro⟩

theorem lift_bind {γ : Type} {x : Run α} {view : α → γ} {v : γ} {f : α → Traced β} {z : β}
    {P : Prop} (hx : Answers disk view x v)
    (hf : ∀ a, view a = v → Passes disk packages K stack (f a) z P) :
    Passes disk packages K stack (liftM x >>= f) z P := by
  refine ⟨fun seen memo s hseen hcoherent hstack => ?_⟩
  obtain ⟨ha, hagrees, -⟩ := hx.run s hcoherent.cache
  have hafter := hcoherent.step hagrees
  exact (hf _ ha).run _ memo (x s).2 (List.forall_mem_cons.mpr ⟨hafter, hseen⟩) hafter hstack

end Passes

theorem importsOf_traced (file : SourceFile) (seen : List ResolverState) (memo : Memo)
    (s : Session) :
    (importsOf file : Traced Imports) seen memo s =
      match Assoc.get? file.path.components memo.imports with
      | some imports => (((imports, seen), memo), s)
      | none =>
        let kept := memo.keepImports file (fileImports file.lines)
        (((fileImports file.lines, (kept, s) :: seen), kept), s) := by
  change (match Assoc.get? file.path.components memo.imports with
    | some imports => (pure imports : Traced Imports)
    | none => do
      modify (Memo.keepImports file (fileImports file.lines))
      pure (fileImports file.lines)) seen memo s = _
  cases Assoc.get? file.path.components memo.imports <;> rfl

theorem importsOf_passes {file : SourceFile} (hfile : OnDisk disk file) :
    Passes disk packages K stack (importsOf file) (fileImports file.lines) True := by
  refine ⟨fun seen memo s hseen hcoherent _ => ?_⟩
  rw [importsOf_traced]
  cases hget : Assoc.get? file.path.components memo.imports with
  | some imports =>
    have hsame := hcoherent.imports _ _ (Assoc.mem_of_get? hget) file hfile rfl
    exact ⟨hsame, hseen, hcoherent, rfl, Nat.le_refl _, fun _ hkey => hkey, fun _ _ => True.intro⟩
  | none =>
    have hafter := hcoherent.keepImports hfile
    exact ⟨rfl, List.forall_mem_cons.mpr ⟨hafter, hseen⟩, hafter, rfl, Nat.le_refl _,
      fun _ hkey => hkey, fun _ _ => True.intro⟩

/-- Passing through coherent states is a way of tracking the plain expansion. -/
def passing (disk : Disk) (packages : PackageFinder) (K : TypeKey → Prop) (stack : List TypeKey) :
    Tracking disk Traced where
  Rel x y P := Passes disk packages K stack x y P
  pure := Passes.pure
  bind := Passes.bind
  weaken := Passes.weaken
  lift h := Passes.lift h.first
  imports := importsOf_passes

/-- The three things that can happen when a declared type is asked for, with the states on the way. -/
theorem declaredType_traced (below : Path → List Char → Traced InferredType) (folder : Path)
    (name : List Char) (seen : List ResolverState) (memo : Memo) (s : Session) :
    declaredType disk packages below folder name seen memo s =
      match Assoc.get? (keyOf disk folder name) memo.types with
      | some type => (((type, seen), memo), s)
      | none =>
        if keyOf disk folder name ∈ memo.stack then
          let t := (Run.warn ("Circular reference detected for type: " ++ String.ofList name) s).2
          (((.unknown, (memo.cut, t) :: (memo, t) :: seen), memo.cut), t)
        else
          let entered := memo.enter (keyOf disk folder name)
          let after := definedType disk packages below (disk.canonicalOrSelf folder) name
            ((entered, s) :: seen) entered s
          let left := after.1.2.leave (keyOf disk folder name) after.1.1.1 memo.cuts
          (((after.1.1.1, (left, after.2) :: after.1.1.2), left), after.2) := by
  change (match Assoc.get? (keyOf disk folder name) memo.types with
    | some type => (pure type : Traced InferredType)
    | none =>
      if keyOf disk folder name ∈ memo.stack then do
        Run.warn ("Circular reference detected for type: " ++ String.ofList name)
        modify Memo.cut
        return .unknown
      else do
        modify (Memo.enter (keyOf disk folder name))
        let type ← definedType disk packages below (disk.canonicalOrSelf folder) name
        modify (Memo.leave (keyOf disk folder name) type memo.cuts)
        return type) seen memo s = _
  cases Assoc.get? (keyOf disk folder name) memo.types with
  | some type => rfl
  | none =>
    by_cases hstack : keyOf disk folder name ∈ memo.stack
    · simp only [if_pos hstack]
      rfl
    · simp only [if_neg hstack]
      rfl

/-- What the expansion of a definition leaves behind under its type, with the type left after it. -/
theorem Passed.leave {memo : Memo} {folder : Path} {name : List Char}
    {after : ((InferredType × List ResolverState) × Memo) × Session} (hmemo : memo.stack = stack)
    (hnew : keyOf disk folder name ∉ stack)
    (h : ∀ K, Passed disk packages K (memo.enter (keyOf disk folder name)) after
      (plainDeclared disk packages stack folder name)
      (∀ key, Names disk packages (keyOf disk folder name) key → K key)) :
    let left := after.1.2.leave (keyOf disk folder name) after.1.1.1 memo.cuts
    Passed disk packages K memo (((after.1.1.1, (left, after.2) :: after.1.1.2), left), after.2)
      (plainDeclared disk packages stack folder name) (K (keyOf disk folder name)) := by
  have hafter := h K
  have hunder : after.1.2.stack = keyOf disk folder name :: stack :=
    hafter.stack.trans (congrArg (keyOf disk folder name :: ·) hmemo)
  -- where no cycle was cut, all that the type names is remembered by now
  have hnames : after.1.2.cuts = memo.cuts → ∀ key, Names disk packages (keyOf disk folder name) key →
      Assoc.has key after.1.2.types :=
    fun hsame => (h fun key => Assoc.has key after.1.2.types).kept hsame fun _ hkey => hkey
  rw [hafter.value]
  have hleft := hafter.coherent.leave hunder hnew hnames
  refine ⟨rfl, List.forall_mem_cons.mpr ⟨hleft, hafter.states⟩, hleft,
    (congrArg List.tail hunder).trans hmemo.symm, hafter.cuts,
    Memo.Within.trans hafter.within Memo.within_leave, fun hsame hall => hall _ ?_⟩
  have hcuts : after.1.2.cuts = memo.cuts := hsame
  simp [Memo.leave, hcuts, Assoc.has_cons_iff]

theorem declaredType_passes {below : Path → List Char → Traced InferredType} {folder : Path}
    {name : List Char}
    (h : keyOf disk folder name ∉ stack → ∀ K, Passes disk packages K (keyOf disk folder name :: stack)
      (definedType disk packages below (disk.canonicalOrSelf folder) name)
      (plainDefined disk packages stack folder name)
      (∀ key, Names disk packages (keyOf disk folder name) key → K key)) :
    Passes disk packages K stack (declaredType disk packages below folder name)
      (plainDeclared disk packages stack folder name) (K (keyOf disk folder name)) := by
  refine ⟨fun seen memo s hseen hcoherent hmemo => ?_⟩
  rw [declaredType_traced]
  cases hget : Assoc.get? (keyOf disk folder name) memo.types with
  | some type =>
    -- what is remembered was computed under another stack, and leads to neither
    have hhas : Assoc.has (keyOf disk folder name) memo.types := by simp [Assoc.has, hget]
    obtain ⟨hsettled, htype⟩ := hcoherent.types _ _ (Assoc.mem_of_get? hget)
    have hvalue : type = plainDeclared disk packages stack folder name := by
      rw [plainDeclared_of_free hsettled (hmemo ▸ hcoherent.free hhas) .nil rfl, htype folder name rfl]
    exact ⟨hvalue, hseen, hcoherent, rfl, Nat.le_refl _, fun _ hkey => hkey,
      fun _ hall => hall _ hhas⟩
  | none =>
    have hnot : ¬ Assoc.has (keyOf disk folder name) memo.types := by simp [Assoc.has, hget]
    by_cases hmem : keyOf disk folder name ∈ stack
    · simp only [hmemo, if_pos hmem]
      -- the cut was counted, so nothing above is taken for finished
      have hcut := hcoherent.cut
      refine ⟨(plainDeclared_of_mem hmem).symm, ?_, hcut.step hcut.cache, rfl, Nat.le_succ _,
        fun _ hkey => hkey, fun hsame => absurd hsame (Nat.succ_ne_self _)⟩
      exact List.forall_mem_cons.mpr ⟨hcut.step hcut.cache,
        List.forall_mem_cons.mpr ⟨hcoherent.step hcoherent.cache, hseen⟩⟩
    · simp only [hmemo, if_neg hmem]
      have hentered := hcoherent.enter hnot
      refine Passed.leave hmemo hmem fun K => ?_
      rw [plainDeclared_of_not_mem hmem]
      exact (h hmem K).run _ _ s (List.forall_mem_cons.mpr ⟨hentered, hseen⟩) hentered
        (congrArg (keyOf disk folder name :: ·) hmemo)

/-- Expansion with a memory passes through coherent states, as long as there are more steps than
declarations to go; nothing is asked of the stack. -/
theorem resolveDeclared_passes {k : Nat} {folder : Path} {name : List Char}
    (hk : remaining disk stack < k) :
    Passes disk packages K stack (resolveDeclared disk packages k folder name)
      (plainDeclared disk packages stack folder name) (K (keyOf disk folder name)) := by
  induction k generalizing K stack folder name with
  | zero => exact absurd hk (Nat.not_lt_zero _)
  | succ k ih =>
    refine declaredType_passes fun hnew K => (passing disk packages K _).definedType ?_
    intro folder' name' _ hkey
    have hless := remaining_lt hkey hnew
    exact ih (by omega)

theorem expandToken_passes (hfile : OnDisk disk scope.file) (token : List Char) :
    Passes disk packages K stack (expandToken (tracedSurroundings disk packages) scope token)
      (Id.run (expandToken (plainSurroundings disk packages (plainDeclared disk packages stack)) scope
        token))
      (∀ folder name, requested? disk packages scope token = some (folder, name) →
        K (keyOf disk folder name)) := by
  apply (passing disk packages K stack).expandToken hfile
  intro folder name _
  exact resolveDeclared_passes (remaining_lt_chainBound disk stack)

def plainFields (disk : Disk) (packages : PackageFinder) (stack : List TypeKey) (scope : Scope)
    (fields : List Field) : List InferredType :=
  Id.run (expandFields (plainSurroundings disk packages (plainDeclared disk packages stack)) scope
    fields)

theorem expandFields_passes (hfile : OnDisk disk scope.file) (fields : List Field) :
    Passes disk packages K stack (expandFields (tracedSurroundings disk packages) scope fields)
      (plainFields disk packages stack scope fields) True := by
  refine Passes.weaken (expandFields_inStep (passing disk packages K stack).toInStep
    (P := fun _ => True) fields ?_) fun _ => True.intro
  intro token _
  exact (expandToken_passes hfile token).weaken fun _ => True.intro

/-- What a computation does from a coherent state if its traced run passes. -/
theorem Passes.forget {α : Type} {x : Traced α} {x' : Resolve α} {y : α}
    {P : (TypeKey → Prop) → Prop} {memo : Memo} {s : Session} (hx : ∀ seen, x.forget seen = x')
    (h : ∀ K, Passes disk packages K memo.stack x y (P K))
    (hcoherent : Coherent disk packages memo s) :
    (x' memo s).1.1 = y ∧ Coherent disk packages (x' memo s).1.2 (x' memo s).2 ∧
      (x' memo s).1.2.stack = memo.stack ∧
      ((x' memo s).1.2.cuts = memo.cuts → P fun key => Assoc.has key (x' memo s).1.2.types) := by
  rw [← hx []]
  have hrun := fun K => (h K).run [] memo s (fun _ hstate => absurd hstate List.not_mem_nil)
    hcoherent rfl
  have hafter := hrun fun _ => True
  exact ⟨hafter.value, hafter.coherent, hafter.stack, fun hcuts =>
    (hrun _).kept hcuts fun _ hkey => hkey⟩

/-- From a coherent state a token is expanded as without a memory, under the same stack. If no cycle is
cut, the type that it asks for is finished then. -/
theorem resolveType_of_coherent {memo : Memo} {s : Session} (h : Coherent disk packages memo s)
    (hfile : OnDisk disk scope.file) (token : List Char) :
    let after := resolveType disk packages scope token memo s
    after.1.1 = Id.run (expandToken (plainSurroundings disk packages
        (plainDeclared disk packages memo.stack)) scope token) ∧
      Coherent disk packages after.1.2 after.2 ∧ after.1.2.stack = memo.stack ∧
      (after.1.2.cuts = memo.cuts → ∀ folder name,
        requested? disk packages scope token = some (folder, name) →
        Assoc.has (keyOf disk folder name) after.1.2.types) := by
  have hforget : ∀ seen, (expandToken (tracedSurroundings disk packages) scope token).forget seen
      = resolveType disk packages scope token := expandToken_forget token
  have hrun := Passes.forget hforget (fun _ => expandToken_passes hfile token) h
  exact hrun

/-- From a coherent state fields are expanded as without a memory, under the same stack. -/
theorem expandFields_of_coherent {memo : Memo} {s : Session} (h : Coherent disk packages memo s)
    (hfile : OnDisk disk scope.file) (fields : List Field) :
    (expandFields (surroundings disk packages) scope fields memo s).1.1
      = plainFields disk packages memo.stack scope fields :=
  (Passes.forget (expandFields_forget fields) (fun _ => expandFields_passes hfile fields) h).1

/-! ## Reached states -/

def stateAfter {α : Type} (x : Resolve α) (state : ResolverState) : ResolverState :=
  ((x state.1 state.2).1.2, (x state.1 state.2).2)

theorem stateAfter_lift_bind {α β : Type} (x : Run α) (f : α → Resolve β) (state : ResolverState) :
    stateAfter (liftM x >>= f) state = stateAfter (f (x state.2).1) (state.1, (x state.2).2) :=
  rfl

/-- A request for the type of a token in a file, traced. -/
def ask (disk : Disk) (packages : PackageFinder) (file folder : Path) (token : List Char) :
    Traced (Option InferredType) := do
  match ← load disk file with
  | .error _ => return none
  | .ok source =>
    return some (← expandToken (tracedSurroundings disk packages) ⟨source, folder⟩ token)

/-- The traced request does what the resolver does when it is asked. -/
theorem ask_forget (file folder : Path) (token : List Char) (seen : List ResolverState) :
    (ask disk packages file folder token).forget seen
      = Request.answer disk packages ⟨file, folder, .ofToken token⟩ := by
  refine mirroring.bind_left (P := True) (mirroring_steps.lift _) (fun answer => ?_) seen
  cases answer with
  | error e => exact mirroring.pure none
  | ok source => exact mirroring.bind_pure (P := True) (expandToken_forget token)

/-- The states of a resolver that is asked about files on the disk, one request after the other. In the
midst of a request the resolver expands a token, whatever the request is about. -/
inductive Reached (disk : Disk) (packages : PackageFinder) : ResolverState → Prop where
  | fresh : Reached disk packages ({}, {})
  | answered {state : ResolverState} (request : Request) : Reached disk packages state →
    state.1.stack = [] → (disk.source? request.file).isSome →
    Reached disk packages (stateAfter (request.answer disk packages) state)
  | within {state between : ResolverState} (file folder : Path) (token : List Char) :
    Reached disk packages state → state.1.stack = [] → (disk.source? file).isSome →
    between ∈ (ask disk packages file folder token [] state.1 state.2).1.1.2 →
    Reached disk packages between

/-- The type of a variable is that of a token, or no type is expanded for it. -/
theorem stateAfter_resolveLocal (body : Body) (name : List Char) :
    (∃ token, ∀ state, stateAfter (resolveLocal disk packages body name) state
        = stateAfter (resolveType disk packages body.scope token) state) ∨
      ∀ state, stateAfter (resolveLocal disk packages body name) state = state := by
  unfold resolveLocal
  cases localType? body.scope.file.lines body.start body.stop name with
  | some token => exact .inl ⟨token, fun _ => rfl⟩
  | none => exact .inr fun _ => rfl

/-- Every question is about a token, or needs no expansion. -/
theorem stateAfter_answer (scope : Scope) (question : Question) :
    (∃ token, ∀ state, stateAfter (question.answer disk packages scope) state
        = stateAfter (resolveType disk packages scope token) state) ∨
      ∀ state, stateAfter (question.answer disk packages scope) state = state := by
  cases question with
  | ofToken text => exact .inl ⟨text, fun _ => rfl⟩
  | ofVariable start stop name => exact stateAfter_resolveLocal ⟨scope, start, stop⟩ name
  | ofRead start stop read =>
    have hlocal := @stateAfter_resolveLocal disk packages ⟨scope, start, stop⟩ read.name.toList
    simp only [Question.answer, resolveRead]
    cases read.kind with
    | formFile => exact .inr fun _ => rfl
    | formValue => exact .inr fun _ => rfl
    | path => exact hlocal
    | query => exact hlocal
    | body => exact hlocal

theorem coherent_stateAfter {α : Type} {x : Resolve α} {state : ResolverState}
    (h : Coherent disk packages (x state.1 state.2).1.2 (x state.1 state.2).2) :
    Coherent disk packages (stateAfter x state).1 (stateAfter x state).2 :=
  h

theorem load_of_source? {path : Path} {file : SourceFile} {s : Session}
    (h : disk.source? path = some file) (hs : s.cache.Agrees disk) :
    (load disk path s).1 = .ok file ∧ (load disk path s).2.cache.Agrees disk := by
  obtain ⟨hanswer, hagrees, -⟩ := (Rerun.load (.inl (Disk.locate_of_source? h))).first.run s hs
  refine ⟨?_, hagrees⟩
  rw [h] at hanswer
  cases hload : (load disk path s).1 with
  | error e => simp [hload, Except.toOption] at hanswer
  | ok other => simpa [hload, Except.toOption] using hanswer

theorem ask_passes {path : Path} {file : SourceFile} (h : disk.source? path = some file)
    (folder : Path) (token : List Char) :
    Passes disk packages K stack (ask disk packages path folder token)
      (some (Id.run (expandToken
        (plainSurroundings disk packages (plainDeclared disk packages stack)) ⟨file, folder⟩ token)))
      True := by
  apply Passes.lift_bind (Rerun.load (.inl (Disk.locate_of_source? h))).first
  intro answer hanswer
  rw [h] at hanswer
  cases answer with
  | error e => cases hanswer
  | ok other =>
    rw [Option.some.inj hanswer]
    exact (passing disk packages K stack).bind_left
      ((expandToken_passes ⟨path, h⟩ token).weaken fun _ => True.intro) (Passes.pure _)

theorem coherent_of_reached {state : ResolverState} (h : Reached disk packages state) :
    Coherent disk packages state.1 state.2 := by
  induction h with
  | fresh => exact coherent_fresh disk packages
  | @answered state request _ _ hfile ih =>
    obtain ⟨file, hsource⟩ := Option.isSome_iff_exists.mp hfile
    obtain ⟨hload, hagrees⟩ := load_of_source? hsource ih.cache
    have hloaded := ih.step hagrees
    have hafter : stateAfter (request.answer disk packages) state
        = stateAfter (request.question.answer disk packages ⟨file, request.folder⟩)
          (state.1, (load disk request.file state.2).2) := by
      rw [Request.answer, stateAfter_lift_bind, hload]
      rfl
    rw [hafter]
    rcases stateAfter_answer ⟨file, request.folder⟩ request.question with ⟨token, hsame⟩ | hsame
    · rw [hsame]
      apply coherent_stateAfter
      exact (resolveType_of_coherent hloaded ⟨request.file, hsource⟩ token).2.1
    · rw [hsame]
      exact hloaded
  | @within state between path folder token _ hidle hfile hbetween ih =>
    obtain ⟨file, hsource⟩ := Option.isSome_iff_exists.mp hfile
    have hrun := (ask_passes (K := fun _ => True) hsource folder token).run [] state.1 state.2
      (fun _ hstate => absurd hstate List.not_mem_nil) ih hidle
    exact hrun.states between hbetween

end RouteDoc.Types
