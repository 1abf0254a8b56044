import RouteDoc.Proofs.ResolutionCache

/-!
Types resolved a second time. A type that was met on a cycle is not remembered, so it is expanded
again whenever it is asked for; still the disk is not read again for it. `Lasting` relates a computation
of the resolver to the same one done later, with all that was remembered after the first still
remembered: both answer alike, and the later one leaves the cache as it is.

The reason is that the later computation takes a step only where the first one took it too. A type that
the first one had ready is still ready (`declaredType_lasting`), and one that it expanded is either
ready by now or is expanded over the same files.
-/

namespace RouteDoc.Types

open RouteDoc.Go

/-- The other memory has a finished type wherever this one has. -/
def Memo.Within (memo other : Memo) : Prop :=
  ∀ key, Assoc.has key memo.types → Assoc.has key other.types

theorem Memo.Within.trans {a b c : Memo} (h : a.Within b) (h' : b.Within c) : a.Within c :=
  fun key hkey => h' key (h key hkey)

/-- The computation forgets neither files nor types. -/
structure Grows (disk : Disk) (packages : PackageFinder) (stack : List TypeKey) {α : Type}
    (x : Resolve α) : Prop where
  run : ∀ memo s, Sound disk packages memo s → memo.stack = stack →
    memo.Within (x memo s).1.2 ∧ s.cache.Within (x memo s).2.cache

/-- A computation `x` and a later one `x'`: both answer `y`, and the later one reads nothing if it can
remember what was remembered after the first. -/
structure Lasting (disk : Disk) (packages : PackageFinder) (stack : List TypeKey) {α : Type}
    (x x' : Resolve α) (y : α) : Prop where
  first : Follows disk packages stack x y True
  later : Follows disk packages stack x' y True
  grows : Grows disk packages stack x
  grows' : Grows disk packages stack x'
  again : ∀ memo s memo' s', Sound disk packages memo s → Sound disk packages memo' s' →
    memo.stack = stack → memo'.stack = stack → (x memo s).1.2.Within memo' →
    (x memo s).2.cache.Within s'.cache → (x' memo' s').2.cache = s'.cache

variable {disk : Disk} {packages : PackageFinder} {stack : List TypeKey} {α β γ : Type}

theorem Grows.bind {x : Resolve α} {y : α} {f : α → Resolve β}
    (hx : Follows disk packages stack x y True) (hgrows : Grows disk packages stack x)
    (hf : Grows disk packages stack (f y)) : Grows disk packages stack (x >>= f) := by
  refine ⟨fun memo s hsound hstack => ?_⟩
  obtain ⟨hvalue, hsound₁, hstack₁, -⟩ := hx.run memo s hsound hstack
  obtain ⟨hmemo, hcache⟩ := hgrows.run memo s hsound hstack
  obtain ⟨hmemo', hcache'⟩ := hf.run _ _ hsound₁ hstack₁
  have hrun : (x >>= f) memo s = f y (x memo s).1.2 (x memo s).2 := by
    rw [← hvalue]
    rfl
  rw [hrun]
  exact ⟨hmemo.trans hmemo', hcache.trans hcache'⟩

theorem Grows.lift_bind {x : Run α} {view : α → β} {v : β} {f : α → Resolve γ}
    (hx : Answers disk view x v) (hf : ∀ a, view a = v → Grows disk packages stack (f a)) :
    Grows disk packages stack (liftM x >>= f) := by
  refine ⟨fun memo s hsound hstack => ?_⟩
  obtain ⟨ha, hagrees, hwithin⟩ := hx.run s hsound.cache
  obtain ⟨hmemo, hcache⟩ := (hf _ ha).run memo (x s).2 (hsound.step hagrees) hstack
  exact ⟨hmemo, hwithin.trans hcache⟩

theorem Grows.of_still {x : Resolve α}
    (h : ∀ memo s, (x memo s).1.2.types = memo.types ∧ (x memo s).2.cache = s.cache) :
    Grows disk packages stack x := by
  refine ⟨fun memo s _ _ => ?_⟩
  obtain ⟨htypes, hcache⟩ := h memo s
  constructor
  · intro key hkey
    rw [htypes]
    exact hkey
  · rw [hcache]
    exact .refl s.cache

namespace Lasting

theorem of_still {x x' : Resolve α} {y : α} (hx : Follows disk packages stack x y True)
    (hx' : Follows disk packages stack x' y True)
    (h : ∀ memo s, (x memo s).1.2.types = memo.types ∧ (x memo s).2.cache = s.cache)
    (h' : ∀ memo s, (x' memo s).1.2.types = memo.types ∧ (x' memo s).2.cache = s.cache) :
    Lasting disk packages stack x x' y :=
  ⟨hx, hx', .of_still h, .of_still h', fun _ _ memo' s' _ _ _ _ _ _ => (h' memo' s').2⟩

theorem pure (a : α) : Lasting disk packages stack (Pure.pure a) (Pure.pure a) a :=
  of_still (Follows.pure a) (Follows.pure a) (fun _ _ => ⟨rfl, rfl⟩) (fun _ _ => ⟨rfl, rfl⟩)

theorem report (level : Level) (text text' : String) :
    Lasting disk packages stack (liftM (Run.report level text)) (liftM (Run.report level text'))
      () :=
  of_still (Follows.report level text) (Follows.report level text') (fun _ _ => ⟨rfl, rfl⟩)
    (fun _ _ => ⟨rfl, rfl⟩)

theorem warn (text text' : String) :
    Lasting disk packages stack (liftM (Run.warn text)) (liftM (Run.warn text')) () :=
  report .warn text text'

theorem bind {x x' : Resolve α} {y : α} {f f' : α → Resolve β} {z : β}
    (hx : Lasting disk packages stack x x' y) (hf : Lasting disk packages stack (f y) (f' y) z) :
    Lasting disk packages stack (x >>= f) (x' >>= f') z where
  first := hx.first.bind_right hf.first
  later := hx.later.bind_right hf.later
  grows := hx.grows.bind hx.first hf.grows
  grows' := hx.grows'.bind hx.later hf.grows'
  again memo s memo' s' hsound hsound' hstack hstack' hmemo hcache := by
    obtain ⟨hvalue, hsound₁, hstack₁, -⟩ := hx.first.run memo s hsound hstack
    obtain ⟨hvalue', hsound₁', hstack₁', -⟩ := hx.later.run memo' s' hsound' hstack'
    have hrun : (x >>= f) memo s = f y (x memo s).1.2 (x memo s).2 := by
      rw [← hvalue]
      rfl
    have hrun' : (x' >>= f') memo' s' = f' y (x' memo' s').1.2 (x' memo' s').2 := by
      rw [← hvalue']
      rfl
    rw [hrun] at hmemo hcache
    rw [hrun']
    -- what is remembered after `x` is remembered after both, so `x'` reads nothing
    obtain ⟨hmid, hmidCache⟩ := hf.grows.run _ _ hsound₁ hstack₁
    have hsame := hx.again memo s memo' s' hsound hsound' hstack hstack' (hmid.trans hmemo)
      (hmidCache.trans hcache)
    have hgrown := (hx.grows'.run memo' s' hsound' hstack').1
    have hrest := hf.again _ _ _ _ hsound₁ hsound₁' hstack₁ hstack₁' (hmemo.trans hgrown)
      (hsame ▸ hcache)
    exact hrest.trans hsame

/-- A step that leaves the resolver's memory alone, and what follows it. As for steps alone, what
follows is compared from every two answers that look alike. -/
theorem lift_bind {x x' : Run α} {view : α → β} {v : β} {f f' : α → Resolve γ} {z : γ}
    (hx : Rerun disk view x x' v)
    (hf : ∀ a a', view a = v → view a' = v → Lasting disk packages stack (f a) (f' a') z) :
    Lasting disk packages stack (liftM x >>= f) (liftM x' >>= f') z where
  first := Follows.lift_bind hx.first fun a ha => (hf a a ha ha).first
  later := Follows.lift_bind hx.later fun a ha => (hf a a ha ha).later
  grows := Grows.lift_bind hx.first fun a ha => (hf a a ha ha).grows
  grows' := Grows.lift_bind hx.later fun a ha => (hf a a ha ha).grows'
  again memo s memo' s' hsound hsound' hstack hstack' hmemo hcache := by
    obtain ⟨ha, hagrees, -⟩ := hx.first.run s hsound.cache
    obtain ⟨ha', hagrees', -⟩ := hx.later.run s' hsound'.cache
    have hstep := hf _ _ ha ha'
    have hbetween := (hstep.grows.run memo (x s).2 (hsound.step hagrees) hstack).2
    have hsame := hx.again s s' hsound.cache hsound'.cache (hbetween.trans hcache)
    have hrest := hstep.again memo (x s).2 memo' (x' s').2 (hsound.step hagrees)
      (hsound'.step hagrees') hstack hstack' hmemo (hsame ▸ hcache)
    exact hrest.trans hsame

theorem lift {x : Run α} {v : α} (hx : Steady disk id x v) :
    Lasting disk packages stack (liftM x) (liftM x) v := by
  have hbind : Lasting disk packages stack (liftM x >>= Pure.pure) (liftM x >>= Pure.pure) v := by
    refine lift_bind hx fun a a' ha ha' => ?_
    rw [← show a = v from ha, show a' = a from ha'.trans ha.symm]
    exact Lasting.pure a
  simpa only [bind_pure] using hbind

theorem lift_except {x x' : Run (Except Error α)} {v : Option α}
    {f f' : Except Error α → Resolve γ} {z : γ} (hx : Rerun disk Except.toOption x x' v)
    (hok : ∀ a, v = some a → Lasting disk packages stack (f (.ok a)) (f' (.ok a)) z)
    (herror : ∀ e e', v = none → Lasting disk packages stack (f (.error e)) (f' (.error e')) z) :
    Lasting disk packages stack (liftM x >>= f) (liftM x' >>= f') z :=
  lift_bind hx fun _ _ h h' =>
    Except.cases_of_toOption (motive := fun a a' => Lasting disk packages stack (f a) (f' a') z)
      h h' hok herror

end Lasting

theorem importsOf_lasting {file : SourceFile} (hfile : OnDisk disk file) :
    Lasting disk packages stack (importsOf file) (importsOf file) (fileImports file.lines) := by
  have hstill : ∀ memo s, ((importsOf file : Resolve Imports) memo s).1.2.types = memo.types ∧
      ((importsOf file : Resolve Imports) memo s).2.cache = s.cache := by
    intro memo s
    rw [importsOf_run]
    cases Assoc.get? file.path.components memo.imports with
    | some imports => exact ⟨rfl, rfl⟩
    | none => exact ⟨rfl, rfl⟩
  exact .of_still (importsOf_follows hfile) (importsOf_follows hfile) hstill hstill

/-- Lasting is a way of tracking the plain expansion. -/
def lasting (disk : Disk) (packages : PackageFinder) (stack : List TypeKey) :
    Tracking disk Resolve where
  Rel x y _ := Lasting disk packages stack x x y
  pure := Lasting.pure
  bind := Lasting.bind
  weaken h _ := h
  lift := Lasting.lift
  imports := importsOf_lasting

theorem Memo.within_leave {memo : Memo} {key : TypeKey} {type : InferredType} {cuts : Nat} :
    memo.Within (memo.leave key type cuts) := by
  intro other hother
  simp only [Memo.leave]
  split
  · exact Assoc.has_cons hother
  · exact hother

/-- What was asked for once is asked for again. The later memory has the type ready if the first one
had. Otherwise it has it ready now, or it enters it as the first one did, under the same stack. -/
theorem declaredType_lasting {below : Path → List Char → Resolve InferredType} {folder : Path}
    {name : List Char} {type : InferredType}
    (hfollows : Follows disk packages stack (declaredType disk packages below folder name) type True)
    (h : keyOf disk folder name ∉ stack →
      Lasting disk packages (keyOf disk folder name :: stack)
        (definedType disk packages below (disk.canonicalOrSelf folder) name)
        (definedType disk packages below (disk.canonicalOrSelf folder) name)
        (plainDefined disk packages stack folder name)) :
    Lasting disk packages stack (declaredType disk packages below folder name)
      (declaredType disk packages below folder name) type := by
  have hcons : ∀ {memo : Memo}, memo.stack = stack →
      (memo.enter (keyOf disk folder name)).stack = keyOf disk folder name :: stack :=
    fun hstack => congrArg (keyOf disk folder name :: ·) hstack
  have hgrows : Grows disk packages stack (declaredType disk packages below folder name) := by
    refine ⟨fun memo s hsound hstack => ?_⟩
    rw [declaredType_run]
    cases Assoc.get? (keyOf disk folder name) memo.types with
    | some type => exact ⟨fun _ hkey => hkey, .refl s.cache⟩
    | none =>
      by_cases hmem : keyOf disk folder name ∈ stack
      · simp only [hstack, if_pos hmem]
        exact ⟨fun _ hkey => hkey, .refl s.cache⟩
      · simp only [hstack, if_neg hmem]
        obtain ⟨hmemo, hcache⟩ := (h hmem).grows.run _ s (hsound.enter _) (hcons hstack)
        exact ⟨Memo.Within.trans hmemo Memo.within_leave, hcache⟩
  refine ⟨hfollows, hfollows, hgrows, hgrows, ?_⟩
  intro memo s memo' s' hsound hsound' hstack hstack' hmemo hcache
  -- the second run decides; the first one is looked into only where the second one enters the type
  rw [declaredType_run]
  cases hget' : Assoc.get? (keyOf disk folder name) memo'.types with
  | some type => rfl
  | none =>
    by_cases hmem : keyOf disk folder name ∈ stack
    · simp only [hstack', if_pos hmem]
      rfl
    · simp only [hstack', if_neg hmem]
      rw [declaredType_run] at hmemo hcache
      cases hget : Assoc.get? (keyOf disk folder name) memo.types with
      | some type =>
        -- memories only grow, so what was ready then is ready now
        rw [hget] at hmemo
        have hready := hmemo (keyOf disk folder name) (by simp [Assoc.has, hget])
        simp [Assoc.has, hget'] at hready
      | none =>
        simp only [hget, hstack, if_neg hmem] at hmemo hcache
        exact (h hmem).again _ s _ s' (hsound.enter _) (hsound'.enter _) (hcons hstack)
          (hcons hstack') (Memo.Within.trans Memo.within_leave hmemo) hcache

theorem resolveDeclared_lasting {n : Nat} {folder : Path} {name : List Char}
    (hn : remaining disk stack < n)
    (hstack : LeadsTo disk packages stack (keyOf disk folder name)) :
    Lasting disk packages stack (resolveDeclared disk packages n folder name)
      (resolveDeclared disk packages n folder name)
      (plainDeclared disk packages stack folder name) := by
  induction n generalizing stack folder name with
  | zero => exact absurd hn (Nat.not_lt_zero _)
  | succ n ih =>
    have hfollows := (resolveDeclared_follows hn hstack).weaken fun _ => True.intro
    refine declaredType_lasting hfollows fun hnew =>
      (lasting disk packages _).definedType (P := fun _ => True) ?_
    intro folder' name' hnames hkey
    have hless := remaining_lt hkey hnew
    exact ih (by omega) (hstack.cons hnames)

theorem resolveType_lasting {scope : Scope} (hfile : OnDisk disk scope.file) (token : List Char) :
    Lasting disk packages [] (resolveType disk packages scope token)
      (resolveType disk packages scope token) (plainType disk packages scope token) := by
  apply (lasting disk packages []).expandToken (P := fun _ _ => True) hfile
  intro folder name _
  exact resolveDeclared_lasting (remaining_lt_chainBound disk []) LeadsTo.nil

theorem resolveLocal_lasting (body : Body) (hfile : OnDisk disk body.scope.file)
    {name : List Char} :
    Lasting disk packages [] (resolveLocal disk packages body name)
      (resolveLocal disk packages body name) (plainLocal disk packages body name) := by
  unfold resolveLocal plainLocal
  cases localType? body.scope.file.lines body.start body.stop name with
  | some token => exact resolveType_lasting hfile token
  | none => exact Lasting.pure _

theorem resolveRead_lasting (body : Body) (hfile : OnDisk disk body.scope.file) (read : Read) :
    Lasting disk packages [] (resolveRead disk packages body read)
      (resolveRead disk packages body read) (plainRead disk packages body read) := by
  unfold resolveRead plainRead
  cases read.kind with
  | formFile => exact Lasting.pure _
  | formValue => exact Lasting.pure _
  | path => exact Lasting.bind (resolveLocal_lasting body hfile) (Lasting.pure _)
  | query => exact Lasting.bind (resolveLocal_lasting body hfile) (Lasting.pure _)
  | body => exact Lasting.bind (resolveLocal_lasting body hfile) (Lasting.pure _)

end RouteDoc.Types
