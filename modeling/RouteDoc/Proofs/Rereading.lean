import RouteDoc.Proofs.SourceCache

/-!
Steps that read the disk once. A cache answers wherever it `Knows` a key, and asking only adds to what
it knows. `Rerun` relates a step to the same step done later: both give one answer, whatever else the
cache remembers, and once the cache knows all that it knew after the first, the later one leaves it as
it is. Sequences of such steps are such steps (`Rerun.bind`), and loading is one (`Rerun.load`).

The texts of failures tell a first failure from a remembered one. So answers are compared through a
view, which for a step that can fail forgets the failure.
-/

namespace RouteDoc

theorem Assoc.has_cons_iff {κ α : Type} [DecidableEq κ] {key other : κ} {value : α}
    {list : List (κ × α)} :
    Assoc.has key ((other, value) :: list) ↔ other = key ∨ Assoc.has key list := by
  by_cases h : other = key <;> simp [Assoc.has, Assoc.get?, h]

theorem Assoc.has_cons {κ α : Type} [DecidableEq κ] {key other : κ} {value : α} {list : List (κ × α)}
    (h : Assoc.has key list) : Assoc.has key ((other, value) :: list) :=
  Assoc.has_cons_iff.mpr (.inr h)

namespace SourceCache

/-- The cache has an answer for the key with these components. -/
def Knows (cache : SourceCache) (c : List Component) : Prop :=
  Assoc.has c cache.loaded ∨ Assoc.has c cache.failed

/-- The other cache has an answer wherever this one has. -/
def Within (cache other : SourceCache) : Prop :=
  ∀ c, cache.Knows c → other.Knows c

variable {disk : Disk} {cache : SourceCache} {p : Path}

theorem Within.refl (cache : SourceCache) : cache.Within cache :=
  fun _ h => h

theorem Within.trans {a b c : SourceCache} (h : a.Within b) (h' : b.Within c) : a.Within c :=
  fun key hkey => h' key (h key hkey)

/-- Asking reads the disk for a key that is not known, and for no other. -/
theorem request_of_knows (h : cache.Knows (key disk p).components) :
    (cache.request disk p).2.1 = cache := by
  unfold request
  simp only
  cases hloaded : Assoc.get? (key disk p).components cache.loaded with
  | some file => rfl
  | none =>
    cases hfailed : Assoc.get? (key disk p).components cache.failed with
    | some why => rfl
    | none => simp [Knows, Assoc.has, hloaded, hfailed] at h

/-- What has been asked for is known from then on. -/
theorem knows_request : (cache.request disk p).2.1.Knows (key disk p).components := by
  unfold request
  simp only
  cases hloaded : Assoc.get? (key disk p).components cache.loaded with
  | some file => exact .inl (by simp [Assoc.has, hloaded])
  | none =>
    cases hfailed : Assoc.get? (key disk p).components cache.failed with
    | some why => exact .inr (by simp [Assoc.has, hfailed])
    | none =>
      cases disk.readSource (key disk p) with
      | ok file => exact .inl (by simp [Assoc.has, Assoc.get?])
      | error why => exact .inr (by simp [Assoc.has, Assoc.get?])

theorem within_request : cache.Within (cache.request disk p).2.1 := by
  intro c hc
  unfold request
  simp only
  cases Assoc.get? (key disk p).components cache.loaded with
  | some file => exact hc
  | none =>
    cases Assoc.get? (key disk p).components cache.failed with
    | some why => exact hc
    | none =>
      cases disk.readSource (key disk p) with
      | ok file => exact hc.imp_left Assoc.has_cons
      | error why => exact hc.imp_right Assoc.has_cons

end SourceCache

/-- The step answers `v` from every cache that agrees with the disk, as far as the view shows it,
keeps the cache agreeing, and forgets nothing. -/
structure Answers (disk : Disk) {α β : Type} (view : α → β) (x : Run α) (v : β) : Prop where
  run : ∀ s, s.cache.Agrees disk → view (x s).1 = v ∧ (x s).2.cache.Agrees disk ∧
    s.cache.Within (x s).2.cache

/-- A step `x` and a later one `x'`: both answer `v`, and the later one asks for nothing that is not
known after the first. -/
structure Rerun (disk : Disk) {α β : Type} (view : α → β) (x x' : Run α) (v : β) : Prop where
  first : Answers disk view x v
  later : Answers disk view x' v
  again : ∀ s t, s.cache.Agrees disk → t.cache.Agrees disk → (x s).2.cache.Within t.cache →
    (x' t).2.cache = t.cache

/-- A step that gives one answer, and reads the disk on the first time only. -/
def Steady (disk : Disk) {α β : Type} (view : α → β) (x : Run α) (v : β) : Prop :=
  Rerun disk view x x v

variable {disk : Disk} {α β γ δ : Type} {view : α → β} {view' : γ → δ}

theorem Answers.bind {x : Run α} {v : β} {f : α → Run γ} {w : δ} (hx : Answers disk view x v)
    (hf : ∀ a, view a = v → Answers disk view' (f a) w) : Answers disk view' (x >>= f) w := by
  refine ⟨fun s hs => ?_⟩
  obtain ⟨hvalue, hagrees, hwithin⟩ := hx.run s hs
  obtain ⟨hvalue', hagrees', hwithin'⟩ := (hf _ hvalue).run (x s).2 hagrees
  exact ⟨hvalue', hagrees', hwithin.trans hwithin'⟩

/-- Two answers of steps that can fail: both are there and equal, or both are failures. -/
theorem Except.cases_of_toOption {ε : Type} {motive : Except ε α → Except ε α → Prop}
    {v : Option α} {x x' : Except ε α} (h : x.toOption = v) (h' : x'.toOption = v)
    (hok : ∀ a, v = some a → motive (.ok a) (.ok a))
    (herror : ∀ e e', v = none → motive (.error e) (.error e')) : motive x x' := by
  cases x with
  | error e =>
    cases x' with
    | error e' => exact herror e e' h.symm
    | ok a' => exact absurd (h.trans h'.symm) (Option.some_ne_none a').symm
  | ok a =>
    cases x' with
    | error e' => exact absurd (h.trans h'.symm) (Option.some_ne_none a)
    | ok a' =>
      have hsame : a = a' := Option.some.inj (h.trans h'.symm)
      rw [← hsame]
      exact hok a h.symm

namespace Rerun

theorem pure {a a' : α} {v : β} (h : view a = v) (h' : view a' = v) :
    Rerun disk view (Pure.pure a) (Pure.pure a') v where
  first := ⟨fun s hs => ⟨h, hs, .refl s.cache⟩⟩
  later := ⟨fun s hs => ⟨h', hs, .refl s.cache⟩⟩
  again _ _ _ _ _ := rfl

/-- One step after the other. The answers of the first step may differ behind the view, so the second
steps are compared from every two answers that look alike. -/
theorem bind {x x' : Run α} {v : β} {f f' : α → Run γ} {w : δ} (hx : Rerun disk view x x' v)
    (hf : ∀ a a', view a = v → view a' = v → Rerun disk view' (f a) (f' a') w) :
    Rerun disk view' (x >>= f) (x' >>= f') w where
  first := hx.first.bind fun a ha => (hf a a ha ha).first
  later := hx.later.bind fun a ha => (hf a a ha ha).later
  again s t hs ht hwithin := by
    obtain ⟨ha, hs₁, -⟩ := hx.first.run s hs
    obtain ⟨ha', ht₁, -⟩ := hx.later.run t ht
    have hstep := hf _ _ ha ha'
    -- the cache after the first step lies within the one after both
    have hbetween := (hstep.first.run _ hs₁).2.2
    have hsame := hx.again s t hs ht (hbetween.trans hwithin)
    have hrest := hstep.again _ (x' t).2 hs₁ ht₁ (hsame ▸ hwithin)
    exact hrest.trans hsame

/-- One step after another that can fail, and what is done in either case. -/
theorem bind_except {x x' : Run (Except Error α)} {v : Option α} {f f' : Except Error α → Run γ}
    {w : δ} (hx : Rerun disk Except.toOption x x' v)
    (hok : ∀ a, v = some a → Rerun disk view' (f (.ok a)) (f' (.ok a)) w)
    (herror : ∀ e e', v = none → Rerun disk view' (f (.error e)) (f' (.error e')) w) :
    Rerun disk view' (x >>= f) (x' >>= f') w :=
  bind hx fun _ _ h h' =>
    Except.cases_of_toOption (motive := fun a a' => Rerun disk view' (f a) (f' a') w) h h' hok herror

theorem report (level level' : Level) (text text' : String) :
    Rerun disk (id : Unit → Unit) (Run.report level text) (Run.report level' text') () where
  first := ⟨fun s hs => ⟨rfl, hs, .refl s.cache⟩⟩
  later := ⟨fun s hs => ⟨rfl, hs, .refl s.cache⟩⟩
  again _ _ _ _ _ := rfl

theorem warn_bind {text text' : String} {x x' : Run γ} {w : δ} (h : Rerun disk view' x x' w) :
    Rerun disk view' (do Run.warn text; x) (do Run.warn text'; x') w :=
  bind (report .warn .warn text text') fun _ _ _ _ => h

theorem load {p : Path} (hp : disk.Unmistaken p) :
    Rerun disk Except.toOption (RouteDoc.load disk p) (RouteDoc.load disk p) (disk.source? p) := by
  have hanswers : Answers disk Except.toOption (RouteDoc.load disk p) (disk.source? p) := by
    refine ⟨fun s hs => ?_⟩
    obtain ⟨journal, hload⟩ := load_run disk p s
    rw [hload]
    exact ⟨SourceCache.toOption_request hs hp, SourceCache.agrees_request hs hp,
      SourceCache.within_request⟩
  refine ⟨hanswers, hanswers, fun s t _ _ hwithin => ?_⟩
  obtain ⟨journal, hs⟩ := load_run disk p s
  obtain ⟨journal', ht⟩ := load_run disk p t
  rw [hs] at hwithin
  rw [ht]
  exact SourceCache.request_of_knows (hwithin _ SourceCache.knows_request)

end Rerun

end RouteDoc
