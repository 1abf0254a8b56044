import Mathlib.Data.List.Forall2
import Mathlib.Data.List.Induction
import RouteDoc.Document.Build

/-!
A document lists what was registered last. The holders of a document register operations, one for each
of their methods; numbered in this order (`registrations`), the operation at a path and a method is that
of the last registration for them (`build_lists_last`), and it carries the number and the parameters of
that registration (`Operation.Serves`).

Paths and methods are kept in sorted lists. Putting into them changes what is found at one key, whether
they are sorted or not (`Assoc.get?_putSorted`); that they are makes every key stand once, so that what is
found is all that is listed (`Assoc.get?_eq_some_iff`). `Assembly.Faithful` says what an assembly has to
do with the registrations so far; one more registration keeps it (`Faithful.add`).
-/

namespace RouteDoc

/-! ## Sorted lists -/

namespace Assoc

section

variable {κ α : Type} [DecidableEq κ] (lt : κ → κ → Bool) (key other : κ) (value : α)

theorem get?_putSorted (list : List (κ × α)) :
    get? other (putSorted lt key value list) = if key = other then some value else get? other list := by
  induction list with
  | nil => rfl
  | cons entry list ih =>
    obtain ⟨k, v⟩ := entry
    simp only [putSorted]
    split
    · rename_i hk
      subst hk
      simp only [get?]
      split <;> rfl
    · rename_i hk
      split
      · rfl
      · simp only [get?, ih]
        by_cases hkey : key = other
        · simp [hkey, hkey ▸ hk]
        · simp [hkey]

variable {lt key value}

theorem putSorted_ne_nil (list : List (κ × α)) : putSorted lt key value list ≠ [] := by
  cases list with
  | nil => simp [putSorted]
  | cons entry list =>
    simp only [putSorted]
    split
    · simp
    · split <;> simp

theorem mem_putSorted {list : List (κ × α)} {entry : κ × α}
    (h : entry ∈ putSorted lt key value list) : entry = (key, value) ∨ entry ∈ list := by
  induction list with
  | nil => exact .inl (List.mem_singleton.mp h)
  | cons first list ih =>
    simp only [putSorted] at h
    split at h
    · rcases List.mem_cons.mp h with h | h
      · exact .inl h
      · exact .inr (List.mem_cons_of_mem first h)
    · split at h
      · exact List.mem_cons.mp h
      · rcases List.mem_cons.mp h with h | h
        · exact .inr (h ▸ List.mem_cons_self)
        · rcases ih h with h | h
          · exact .inl h
          · exact .inr (List.mem_cons_of_mem first h)

theorem mem_put {list : List (κ × α)} {entry : κ × α} (h : entry ∈ put key value list) :
    entry = (key, value) ∨ entry ∈ list := by
  induction list with
  | nil => exact .inl (List.mem_singleton.mp h)
  | cons first list ih =>
    simp only [put] at h
    split at h
    · rcases List.mem_cons.mp h with h | h
      · exact .inl h
      · exact .inr (List.mem_cons_of_mem first h)
    · rcases List.mem_cons.mp h with rfl | h
      · exact .inr List.mem_cons_self
      · rcases ih h with h | h
        · exact .inl h
        · exact .inr (List.mem_cons_of_mem first h)

theorem map_fst_put (key : κ) (value : α) (list : List (κ × α)) :
    (put key value list).map Prod.fst
      = if key ∈ list.map Prod.fst then list.map Prod.fst else list.map Prod.fst ++ [key] := by
  induction list with
  | nil => rfl
  | cons first list ih =>
    simp only [put]
    by_cases hname : first.1 = key
    · simp [hname]
    · simp only [if_neg hname, List.map_cons, ih, List.mem_cons, Ne.symm hname, false_or]
      split <;> rfl

theorem putSorted_append {list : List (κ × α)} (rest : List (κ × α))
    (h : ∀ entry ∈ list, entry.1 ≠ key ∧ lt key entry.1 = false) :
    putSorted lt key value (list ++ rest) = list ++ putSorted lt key value rest := by
  induction list with
  | nil => rfl
  | cons entry list ih =>
    obtain ⟨⟨hne, hnot⟩, hlist⟩ := List.forall_mem_cons.mp h
    rw [List.cons_append, putSorted, if_neg hne, if_neg (by simp [hnot]), ih hlist]
    rfl

theorem get?_append {list : List (κ × α)} (rest : List (κ × α)) (h : ∀ entry ∈ list, entry.1 ≠ key) :
    get? key (list ++ rest) = get? key rest := by
  induction list with
  | nil => rfl
  | cons entry list ih =>
    obtain ⟨hne, hlist⟩ := List.forall_mem_cons.mp h
    rw [List.cons_append, get?, if_neg hne, ih hlist]

theorem pairwise_putSorted (htrans : ∀ a b c, lt a b = true → lt b c = true → lt a c = true)
    (htotal : ∀ a b, a = b ∨ lt a b = true ∨ lt b a = true) {list : List (κ × α)}
    (h : list.Pairwise fun a b => lt a.1 b.1 = true) :
    (putSorted lt key value list).Pairwise fun a b => lt a.1 b.1 = true := by
  induction list with
  | nil => exact List.pairwise_singleton _ _
  | cons entry list ih =>
    obtain ⟨hfirst, hrest⟩ := List.pairwise_cons.mp h
    simp only [putSorted]
    split
    · rename_i hk
      exact List.pairwise_cons.mpr ⟨fun other hother => hk ▸ hfirst other hother, hrest⟩
    · rename_i hk
      split
      · rename_i hlt
        refine List.pairwise_cons.mpr ⟨fun other hother => ?_, h⟩
        rcases List.mem_cons.mp hother with rfl | hother
        · exact hlt
        · exact htrans _ _ _ hlt (hfirst other hother)
      · rename_i hnot
        have hless : lt entry.1 key = true := by
          rcases htotal entry.1 key with heq | hless | hlt
          · exact absurd heq hk
          · exact hless
          · exact absurd hlt hnot
        refine List.pairwise_cons.mpr ⟨fun other hother => ?_, ih hrest⟩
        rcases mem_putSorted hother with rfl | hother
        · exact hless
        · exact hfirst other hother

/-- Where no key stands twice, what is found is all that is listed. -/
theorem get?_eq_some_iff_mem {list : List (κ × α)} (h : list.Pairwise fun a b => a.1 ≠ b.1) :
    get? key list = some value ↔ (key, value) ∈ list := by
  induction list with
  | nil => simp [get?]
  | cons entry list ih =>
    obtain ⟨k, v⟩ := entry
    obtain ⟨hfirst, hrest⟩ := List.pairwise_cons.mp h
    rw [get?, List.mem_cons]
    split
    · rename_i hk
      subst hk
      have hlater : (k, value) ∉ list := fun hmem => hfirst _ hmem rfl
      simp [hlater, eq_comm]
    · rename_i hk
      rw [ih hrest]
      simp [Ne.symm hk]

end

variable {α : Type} {list : List (String × α)}

/-- Every key stands before all greater ones, and so once. -/
def Sorted (list : List (String × α)) : Prop :=
  list.Pairwise fun a b => a.1 < b.1

theorem sorted_putSorted (key : String) (value : α) (h : Sorted list) :
    Sorted (putSorted nameBefore key value list) := by
  have htrans (a b c : String) (hab : nameBefore a b = true) (hbc : nameBefore b c = true) :
      nameBefore a c = true :=
    decide_eq_true (String.lt_trans (of_decide_eq_true hab) (of_decide_eq_true hbc))
  have htotal (a b : String) : a = b ∨ nameBefore a b = true ∨ nameBefore b a = true := by
    simp only [nameBefore, decide_eq_true_eq]
    by_cases hab : a < b
    · exact .inr (.inl hab)
    · by_cases hba : b < a
      · exact .inr (.inr hba)
      · exact .inl (String.le_antisymm (String.not_lt.mp hba) (String.not_lt.mp hab))
  have hbefore : list.Pairwise fun a b => nameBefore a.1 b.1 = true := h.imp fun hlt => decide_eq_true hlt
  exact (pairwise_putSorted htrans htotal hbefore).imp fun hlt => of_decide_eq_true hlt

theorem get?_eq_some_iff {key : String} {value : α} (h : Sorted list) :
    get? key list = some value ↔ (key, value) ∈ list := by
  have hne : list.Pairwise fun a b => a.1 ≠ b.1 := by
    refine h.imp fun {a b} hlt (heq : a.1 = b.1) => ?_
    rw [heq] at hlt
    exact String.lt_irrefl b.1 hlt
  exact get?_eq_some_iff_mem hne

end Assoc

/-! ## Registrations -/

/-- What the holders register: each of them its methods, in order. -/
def registrations (holders : List RouteHolder) : List (RouteHolder × String) :=
  holders.flatMap fun holder => holder.methods.map fun method => (holder, method)

/-- The path and the method under which a document lists a registration. -/
def DocumentConfig.placeOf (config : DocumentConfig) (r : RouteHolder × String) : String × String :=
  (config.pathOf r.1.route, String.ofList (Text.toLower r.2.toList))

/-- The registration with number `n` is the last one for the place. -/
structure LastAt (config : DocumentConfig) (rs : List (RouteHolder × String))
    (place : String × String) (n : Nat) (r : RouteHolder × String) : Prop where
  numbered : rs[n]? = some r
  placed : config.placeOf r = place
  last : ∀ k other, n < k → rs[k]? = some other → config.placeOf other ≠ place

/-- The operation stands at the place in the document. -/
def Document.Lists (document : Document) (place : String × String) (operation : Operation) : Prop :=
  ∃ methods, (place.1, methods) ∈ document.paths ∧ (place.2, operation) ∈ methods

/-- The types of a holder in the order of its parameters, with where they are passed. -/
def RouteHolder.placements (holder : RouteHolder) : List (String × InferredType) :=
  holder.path.map ("path", ·) ++ holder.query.map ("query", ·)
    ++ holder.body?.toList.map ("body", ·) ++ holder.form.map ("formData", ·)

/-- The parameter says where a type is passed and what it looks like. -/
structure Parameter.Shows (parameter : Parameter) (placement : String × InferredType) : Prop where
  location : parameter.location = placement.1
  name : parameter.name = placement.2.name
  required : parameter.required = (placement.1 != "query" || placement.2.required)
  body : placement.1 = "body" → parameter.schema? = some (Schema.ofType placement.2)
  value : placement.1 ≠ "body" → parameter.type? = some (Schema.ofType placement.2).type ∧
    parameter.items? = (Schema.ofType placement.2).items?

/-- The operation is that of the holder under the number. -/
structure Operation.Serves (operation : Operation) (holder : RouteHolder) (number : Nat) : Prop where
  id : operation.id = (if holder.name = "" then "operation" else holder.name) ++ "_" ++ toString number
  parameters : List.Forall₂ Parameter.Shows operation.parameters holder.placements
  consumes : operation.consumes ≠ [] ↔ holder.form ≠ []

def Parameter.ofPlacement (placement : String × InferredType) : Parameter :=
  if placement.1 = "body" then ofBody placement.2
  else simple placement.1 (placement.1 != "query" || placement.2.required) placement.2

theorem Parameter.ofRoute_eq (holder : RouteHolder) :
    ofRoute holder = holder.placements.map ofPlacement := by
  simp [ofRoute, RouteHolder.placements, ofPlacement, Function.comp_def]

theorem Parameter.ofPlacement_shows (placement : String × InferredType) :
    (ofPlacement placement).Shows placement := by
  unfold ofPlacement
  split
  · rename_i hbody
    exact ⟨hbody.symm, rfl, by simp [ofBody, hbody], fun _ => rfl, fun hvalue => absurd hbody hvalue⟩
  · rename_i hvalue
    exact ⟨rfl, rfl, rfl, fun hbody => absurd hbody hvalue, fun _ => ⟨rfl, rfl⟩⟩

theorem Operation.ofRoute_serves (config : DocumentConfig) (holder : RouteHolder) (number : Nat) :
    (ofRoute config holder number).Serves holder number := by
  refine ⟨?_, ?_, ?_⟩
  · simp [ofRoute, RouteHolder.operationName, String.isEmpty_iff]
  · show List.Forall₂ Parameter.Shows (Parameter.ofRoute holder) holder.placements
    rw [Parameter.ofRoute_eq, List.forall₂_map_left_iff, List.forall₂_same]
    exact fun placement _ => Parameter.ofPlacement_shows placement
  · cases hform : holder.form <;> simp [ofRoute, hform]

/-! ## One more registration -/

section

variable {config : DocumentConfig} {rs : List (RouteHolder × String)} {place : String × String}
  {r r' : RouteHolder × String} {n : Nat}

theorem lastAt_concat_of_eq (h : config.placeOf r = place) :
    LastAt config (rs ++ [r]) place n r' ↔ n = rs.length ∧ r' = r := by
  constructor
  · rintro ⟨hnumbered, hplaced, hlast⟩
    -- an earlier one is not the last: the new one comes behind it
    have hn : ¬ n < rs.length := fun hlt =>
      hlast rs.length r hlt (by simp) h
    have hbound : n < (rs ++ [r]).length := (List.getElem?_eq_some_iff.mp hnumbered).1
    have hlength : n = rs.length := by
      rw [List.length_append, List.length_singleton] at hbound
      omega
    subst hlength
    refine ⟨rfl, ?_⟩
    simpa using hnumbered.symm
  · rintro ⟨rfl, rfl⟩
    refine ⟨by simp, h, fun k other hk hother => ?_⟩
    have hbound := (List.getElem?_eq_some_iff.mp hother).1
    rw [List.length_append, List.length_singleton] at hbound
    omega

theorem lastAt_concat_of_ne (h : config.placeOf r ≠ place) :
    LastAt config (rs ++ [r]) place n r' ↔ LastAt config rs place n r' := by
  constructor
  · rintro ⟨hnumbered, hplaced, hlast⟩
    have hn : n < rs.length := by
      by_contra hge
      have hbound := (List.getElem?_eq_some_iff.mp hnumbered).1
      rw [List.length_append, List.length_singleton] at hbound
      have hlength : n = rs.length := by omega
      subst hlength
      have hsame : r' = r := by simpa using hnumbered.symm
      exact h (hsame ▸ hplaced)
    rw [List.getElem?_append_left hn] at hnumbered
    refine ⟨hnumbered, hplaced, fun k other hk hother => hlast k other hk ?_⟩
    rw [List.getElem?_append_left (List.getElem?_eq_some_iff.mp hother).1]
    exact hother
  · rintro ⟨hnumbered, hplaced, hlast⟩
    have hn := (List.getElem?_eq_some_iff.mp hnumbered).1
    refine ⟨by rw [List.getElem?_append_left hn, hnumbered], hplaced, fun k other hk hother => ?_⟩
    rw [List.getElem?_append] at hother
    split at hother
    · exact hlast k other hk hother
    · have hsame : other = r := by
        have hmem := List.mem_of_getElem? hother
        exact List.mem_singleton.mp hmem
      rw [hsame]
      exact h

theorem exists_lastAt_iff (config : DocumentConfig) (rs : List (RouteHolder × String))
    (place : String × String) :
    (∃ n r, LastAt config rs place n r) ↔ ∃ r ∈ rs, config.placeOf r = place := by
  induction rs using List.reverseRecOn with
  | nil =>
    constructor
    · rintro ⟨n, r, hlast⟩
      cases hlast.numbered
    · rintro ⟨r, hr, -⟩
      cases hr
  | append_singleton rs r ih =>
    by_cases hplace : config.placeOf r = place
    · exact ⟨fun _ => ⟨r, by simp, hplace⟩,
        fun _ => ⟨rs.length, r, (lastAt_concat_of_eq hplace).mpr ⟨rfl, rfl⟩⟩⟩
    · simp only [lastAt_concat_of_ne hplace, ih, List.mem_append, List.mem_singleton]
      constructor
      · rintro ⟨other, hother, hsame⟩
        exact ⟨other, .inl hother, hsame⟩
      · rintro ⟨other, hother | rfl, hsame⟩
        · exact ⟨other, hother, hsame⟩
        · exact absurd hsame hplace

end

namespace Assembly

def operation? (assembly : Assembly) (place : String × String) : Option Operation :=
  (Assoc.get? place.1 assembly.paths).bind (Assoc.get? place.2)

theorem operation?_put (assembly : Assembly) (path method : String) (operation : Operation)
    (place : String × String) :
    (assembly.put path method operation).operation? place
      = if (path, method) = place then some operation else assembly.operation? place := by
  obtain ⟨path', method'⟩ := place
  simp only [operation?, put, Assoc.get?_putSorted, Prod.mk.injEq]
  by_cases hpath : path = path'
  · subst hpath
    simp only [if_true, Option.bind_some, Assoc.get?_putSorted, true_and]
    cases Assoc.get? path assembly.paths <;> rfl
  · simp [hpath]

def add (config : DocumentConfig) (assembly : Assembly) (r : RouteHolder × String) : Assembly :=
  addMethod config r.1 assembly r.2

/-- What an assembly has to do with the registrations that it was made of. -/
structure Faithful (config : DocumentConfig) (rs : List (RouteHolder × String))
    (assembly : Assembly) : Prop where
  count : assembly.count = rs.length
  paths : Assoc.Sorted assembly.paths
  methods : ∀ entry ∈ assembly.paths, Assoc.Sorted entry.2 ∧ entry.2 ≠ []
  last : ∀ place operation, assembly.operation? place = some operation ↔
    ∃ n r, LastAt config rs place n r ∧ operation = .ofRoute config r.1 n

variable {config : DocumentConfig} {rs : List (RouteHolder × String)} {assembly : Assembly}

theorem faithful_empty (config : DocumentConfig) : Faithful config [] {} := by
  refine ⟨rfl, List.Pairwise.nil, by simp, fun place operation => ?_⟩
  constructor
  · intro h
    cases h
  · rintro ⟨n, r, hlast, -⟩
    cases hlast.numbered

theorem Faithful.add (h : Faithful config rs assembly) (r : RouteHolder × String) :
    Faithful config (rs ++ [r]) (assembly.add config r) := by
  have hmethods : Assoc.Sorted ((Assoc.get? (config.placeOf r).1 assembly.paths).getD []) := by
    cases hfound : Assoc.get? (config.placeOf r).1 assembly.paths with
    | none => exact List.Pairwise.nil
    | some methods => exact (h.methods _ ((Assoc.get?_eq_some_iff h.paths).mp hfound)).1
  refine ⟨?_, Assoc.sorted_putSorted _ _ h.paths, ?_, ?_⟩
  · rw [List.length_append, List.length_singleton, ← h.count]
    rfl
  · intro entry hentry
    rcases Assoc.mem_putSorted hentry with rfl | hold
    · exact ⟨Assoc.sorted_putSorted _ _ hmethods, Assoc.putSorted_ne_nil _⟩
    · exact h.methods entry hold
  · -- the new registration has the number of those before it, and is the last at its own place only
    intro place operation
    have hput : (assembly.add config r).operation? place = if config.placeOf r = place then
        some (.ofRoute config r.1 assembly.count) else assembly.operation? place :=
      assembly.operation?_put _ _ _ place
    rw [hput, h.count]
    by_cases hplace : config.placeOf r = place
    · rw [if_pos hplace]
      constructor
      · intro hsome
        exact ⟨rs.length, r, (lastAt_concat_of_eq hplace).mpr ⟨rfl, rfl⟩, (Option.some.inj hsome).symm⟩
      · rintro ⟨n, r', hlast, rfl⟩
        obtain ⟨rfl, rfl⟩ := (lastAt_concat_of_eq hplace).mp hlast
        rfl
    · simp only [if_neg hplace, lastAt_concat_of_ne hplace, h.last]

theorem faithful_foldl (config : DocumentConfig) (rs : List (RouteHolder × String)) :
    Faithful config rs (rs.foldl (Assembly.add config) {}) := by
  induction rs using List.reverseRecOn with
  | nil => exact faithful_empty config
  | append_singleton rs r ih =>
    rw [List.foldl_concat]
    exact ih.add r

/-- What is listed is what is found: every path and every method stands once. -/
theorem Faithful.operation?_eq_some_iff (h : Faithful config rs assembly) (place : String × String)
    (operation : Operation) :
    assembly.operation? place = some operation ↔
      ∃ methods, (place.1, methods) ∈ assembly.paths ∧ (place.2, operation) ∈ methods := by
  rw [Assembly.operation?, Option.bind_eq_some_iff]
  constructor
  · rintro ⟨methods, hpath, hmethod⟩
    have hmem := (Assoc.get?_eq_some_iff h.paths).mp hpath
    exact ⟨methods, hmem, (Assoc.get?_eq_some_iff (h.methods _ hmem).1).mp hmethod⟩
  · rintro ⟨methods, hpath, hmethod⟩
    exact ⟨methods, (Assoc.get?_eq_some_iff h.paths).mpr hpath,
      (Assoc.get?_eq_some_iff (h.methods _ hpath).1).mpr hmethod⟩

theorem foldl_addRoute (config : DocumentConfig) (holders : List RouteHolder) (assembly : Assembly) :
    holders.foldl (addRoute config) assembly
      = (registrations holders).foldl (Assembly.add config) assembly := by
  rw [registrations, List.foldl_flatMap]
  congr 1
  funext assembly holder
  rw [List.foldl_map]
  rfl

end Assembly

theorem faithful_build (config : DocumentConfig) (holders : List RouteHolder) :
    Assembly.Faithful config (registrations holders)
      (holders.foldl (Assembly.addRoute config) {}) := by
  rw [Assembly.foldl_addRoute]
  exact Assembly.faithful_foldl config (registrations holders)

theorem lists_build_iff (config : DocumentConfig) (holders : List RouteHolder)
    (place : String × String) (operation : Operation) :
    (Document.build config holders).Lists place operation ↔
      ∃ n r, LastAt config (registrations holders) place n r ∧ operation = .ofRoute config r.1 n := by
  have hfaithful := faithful_build config holders
  rw [← hfaithful.last, hfaithful.operation?_eq_some_iff]
  rfl

/-- The operations of a document are those of the last registrations for their places. A place has one
if it was registered at all, under the number and with the parameters of its last registration; and the
paths and methods stand in order, with some method at every path. -/
theorem build_lists_last (config : DocumentConfig) (holders : List RouteHolder) :
    (∀ place, (∃ operation, (Document.build config holders).Lists place operation) ↔
      ∃ r ∈ registrations holders, config.placeOf r = place) ∧
    (∀ place operation, (Document.build config holders).Lists place operation ↔
      ∃ n r, LastAt config (registrations holders) place n r ∧
        operation = .ofRoute config r.1 n ∧ operation.Serves r.1 n) ∧
    Assoc.Sorted (Document.build config holders).paths ∧
    ∀ entry ∈ (Document.build config holders).paths, Assoc.Sorted entry.2 ∧ entry.2 ≠ [] := by
  have hfaithful := faithful_build config holders
  refine ⟨fun place => ?_, fun place operation => ?_, hfaithful.paths, hfaithful.methods⟩
  · rw [← exists_lastAt_iff]
    constructor
    · rintro ⟨operation, hlists⟩
      obtain ⟨n, r, hlast, -⟩ := (lists_build_iff config holders place operation).mp hlists
      exact ⟨n, r, hlast⟩
    · rintro ⟨n, r, hlast⟩
      exact ⟨_, (lists_build_iff config holders place _).mpr ⟨n, r, hlast, rfl⟩⟩
  · rw [lists_build_iff]
    constructor
    · rintro ⟨n, r, hlast, rfl⟩
      exact ⟨n, r, hlast, rfl, Operation.ofRoute_serves config r.1 n⟩
    · rintro ⟨n, r, hlast, hoperation, -⟩
      exact ⟨n, r, hlast, hoperation⟩

/-- The document leaves out the first segment of its routes. -/
def collidingConfig : DocumentConfig :=
  { basePath := "/v1" }

/-- Two routes that the document shows alike, the first with one method in two spellings. -/
def collidingHolders : List RouteHolder :=
  [{ route := "/v1/a/\x7bid:[0-9]+\x7d", methods := ["GET", "get"] },
    { route := "/a/\x7bid\x7d", methods := ["Get"], name := "F" }]

theorem build_lists_last_colliding :
    ∃ operation, (Document.build collidingConfig collidingHolders).Lists
      ("/a/\x7bid\x7d", "get") operation ∧ operation.id = "F_2" := by
  have hplaced : ∀ r ∈ registrations collidingHolders,
      collidingConfig.placeOf r = ("/a/\x7bid\x7d", "get") := by
    decide +kernel
  have hlast : LastAt collidingConfig (registrations collidingHolders) ("/a/\x7bid\x7d", "get") 2
      ({ route := "/a/\x7bid\x7d", methods := ["Get"], name := "F" }, "Get") := by
    refine ⟨rfl, hplaced _ (by simp [registrations, collidingHolders]), fun k other hk hother => ?_⟩
    have hbound : k < 3 := (List.getElem?_eq_some_iff.mp hother).1
    omega
  refine ⟨_, ((build_lists_last collidingConfig collidingHolders).2.1 _ _).mpr
    ⟨2, _, hlast, rfl, Operation.ofRoute_serves _ _ _⟩, ?_⟩
  decide +kernel

end RouteDoc
