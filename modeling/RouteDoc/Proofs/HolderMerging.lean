import Mathlib.Data.List.Nodup
import RouteDoc.Proofs.RouteHolders

/-!
Merging brings the holders of routes to one form. The holders come one after the other, and each is joined with what
was found for its route before. Read route by route, this is the fold of joining over the holders of that route alone
(`get?_foldl_mergeInto`); which holders of other routes come in between does not matter.

The holders found so far are kept in the order of their routes, each under the number of its own
(`Indexed`). One more holder keeps this (`Indexed.mergeInto`), so the result of merging has every route once, in order
(`increasing_merge`), and is determined by its members (`eq_of_increasing`). Joining itself depends on the order, since
the first of two readers wins. If a route has at most one reader and one endpoint it does not (`joined_group`), and then
merging does not depend on the order of the holders either (`merge_canonical`).
-/

namespace RouteDoc.RouteHolder

/-! ## Joining -/

/-- The holder under the name of an endpoint, if that has one. -/
def named (reader endpoint : RouteHolder) : RouteHolder :=
  { reader with name := if endpoint.name = "" then reader.name else endpoint.name }

/-- A reader and an endpoint come to the same in either order. -/
theorem join_pair {reader endpoint : RouteHolder} (hreader : reader.isEndpoint = false)
    (hendpoint : endpoint.isEndpoint = true) :
    reader.join endpoint = reader.named endpoint ∧ endpoint.join reader = reader.named endpoint := by
  cases reader
  obtain rfl : _ = false := hreader
  by_cases hname : endpoint.name = "" <;> simp [join, named, hendpoint, hname]

theorem id_join {first second : RouteHolder} (h : first.id = second.id) : (first.join second).id = second.id := by
  unfold join
  cases first.isEndpoint
  · exact h
  · rfl

/-- What the holders of one route come to, behind what was found for it before. -/
def joined (first? : Option RouteHolder) (holders : List RouteHolder) : Option RouteHolder :=
  holders.foldl (fun first? holder => some (first?.elim holder (·.join holder))) first?

/-! ## Merging route by route -/

/-- The holders are kept in the order of their routes, each under its own number. -/
structure Indexed (merged : List (Nat × RouteHolder)) : Prop where
  sorted : merged.Pairwise fun a b => a.1 < b.1
  ids : ∀ entry ∈ merged, entry.2.id = entry.1

theorem Indexed.get?_eq_some_iff {merged : List (Nat × RouteHolder)} (h : Indexed merged) {id : Nat}
    {holder : RouteHolder} : Assoc.get? id merged = some holder ↔ (id, holder) ∈ merged :=
  Assoc.get?_eq_some_iff_mem (h.sorted.imp fun hlt => Nat.ne_of_lt hlt)

theorem mergeInto_eq (merged : List (Nat × RouteHolder)) (holder : RouteHolder) :
    mergeInto merged holder = Assoc.putSorted (fun a b => decide (a < b)) holder.id
      ((Assoc.get? holder.id merged).elim holder (·.join holder)) merged := by
  rw [mergeInto]
  cases Assoc.get? holder.id merged <;> rfl

theorem Indexed.mergeInto {merged : List (Nat × RouteHolder)} (h : Indexed merged) (holder : RouteHolder) :
    Indexed (mergeInto merged holder) := by
  rw [mergeInto_eq]
  constructor
  · have htrans (a b c : Nat) (hab : decide (a < b) = true) (hbc : decide (b < c) = true) : decide (a < c) = true :=
      decide_eq_true (Nat.lt_trans (of_decide_eq_true hab) (of_decide_eq_true hbc))
    have htotal (a b : Nat) : a = b ∨ decide (a < b) = true ∨ decide (b < a) = true := by
      simp only [decide_eq_true_eq]
      omega
    have hsorted : merged.Pairwise fun a b => decide (a.1 < b.1) = true := h.sorted.imp fun hlt => decide_eq_true hlt
    exact (Assoc.pairwise_putSorted htrans htotal hsorted).imp fun hlt => of_decide_eq_true hlt
  · intro entry hentry
    rcases Assoc.mem_putSorted hentry with rfl | hold
    · cases hget : Assoc.get? holder.id merged with
      | none => rfl
      | some first =>
        have hfirst : first.id = holder.id := h.ids _ (h.get?_eq_some_iff.mp hget)
        exact id_join hfirst
    · exact h.ids entry hold

theorem Indexed.foldl_mergeInto {merged : List (Nat × RouteHolder)} (h : Indexed merged)
    (holders : List RouteHolder) : Indexed (holders.foldl RouteHolder.mergeInto merged) := by
  induction holders generalizing merged with
  | nil => exact h
  | cons holder holders ih => exact ih (h.mergeInto holder)

theorem indexed_nil : Indexed [] :=
  ⟨List.Pairwise.nil, nofun⟩

/-- What is found for a route comes from the holders of that route alone. -/
theorem get?_foldl_mergeInto (id : Nat) (holders : List RouteHolder) (merged : List (Nat × RouteHolder)) :
    Assoc.get? id (holders.foldl mergeInto merged)
      = joined (Assoc.get? id merged) (holders.filter fun holder => holder.id == id) := by
  induction holders generalizing merged with
  | nil => rfl
  | cons holder holders ih =>
    rw [List.foldl_cons, ih, mergeInto_eq, Assoc.get?_putSorted]
    by_cases hid : holder.id = id
    · subst hid
      rw [if_pos rfl, List.filter_cons_of_pos (by simp)]
      rfl
    · rw [if_neg hid, List.filter_cons_of_neg (by simpa using hid)]

variable {holders : List RouteHolder}

theorem mem_merge {holder : RouteHolder} :
    holder ∈ merge holders ↔ joined none (holders.filter fun other => other.id == holder.id) = some holder := by
  have hindexed := indexed_nil.foldl_mergeInto holders
  have hjoined := get?_foldl_mergeInto holder.id holders []
  rw [Assoc.get?] at hjoined
  rw [← hjoined, hindexed.get?_eq_some_iff, merge, List.mem_map]
  constructor
  · rintro ⟨entry, hentry, rfl⟩
    rw [hindexed.ids entry hentry]
    exact hentry
  · exact fun hmem => ⟨_, hmem, rfl⟩

theorem group_ne_nil {merged : RouteHolder} (h : merged ∈ merge holders) :
    holders.filter (fun holder => holder.id == merged.id) ≠ [] := by
  rw [mem_merge] at h
  intro hnil
  rw [hnil] at h
  cases h

theorem increasing_merge (holders : List RouteHolder) : (merge holders).Pairwise fun a b => a.id < b.id := by
  have hindexed := indexed_nil.foldl_mergeInto holders
  rw [merge, List.pairwise_map]
  refine hindexed.sorted.imp_of_mem fun {a b} ha hb hlt => ?_
  rw [hindexed.ids a ha, hindexed.ids b hb]
  exact hlt

theorem joined_ne_none {first? : Option RouteHolder} (h : first? ≠ none ∨ holders ≠ []) :
    joined first? holders ≠ none := by
  induction holders generalizing first? with
  | nil => simpa [joined] using h
  | cons holder holders ih => exact ih (.inl nofun)

theorem exists_mem_merge_iff {id : Nat} :
    (∃ holder ∈ merge holders, holder.id = id) ↔ ∃ holder ∈ holders, holder.id = id := by
  constructor
  · rintro ⟨merged, hmerged, rfl⟩
    obtain ⟨holder, hholder⟩ := List.exists_mem_of_ne_nil _ (group_ne_nil hmerged)
    exact ⟨holder, (List.mem_filter.mp hholder).1, by simpa using (List.mem_filter.mp hholder).2⟩
  · rintro ⟨holder, hholder, rfl⟩
    have hgroup : holders.filter (fun other => other.id == holder.id) ≠ [] :=
      List.ne_nil_of_mem (List.mem_filter.mpr ⟨hholder, by simp⟩)
    have hsome : joined none (holders.filter fun other => other.id == holder.id) ≠ none := joined_ne_none (.inr hgroup)
    obtain ⟨merged, hmerged⟩ := Option.ne_none_iff_exists'.mp hsome
    have hindexed := indexed_nil.foldl_mergeInto holders
    have hget : Assoc.get? holder.id (holders.foldl mergeInto []) = some merged := by
      rw [get?_foldl_mergeInto]
      exact hmerged
    have hmem := hindexed.get?_eq_some_iff.mp hget
    exact ⟨merged, List.mem_map.mpr ⟨_, hmem, rfl⟩, hindexed.ids _ hmem⟩

/-- Holders of different routes in order are not changed. -/
theorem foldl_mergeInto_increasing (h : holders.Pairwise fun a b => a.id < b.id) {merged : List (Nat × RouteHolder)}
    (hlater : ∀ entry ∈ merged, ∀ holder ∈ holders, entry.1 < holder.id) :
    holders.foldl mergeInto merged = merged ++ holders.map fun holder => (holder.id, holder) := by
  induction holders generalizing merged with
  | nil => simp
  | cons holder holders ih =>
    obtain ⟨hfirst, hrest⟩ := List.pairwise_cons.mp h
    rw [List.foldl_cons, mergeInto_later holder fun entry hentry => hlater entry hentry holder (by simp), ih hrest]
    · simp
    · intro entry hentry other hother
      rcases List.mem_append.mp hentry with hold | hnew
      · exact hlater entry hold other (by simp [hother])
      · rw [List.mem_singleton.mp hnew]
        exact hfirst other hother

theorem merge_of_increasing (h : holders.Pairwise fun a b => a.id < b.id) : merge holders = holders := by
  rw [merge, foldl_mergeInto_increasing h (by simp), List.nil_append, List.map_map]
  exact List.map_id _

/-! ## Routes with one reader and one endpoint -/

/-- Every route has at most one reader and at most one endpoint. -/
def Paired (holders : List RouteHolder) : Prop :=
  (holders.map fun holder => (holder.id, holder.isEndpoint)).Nodup

theorem Paired.group (h : Paired holders) (id : Nat) :
    (holders.filter fun holder => holder.id == id).Pairwise fun a b => a.isEndpoint ≠ b.isEndpoint := by
  have hpairs := (List.pairwise_map.mp h).filter fun holder => holder.id == id
  refine hpairs.imp_of_mem fun {a b} ha hb hne heq => hne ?_
  have hida : a.id = id := by simpa using (List.mem_filter.mp ha).2
  have hidb : b.id = id := by simpa using (List.mem_filter.mp hb).2
  rw [hida, hidb, heq]

/-- What a group of holders of different kinds comes to: itself, or the reader under the name of the endpoint. -/
theorem joined_group {group : List RouteHolder} (h : group.Pairwise fun a b => a.isEndpoint ≠ b.isEndpoint)
    (hne : group ≠ []) :
    (∃ single, group = [single] ∧ joined none group = some single) ∨
    ∃ reader endpoint, group.Perm [reader, endpoint] ∧ reader.isEndpoint = false ∧ endpoint.isEndpoint = true ∧
      joined none group = some (reader.named endpoint) := by
  match group with
  | [] => exact absurd rfl hne
  | [single] => exact .inl ⟨single, rfl, rfl⟩
  | [first, second] =>
    have hkinds : first.isEndpoint = !second.isEndpoint := Bool.eq_not.mpr (by simpa using h)
    cases hsecond : second.isEndpoint with
    | true =>
      have hfirst : first.isEndpoint = false := by rw [hkinds, hsecond]; rfl
      exact .inr ⟨first, second, .refl _, hfirst, hsecond, congrArg some (join_pair hfirst hsecond).1⟩
    | false =>
      have hfirst : first.isEndpoint = true := by rw [hkinds, hsecond]; rfl
      exact .inr ⟨second, first, .swap _ _ _, hsecond, hfirst, congrArg some (join_pair hsecond hfirst).2⟩
  | first :: second :: third :: rest =>
    -- there are only two kinds
    simp only [List.pairwise_cons, List.mem_cons, forall_eq_or_imp] at h
    obtain ⟨⟨hfirst, hfirst', -⟩, ⟨hsecond, -⟩, -⟩ := h
    exact absurd ((Bool.eq_not.mpr hfirst.symm).trans (Bool.eq_not.mpr hfirst'.symm).symm) hsecond

/-- The order within such a group does not matter. -/
theorem joined_perm {group other : List RouteHolder} (h : group.Pairwise fun a b => a.isEndpoint ≠ b.isEndpoint)
    (hperm : other.Perm group) : joined none other = joined none group := by
  have hother : other.Pairwise fun a b => a.isEndpoint ≠ b.isEndpoint := hperm.symm.pairwise h fun hne => hne.symm
  by_cases hne : group = []
  · subst hne
    rw [hperm.eq_nil]
  rcases joined_group h hne with ⟨single, rfl, -⟩ | ⟨reader, endpoint, hgroup, hreader, hendpoint, hjoined⟩
  · rw [hperm.eq_singleton]
  have hne' : other ≠ [] := fun hnil => hne (hnil ▸ hperm).nil_eq.symm
  rcases joined_group hother hne' with ⟨single, rfl, -⟩ | ⟨reader', endpoint', hgroup', hreader', hendpoint', hjoined'⟩
  · rw [hperm.symm.eq_singleton]
  · -- both pairs hold the same reader and the same endpoint
    have hmem (holder : RouteHolder) : holder ∈ [reader', endpoint'] ↔ holder ∈ [reader, endpoint] :=
      (hgroup'.symm.trans (hperm.trans hgroup)).mem_iff
    have hsame : reader' = reader := by
      rcases List.mem_pair.mp ((hmem reader').mp (by simp)) with heq | heq
      · exact heq
      · rw [heq, hendpoint] at hreader'
        cases hreader'
    have hsame' : endpoint' = endpoint := by
      rcases List.mem_pair.mp ((hmem endpoint').mp (by simp)) with heq | heq
      · rw [heq, hreader] at hendpoint'
        cases hendpoint'
      · exact heq
    rw [hjoined, hjoined', hsame, hsame']

/-- Lists in the order of the routes are equal if they hold the same. -/
theorem eq_of_increasing {a b : List RouteHolder} (ha : a.Pairwise fun x y => x.id < y.id)
    (hb : b.Pairwise fun x y => x.id < y.id) (h : ∀ holder, holder ∈ a ↔ holder ∈ b) : a = b := by
  have hnodup {list : List RouteHolder} (hlist : list.Pairwise fun x y => x.id < y.id) : list.Nodup :=
    hlist.imp fun hlt heq => Nat.ne_of_lt hlt (congrArg RouteHolder.id heq)
  have hperm : a.Perm b := (List.perm_ext_iff_of_nodup (hnodup ha) (hnodup hb)).mpr h
  exact hperm.eq_of_pairwise (fun x y _ _ hxy hyx => absurd hyx (Nat.lt_asymm hxy)) ha hb

theorem merge_perm (h : Paired holders) {other : List RouteHolder} (hperm : other.Perm holders) :
    merge other = merge holders := by
  refine eq_of_increasing (increasing_merge other) (increasing_merge holders) fun holder => ?_
  rw [mem_merge, mem_merge, joined_perm (h.group holder.id) (hperm.filter _)]

/-- What is found for a route with one holder of each kind at most. -/
theorem merge_cases (h : Paired holders) {merged : RouteHolder} (hmerged : merged ∈ merge holders) :
    holders.filter (fun holder => holder.id == merged.id) = [merged] ∨
    ∃ reader endpoint, (holders.filter fun holder => holder.id == merged.id).Perm [reader, endpoint] ∧
      reader.isEndpoint = false ∧ endpoint.isEndpoint = true ∧ merged = reader.named endpoint := by
  have hne := group_ne_nil hmerged
  rw [mem_merge] at hmerged
  rcases joined_group (h.group merged.id) hne with ⟨single, hgroup, hjoined⟩ | ⟨reader, endpoint, hgroup, hkinds⟩
  · rw [hjoined] at hmerged
    rw [hgroup, Option.some.inj hmerged]
    exact .inl rfl
  · rw [hkinds.2.2] at hmerged
    exact .inr ⟨reader, endpoint, hgroup, hkinds.1, hkinds.2.1, (Option.some.inj hmerged).symm⟩

/-- **Merging brings holders to one form.** The result has the routes of the holders, each once and in order, and
merging it again changes nothing. If every route has at most one reader and one endpoint, the order of the holders does
not matter, and every holder of the result is the only one of its route, or the reader of its route under the name of
the endpoint, if that has one. -/
theorem merge_canonical (holders : List RouteHolder) :
    (merge holders).Pairwise (fun a b => a.id < b.id) ∧
    (∀ id, (∃ holder ∈ merge holders, holder.id = id) ↔ ∃ holder ∈ holders, holder.id = id) ∧
    merge (merge holders) = merge holders ∧
    (Paired holders →
      (∀ other, other.Perm holders → merge other = merge holders) ∧
      ∀ merged ∈ merge holders,
        holders.filter (fun holder => holder.id == merged.id) = [merged] ∨
        ∃ reader endpoint, (holders.filter fun holder => holder.id == merged.id).Perm [reader, endpoint] ∧
          reader.isEndpoint = false ∧ endpoint.isEndpoint = true ∧
          merged = { reader with name := if endpoint.name = "" then reader.name else endpoint.name }) := by
  have hincreasing := increasing_merge holders
  refine ⟨hincreasing, fun id => exists_mem_merge_iff, merge_of_increasing hincreasing, fun hpaired => ⟨?_, ?_⟩⟩
  · exact fun other hperm => merge_perm hpaired hperm
  · exact fun merged hmerged => merge_cases hpaired hmerged

/-- What the decoder of a route reads. -/
def storyDecoder : RouteHolder :=
  { id := 3, route := "/stories", methods := ["POST"], name := "decodeStory", query := [{ name := "draft" }] }

/-- The name that its endpoint gives it. -/
def storyEndpoint : RouteHolder :=
  { id := 3, route := "/stories", methods := ["POST"], name := "CreateStory", isEndpoint := true }

def healthHandler : RouteHolder :=
  { id := 1, route := "/health", methods := ["GET"], name := "Health" }

/-- The endpoint gives its name to the decoder, whichever of them comes first. -/
theorem merge_canonical_story :
    Paired [storyEndpoint, storyDecoder, healthHandler] ∧
      merge [storyDecoder, healthHandler, storyEndpoint] = merge [storyEndpoint, storyDecoder, healthHandler] ∧
      merge [storyEndpoint, storyDecoder, healthHandler]
        = [healthHandler, { storyDecoder with name := "CreateStory" }] := by
  have hpaired : Paired [storyEndpoint, storyDecoder, healthHandler] := by
    unfold Paired
    decide
  have hperm : ([storyDecoder, healthHandler] ++ [storyEndpoint]).Perm
      ([storyEndpoint] ++ [storyDecoder, healthHandler]) := List.perm_append_comm
  exact ⟨hpaired, ((merge_canonical _).2.2.2 hpaired).1 _ hperm, rfl⟩

end RouteDoc.RouteHolder
