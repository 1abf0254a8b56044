import RouteDoc.Document.Read
import RouteDoc.Proofs.DocumentAssembly
import RouteDoc.Proofs.JsonText

/-!
Typed reading of records. A record is written from its parts, of which some may be left out (`Data.members`); each part
is found again by its name (`fields?_members`). Entries by name are read back if their names stand in order
(`sortedEntries_write`) or once each (`orderedEntries_write`), and whatever is read has its names so
(`sortedEntries_spec`, `orderedEntries_spec`).

For each reader of a part of a document one lemma says what it takes to read it (`schema?_eq_some_iff`,
`parameter?_eq_some_iff`, `operation?_eq_some_iff`, `document?_eq_some_iff`).
-/

namespace RouteDoc

/-! ## Levels -/

namespace Data

mutual

/-- How many levels of lists and records a value has. -/
def levels : Data → Nat
  | .list items => levelsOfItems items + 1
  | .record members => levelsOfMembers members + 1
  | _ => 0

def levelsOfItems : List Data → Nat
  | [] => 0
  | item :: items => max item.levels (levelsOfItems items)

def levelsOfMembers : List (String × Data) → Nat
  | [] => 0
  | (_, value) :: members => max value.levels (levelsOfMembers members)

end

theorem levelsOfItems_le {items : List Data} {n : Nat} : levelsOfItems items ≤ n ↔ ∀ item ∈ items, item.levels ≤ n := by
  induction items with
  | nil => simp [levelsOfItems]
  | cons item items ih => rw [levelsOfItems, Nat.max_le, ih, List.forall_mem_cons]

theorem levelsOfMembers_le {members : List (String × Data)} {n : Nat} :
    levelsOfMembers members ≤ n ↔ ∀ member ∈ members, member.2.levels ≤ n := by
  induction members with
  | nil => simp [levelsOfMembers]
  | cons member members ih => rw [levelsOfMembers, Nat.max_le, ih, List.forall_mem_cons]

theorem levels_list_le {items : List Data} {n : Nat} :
    (Data.list items).levels ≤ n ↔ 0 < n ∧ ∀ item ∈ items, item.levels ≤ n - 1 := by
  rw [levels, ← levelsOfItems_le]
  omega

theorem levels_record_le {members : List (String × Data)} {n : Nat} :
    (Data.record members).levels ≤ n ↔ 0 < n ∧ ∀ member ∈ members, member.2.levels ≤ n - 1 := by
  rw [levels, ← levelsOfMembers_le]
  omega

@[simp]
theorem levels_text (s : String) : (Data.text s).levels = 0 := by
  simp [levels]

@[simp]
theorem levels_bool (b : Bool) : (Data.bool b).levels = 0 := by
  simp [levels]

theorem levels_texts_le {items : List String} {n : Nat} : (Data.texts items).levels ≤ n ↔ 0 < n := by
  rw [texts, levels_list_le]
  simp

/-- The members of a record, of which each may be left out. -/
def members (parts : List (String × Option Data)) : List (String × Data) :=
  parts.flatMap fun part => member? part.1 part.2

theorem forall_mem_members {parts : List (String × Option Data)} {P : String × Data → Prop} :
    (∀ member ∈ members parts, P member) ↔ ∀ part ∈ parts, ∀ value, part.2 = some value → P (part.1, value) := by
  induction parts with
  | nil => simp [members]
  | cons part parts ih =>
    have hpart : (∀ member ∈ member? part.1 part.2, P member) ↔ ∀ value, part.2 = some value → P (part.1, value) := by
      cases part.2 <;> simp [member?]
    rw [members, List.flatMap_cons, List.forall_mem_append, ← members, ih, List.forall_mem_cons, hpart]

theorem levels_members_le {parts : List (String × Option Data)} {n : Nat} : (Data.record (members parts)).levels ≤ n ↔
    0 < n ∧ ∀ part ∈ parts, ∀ value, part.2 = some value → value.levels ≤ n - 1 := by
  rw [levels_record_le, forall_mem_members]

theorem printable_record {members : List (String × Data)} (h : ∀ member ∈ members, member.2.Printable) :
    (Data.record members).Printable :=
  printableMembers_iff.mpr h

theorem printable_members {parts : List (String × Option Data)}
    (h : ∀ part ∈ parts, ∀ value, part.2 = some value → value.Printable) : (Data.record (members parts)).Printable :=
  printable_record (forall_mem_members.mpr h)

theorem printable_list {items : List Data} (h : ∀ item ∈ items, item.Printable) : (Data.list items).Printable :=
  printableItems_iff.mpr h

theorem printable_texts (items : List String) : (Data.texts items).Printable :=
  printable_list (List.forall_mem_map.mpr fun _ _ => True.intro)

theorem filter_members {parts : List (String × Option Data)} (h : (parts.map Prod.fst).Nodup)
    {part : String × Option Data} (hpart : part ∈ parts) :
    (members parts).filter (fun member => member.1 = part.1) = member? part.1 part.2 := by
  have hfilter : ∀ other : String × Option Data, (member? other.1 other.2).filter (fun member => member.1 = part.1)
      = if other.1 = part.1 then member? other.1 other.2 else [] := by
    rintro ⟨name, value?⟩
    cases value? <;> by_cases hname : name = part.1 <;> simp [member?, hname]
  induction parts with
  | nil => cases hpart
  | cons first parts ih =>
    obtain ⟨hfirst, hrest⟩ := List.nodup_cons.mp h
    rw [members, List.flatMap_cons, List.filter_append, hfilter, ← members]
    rcases List.mem_cons.mp hpart with rfl | hpart
    · -- no later part has its name
      have hnone : (members parts).filter (fun member => member.1 = part.1) = [] := by
        rw [List.filter_eq_nil_iff]
        refine forall_mem_members.mpr fun other hother value _ => ?_
        rw [decide_eq_true_eq]
        exact fun hname => hfirst (hname ▸ List.mem_map_of_mem hother)
      rw [if_pos rfl, hnone, List.append_nil]
    · have hne : first.1 ≠ part.1 := fun hname => hfirst (hname ▸ List.mem_map_of_mem hpart)
      rw [if_neg hne, List.nil_append, ih hrest hpart]

end Data

/-! ## Named entries -/

namespace Assoc

variable {α : Type} {list : List (String × α)} {name : String}

theorem put_new (value : α) (h : name ∉ list.map Prod.fst) : put name value list = list ++ [(name, value)] := by
  induction list with
  | nil => rfl
  | cons entry list ih =>
    simp only [List.map_cons, List.mem_cons, not_or] at h
    rw [put, if_neg (Ne.symm h.1), ih h.2]
    rfl

theorem putSorted_last (value : α) (h : ∀ entry ∈ list, entry.1 < name) :
    putSorted nameBefore name value list = list ++ [(name, value)] := by
  have hbefore : ∀ entry ∈ list, entry.1 ≠ name ∧ nameBefore name entry.1 = false := by
    intro entry hentry
    have hlt := h entry hentry
    refine ⟨fun heq => String.lt_irrefl name (heq ▸ hlt), decide_eq_false fun hgt => ?_⟩
    exact String.lt_irrefl name (String.lt_trans hgt hlt)
  have hput : putSorted nameBefore name value (list ++ []) = list ++ [(name, value)] :=
    putSorted_append [] hbefore
  rwa [List.append_nil] at hput

end Assoc

namespace Decode

variable {ν α : Type} {read : ν → Option α} {write : α → ν}

/-- Entries are read back if each is put behind those before it. -/
theorem foldlM_entries (put : String → α → List (String × α) → List (String × α)) (before entries : List (String × α))
    (hput : ∀ init entry tail, before ++ entries = init ++ entry :: tail → put entry.1 entry.2 init = init ++ [entry])
    (hread : ∀ entry ∈ entries, read (write entry.2) = some entry.2) :
    (entries.map fun entry => (entry.1, write entry.2)).foldlM
      (fun found member => (read member.2).map fun value => put member.1 value found) before
        = some (before ++ entries) := by
  induction entries generalizing before with
  | nil => simp
  | cons entry entries ih =>
    have hassoc : before ++ entry :: entries = (before ++ [entry]) ++ entries := by simp
    rw [List.map_cons, List.foldlM_cons, hread entry List.mem_cons_self]
    simp only [Option.map_some, hput before entry entries rfl]
    rw [hassoc] at hput ⊢
    exact ih (before ++ [entry]) hput fun other hother => hread other (List.mem_cons_of_mem entry hother)

theorem orderedEntries_write {entries : List (String × α)} (h : (entries.map Prod.fst).Nodup)
    (hread : ∀ entry ∈ entries, read (write entry.2) = some entry.2) :
    orderedEntries read (entries.map fun entry => (entry.1, write entry.2)) = some entries := by
  apply foldlM_entries Assoc.put [] entries ?_ hread
  intro init entry tail hentries
  apply Assoc.put_new
  rw [List.nil_append] at hentries
  rw [hentries, List.map_append, List.map_cons, List.nodup_append] at h
  intro hmem
  exact h.2.2 _ hmem _ List.mem_cons_self rfl

theorem sortedEntries_write {entries : List (String × α)} (h : Assoc.Sorted entries)
    (hread : ∀ entry ∈ entries, read (write entry.2) = some entry.2) :
    sortedEntries read (entries.map fun entry => (entry.1, write entry.2)) = some entries := by
  apply foldlM_entries (Assoc.putSorted Assoc.nameBefore) [] entries ?_ hread
  intro init entry tail hentries
  apply Assoc.putSorted_last
  rw [List.nil_append] at hentries
  rw [hentries] at h
  intro other hother
  exact (List.pairwise_append.mp h).2.2 other hother entry List.mem_cons_self

theorem exists_of_mem_mapM {β : Type} {f : ν → Option β} {list : List ν} {out : List β} (h : list.mapM f = some out)
    {y : β} (hy : y ∈ out) : ∃ x, f x = some y := by
  induction list generalizing out with
  | nil =>
    cases Option.some.inj h
    cases hy
  | cons x list ih =>
    rw [List.mapM_cons] at h
    obtain ⟨first, hfirst, h⟩ := Option.bind_eq_some_iff.mp h
    obtain ⟨rest, hrest, h⟩ := Option.bind_eq_some_iff.mp h
    cases Option.some.inj h
    rcases List.mem_cons.mp hy with rfl | hy
    · exact ⟨x, hfirst⟩
    · exact ih hrest hy

/-- What is true of no entries, and stays true when one that was read is put, is true of all that are read. -/
theorem foldlM_entries_invariant (P : List (String × α) → Prop)
    {put : String → α → List (String × α) → List (String × α)}
    (hput : ∀ name raw value found, read raw = some value → P found → P (put name value found))
    {members : List (String × ν)} {found entries : List (String × α)} (hfound : P found)
    (h : members.foldlM (fun found member => (read member.2).map fun value => put member.1 value found) found
      = some entries) : P entries := by
  induction members generalizing found with
  | nil => rwa [← Option.some.inj h]
  | cons member members ih =>
    rw [List.foldlM_cons] at h
    obtain ⟨next, hnext, hrest⟩ := Option.bind_eq_some_iff.mp h
    obtain ⟨value, hvalue, rfl⟩ := Option.map_eq_some_iff.mp hnext
    exact ih (hput member.1 member.2 value found hvalue hfound) hrest

theorem sortedEntries_spec {members : List (String × ν)} {entries : List (String × α)}
    (h : sortedEntries read members = some entries) :
    Assoc.Sorted entries ∧ ∀ entry ∈ entries, ∃ raw, read raw = some entry.2 := by
  refine foldlM_entries_invariant (fun entries => Assoc.Sorted entries ∧ ∀ entry ∈ entries, ∃ raw, read raw = some entry.2)
    (fun name raw value found hraw hfound => ?_) ⟨List.Pairwise.nil, nofun⟩ h
  refine ⟨Assoc.sorted_putSorted name value hfound.1, fun entry hentry => ?_⟩
  rcases Assoc.mem_putSorted hentry with rfl | hentry
  · exact ⟨raw, hraw⟩
  · exact hfound.2 entry hentry

theorem orderedEntries_spec {members : List (String × ν)} {entries : List (String × α)}
    (h : orderedEntries read members = some entries) :
    (entries.map Prod.fst).Nodup ∧ ∀ entry ∈ entries, ∃ raw, read raw = some entry.2 := by
  refine foldlM_entries_invariant
    (fun entries => (entries.map Prod.fst).Nodup ∧ ∀ entry ∈ entries, ∃ raw, read raw = some entry.2)
    (fun name raw value found hraw hfound => ?_) ?_ h
  swap
  · exact ⟨List.nodup_nil, nofun⟩
  obtain ⟨hnodup, hread⟩ := hfound
  refine ⟨?_, fun entry hentry => ?_⟩
  · rw [Assoc.map_fst_put]
    split
    · exact hnodup
    · rename_i hnew
      refine List.nodup_append.mpr ⟨hnodup, by simp, fun first hfirst second hsecond heq => ?_⟩
      rw [heq, List.mem_singleton.mp hsecond] at hfirst
      exact hnew hfirst
  · rcases Assoc.mem_put hentry with rfl | hentry
    · exact ⟨raw, hraw⟩
    · exact hread entry hentry

theorem exists_of_optional {reader : Reader ν} {positional : Bool} {value? : Option ν} {value : α}
    (h : reader.optional read positional value? = some (some value)) : ∃ raw, read raw = some value := by
  cases value? with
  | none =>
    rw [Reader.optional] at h
    split at h <;> cases h
  | some raw =>
    rw [Reader.optional] at h
    split at h
    · cases h
    · obtain ⟨found, hfound, heq⟩ := Option.map_eq_some_iff.mp h
      obtain rfl := Option.some.inj heq
      exact ⟨raw, hfound⟩
    · cases h

end Decode

/-! ## Typed readers -/

namespace Decode

section

variable {ν : Type} (reader : Reader ν)

def properties? (n : Nat) (value : ν) : Option (List (String × Schema)) :=
  match n with
  | 0 => none
  | m + 1 => (reader.record? value).bind (orderedEntries (schema? reader m))

variable {reader}

theorem schema?_eq_some_iff {n : Nat} {value : ν} {schema : Schema} :
    schema? reader (n + 1) value = some schema ↔ ∃ type items properties required positional,
      reader.fields? ["type", "items", "properties", "required"] value
          = some ⟨[type, items, properties, required], positional⟩ ∧
        type.bind reader.text? = some schema.type ∧
        reader.optional (schema? reader n) positional items = some schema.items? ∧
        reader.optional (properties? reader n) positional properties = some schema.properties? ∧
        reader.optional (textsWithin? reader n) positional required = some schema.required? := by
  obtain ⟨type, items?, properties?, required?⟩ := schema
  rw [schema?]
  constructor
  · intro h
    obtain ⟨fields, hfields, h⟩ := Option.bind_eq_some_iff.mp h
    split at h
    · obtain ⟨type, htype, h⟩ := Option.bind_eq_some_iff.mp h
      obtain ⟨items?, hitems, h⟩ := Option.bind_eq_some_iff.mp h
      obtain ⟨properties?, hproperties, h⟩ := Option.bind_eq_some_iff.mp h
      obtain ⟨required?, hrequired, h⟩ := Option.bind_eq_some_iff.mp h
      cases Option.some.inj h
      exact ⟨_, _, _, _, _, hfields, htype, hitems, hproperties, hrequired⟩
    · cases h
  · rintro ⟨type, items, properties, required, positional, hfields, htype, hitems, hproperties, hrequired⟩
    rw [hfields, Option.bind_eq_bind, Option.bind_some]
    refine Option.bind_eq_some_iff.mpr ⟨_, htype, Option.bind_eq_some_iff.mpr ⟨_, hitems, ?_⟩⟩
    exact Option.bind_eq_some_iff.mpr ⟨_, hproperties, Option.bind_eq_some_iff.mpr ⟨_, hrequired, rfl⟩⟩

theorem parameter?_eq_some_iff {n : Nat} {value : ν} {parameter : Parameter} :
    parameter? reader n value = some parameter ↔ ∃ name location description required type items schema positional,
      reader.fields? ["name", "in", "description", "required", "type", "items", "schema"] value
          = some ⟨[name, location, description, required, type, items, schema], positional⟩ ∧
        name.bind reader.text? = some parameter.name ∧
        location.bind reader.text? = some parameter.location ∧
        description.bind reader.text? = some parameter.description ∧
        required.bind reader.bool? = some parameter.required ∧
        reader.optional reader.text? positional type = some parameter.type? ∧
        reader.optional (schema? reader (n - 1)) positional items = some parameter.items? ∧
        reader.optional (schema? reader (n - 1)) positional schema = some parameter.schema? := by
  rw [parameter?]
  constructor
  · intro h
    obtain ⟨fields, hfields, h⟩ := Option.bind_eq_some_iff.mp h
    split at h
    · obtain ⟨name, hname, h⟩ := Option.bind_eq_some_iff.mp h
      obtain ⟨location, hlocation, h⟩ := Option.bind_eq_some_iff.mp h
      obtain ⟨description, hdescription, h⟩ := Option.bind_eq_some_iff.mp h
      obtain ⟨required, hrequired, h⟩ := Option.bind_eq_some_iff.mp h
      obtain ⟨type?, htype, h⟩ := Option.bind_eq_some_iff.mp h
      obtain ⟨items?, hitems, h⟩ := Option.bind_eq_some_iff.mp h
      obtain ⟨schema?, hschema, h⟩ := Option.bind_eq_some_iff.mp h
      obtain rfl := Option.some.inj h
      exact ⟨_, _, _, _, _, _, _, _, hfields, hname, hlocation, hdescription, hrequired, htype, hitems, hschema⟩
    · cases h
  · rintro ⟨name, location, description, required, type, items, schema, positional, hfields, hname, hlocation,
      hdescription, hrequired, htype, hitems, hschema⟩
    rw [hfields, Option.bind_eq_bind, Option.bind_some]
    simp only [hname, hlocation, hdescription, hrequired, htype, hitems, hschema]
    rfl

theorem operation?_eq_some_iff {n : Nat} {value : ν} {operation : Operation} :
    operation? reader n value = some operation ↔ ∃ id summary tags parameters consumes responses positional items members,
      reader.fields? ["operationId", "summary", "tags", "parameters", "consumes", "responses"] value
          = some ⟨[id, summary, tags, parameters, consumes, responses], positional⟩ ∧
        id.bind reader.text? = some operation.id ∧
        summary.bind reader.text? = some operation.summary ∧
        orDefault [] reader.texts? tags = some operation.tags ∧
        parameters.bind reader.list? = some items ∧
        items.mapM (parameter? reader (n - 2)) = some operation.parameters ∧
        orDefault [] reader.texts? consumes = some operation.consumes ∧
        responses.bind reader.record? = some members ∧
        sortedEntries (response? reader) members = some operation.responses := by
  rw [operation?]
  constructor
  · intro h
    obtain ⟨fields, hfields, h⟩ := Option.bind_eq_some_iff.mp h
    split at h
    · obtain ⟨id, hid, h⟩ := Option.bind_eq_some_iff.mp h
      obtain ⟨summary, hsummary, h⟩ := Option.bind_eq_some_iff.mp h
      obtain ⟨tags, htags, h⟩ := Option.bind_eq_some_iff.mp h
      obtain ⟨items, hitems, h⟩ := Option.bind_eq_some_iff.mp h
      obtain ⟨parameters, hparameters, h⟩ := Option.bind_eq_some_iff.mp h
      obtain ⟨consumes, hconsumes, h⟩ := Option.bind_eq_some_iff.mp h
      obtain ⟨members, hmembers, h⟩ := Option.bind_eq_some_iff.mp h
      obtain ⟨responses, hresponses, h⟩ := Option.bind_eq_some_iff.mp h
      obtain rfl := Option.some.inj h
      exact ⟨_, _, _, _, _, _, _, items, members, hfields, hid, hsummary, htags, hitems, hparameters, hconsumes,
        hmembers, hresponses⟩
    · cases h
  · rintro ⟨id, summary, tags, parameters, consumes, responses, positional, items, members, hfields, hid, hsummary,
      htags, hitems, hparameters, hconsumes, hmembers, hresponses⟩
    rw [hfields, Option.bind_eq_bind, Option.bind_some]
    simp only [hid, hsummary, htags, hitems, hparameters, hconsumes, hmembers, hresponses, Option.bind_eq_bind,
      Option.bind_some]
    rfl

theorem document?_eq_some_iff {value : ν} {document : Document} :
    document? reader value = some document ↔ ∃ swagger info host basePath schemes paths positional members,
      reader.fields? ["swagger", "info", "host", "basePath", "schemes", "paths"] value
          = some ⟨[swagger, info, host, basePath, schemes, paths], positional⟩ ∧
        swagger.bind reader.text? = some document.swagger ∧
        info.bind (info? reader) = some document.info ∧
        host.bind reader.text? = some document.host ∧
        basePath.bind reader.text? = some document.basePath ∧
        schemes.bind reader.texts? = some document.schemes ∧
        paths.bind reader.record? = some members ∧
        sortedEntries (methods? reader (reader.levels - 2)) members = some document.paths := by
  rw [document?]
  constructor
  · intro h
    obtain ⟨fields, hfields, h⟩ := Option.bind_eq_some_iff.mp h
    split at h
    · obtain ⟨swagger, hswagger, h⟩ := Option.bind_eq_some_iff.mp h
      obtain ⟨info, hinfo, h⟩ := Option.bind_eq_some_iff.mp h
      obtain ⟨host, hhost, h⟩ := Option.bind_eq_some_iff.mp h
      obtain ⟨basePath, hbasePath, h⟩ := Option.bind_eq_some_iff.mp h
      obtain ⟨schemes, hschemes, h⟩ := Option.bind_eq_some_iff.mp h
      obtain ⟨members, hmembers, h⟩ := Option.bind_eq_some_iff.mp h
      obtain ⟨paths, hpaths, h⟩ := Option.bind_eq_some_iff.mp h
      obtain rfl := Option.some.inj h
      exact ⟨_, _, _, _, _, _, _, members, hfields, hswagger, hinfo, hhost, hbasePath, hschemes, hmembers, hpaths⟩
    · cases h
  · rintro ⟨swagger, info, host, basePath, schemes, paths, positional, members, hfields, hswagger, hinfo, hhost,
      hbasePath, hschemes, hmembers, hpaths⟩
    rw [hfields, Option.bind_eq_bind, Option.bind_some]
    simp only [hswagger, hinfo, hhost, hbasePath, hschemes, hmembers, hpaths, Option.bind_eq_bind, Option.bind_some]
    rfl

end

end Decode

namespace Json

/-- How JSON data is read that may have so many levels. -/
def readerWithin (levels : Nat) : Decode.Reader Data :=
  { reader with levels := levels }

end Json

namespace Decode

variable (bound : Nat)

theorem mapM_write {α β ν : Type} {read : ν → Option β} {write : α → ν} {g : α → β} {list : List α}
    (h : ∀ x ∈ list, read (write x) = some (g x)) : (list.map write).mapM read = some (list.map g) := by
  induction list with
  | nil => rfl
  | cons x list ih =>
    rw [List.map_cons, List.mapM_cons, h x List.mem_cons_self, ih fun y hy => h y (List.mem_cons_of_mem x hy)]
    rfl

theorem fields?_members (parts : List (String × Option Data)) (h : (parts.map Prod.fst).Nodup) :
    (Json.readerWithin bound).fields? (parts.map Prod.fst) (.record (Data.members parts))
      = some ⟨parts.map Prod.snd, false⟩ := by
  have hsingle : ∀ part ∈ parts, single? part.1 (Data.members parts) = some part.2 := by
    intro part hpart
    rw [single?, Data.filter_members h hpart]
    cases part.2 <;> rfl
  show ((parts.map Prod.fst).mapM fun name => single? name (Data.members parts)).map _ = _
  rw [mapM_write hsingle]
  rfl

/-- A part that is written if it is there is read back. -/
theorem optional_write {α : Type} {read : Data → Option α} {write : α → Data} {value? : Option α}
    (hnull : ∀ value, write value ≠ .null) (hread : ∀ value, value? = some value → read (write value) = some value) :
    (Json.readerWithin bound).optional read false (value?.map write) = some value? := by
  cases value? with
  | none => rfl
  | some value =>
    have habsent : (Json.readerWithin bound).absent? (write value) = some false := by
      have hnull := hnull value
      cases hwrite : write value with
      | null => exact absurd hwrite hnull
      | _ => rfl
    simp only [Reader.optional, Option.map_some, habsent, hread value rfl]

theorem texts?_texts (items : List String) : (Json.readerWithin bound).texts? (Data.texts items) = some items := by
  have htexts : (items.map Data.text).mapM Json.textOf? = some (items.map id) := mapM_write fun item _ => rfl
  rwa [List.map_id] at htexts

end Decode

end RouteDoc
