import RouteDoc.Proofs.JsonText
import RouteDoc.Proofs.RecordReading
import RouteDoc.Proofs.SchemaShape

/-!
Documents are read back from their JSON text (`json_roundTrip`), part by part: what `toData` writes of a schema, a
parameter, an operation or a document is read back by the reader for it (`schema?_toData` to `document?_toData`). Each
needs room for the levels of what it reads, and the names in it to stand as documents keep them (`Document.Ordered`):
paths, methods and responses in order, properties once each.

Conversely, whatever a reader accepts has its names so, and is within its levels (`schema?_spec` to `document?_spec`).
So a text that was read and printed once does not change any more.
-/

namespace RouteDoc

/-! ## Schemas -/

namespace Schema

theorem itemsData_eq (items? : Option Schema) : itemsData items? = items?.map toData := by
  cases items? <;> simp [itemsData]

def entriesToData (entries : List (String × Schema)) : Data :=
  .record (entries.map fun entry => (entry.1, entry.2.toData))

theorem entriesData_eq (entries : List (String × Schema)) :
    entriesData entries = entries.map fun entry => (entry.1, entry.2.toData) := by
  induction entries with
  | nil => simp [entriesData]
  | cons entry entries ih => simp [entriesData, ih]

theorem propertiesData_eq (properties? : Option (List (String × Schema))) :
    propertiesData properties? = properties?.map entriesToData := by
  cases properties? <;> simp [propertiesData, entriesData_eq, entriesToData]

def parts (schema : Schema) : List (String × Option Data) :=
  [("type", some (.text schema.type)), ("items", schema.items?.map toData),
    ("properties", schema.properties?.map entriesToData), ("required", schema.required?.map Data.texts)]

theorem toData_eq (schema : Schema) : schema.toData = .record (Data.members schema.parts) := by
  obtain ⟨type, items?, properties?, required?⟩ := schema
  rw [toData, membersOf, itemsData_eq, propertiesData_eq]
  simp [Data.members, parts, Data.member?]

/-- Every schema that occurs in a schema names its properties once each. -/
def Distinct (schema : Schema) : Prop :=
  ∀ node, schema.Occurs node → ∀ properties, node.properties? = some properties → (properties.map Prod.fst).Nodup

theorem Occurs.trans {a b c : Schema} (hab : a.Occurs b) (hbc : b.Occurs c) : a.Occurs c := by
  induction hbc with
  | self => exact hab
  | items _ hitems ih => exact .items ih hitems
  | property _ hproperties hmem ih => exact .property ih hproperties hmem

/-- What occurs in a schema is the schema, or occurs in its items or in one of its properties. -/
theorem occurs_cases {root node : Schema} (h : root.Occurs node) :
    node = root ∨ (∃ items, root.items? = some items ∧ items.Occurs node) ∨
      ∃ properties, root.properties? = some properties ∧ ∃ entry ∈ properties, entry.2.Occurs node := by
  induction h with
  | self => exact .inl rfl
  | items _ hitems ih =>
    rcases ih with rfl | ⟨items, hroot, hnode⟩ | ⟨properties, hroot, entry, hentry, hnode⟩
    · exact .inr (.inl ⟨_, hitems, .self⟩)
    · exact .inr (.inl ⟨items, hroot, .items hnode hitems⟩)
    · exact .inr (.inr ⟨properties, hroot, entry, hentry, .items hnode hitems⟩)
  | property _ hproperties hmem ih =>
    rcases ih with rfl | ⟨items, hroot, hnode⟩ | ⟨properties, hroot, entry, hentry, hnode⟩
    · exact .inr (.inr ⟨_, hproperties, _, hmem, .self⟩)
    · exact .inr (.inl ⟨items, hroot, .property hnode hproperties hmem⟩)
    · exact .inr (.inr ⟨properties, hroot, entry, hentry, .property hnode hproperties hmem⟩)

theorem distinct_iff {schema : Schema} : schema.Distinct ↔
    (∀ items, schema.items? = some items → items.Distinct) ∧
      ∀ properties, schema.properties? = some properties →
        (properties.map Prod.fst).Nodup ∧ ∀ entry ∈ properties, entry.2.Distinct := by
  constructor
  · intro h
    refine ⟨fun items hitems node hnode => ?_, fun properties hproperties => ⟨?_, fun entry hentry node hnode => ?_⟩⟩
    · exact h node ((Occurs.self.items hitems).trans hnode)
    · exact h schema .self properties hproperties
    · exact h node ((Occurs.self.property hproperties hentry).trans hnode)
  · rintro ⟨hitems, hproperties⟩ node hnode
    rcases occurs_cases hnode with rfl | ⟨items, hroot, hnode⟩ | ⟨properties, hroot, entry, hentry, hnode⟩
    · exact fun properties hroot => (hproperties properties hroot).1
    · exact hitems items hroot node hnode
    · exact (hproperties properties hroot).2 entry hentry node hnode

theorem toData_ne_null (schema : Schema) : schema.toData ≠ .null := by
  rw [toData_eq]
  exact Data.noConfusion

theorem nodup_parts (schema : Schema) : (schema.parts.map Prod.fst).Nodup := by
  simp [parts]

theorem forall_parts {schema : Schema} {P : Data → Prop} (htext : ∀ text, P (.text text)) :
    (∀ part ∈ schema.parts, ∀ value, part.2 = some value → P value) ↔
      (∀ items, schema.items? = some items → P items.toData) ∧
      (∀ entries, schema.properties? = some entries → P (entriesToData entries)) ∧
      ∀ names, schema.required? = some names → P (.texts names) := by
  simp [parts, htext]

/-- How many levels a schema has as data, in terms of its parts. -/
theorem levels_toData_le {schema : Schema} {n : Nat} : schema.toData.levels ≤ n ↔ 0 < n ∧
    (∀ items, schema.items? = some items → items.toData.levels ≤ n - 1) ∧
      (∀ entries, schema.properties? = some entries → 0 < n - 1 ∧ ∀ entry ∈ entries, entry.2.toData.levels ≤ n - 1 - 1) ∧
      ∀ names, schema.required? = some names → 0 < n - 1 := by
  have htext : ∀ text, (Data.text text).levels ≤ n - 1 := by simp
  rw [toData_eq, Data.levels_members_le, forall_parts htext]
  simp only [entriesToData, Data.levels_record_le, Data.levels_texts_le, List.forall_mem_map]

theorem printable_toData (schema : Schema) : schema.toData.Printable := by
  -- by the number of levels: the parts of a schema have fewer
  generalize hn : schema.toData.levels = n
  induction n using Nat.strongRecOn generalizing schema with
  | ind n ih =>
    obtain ⟨hpos, hitems, hproperties, -⟩ := levels_toData_le.mp (Nat.le_of_eq hn)
    rw [toData_eq]
    apply Data.printable_members
    refine (forall_parts fun _ => True.intro).mpr ⟨fun items hsome => ?_, fun entries hsome => ?_, fun names _ => ?_⟩
    · have hless := hitems items hsome
      exact ih _ (by omega) items rfl
    · obtain ⟨hn, hless⟩ := hproperties entries hsome
      refine Data.printable_record (List.forall_mem_map.mpr fun entry hentry => ?_)
      have hless := hless entry hentry
      exact ih _ (by omega) entry.2 rfl
    · exact Data.printable_texts names

end Schema

namespace Decode

variable (bound : Nat) {ν : Type} {reader : Reader ν}

theorem schema?_toData {n : Nat} {schema : Schema} (hdistinct : schema.Distinct) (hlevels : schema.toData.levels ≤ n) :
    schema? (Json.readerWithin bound) n schema.toData = some schema := by
  induction n using Nat.strongRecOn generalizing schema with
  | ind n ih =>
    obtain ⟨hpos, hitems, hproperties, hrequired⟩ := Schema.levels_toData_le.mp hlevels
    obtain ⟨hitems', hproperties'⟩ := Schema.distinct_iff.mp hdistinct
    obtain ⟨n, rfl⟩ : ∃ m, n = m + 1 := ⟨n - 1, by omega⟩
    simp only [Nat.add_sub_cancel] at hitems hproperties hrequired
    have hfields : (Json.readerWithin bound).fields? ["type", "items", "properties", "required"] schema.toData
        = some ⟨schema.parts.map Prod.snd, false⟩ := by
      rw [Schema.toData_eq]
      exact fields?_members bound schema.parts schema.nodup_parts
    refine schema?_eq_some_iff.mpr ⟨_, _, _, _, _, hfields, rfl, ?_, ?_, ?_⟩
    · apply optional_write bound Schema.toData_ne_null
      intro items hsome
      exact ih n (by omega) (hitems' items hsome) (hitems items hsome)
    · apply optional_write bound (fun entries => Data.noConfusion)
      intro entries hsome
      obtain ⟨hn, hlevels⟩ := hproperties entries hsome
      obtain ⟨hnodup, hdistinct⟩ := hproperties' entries hsome
      obtain ⟨m, rfl⟩ : ∃ m, n = m + 1 := ⟨n - 1, by omega⟩
      apply orderedEntries_write hnodup
      intro entry hentry
      exact ih m (by omega) (hdistinct entry hentry) (hlevels entry hentry)
    · apply optional_write bound (fun names => Data.noConfusion)
      intro names hsome
      have hn := hrequired names hsome
      rw [textsWithin?, if_neg (by omega)]
      exact texts?_texts bound names

/-- What is read as a schema has its properties named once each, and no more levels than there is room for. -/
theorem schema?_spec {n : Nat} {value : ν} {schema : Schema} (h : schema? reader n value = some schema) :
    schema.Distinct ∧ schema.toData.levels ≤ n := by
  induction n using Nat.strongRecOn generalizing value schema with
  | ind n ih =>
    cases n with
    | zero => cases h
    | succ n =>
      obtain ⟨type, items, properties, required, positional, -, -, hitems, hproperties, hrequired⟩ :=
        schema?_eq_some_iff.mp h
      have hitems' : ∀ items, schema.items? = some items → items.Distinct ∧ items.toData.levels ≤ n := by
        intro items hsome
        rw [hsome] at hitems
        obtain ⟨raw, hraw⟩ := exists_of_optional hitems
        exact ih n (by omega) hraw
      have hproperties' : ∀ entries, schema.properties? = some entries → (entries.map Prod.fst).Nodup ∧ 0 < n ∧
          ∀ entry ∈ entries, entry.2.Distinct ∧ entry.2.toData.levels ≤ n - 1 := by
        intro entries hsome
        rw [hsome] at hproperties
        obtain ⟨raw, hraw⟩ := exists_of_optional hproperties
        cases n with
        | zero => cases hraw
        | succ m =>
          obtain ⟨members, -, hmembers⟩ := Option.bind_eq_some_iff.mp hraw
          obtain ⟨hnodup, hread⟩ := orderedEntries_spec hmembers
          refine ⟨hnodup, by omega, fun entry hentry => ?_⟩
          obtain ⟨raw, hraw⟩ := hread entry hentry
          exact ih m (by omega) hraw
      have hrequired' : ∀ names, schema.required? = some names → 0 < n := by
        intro names hsome
        rw [hsome] at hrequired
        obtain ⟨raw, hraw⟩ := exists_of_optional hrequired
        rw [textsWithin?] at hraw
        split at hraw
        · cases hraw
        · omega
      rw [Schema.distinct_iff, Schema.levels_toData_le]
      refine ⟨⟨fun items hsome => (hitems' items hsome).1, fun entries hsome => ?_⟩, by omega,
        fun items hsome => (hitems' items hsome).2, fun entries hsome => ?_, hrequired'⟩
      · obtain ⟨hnodup, -, hentries⟩ := hproperties' entries hsome
        exact ⟨hnodup, fun entry hentry => (hentries entry hentry).1⟩
      · obtain ⟨-, hn, hentries⟩ := hproperties' entries hsome
        exact ⟨hn, fun entry hentry => (hentries entry hentry).2⟩

end Decode

/-! ## Parameters -/

namespace Parameter

def schemas (p : Parameter) : List Schema :=
  p.items?.toList ++ p.schema?.toList

def parts (p : Parameter) : List (String × Option Data) :=
  [("name", some (.text p.name)), ("in", some (.text p.location)), ("description", some (.text p.description)),
    ("required", some (.bool p.required)), ("type", p.type?.map .text), ("items", p.items?.map Schema.toData),
    ("schema", p.schema?.map Schema.toData)]

theorem toData_eq (p : Parameter) : p.toData = .record (Data.members p.parts) := by
  simp [toData, Data.members, parts, Data.member?]

theorem nodup_parts (p : Parameter) : (p.parts.map Prod.fst).Nodup := by
  simp [parts]

theorem forall_parts {p : Parameter} {P : Data → Prop} (htext : ∀ text, P (.text text)) (hbool : ∀ b, P (.bool b)) :
    (∀ part ∈ p.parts, ∀ value, part.2 = some value → P value) ↔ ∀ schema ∈ p.schemas, P schema.toData := by
  simp [parts, schemas, htext, hbool, or_imp, forall_and]

theorem levels_toData_le {p : Parameter} {n : Nat} :
    p.toData.levels ≤ n ↔ 0 < n ∧ ∀ schema ∈ p.schemas, schema.toData.levels ≤ n - 1 := by
  rw [toData_eq, Data.levels_members_le, forall_parts (by simp) (by simp)]

theorem printable_toData (p : Parameter) : p.toData.Printable := by
  rw [toData_eq]
  apply Data.printable_members
  exact (forall_parts (fun _ => True.intro) fun _ => True.intro).mpr fun schema _ => schema.printable_toData

end Parameter

namespace Decode

variable (bound : Nat)

theorem parameter?_toData {n : Nat} {p : Parameter} (hdistinct : ∀ schema ∈ p.schemas, schema.Distinct)
    (hlevels : p.toData.levels ≤ n) : parameter? (Json.readerWithin bound) n p.toData = some p := by
  obtain ⟨hpos, hschemas⟩ := Parameter.levels_toData_le.mp hlevels
  have hfields : (Json.readerWithin bound).fields? ["name", "in", "description", "required", "type", "items", "schema"]
      p.toData = some ⟨p.parts.map Prod.snd, false⟩ := by
    rw [Parameter.toData_eq]
    exact fields?_members bound p.parts p.nodup_parts
  have hread : ∀ schema ∈ p.schemas, schema? (Json.readerWithin bound) (n - 1) schema.toData = some schema :=
    fun schema hschema => schema?_toData bound (hdistinct schema hschema) (hschemas schema hschema)
  refine parameter?_eq_some_iff.mpr ⟨_, _, _, _, _, _, _, _, hfields, rfl, rfl, rfl, rfl, ?_, ?_, ?_⟩
  · exact optional_write bound (fun type => Data.noConfusion) fun type _ => rfl
  · apply optional_write bound Schema.toData_ne_null
    intro schema hsome
    exact hread schema (by simp [Parameter.schemas, hsome])
  · apply optional_write bound Schema.toData_ne_null
    intro schema hsome
    exact hread schema (by simp [Parameter.schemas, hsome])

theorem parameter?_spec {ν : Type} {reader : Reader ν} {n : Nat} {value : ν} {p : Parameter}
    (h : parameter? reader n value = some p) :
    ∀ schema ∈ p.schemas, schema.Distinct ∧ schema.toData.levels ≤ n - 1 := by
  obtain ⟨name, location, description, required, type, items, schema, positional, -, -, -, -, -, -, hitems, hschema⟩ :=
    parameter?_eq_some_iff.mp h
  intro part hpart
  rcases List.mem_append.mp hpart with hpart | hpart
  · rw [Option.mem_toList.mp hpart] at hitems
    obtain ⟨raw, hraw⟩ := exists_of_optional hitems
    exact schema?_spec hraw
  · rw [Option.mem_toList.mp hpart] at hschema
    obtain ⟨raw, hraw⟩ := exists_of_optional hschema
    exact schema?_spec hraw

end Decode

/-! ## Operations -/

namespace Operation

/-- Responses stand in order, and every schema names its properties once each. -/
structure Ordered (o : Operation) : Prop where
  responses : Assoc.Sorted o.responses
  schemas : ∀ p ∈ o.parameters, ∀ schema ∈ p.schemas, schema.Distinct

/-- A list of texts as data, unless it is empty. -/
def textsPart (items : List String) : Option Data :=
  if items.isEmpty then none else some (.texts items)

def parts (o : Operation) : List (String × Option Data) :=
  [("operationId", some (.text o.id)), ("summary", some (.text o.summary)), ("tags", textsPart o.tags),
    ("parameters", some (.list (o.parameters.map Parameter.toData))), ("consumes", textsPart o.consumes),
    ("responses", some (.record (o.responses.map fun entry => (entry.1, entry.2.toData))))]

theorem toData_eq (o : Operation) : o.toData = .record (Data.members o.parts) := by
  have htexts : ∀ name items, textsMember name items = Data.member? name (textsPart items) := by
    intro name items
    rw [textsMember, textsPart]
    split <;> rfl
  simp [toData, htexts, Data.members, parts, Data.member?]

theorem nodup_parts (o : Operation) : (o.parts.map Prod.fst).Nodup := by
  simp [parts]

theorem levels_parameter_le {o : Operation} {n : Nat} (h : o.toData.levels ≤ n) :
    ∀ p ∈ o.parameters, p.toData.levels ≤ n - 2 := by
  rw [toData_eq, Data.levels_members_le] at h
  have hlist : (Data.list (o.parameters.map Parameter.toData)).levels ≤ n - 1 :=
    h.2 ("parameters", some (.list (o.parameters.map Parameter.toData))) (by simp [parts]) _ rfl
  intro p hp
  exact (Data.levels_list_le.mp hlist).2 p.toData (List.mem_map_of_mem hp)

theorem forall_parts {o : Operation} {P : Data → Prop} (htext : ∀ text, P (.text text))
    (htexts : ∀ items, P (.texts items)) (hparameters : P (.list (o.parameters.map Parameter.toData)))
    (hresponses : P (.record (o.responses.map fun entry => (entry.1, entry.2.toData)))) :
    ∀ part ∈ o.parts, ∀ value, part.2 = some value → P value := by
  have hpart : ∀ items value, textsPart items = some value → P value := by
    intro items value hvalue
    obtain ⟨-, hsome⟩ := Option.ite_none_left_eq_some.mp hvalue
    obtain rfl := Option.some.inj hsome
    exact htexts items
  simpa [parts, htext, hparameters, hresponses] using ⟨hpart o.tags, hpart o.consumes⟩

/-- All but the schemas of an operation is within three levels. -/
theorem levels_toData_le {o : Operation} {n : Nat} (hn : 3 ≤ n) (h : ∀ p ∈ o.parameters, p.toData.levels ≤ n - 2) :
    o.toData.levels ≤ n := by
  have htexts : ∀ items, (Data.texts items).levels ≤ n - 1 := fun items => Data.levels_texts_le.mpr (by omega)
  have hparameters : (Data.list (o.parameters.map Parameter.toData)).levels ≤ n - 1 := by
    refine Data.levels_list_le.mpr ⟨by omega, List.forall_mem_map.mpr fun p hp => ?_⟩
    exact h p hp
  have hresponses : (Data.record (o.responses.map fun entry => (entry.1, entry.2.toData))).levels ≤ n - 1 := by
    refine Data.levels_record_le.mpr ⟨by omega, List.forall_mem_map.mpr fun entry _ => ?_⟩
    exact Data.levels_record_le.mpr ⟨by omega, by simp⟩
  rw [toData_eq, Data.levels_members_le]
  exact ⟨by omega, forall_parts (by simp) htexts hparameters hresponses⟩

theorem printable_toData (o : Operation) : o.toData.Printable := by
  rw [toData_eq]
  apply Data.printable_members
  apply forall_parts (fun _ => True.intro) Data.printable_texts
  · exact Data.printable_list (List.forall_mem_map.mpr fun p _ => p.printable_toData)
  · refine Data.printable_record (List.forall_mem_map.mpr fun entry _ => ?_)
    exact Data.printable_record (by simp [Data.Printable])

end Operation

namespace Decode

variable (bound : Nat)

theorem response?_toData (r : Response) : response? (Json.readerWithin bound) r.toData = some r := by
  have hfields := fields?_members bound [("description", some (.text r.description))] (by simp)
  have hread : (Json.readerWithin bound).fields? ["description"] r.toData
      = some ⟨[some (.text r.description)], false⟩ := hfields
  rw [response?, hread]
  rfl

theorem orDefault_textsPart (items : List String) :
    orDefault [] (Json.readerWithin bound).texts? (Operation.textsPart items) = some items := by
  rw [Operation.textsPart]
  split
  · rename_i hempty
    rw [List.isEmpty_iff.mp hempty]
    rfl
  · exact texts?_texts bound items

theorem operation?_toData {n : Nat} {o : Operation} (hordered : o.Ordered) (hlevels : o.toData.levels ≤ n) :
    operation? (Json.readerWithin bound) n o.toData = some o := by
  have hfields : (Json.readerWithin bound).fields?
      ["operationId", "summary", "tags", "parameters", "consumes", "responses"] o.toData
        = some ⟨o.parts.map Prod.snd, false⟩ := by
    rw [Operation.toData_eq]
    exact fields?_members bound o.parts o.nodup_parts
  refine operation?_eq_some_iff.mpr ⟨_, _, _, _, _, _, _, _, _, hfields, rfl, rfl, orDefault_textsPart bound o.tags, rfl,
    ?_, orDefault_textsPart bound o.consumes, rfl, ?_⟩
  · have hread : ∀ p ∈ o.parameters, parameter? (Json.readerWithin bound) (n - 2) p.toData = some (id p) :=
      fun p hp => parameter?_toData bound (hordered.schemas p hp) (Operation.levels_parameter_le hlevels p hp)
    rw [mapM_write hread, List.map_id]
  · exact sortedEntries_write hordered.responses fun entry _ => response?_toData bound entry.2

theorem operation?_spec {ν : Type} {reader : Reader ν} {n : Nat} {value : ν} {o : Operation} (hn : 3 ≤ n)
    (h : operation? reader n value = some o) : o.Ordered ∧ o.toData.levels ≤ n := by
  obtain ⟨id, summary, tags, parameters, consumes, responses, positional, items, members, -, -, -, -, -, hparameters, -, -,
    hresponses⟩ := operation?_eq_some_iff.mp h
  have hschemas : ∀ p ∈ o.parameters, ∀ schema ∈ p.schemas, schema.Distinct ∧ schema.toData.levels ≤ n - 2 - 1 := by
    intro p hp
    obtain ⟨raw, hraw⟩ := exists_of_mem_mapM hparameters hp
    exact parameter?_spec hraw
  refine ⟨⟨(sortedEntries_spec hresponses).1, fun p hp schema hschema => (hschemas p hp schema hschema).1⟩, ?_⟩
  apply Operation.levels_toData_le hn
  intro p hp
  exact Parameter.levels_toData_le.mpr ⟨by omega, fun schema hschema => (hschemas p hp schema hschema).2⟩

end Decode

/-! ## Documents -/

namespace Document

/-- Paths and the methods of each stand in order, and so does all in their operations. -/
structure Ordered (d : Document) : Prop where
  paths : Assoc.Sorted d.paths
  methods : ∀ path ∈ d.paths, Assoc.Sorted path.2
  operations : ∀ path ∈ d.paths, ∀ method ∈ path.2, method.2.Ordered

def methodsData (methods : List (String × Operation)) : Data :=
  .record (methods.map fun method => (method.1, method.2.toData))

def parts (d : Document) : List (String × Option Data) :=
  [("swagger", some (.text d.swagger)), ("info", some d.info.toData), ("host", some (.text d.host)),
    ("basePath", some (.text d.basePath)), ("schemes", some (.texts d.schemes)),
    ("paths", some (.record (d.paths.map fun path => (path.1, methodsData path.2))))]

theorem toData_eq (d : Document) : d.toData = .record (Data.members d.parts) :=
  rfl

theorem nodup_parts (d : Document) : (d.parts.map Prod.fst).Nodup := by
  simp [parts]

theorem levels_methodsData_le {methods : List (String × Operation)} {n : Nat} :
    (methodsData methods).levels ≤ n ↔ 0 < n ∧ ∀ method ∈ methods, method.2.toData.levels ≤ n - 1 := by
  rw [methodsData, Data.levels_record_le, List.forall_mem_map]

theorem levels_methods_le {d : Document} {n : Nat} (h : d.toData.levels ≤ n) :
    ∀ path ∈ d.paths, (methodsData path.2).levels ≤ n - 2 := by
  rw [toData_eq, Data.levels_members_le] at h
  have hpaths : (Data.record (d.paths.map fun path => (path.1, methodsData path.2))).levels ≤ n - 1 :=
    h.2 ("paths", some (.record (d.paths.map fun path => (path.1, methodsData path.2)))) (by simp [parts]) _ rfl
  intro path hpath
  exact (Data.levels_record_le.mp hpaths).2 _ (List.mem_map_of_mem hpath)

/-- Version or title as data, unless it is empty. -/
def textPart (text : String) : Option Data :=
  if text.isEmpty then none else some (.text text)

def infoParts (info : Info) : List (String × Option Data) :=
  [("version", textPart info.version), ("title", textPart info.title)]

theorem infoData_eq (info : Info) : info.toData = .record (Data.members (infoParts info)) := by
  have htext : ∀ name text, textMember name text = Data.member? name (textPart text) := by
    intro name text
    rw [textMember, textPart]
    split <;> rfl
  simp [Info.toData, htext, Data.members, infoParts]

theorem forall_parts {d : Document} {P : Data → Prop} (htext : ∀ text, P (.text text)) (hinfo : P d.info.toData)
    (htexts : ∀ items, P (.texts items)) (hpaths : P (.record (d.paths.map fun path => (path.1, methodsData path.2)))) :
    ∀ part ∈ d.parts, ∀ value, part.2 = some value → P value := by
  simp [parts, htext, hinfo, htexts, hpaths]

theorem forall_infoParts (info : Info) {P : Data → Prop} (htext : ∀ text, P (.text text)) :
    ∀ part ∈ infoParts info, ∀ value, part.2 = some value → P value := by
  have hpart : ∀ text value, textPart text = some value → P value := by
    intro text value hvalue
    obtain ⟨-, hsome⟩ := Option.ite_none_left_eq_some.mp hvalue
    obtain rfl := Option.some.inj hsome
    exact htext text
  simpa [infoParts] using ⟨hpart info.version, hpart info.title⟩

/-- All but the operations of a document is within two levels. -/
theorem levels_toData_le {d : Document} {n : Nat} (hn : 2 ≤ n)
    (h : ∀ path ∈ d.paths, (methodsData path.2).levels ≤ n - 2) : d.toData.levels ≤ n := by
  have htext : ∀ text k, (Data.text text).levels ≤ k := by simp
  have htexts : ∀ items, (Data.texts items).levels ≤ n - 1 := fun items => Data.levels_texts_le.mpr (by omega)
  have hinfo : d.info.toData.levels ≤ n - 1 := by
    rw [infoData_eq, Data.levels_members_le]
    exact ⟨by omega, forall_infoParts d.info fun text => htext text _⟩
  have hpaths : (Data.record (d.paths.map fun path => (path.1, methodsData path.2))).levels ≤ n - 1 :=
    Data.levels_record_le.mpr ⟨by omega, List.forall_mem_map.mpr fun path hpath => h path hpath⟩
  rw [toData_eq, Data.levels_members_le]
  exact ⟨by omega, forall_parts (fun text => htext text _) hinfo htexts hpaths⟩

theorem printable_toData (d : Document) : d.toData.Printable := by
  have hinfo : d.info.toData.Printable := by
    rw [infoData_eq]
    exact Data.printable_members (forall_infoParts d.info fun _ => True.intro)
  rw [toData_eq]
  apply Data.printable_members
  apply forall_parts (fun _ => True.intro) hinfo Data.printable_texts
  refine Data.printable_record (List.forall_mem_map.mpr fun path _ => ?_)
  exact Data.printable_record (List.forall_mem_map.mpr fun method _ => method.2.printable_toData)

end Document

namespace Decode

variable (bound : Nat)

theorem orDefault_textPart (text : String) :
    orDefault "" (Json.readerWithin bound).text? (Document.textPart text) = some text := by
  rw [Document.textPart]
  split
  · rename_i hempty
    rw [String.isEmpty_iff.mp hempty]
    rfl
  · rfl

theorem info?_toData (info : Info) : info? (Json.readerWithin bound) info.toData = some info := by
  have hfields : (Json.readerWithin bound).fields? ["version", "title"] info.toData
      = some ⟨[Document.textPart info.version, Document.textPart info.title], false⟩ := by
    rw [Document.infoData_eq]
    exact fields?_members bound (Document.infoParts info) (by simp [Document.infoParts])
  rw [info?, hfields]
  simp only [Option.bind_eq_bind, Option.bind_some, orDefault_textPart]
  rfl

theorem methods?_toData {n : Nat} {methods : List (String × Operation)} (hsorted : Assoc.Sorted methods)
    (hordered : ∀ method ∈ methods, method.2.Ordered) (hlevels : (Document.methodsData methods).levels ≤ n) :
    methods? (Json.readerWithin bound) n (Document.methodsData methods) = some methods := by
  obtain ⟨-, hlevels⟩ := Document.levels_methodsData_le.mp hlevels
  exact sortedEntries_write hsorted fun method hmethod =>
    operation?_toData bound (hordered method hmethod) (hlevels method hmethod)

theorem document?_toData {d : Document} (hordered : d.Ordered) (hlevels : d.toData.levels ≤ bound) :
    document? (Json.readerWithin bound) d.toData = some d := by
  have hfields : (Json.readerWithin bound).fields? ["swagger", "info", "host", "basePath", "schemes", "paths"] d.toData
      = some ⟨d.parts.map Prod.snd, false⟩ := by
    rw [Document.toData_eq]
    exact fields?_members bound d.parts d.nodup_parts
  refine document?_eq_some_iff.mpr ⟨_, _, _, _, _, _, _, _, hfields, rfl, info?_toData bound d.info, rfl, rfl,
    texts?_texts bound d.schemes, rfl, ?_⟩
  apply sortedEntries_write hordered.paths
  intro path hpath
  exact methods?_toData bound (hordered.methods path hpath) (hordered.operations path hpath)
    (Document.levels_methods_le hlevels path hpath)

/-- What is read as a document stands in order, and has no more levels than there is room for. -/
theorem document?_spec {ν : Type} {reader : Reader ν} {value : ν} {d : Document} (hlevels : 6 ≤ reader.levels)
    (h : document? reader value = some d) : d.Ordered ∧ d.toData.levels ≤ reader.levels := by
  obtain ⟨swagger, info, host, basePath, schemes, paths, positional, members, -, -, -, -, -, -, -, hpaths⟩ :=
    document?_eq_some_iff.mp h
  obtain ⟨hsorted, hread⟩ := sortedEntries_spec hpaths
  have hmethods : ∀ path ∈ d.paths, Assoc.Sorted path.2 ∧
      ∀ method ∈ path.2, method.2.Ordered ∧ method.2.toData.levels ≤ reader.levels - 2 - 1 := by
    intro path hpath
    obtain ⟨raw, hraw⟩ := hread path hpath
    obtain ⟨members, -, hmembers⟩ := Option.bind_eq_some_iff.mp hraw
    obtain ⟨hsorted, hread⟩ := sortedEntries_spec hmembers
    refine ⟨hsorted, fun method hmethod => ?_⟩
    obtain ⟨raw, hraw⟩ := hread method hmethod
    exact operation?_spec (by omega) hraw
  refine ⟨⟨hsorted, fun path hpath => (hmethods path hpath).1,
    fun path hpath method hmethod => ((hmethods path hpath).2 method hmethod).1⟩, ?_⟩
  apply Document.levels_toData_le (by omega)
  intro path hpath
  exact Document.levels_methodsData_le.mpr
    ⟨by omega, fun method hmethod => ((hmethods path hpath).2 method hmethod).2⟩

end Decode

/-! ## Text -/

namespace Document

theorem read?_json (text : String) : read? .json text = (Json.read? text).bind (Decode.document? Json.reader) :=
  rfl

theorem jsonRead?_print (d : Document) : Json.read? (d.print .json) = some d.toData :=
  Json.read?_print d.toData d.printable_toData

theorem read?_print_json {d : Document} (hordered : d.Ordered) (hlevels : d.toData.levels ≤ Json.reader.levels) :
    read? .json (d.print .json) = some d := by
  rw [read?_json, jsonRead?_print, Option.bind_some]
  exact Decode.document?_toData Json.reader.levels hordered hlevels

/-- A JSON text that is read as a document leaves one that stands in order and within the levels of the reader. -/
theorem read?_json_spec {text : String} {d : Document} (h : read? .json text = some d) :
    d.Ordered ∧ d.toData.levels ≤ Json.reader.levels := by
  obtain ⟨data, -, hdata⟩ := Option.bind_eq_some_iff.mp h
  exact Decode.document?_spec (by decide) hdata

/-- Every document is read back from its JSON text by a reader with room for its levels, so by the reader of the program
exactly if it has room for them. A text that is read as a document is printed the same from then on. -/
theorem json_roundTrip :
    (∀ d : Document, d.Ordered → ∀ bound, d.toData.levels ≤ bound →
      (Json.read? (d.print .json)).bind (Decode.document? (Json.readerWithin bound)) = some d) ∧
    (∀ d : Document, d.Ordered →
      (read? .json (d.print .json) = some d ↔ d.toData.levels ≤ Json.reader.levels)) ∧
    ∀ text d, read? .json text = some d →
      d.Ordered ∧ (read? .json (d.print .json)).map (print .json) = some (d.print .json) := by
  refine ⟨fun d hordered bound hlevels => ?_, fun d hordered => ⟨fun h => ?_, read?_print_json hordered⟩,
    fun text d h => ?_⟩
  · rw [jsonRead?_print, Option.bind_some]
    exact Decode.document?_toData bound hordered hlevels
  · exact (read?_json_spec h).2
  · obtain ⟨hordered, hlevels⟩ := read?_json_spec h
    refine ⟨hordered, ?_⟩
    rw [read?_print_json hordered hlevels, Option.map_some]

/-- A schema with properties in another order than that of their names. -/
def sparseSchema : Schema where
  type := "object"
  properties? := some [("b", { type := "string", required? := some [] }),
    ("a", Schema.array { type := "object", properties? := some [] })]

/-- A document in which parts are absent, empty and there. -/
def sparseDocument : Document where
  swagger := "2.0"
  info := ⟨"", "a \"b\"\n"⟩
  host := ""
  basePath := "/"
  schemes := []
  paths := [("/a", [("get", {
    id := "A_0"
    summary := ""
    tags := []
    parameters :=
      [{ name := "body", location := "body", description := "", required := true, schema? := some sparseSchema }]
    consumes := ["application/json"]
    responses := [("200", ⟨"ok"⟩)] })])]

theorem sparseDocument_ordered : sparseDocument.Ordered := by
  have hleaf : ∀ type required?, Schema.Distinct ⟨type, none, none, required?⟩ := fun type required? =>
    Schema.distinct_iff.mpr ⟨nofun, nofun⟩
  have hempty : Schema.Distinct { type := "object", properties? := some [] } :=
    Schema.distinct_iff.mpr ⟨nofun, fun entries hsome => by simp [← Option.some.inj hsome]⟩
  have harray : Schema.Distinct (Schema.array { type := "object", properties? := some [] }) :=
    Schema.distinct_iff.mpr ⟨fun items hsome => Option.some.inj hsome ▸ hempty, nofun⟩
  have hschema : sparseSchema.Distinct := by
    refine Schema.distinct_iff.mpr ⟨nofun, fun entries hsome => ?_⟩
    obtain rfl := Option.some.inj hsome
    simpa using ⟨hleaf "string" (some []), harray⟩
  refine ⟨List.pairwise_singleton _ _, ?_, ?_⟩
  · simp [sparseDocument, Assoc.Sorted]
  · simp only [sparseDocument, List.forall_mem_singleton]
    refine ⟨List.pairwise_singleton _ _, ?_⟩
    simpa [Parameter.schemas] using hschema

theorem json_roundTrip_sparse :
    sparseDocument.Ordered ∧ sparseDocument.toData.levels ≤ Json.reader.levels ∧
      read? .json (sparseDocument.print .json) = some sparseDocument ∧
      (read? .json (sparseDocument.print .json)).map (print .json) = some (sparseDocument.print .json) := by
  have hlevels : sparseDocument.toData.levels ≤ Json.reader.levels := by decide +kernel
  obtain ⟨-, hread, hagain⟩ := json_roundTrip
  have hback := (hread sparseDocument sparseDocument_ordered).mpr hlevels
  exact ⟨sparseDocument_ordered, hlevels, hback, (hagain _ sparseDocument hback).2⟩

end Document

end RouteDoc
