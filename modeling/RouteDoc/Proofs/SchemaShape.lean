import RouteDoc.Proofs.InferredTypes

/-!
The schemas of a generated document are well formed: every one that occurs in it, at any depth, has a
type that documents know, items exactly if it is of arrays, properties only if it is an object, and names
as required only what is among its properties (`Schema.WellFormed`). Parameters outside the body obey the
same rules, and only those of forms are files (`Parameter.WellFormed`). The main statement is
`generate_wellFormed`, for all that a generator may have done before.

It rests on one fact: whatever occurs in the schema of a type is itself the schema of a part of that type
(`Schema.part_of_occurs`), and parts of plain types are plain.
-/

namespace RouteDoc

/-- The types that a document knows. -/
def schemaTypes : List String :=
  ["string", "number", "boolean", "object", "array", "file"]

/-- The types that a type is made of, itself included. -/
inductive InferredType.Part (root : InferredType) : InferredType → Prop where
  | self : Part root root
  | child {part child : InferredType} (h : Part root part) (hchild : child ∈ part.children) : Part root child

theorem InferredType.Part.plain {root part : InferredType} (h : root.Part part) (hroot : root.Plain) :
    part.Plain := by
  induction h with
  | self => exact hroot
  | child _ hchild ih => exact ih.child hchild

namespace Schema

/-- The schemas that a schema is made of, itself included. -/
inductive Occurs (root : Schema) : Schema → Prop where
  | self : Occurs root root
  | items {node items : Schema} (h : Occurs root node) (hitems : node.items? = some items) :
      Occurs root items
  | property {node schema : Schema} {properties : List (String × Schema)} {name : String}
      (h : Occurs root node) (hproperties : node.properties? = some properties)
      (hmem : (name, schema) ∈ properties) : Occurs root schema

/-- What holds of every schema in a document. -/
structure WellFormed (schema : Schema) : Prop where
  known : schema.type ∈ schemaTypes
  /-- Files are passed in forms only. -/
  noFile : schema.type ≠ "file"
  items : schema.items?.isSome ↔ schema.type = "array"
  flat : ∀ items, schema.items? = some items → items.type ≠ "array"
  properties : ∀ properties, schema.properties? = some properties →
    schema.type = "object" ∧ properties ≠ []
  required : ∀ names, schema.required? = some names → names ≠ [] ∧ names.Nodup ∧
    ∃ properties, schema.properties? = some properties ∧
      ∀ name ∈ names, name ∈ properties.map Prod.fst

/-! ## The schema of a type -/

section

variable {type : InferredType}

/-- A type of arrays has the schema of its elements as items; any other is a leaf or an object. -/
theorem ofType_cases (type : InferredType) :
    (type.isArray = true ∧ ofType type = array (ofType { type with isArray := false })) ∨
    (type.isArray = false ∧ type.children = [] ∧
      ofType type = { type := type.schemaType?.getD "object" }) ∨
    (type.isArray = false ∧ type.children ≠ [] ∧ ofType type =
      { type := "object"
        properties? := some (propertiesFrom [] type.children)
        required? := unlessEmpty (requiredNames type.children) }) := by
  obtain ⟨name, schemaType?, isArray, children, required⟩ := type
  cases isArray with
  | true => simp [ofType]
  | false => cases children <;> simp [ofType]

theorem items_ofType {items : Schema} (h : (ofType type).items? = some items) :
    items = ofType { type with isArray := false } := by
  rcases ofType_cases type with ⟨-, harray⟩ | ⟨-, -, hleaf⟩ | ⟨-, -, hobject⟩
  · rw [harray] at h
    exact (Option.some.inj h).symm
  · rw [hleaf] at h
    cases h
  · rw [hobject] at h
    cases h

theorem properties_ofType {properties : List (String × Schema)}
    (h : (ofType type).properties? = some properties) :
    properties = propertiesFrom [] type.children := by
  rcases ofType_cases type with ⟨-, harray⟩ | ⟨-, -, hleaf⟩ | ⟨-, -, hobject⟩
  · rw [harray] at h
    cases h
  · rw [hleaf] at h
    cases h
  · rw [hobject] at h
    exact (Option.some.inj h).symm

end

theorem mem_propertiesFrom {found : List (String × Schema)} {children : List InferredType}
    {entry : String × Schema} (h : entry ∈ propertiesFrom found children) :
    entry ∈ found ∨ ∃ child ∈ children, entry = (child.name, ofType child) := by
  induction children generalizing found with
  | nil => exact .inl (by simpa [propertiesFrom] using h)
  | cons child children ih =>
    rw [propertiesFrom] at h
    rcases ih h with hput | ⟨other, hother, heq⟩
    · rcases Assoc.mem_put hput with heq | hfound
      · exact .inr ⟨child, List.mem_cons_self, heq⟩
      · exact .inl hfound
    · exact .inr ⟨other, List.mem_cons_of_mem child hother, heq⟩

theorem name_mem_propertiesFrom {found : List (String × Schema)} {children : List InferredType}
    {name : String} (h : name ∈ found.map Prod.fst ∨ ∃ child ∈ children, child.name = name) :
    name ∈ (propertiesFrom found children).map Prod.fst := by
  induction children generalizing found with
  | nil =>
    rcases h with h | ⟨child, hchild, -⟩
    · simpa [propertiesFrom] using h
    · cases hchild
  | cons child children ih =>
    rw [propertiesFrom]
    apply ih
    rw [Assoc.map_fst_put]
    rcases h with h | ⟨other, hother, rfl⟩
    · left
      split
      · exact h
      · exact List.mem_append_left _ h
    · rcases List.mem_cons.mp hother with rfl | hother
      · left
        split
        · assumption
        · exact List.mem_append_right _ (List.mem_singleton.mpr rfl)
      · exact .inr ⟨other, hother, rfl⟩

theorem requiredNames_concat (children : List InferredType) (child : InferredType) :
    requiredNames (children ++ [child])
      = if child.required && !(requiredNames children).contains child.name then
          requiredNames children ++ [child.name]
        else requiredNames children := by
  simp [requiredNames]

theorem requiredNames_spec (children : List InferredType) :
    (requiredNames children).Nodup ∧
      ∀ name ∈ requiredNames children, ∃ child ∈ children, child.name = name := by
  induction children using List.reverseRecOn with
  | nil => exact ⟨List.nodup_nil, nofun⟩
  | append_singleton children child ih =>
    obtain ⟨hnodup, hnames⟩ := ih
    have hold : ∀ name ∈ requiredNames children, ∃ other ∈ children ++ [child], other.name = name := by
      intro name hname
      obtain ⟨other, hother, heq⟩ := hnames name hname
      exact ⟨other, List.mem_append_left _ hother, heq⟩
    rw [requiredNames_concat]
    split
    · rename_i hnew
      have hfresh : child.name ∉ requiredNames children := by
        simp only [Bool.and_eq_true, Bool.not_eq_true', List.contains_eq_mem,
          decide_eq_false_iff_not] at hnew
        exact hnew.2
      refine ⟨List.nodup_append.mpr ⟨hnodup, by simp, ?_⟩, ?_⟩
      · intro name hname other hother heq
        rw [List.mem_singleton.mp hother] at heq
        exact hfresh (heq ▸ hname)
      · intro name hname
        rcases List.mem_append.mp hname with hname | hname
        · exact hold name hname
        · exact ⟨child, by simp, (List.mem_singleton.mp hname).symm⟩
    · exact ⟨hnodup, hold⟩

/-- What occurs in the schema of a type is the schema of one of its parts, or of the elements of one. -/
theorem part_of_occurs {type : InferredType} {node : Schema} (hnode : (ofType type).Occurs node) :
    ∃ part, type.Part part ∧ (node = ofType part ∨ node = ofType { part with isArray := false }) := by
  induction hnode with
  | self => exact ⟨type, .self, .inl rfl⟩
  | items _ hitems ih =>
    obtain ⟨part, hpart, hnode⟩ := ih
    refine ⟨part, hpart, .inr ?_⟩
    rcases hnode with rfl | rfl
    · exact items_ofType hitems
    · have hitems' := items_ofType hitems
      exact hitems'
  | @property node schema properties name _ hproperties hmem ih =>
    obtain ⟨part, hpart, hnode⟩ := ih
    -- the elements of arrays have the members of the part too
    have hmembers : properties = propertiesFrom [] part.children := by
      rcases hnode with rfl | rfl
      · exact properties_ofType hproperties
      · have hsame := properties_ofType hproperties
        exact hsame
    rw [hmembers] at hmem
    rcases mem_propertiesFrom hmem with hnone | ⟨child, hchild, heq⟩
    · cases hnone
    · exact ⟨child, hpart.child hchild, .inl (Prod.mk.inj heq).2⟩

/-! ## Plain types have well-formed schemas -/

theorem occurs_ofType {type : InferredType} (h : type.Plain) {node : Schema}
    (hnode : (ofType type).Occurs node) : ∃ part : InferredType, part.Plain ∧ node = ofType part := by
  obtain ⟨part, hpart, hnode⟩ := part_of_occurs hnode
  have hplain := hpart.plain h
  rcases hnode with hnode | hnode
  · exact ⟨part, hplain, hnode⟩
  · exact ⟨{ part with isArray := false }, hplain.of_same rfl rfl, hnode⟩

theorem wellFormed_leaf {t : String} (h : t ∈ valueTypes) : WellFormed { type := t } := by
  have hall : ∀ t ∈ valueTypes, t ∈ schemaTypes ∧ t ≠ "file" ∧ t ≠ "array" := by decide
  obtain ⟨hknown, hfile, harray⟩ := hall t h
  exact ⟨hknown, hfile, by simpa using harray, nofun, nofun, nofun⟩

theorem wellFormed_object {children : List InferredType} (h : children ≠ []) :
    WellFormed
      { type := "object"
        properties? := some (propertiesFrom [] children)
        required? := unlessEmpty (requiredNames children) } := by
  obtain ⟨child, rest, rfl⟩ := List.exists_cons_of_ne_nil h
  refine ⟨by simp [schemaTypes], by simp, by simp, nofun, ?_, ?_⟩
  · intro properties hproperties
    refine ⟨rfl, fun hempty => ?_⟩
    have hname : child.name ∈ (propertiesFrom [] (child :: rest)).map Prod.fst :=
      name_mem_propertiesFrom (.inr ⟨child, List.mem_cons_self, rfl⟩)
    rw [Option.some.inj hproperties, hempty] at hname
    cases hname
  · intro names hnames
    obtain ⟨hnodup, hmembers⟩ := requiredNames_spec (child :: rest)
    obtain ⟨hempty, hsome⟩ := Option.ite_none_left_eq_some.mp hnames
    obtain rfl := Option.some.inj hsome
    refine ⟨fun hnil => hempty (by simp [hnil]), hnodup, _, rfl, fun name hname => ?_⟩
    exact name_mem_propertiesFrom (.inr (hmembers name hname))

theorem wellFormed_single {type : InferredType} (h : type.Plain) (hsingle : type.isArray = false) :
    (ofType type).WellFormed ∧ (ofType type).type ≠ "array" := by
  rcases ofType_cases type with ⟨harray, -⟩ | ⟨-, -, hleaf⟩ | ⟨-, hchildren, hobject⟩
  · rw [hsingle] at harray
    cases harray
  · have htype : type.schemaType?.getD "object" ∈ valueTypes := by
      obtain ⟨hschema, -⟩ := h
      cases hsome : type.schemaType? with
      | none => decide
      | some t => exact hschema t hsome
    have hwell := wellFormed_leaf htype
    rw [hleaf]
    refine ⟨hwell, fun harray => ?_⟩
    have hitems := hwell.items.mpr harray
    cases hitems
  · rw [hobject]
    exact ⟨wellFormed_object hchildren, by simp⟩

theorem wellFormed_ofType {type : InferredType} (h : type.Plain) : (ofType type).WellFormed := by
  cases hsingle : type.isArray with
  | false => exact (wellFormed_single h hsingle).1
  | true =>
    have helement : ({ type with isArray := false } : InferredType).Plain := h.of_same rfl rfl
    obtain ⟨-, hflat⟩ := wellFormed_single helement rfl
    rcases ofType_cases type with ⟨-, harray⟩ | ⟨hnot, -⟩ | ⟨hnot, -⟩
    · rw [harray]
      refine ⟨by simp [array, schemaTypes], by simp [array], by simp [array], ?_, nofun, nofun⟩
      rintro items hitems
      exact Option.some.inj hitems ▸ hflat
    · rw [hsingle] at hnot
      cases hnot
    · rw [hsingle] at hnot
      cases hnot

/-- Whatever occurs in the schema of a plain type is well formed. -/
theorem Occurs.wellFormed {type : InferredType} (h : type.Plain) {node : Schema}
    (hnode : (ofType type).Occurs node) : node.WellFormed := by
  obtain ⟨part, hpart, rfl⟩ := occurs_ofType h hnode
  exact wellFormed_ofType hpart

end Schema

/-! ## Parameters -/

/-- What holds of every parameter in a document. -/
structure Parameter.WellFormed (parameter : Parameter) : Prop where
  value : parameter.location ≠ "body" → ∃ t, parameter.type? = some t ∧ t ∈ schemaTypes ∧
    (parameter.items?.isSome ↔ t = "array") ∧ (t = "file" → parameter.location = "formData")
  flat : ∀ items, parameter.items? = some items → items.type ≠ "array"
  schemas : ∀ root, parameter.items? = some root ∨ parameter.schema? = some root →
    ∀ node, root.Occurs node → node.WellFormed

namespace Parameter

theorem wellFormed_simple {type : InferredType} (h : type.Plain) (location : String)
    (required : Bool) : (simple location required type).WellFormed := by
  have hwell := Schema.wellFormed_ofType h
  refine ⟨fun _ => ?_, hwell.flat, ?_⟩
  · exact ⟨_, rfl, hwell.known, hwell.items, fun hfile => absurd hfile hwell.noFile⟩
  · rintro root (hitems | hschema) node hnode
    · have helement : ({ type with isArray := false } : InferredType).Plain := h.of_same rfl rfl
      rw [Schema.items_ofType hitems] at hnode
      exact hnode.wellFormed helement
    · cases hschema

theorem wellFormed_form {type : InferredType} (h : type.FormField) (required : Bool) :
    (simple "formData" required type).WellFormed := by
  have hschema : Schema.ofType type = { type := type.schemaType?.getD "object" } := by
    rcases Schema.ofType_cases type with ⟨harray, -⟩ | ⟨-, -, hleaf⟩ | ⟨-, hchildren, -⟩
    · rw [h.single] at harray
      cases harray
    · exact hleaf
    · exact absurd h.bare hchildren
  have htype : type.schemaType?.getD "object" ∈ ["string", "file"] := by
    rcases h.schema with hstring | hfile
    · simp [hstring]
    · simp [hfile]
  have hall : ∀ t ∈ ["string", "file"], t ∈ schemaTypes ∧ t ≠ "array" := by decide
  obtain ⟨hknown, harray⟩ := hall _ htype
  unfold simple
  rw [hschema]
  refine ⟨fun _ => ⟨_, rfl, hknown, by simpa using harray, fun _ => rfl⟩, nofun, ?_⟩
  rintro root (hitems | hbody)
  · cases hitems
  · cases hbody

theorem wellFormed_body {type : InferredType} (h : type.Plain) : (ofBody type).WellFormed := by
  refine ⟨fun hbody => absurd rfl hbody, nofun, ?_⟩
  rintro root (hitems | hschema) node hnode
  · cases hitems
  · rw [← Option.some.inj hschema] at hnode
    exact hnode.wellFormed h

theorem wellFormed_ofRoute {holder : RouteHolder} (h : holder.Plain) :
    ∀ parameter ∈ ofRoute holder, parameter.WellFormed := by
  intro parameter hparameter
  simp only [ofRoute, List.mem_append, List.mem_map] at hparameter
  rcases hparameter with ((⟨type, htype, rfl⟩ | ⟨type, htype, rfl⟩) | ⟨type, htype, rfl⟩) |
    ⟨type, htype, rfl⟩
  · exact wellFormed_simple (h.path type htype) _ _
  · exact wellFormed_simple (h.query type htype) _ _
  · exact wellFormed_body (h.body type (Option.mem_toList.mp htype))
  · exact wellFormed_form (h.form type htype) _

end Parameter

/-! ## Documents -/

namespace Generator

open RouteDoc.Types

/-- What a generator may remember: what it starts with, or what is left when it has collected the
routes of some table or generated a document from them. -/
inductive Reached (g : Generator) : Memo → Session → Prop where
  | fresh : Reached g {} {}
  | collect {memo : Memo} {s : Session} (table : RouteTable) (h : Reached g memo s) :
      Reached g (g.collect table memo s).1.2 (g.collect table memo s).2
  | generate {memo : Memo} {s : Session} (config : DocumentConfig) (table : RouteTable)
      (h : Reached g memo s) :
      Reached g (g.generate config table memo s).1.2 (g.generate config table memo s).2

variable {g : Generator} {memo : Memo} {s : Session}

theorem generate_yields (config : DocumentConfig) (table : RouteTable) :
    Yields (IfOk fun document => ∃ holders, (∀ holder ∈ holders, RouteHolder.Plain holder) ∧
      document = Document.build config holders) (g.generate config table) := by
  apply Yields.bind (collect_yields table)
  intro answer hanswer
  cases answer with
  | error e => exact Yields.pure True.intro
  | ok holders =>
    apply Yields.lift_bind
    intro session
    apply Yields.lift_bind
    intro _
    exact Yields.pure ⟨holders, hanswer, rfl⟩

theorem Reached.plain (h : g.Reached memo s) : memo.Plain := by
  induction h with
  | fresh => exact Memo.plain_empty
  | collect table _ ih => exact (collect_yields table _ _ ih).2
  | generate config table _ ih => exact (generate_yields config table _ _ ih).2

/-- The parameters and schemas of every generated document are well formed, whatever the generator has
done before. -/
theorem generate_wellFormed (g : Generator) (config : DocumentConfig) (table : RouteTable)
    (memo : Memo) (s : Session) (hreached : g.Reached memo s) (document : Document)
    (h : (g.generate config table memo s).1.1 = .ok document) :
    ∀ place operation, document.Lists place operation →
      ∀ parameter ∈ operation.parameters, parameter.WellFormed := by
  have hyields := (generate_yields (g := g) config table memo s hreached.plain).1
  rw [h] at hyields
  obtain ⟨holders, hplain, rfl⟩ := hyields
  intro place operation hlists
  -- what is listed was registered by one of the collected holders
  obtain ⟨n, r, hlast, rfl⟩ := (lists_build_iff config holders place operation).mp hlists
  have hmem : r ∈ registrations holders := List.mem_of_getElem? hlast.numbered
  obtain ⟨holder, hholder, hr⟩ := List.mem_flatMap.mp hmem
  obtain ⟨method, -, rfl⟩ := List.mem_map.mp hr
  exact Parameter.wellFormed_ofRoute (hplain holder hholder)

/-- A handler that reads a list from the query, a body whose type contains itself, and a file. -/
def readerDisk : Disk :=
  let source := "package m\ntype T struct \x7b\n\tA []*T\n\tB int `json:\"b,omitempty\"`\n\x7d\n"
    ++ "func H(r R) \x7b\n\tvar ids []string\n\tr.URL.Query().Get(\"ids\")\n\tvar t T\n"
    ++ "\tjson.NewDecoder(r.Body).Decode(&t)\n\tr.FormFile(\"f\")\n\x7d\n"
  ⟨.folder [("m", .folder [("t.go", .file source.toUTF8)])], []⟩

def readerGenerator : Generator :=
  ⟨readerDisk, [], fun _ => pure (.ok ⟨"m.H", ⟨["", "m", "t.go"]⟩, 6⟩)⟩

def readerTable : RouteTable :=
  pure (.ok [⟨some "/a", some ["POST"], .func ⟨"m.H", none⟩⟩])

/-- Where each parameter of a document is passed, and its type or that of its schema. -/
def parameterTypes (document : Document) : List (String × Option String × Option String) :=
  document.paths.flatMap fun path => path.2.flatMap fun method =>
    method.2.parameters.map fun p => (p.location, p.type?, p.schema?.map Schema.type)

theorem generate_wellFormed_reader :
    readerGenerator.Reached {} {} ∧
      ∃ document, (readerGenerator.generate {} readerTable {} {}).1.1 = .ok document ∧
        parameterTypes document = [("query", some "array", none), ("body", none, some "object"),
          ("formData", some "file", none)] ∧
        ∀ place operation, document.Lists place operation →
          ∀ parameter ∈ operation.parameters, parameter.WellFormed := by
  have htypes : (readerGenerator.generate {} readerTable {} {}).1.1.toOption.map parameterTypes
      = some [("query", some "array", none), ("body", none, some "object"),
          ("formData", some "file", none)] := by
    decide +kernel
  refine ⟨.fresh, ?_⟩
  cases hresult : (readerGenerator.generate {} readerTable {} {}).1.1 with
  | error e =>
    rw [hresult] at htypes
    cases htypes
  | ok document =>
    rw [hresult] at htypes
    exact ⟨document, rfl, Option.some.inj htypes,
      generate_wellFormed readerGenerator {} readerTable {} {} .fresh document hresult⟩

end Generator

end RouteDoc
