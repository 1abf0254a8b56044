import RouteDoc.Proofs.SchemaShape

/-!
Which members of an object are required. Of several members with one name the last gives the schema of the property
(`get?_propertiesFrom`), but the name is required as soon as any of them is (`mem_requiredNames_iff`). So the list of
required names speaks for the member that is shown exactly if that one is required or none of its name is; this is
`requires_last_iff`, for every object in the schema of a type, at any depth.
-/

namespace RouteDoc

/-- The last member with the name, which is the one that is shown. -/
def InferredType.last? (type : InferredType) (name : String) : Option InferredType :=
  (type.children.filter (·.name == name)).getLast?

namespace Schema

def Requires (schema : Schema) (name : String) : Prop :=
  name ∈ schema.required?.getD []

theorem get?_propertiesFrom (found : List (String × Schema)) (children : List InferredType) (name : String) :
    Assoc.get? name (propertiesFrom found children)
      = ((children.filter (·.name == name)).getLast?.map ofType).or (Assoc.get? name found) := by
  induction children generalizing found with
  | nil => rw [propertiesFrom, List.filter_nil, List.getLast?_nil, Option.map_none, Option.none_or]
  | cons child children ih =>
    rw [propertiesFrom, ih, Assoc.get?_put]
    by_cases hname : child.name = name
    · -- a later member with the name wins, else this one does, whatever was found before
      rw [if_pos hname, List.filter_cons_of_pos (by simpa using hname), List.getLast?_cons]
      cases (children.filter (·.name == name)).getLast? with
      | none => rfl
      | some later => rfl
    · rw [if_neg hname, List.filter_cons_of_neg (by simpa using hname)]

theorem mem_requiredNames_iff (children : List InferredType) (name : String) :
    name ∈ requiredNames children ↔ ∃ child ∈ children, child.name = name ∧ child.required = true := by
  induction children using List.reverseRecOn with
  | nil => simp [requiredNames]
  | append_singleton children child ih =>
    have hlast : (∃ other ∈ children ++ [child], other.name = name ∧ other.required = true) ↔
        name ∈ requiredNames children ∨ (child.name = name ∧ child.required = true) := by
      rw [ih]
      simp [or_and_right, exists_or]
    rw [hlast, requiredNames_concat]
    split
    · rename_i hnew
      rw [Bool.and_eq_true] at hnew
      simp [hnew.1, eq_comm]
    · rename_i hnew
      -- a name that is not added is listed already or that of a member that is not required
      rw [Bool.and_eq_true, Bool.not_eq_true', List.contains_eq_mem, decide_eq_false_iff_not, not_and, not_not] at hnew
      constructor
      · exact .inl
      · intro h
        rcases h with h | ⟨rfl, hrequired⟩
        · exact h
        · exact hnew hrequired

theorem getD_unlessEmpty (names : List String) : (unlessEmpty names).getD [] = names := by
  cases names <;> rfl

/-- An object in the schema of a type lists the members of one of the type's parts. -/
theorem part_of_properties {type : InferredType} {node : Schema} {properties : List (String × Schema)}
    (hnode : (ofType type).Occurs node) (hproperties : node.properties? = some properties) :
    ∃ part, type.Part part ∧ node = ofType { part with isArray := false } ∧
      properties = propertiesFrom [] part.children ∧ node.required?.getD [] = requiredNames part.children := by
  obtain ⟨part, hpart, hnode⟩ := part_of_occurs hnode
  have helement : node = ofType { part with isArray := false } := by
    rcases hnode with rfl | hnode
    · obtain ⟨name, schemaType?, isArray, children, required⟩ := part
      cases isArray with
      | false => rfl
      | true =>
        -- a schema of arrays has no properties
        rw [ofType] at hproperties
        cases hproperties
    · exact hnode
  refine ⟨part, hpart, helement, ?_⟩
  rcases ofType_cases { part with isArray := false } with ⟨harray, -⟩ | ⟨-, -, hleaf⟩ | ⟨-, -, hobject⟩
  · cases harray
  · rw [helement, hleaf] at hproperties
    cases hproperties
  · rw [helement, hobject] at hproperties ⊢
    exact ⟨(Option.some.inj hproperties).symm, getD_unlessEmpty _⟩

/-- **Required names and the members that are shown.** Every object in the schema of a type shows the members of a part
of the type. A property is there for every name and is the schema of the last member with that name. The name is
required if any of its members is. So it is required exactly if the last one is, unless a member before requires it
and the last one does not. -/
theorem requires_last_iff (type : InferredType) (node : Schema) (properties : List (String × Schema))
    (hnode : (ofType type).Occurs node) (hproperties : node.properties? = some properties) :
    ∃ part, type.Part part ∧ node = ofType { part with isArray := false } ∧
      ∀ name, name ∈ properties.map Prod.fst → ∃ last, part.last? name = some last ∧
        Assoc.get? name properties = some (ofType last) ∧
        (node.Requires name ↔ ∃ member ∈ part.children, member.name = name ∧ member.required = true) ∧
        ((node.Requires name ↔ last.required = true) ↔
          (last.required = false → ∀ member ∈ part.children, member.name = name → member.required = false)) := by
  obtain ⟨part, hpart, helement, rfl, hrequired⟩ := part_of_properties hnode hproperties
  refine ⟨part, hpart, helement, fun name hname => ?_⟩
  -- a property comes from a member, so there is a last one with its name
  obtain ⟨last, hlast⟩ : ∃ last, part.last? name = some last := by
    obtain ⟨⟨found, schema⟩, hentry, rfl⟩ := List.mem_map.mp hname
    rcases mem_propertiesFrom hentry with hnone | ⟨child, hchild, heq⟩
    · cases hnone
    · have hmember : child ∈ part.children.filter (·.name == found) :=
        List.mem_filter.mpr ⟨hchild, by simp [(Prod.mk.inj heq).1]⟩
      exact ⟨_, List.getLast?_eq_some_getLast (List.ne_nil_of_mem hmember)⟩
  have hrequires : node.Requires name ↔
      ∃ member ∈ part.children, member.name = name ∧ member.required = true := by
    rw [Requires, hrequired, mem_requiredNames_iff]
  obtain ⟨hmem, hname⟩ : last ∈ part.children ∧ last.name = name := by
    simpa using List.mem_filter.mp (List.mem_of_getLast? hlast)
  refine ⟨last, hlast, ?_, hrequires, ?_⟩
  · rw [get?_propertiesFrom]
    show ((part.last? name).map ofType).or none = some (ofType last)
    rw [hlast]
    rfl
  · rw [hrequires]
    constructor
    · intro hagree hfalse member hmember hsame
      by_contra htrue
      have hlisted := hagree.mp ⟨member, hmember, hsame, Bool.of_not_eq_false htrue⟩
      rw [hfalse] at hlisted
      cases hlisted
    · intro hnone
      constructor
      · intro hlisted
        obtain ⟨member, hmember, hsame, htrue⟩ := hlisted
        by_contra hfalse
        rw [hnone (Bool.of_not_eq_true hfalse) member hmember hsame] at htrue
        cases htrue
      · intro htrue
        exact ⟨last, hmem, hname, htrue⟩

/-- Items that take the fields of a record and declare one of them anew, this time as optional. -/
def itemType : InferredType :=
  .object [(InferredType.primitive "string").named "id" true, (InferredType.primitive "number").named "id" false,
    (InferredType.primitive "string").named "note" false]

def itemSchema : Schema :=
  { type := "object"
    properties? := some [("id", { type := "number" }), ("note", { type := "string" })]
    required? := some ["id"] }

theorem occurs_itemSchema : (ofType (.object [itemType.named "item" true])).Occurs itemSchema := by
  have hobject : (ofType (.object [itemType.named "item" true])).properties? = some [("item", itemSchema)] := rfl
  exact .property .self hobject (List.mem_singleton.mpr rfl)

/-- The `id` that is shown is the second one, which is optional, but the name is listed as required. -/
theorem requires_last_iff_item :
    (ofType (.object [itemType.named "item" true])).Occurs itemSchema ∧ itemSchema.properties?.isSome ∧
      (itemType.last? "id").map InferredType.required = some false ∧ itemSchema.Requires "id" ∧
      ∃ part, (InferredType.object [itemType.named "item" true]).Part part ∧
        itemSchema = ofType { part with isArray := false } ∧
        ∀ name ∈ ["id", "note"], ∃ last, part.last? name = some last ∧
          ((itemSchema.Requires name ↔ last.required = true) ↔
            (last.required = false → ∀ member ∈ part.children, member.name = name → member.required = false)) := by
  obtain ⟨part, hpart, helement, hnames⟩ := requires_last_iff _ itemSchema _ occurs_itemSchema rfl
  refine ⟨occurs_itemSchema, rfl, rfl, ?_, part, hpart, helement, fun name hname => ?_⟩
  · show "id" ∈ ["id"]
    exact List.mem_singleton.mpr rfl
  · obtain ⟨last, hlast, -, -, hagree⟩ := hnames name hname
    exact ⟨last, hlast, hagree⟩

end Schema

end RouteDoc
