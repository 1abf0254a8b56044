import RouteDoc.Proofs.RequiredMembers

/-!
The members of an object and their order. The names of an object's properties are those of the members, each where it
stands first, and each is shown with the schema of the last member that has it; the required names are those of the
required members, in the same order. Both lists grow by names that are not in them yet (`addNew`), so one lemma says
what they hold in the end (`foldl_addNew`).

A path of names leads through a type by the last member with each name, and through its schema by the properties. Both
ways end at the same place (`at?_ofType`), so what is said of one level holds at every depth (`ofType_members`).
-/

namespace RouteDoc

namespace InferredType

/-- The type of a single value, where the type may be one of arrays. -/
def element (type : InferredType) : InferredType :=
  { type with isArray := false }

/-- The type that a path of names leads to. -/
def at? : InferredType → List String → Option InferredType
  | type, [] => some type
  | type, name :: path => (type.last? name).bind (·.at? path)

end InferredType

namespace Schema

/-- The schema that a path of names leads to. Arrays have the properties of their items. -/
def at? : Schema → List String → Option Schema
  | schema, [] => some schema
  | schema, name :: path =>
    (Assoc.get? name ((schema.items?.getD schema).properties?.getD [])).bind (·.at? path)

/-! ## Lists of names -/

/-- The names with one more, unless it is there already. -/
def addNew (names : List String) (name : String) : List String :=
  if name ∈ names then names else names ++ [name]

theorem foldl_addNew (names : List String) : names.foldl addNew [] = names.eraseDups := by
  induction names using List.reverseRecOn with
  | nil => rfl
  | append_singleton names name ih =>
    rw [List.foldl_append, ih, List.eraseDups_append]
    by_cases hold : name ∈ names
    · simp [addNew, List.removeAll, hold]
    · simp [addNew, List.removeAll, hold, List.eraseDups_cons]

theorem map_fst_propertiesFrom (found : List (String × Schema)) (children : List InferredType) :
    (propertiesFrom found children).map Prod.fst
      = (children.map InferredType.name).foldl addNew (found.map Prod.fst) := by
  induction children generalizing found with
  | nil => rw [propertiesFrom, List.map_nil, List.foldl_nil]
  | cons child children ih => rw [propertiesFrom, ih, Assoc.map_fst_put, List.map_cons, List.foldl_cons, addNew]

theorem requiredNames_eq (children : List InferredType) :
    requiredNames children = ((children.filter (·.required)).map InferredType.name).foldl addNew [] := by
  induction children using List.reverseRecOn with
  | nil => rfl
  | append_singleton children child ih =>
    rw [requiredNames_concat, List.filter_append, List.map_append, List.foldl_append, ← ih]
    cases hrequired : child.required with
    | false => simp [hrequired]
    | true =>
      simp [hrequired, addNew]

theorem requiredNames_sublist (children : List InferredType) :
    (requiredNames children).Sublist (children.map InferredType.name) := by
  induction children using List.reverseRecOn with
  | nil => exact List.Sublist.refl _
  | append_singleton children child ih =>
    rw [requiredNames_concat, List.map_append]
    split
    · exact ih.append (List.Sublist.refl _)
    · exact ih.trans (List.sublist_append_left _ _)

/-! ## Every level -/

theorem ofType_eq (type : InferredType) :
    ofType type = if type.isArray then array (ofType type.element) else ofType type.element := by
  obtain ⟨name, schemaType?, isArray, children, required⟩ := type
  cases isArray <;> rfl

theorem getD_items_ofType (type : InferredType) :
    (ofType type).items?.getD (ofType type) = ofType type.element := by
  obtain ⟨name, schemaType?, isArray, children, required⟩ := type
  cases isArray with
  | true => rfl
  | false => cases children <;> rfl

theorem get?_properties_element (type : InferredType) (name : String) :
    Assoc.get? name ((ofType type.element).properties?.getD []) = (type.last? name).map ofType := by
  have hproperties : (ofType type.element).properties?.getD [] = propertiesFrom [] type.children := by
    obtain ⟨name, schemaType?, isArray, children, required⟩ := type
    cases children <;> rfl
  rw [hproperties, get?_propertiesFrom]
  exact Option.or_none

theorem at?_ofType (type : InferredType) (path : List String) :
    (ofType type).at? path = (type.at? path).map ofType := by
  induction path generalizing type with
  | nil => rfl
  | cons name path ih =>
    rw [at?, getD_items_ofType, get?_properties_element, InferredType.at?]
    cases type.last? name with
    | none => rfl
    | some last => exact ih last

/-- **The members of every object, in order.** At every path the schema shows the part of the type that the path leads
to. Every part of the type shows a single value, in one array if it is of arrays and as it is otherwise. A part with
members shows an object: the names of its properties are the names of the members in the order in which they first
occur, each with the schema of the last member that has it, and the names that it requires are those of the required
members, once each and in order. -/
theorem ofType_members (type : InferredType) :
    (∀ path, (ofType type).at? path = (type.at? path).map ofType) ∧
    ∀ part, type.Part part →
      ofType part = (if part.isArray then array (ofType part.element) else ofType part.element) ∧
      (ofType part.element).items? = none ∧
      (part.children = [] → ofType part.element = { type := part.schemaType?.getD "object" }) ∧
      (part.children ≠ [] → ∃ properties required,
        ofType part.element
          = { type := "object", properties? := some properties, required? := unlessEmpty required } ∧
        properties.map Prod.fst = (part.children.map InferredType.name).eraseDups ∧
        (∀ name, Assoc.get? name properties = (part.last? name).map ofType) ∧
        required = ((part.children.filter (·.required)).map InferredType.name).eraseDups ∧
        required.Nodup ∧ required.Sublist (part.children.map InferredType.name)) := by
  refine ⟨at?_ofType type, fun part _ => ⟨ofType_eq part, ?_⟩⟩
  rcases ofType_cases part.element with ⟨harray, -⟩ | ⟨-, hnone, hleaf⟩ | ⟨-, hsome, hobject⟩
  · cases harray
  · exact ⟨by rw [hleaf], fun _ => hleaf, fun hchildren => absurd hnone hchildren⟩
  · refine ⟨by rw [hobject], fun hchildren => absurd hchildren hsome, fun _ => ⟨_, _, hobject, ?_, ?_, ?_, ?_, ?_⟩⟩
    · exact (map_fst_propertiesFrom [] part.children).trans (foldl_addNew _)
    · intro name
      rw [← get?_properties_element, hobject]
      rfl
    · exact (requiredNames_eq part.children).trans (foldl_addNew _)
    · exact (requiredNames_spec part.children).1
    · exact requiredNames_sublist part.children

/-- The lines of an order, which declare their price twice. -/
def linesType : InferredType :=
  { name := "lines"
    isArray := true
    children := [(InferredType.primitive "string").named "price" false,
      (InferredType.primitive "number").named "count" true, (InferredType.primitive "number").named "price" true] }

/-- Orders, which declare their identifier twice. -/
def orderType : InferredType :=
  .object [(InferredType.primitive "string").named "id" true, linesType,
    (InferredType.primitive "number").named "id" false]

/-- Price and count stand in the order in which they first occur, and the price is the one that is declared last. It is
required only there, and so stands last among what is required. -/
theorem ofType_members_order :
    orderType.Part linesType ∧ orderType.at? ["lines"] = some linesType ∧
      (ofType orderType).at? ["lines"] = some (array (ofType linesType.element)) ∧
      ∃ properties, ofType linesType.element
          = { type := "object", properties? := some properties, required? := some ["count", "price"] } ∧
        properties.map Prod.fst = ["price", "count"] ∧
        Assoc.get? "price" properties = some { type := "number" } := by
  obtain ⟨hpaths, hparts⟩ := ofType_members orderType
  have hpart : orderType.Part linesType := .child .self (List.mem_cons_of_mem _ List.mem_cons_self)
  have hpath : orderType.at? ["lines"] = some linesType := rfl
  obtain ⟨hlayer, -, -, hmembers⟩ := hparts linesType hpart
  obtain ⟨properties, required, hobject, hnames, hvalues, hrequired, -, -⟩ := hmembers (List.cons_ne_nil _ _)
  have hrequires : required = ["count", "price"] := hrequired.trans (by decide)
  refine ⟨hpart, hpath, ?_, properties, ?_, hnames.trans (by decide), hvalues "price"⟩
  · rw [hpaths, hpath, Option.map_some, hlayer]
    rfl
  · rw [hobject, hrequires]
    rfl

end Schema

end RouteDoc
