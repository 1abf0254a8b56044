import RouteDoc.Proofs.RouteSources
import RouteDoc.Proofs.SchemaShape

/-!
Which parameters a document may have outside the body. Values of a path, a query or a form are texts, numbers, truth
values, files, or arrays of such; objects are for the body only (`Parameter.Legal`). Form fields are always legal. The
type of a path or query value is that of the variable of its name, and is legal exactly if the declaration of the
variable stands for a value (`StandsForValue`): a basic type, or a declared type that is another name for one. Any other
declaration makes the parameter an object.

`isValue_plainType_iff` says so of one token, by induction over the declarations that are being expanded in one direction
and over the chain of names in the other; `parameters_legal_iff` says so of all parameters of a generated document.
-/

namespace RouteDoc

/-! ## Legal parameters -/

/-- What a document may say about a parameter outside the body. -/
structure Parameter.Legal (p : Parameter) : Prop where
  type : ∃ t ∈ ["string", "number", "boolean", "array", "file"], p.type? = some t
  items : p.type? = some "array" → ∃ items, p.items? = some items ∧ items.type ∈ ["string", "number", "boolean"]

/-- The parameter is of objects, or of arrays of objects. -/
def Parameter.OfObjects (p : Parameter) : Prop :=
  p.type? = some "object" ∨ ∃ items, p.items? = some items ∧ items.type = "object"

/-- A well-formed parameter outside the body is legal unless it is of objects. -/
theorem Parameter.WellFormed.legal_iff {p : Parameter} (h : p.WellFormed) (hvalue : p.location ≠ "body") :
    p.Legal ↔ ¬ p.OfObjects := by
  obtain ⟨t, htype, hknown, hitems, -⟩ := h.value hvalue
  constructor
  · rintro hlegal (hobject | ⟨items, hsome, hobject⟩)
    · obtain ⟨t', ht', htype'⟩ := hlegal.type
      rw [hobject] at htype'
      obtain rfl := Option.some.inj htype'
      exact absurd ht' (by decide)
    · have harray : t = "array" := hitems.mp (by simp [hsome])
      obtain ⟨items', hsome', hlist⟩ := hlegal.items (htype.trans (congrArg some harray))
      rw [hsome] at hsome'
      obtain rfl := Option.some.inj hsome'
      rw [hobject] at hlist
      exact absurd hlist (by decide)
  · intro hnot
    have hobject : t ≠ "object" := fun heq => hnot (.inl (htype.trans (congrArg some heq)))
    have hall : ∀ t ∈ schemaTypes, t ≠ "object" → t ∈ ["string", "number", "boolean", "array", "file"] := by decide
    refine ⟨⟨t, hall t hknown hobject, htype⟩, fun harray => ?_⟩
    rw [htype] at harray
    obtain ⟨items, hsome⟩ := Option.isSome_iff_exists.mp (hitems.mpr (Option.some.inj harray))
    have hwell := h.schemas items (.inl hsome) items .self
    have hflat := h.flat items hsome
    have hobject' : items.type ≠ "object" := fun heq => hnot (.inr ⟨items, hsome, heq⟩)
    have hall' : ∀ t ∈ schemaTypes, t ≠ "file" → t ≠ "array" → t ≠ "object" → t ∈ ["string", "number", "boolean"] := by
      decide
    exact ⟨items, hsome, hall' items.type hwell.known hwell.noFile hflat hobject'⟩

/-- The type is that of a value, or of an array of such: it has a schema type, and not that of objects. -/
def InferredType.IsValue (type : InferredType) : Prop :=
  type.children = [] ∧ ∃ t, type.schemaType? = some t ∧ t ≠ "object"

/-- The elements of a type are objects unless it is that of a value. -/
theorem Schema.type_element_iff (type : InferredType) :
    (ofType { type with isArray := false }).type = "object" ↔ ¬ type.IsValue := by
  rcases ofType_cases { type with isArray := false } with ⟨harray, -⟩ | ⟨-, hchildren, hleaf⟩ | ⟨-, hchildren, hobject⟩
  · cases harray
  · dsimp only at hchildren
    rw [hleaf]
    cases hschema : type.schemaType? with
    | none => simp [InferredType.IsValue, hschema]
    | some t => simp [InferredType.IsValue, hschema, hchildren]
  · dsimp only at hchildren
    rw [hobject]
    simp [InferredType.IsValue, hchildren]

/-- A parameter is of objects unless its type is that of a value. -/
theorem Parameter.ofObjects_simple_iff (location : String) (required : Bool) (type : InferredType) :
    (simple location required type).OfObjects ↔ ¬ type.IsValue := by
  have helement := Schema.type_element_iff type
  cases hsingle : type.isArray with
  | false =>
    have hsame : ({ type with isArray := false } : InferredType) = type := by
      cases type
      cases hsingle
      rfl
    have hitems : (Schema.ofType type).items? = none := by
      rcases Schema.ofType_cases type with ⟨harray, -⟩ | ⟨-, -, hleaf⟩ | ⟨-, -, hobject⟩
      · rw [hsingle] at harray
        cases harray
      · rw [hleaf]
      · rw [hobject]
    rw [hsame] at helement
    simpa [OfObjects, simple, hitems] using helement
  | true =>
    rcases Schema.ofType_cases type with ⟨-, harray⟩ | ⟨hnot, -⟩ | ⟨hnot, -⟩
    · simpa [OfObjects, simple, harray, Schema.array] using helement
    · rw [hsingle] at hnot
      cases hnot
    · rw [hsingle] at hnot
      cases hnot

namespace Types

open RouteDoc.Go Relation

/-! ## Declarations of values -/

/-- The token stands for a value: it is of a basic type, or names a declared type that is another name for one. -/
inductive StandsForValue (disk : Disk) (packages : PackageFinder) : Scope → List Char → Prop where
  | basic {scope : Scope} {token : List Char} {t : String} (h : (readToken token).2 = .schema t)
      (hvalue : t ≠ "object") : StandsForValue disk packages scope token
  | declared {scope : Scope} {token : List Char} {folder : Path} {name : List Char} {file : SourceFile}
      {inner : List Char} (hrequest : requested? disk packages scope token = some (folder, name))
      (hdefinition : definitionOn? disk (disk.canonicalOrSelf folder) name = some (file, .named inner))
      (h : StandsForValue disk packages ⟨file, disk.canonicalOrSelf folder⟩ inner) :
      StandsForValue disk packages scope token

variable {disk : Disk} {packages : PackageFinder} {stack : List TypeKey} {scope : Scope} {folder : Path}
  {name token : List Char}

theorem isValue_primitive (t : String) : (InferredType.primitive t).IsValue ↔ t ≠ "object" := by
  simp [InferredType.IsValue, InferredType.primitive]

theorem not_isValue_unknown : ¬ InferredType.unknown.IsValue := by
  simp [InferredType.IsValue, InferredType.unknown]

theorem not_isValue_object (children : List InferredType) : ¬ (InferredType.object children).IsValue := by
  simp [InferredType.IsValue, InferredType.object]

/-- A token has the type of a value if it is of a basic type, or if the declared type that it asks for has. -/
theorem isValue_expandToken_iff {below : Path → List Char → InferredType} :
    (Id.run (expandToken (plainSurroundings disk packages below) scope token)).IsValue ↔
      (∃ t, (readToken token).2 = .schema t ∧ t ≠ "object") ∨
        ∃ folder name, requested? disk packages scope token = some (folder, name) ∧ (below folder name).IsValue := by
  have hbase : (Id.run (expandToken (plainSurroundings disk packages below) scope token)).IsValue ↔
      (Id.run (expandBase (plainSurroundings disk packages below) scope (readToken token).2)).IsValue := Iff.rfl
  rw [hbase, requested?]
  cases (readToken token).2 with
  | schema t =>
    have hprimitive : Id.run (expandBase (plainSurroundings disk packages below) scope (.schema t)) = .primitive t := rfl
    rw [hprimitive, isValue_primitive]
    simp [requestedBy?]
  | shapeless =>
    have hunknown : Id.run (expandBase (plainSurroundings disk packages below) scope .shapeless) = .unknown := rfl
    rw [hunknown]
    simp [requestedBy?, not_isValue_unknown]
  | own name =>
    have hbelow : Id.run (expandBase (plainSurroundings disk packages below) scope (.own name))
        = below scope.folder name := rfl
    rw [hbelow]
    simp [requestedBy?]
  | imported label name =>
    simp only [expandBase, plainSurroundings, requestedBy?]
    cases hfolder : (Assoc.get? (String.ofList label) (fileImports scope.file.lines)).bind (packages.folder? disk) with
    | none =>
      simp only [hfolder, bind, Option.map_none]
      simpa using not_isValue_unknown
    | some folder =>
      have hbelow : (Id.run (below folder name)).IsValue ↔ (below folder name).IsValue := Iff.rfl
      simp only [hfolder, bind, Option.map_some]
      simpa using hbelow

/-- Of the definitions only another name can be that of a value. -/
theorem isValue_expandDefinition_iff {around : Surroundings Id} {definition : TypeDefinition} :
    (Id.run (expandDefinition around scope definition)).IsValue ↔
      ∃ inner, definition = .named inner ∧ (Id.run (expandToken around scope inner)).IsValue := by
  cases definition with
  | struct fields =>
    have hobject : Id.run (expandDefinition around scope (.struct fields))
        = .object (Id.run (expandFields around scope fields)) := rfl
    rw [hobject]
    simp [not_isValue_object]
  | interface =>
    have hobject : Id.run (expandDefinition around scope .interface) = .primitive "object" := rfl
    rw [hobject]
    simp [isValue_primitive]
  | named inner => simp [expandDefinition]

/-- A declared type has the type of a value if it is not being expanded already, and is another name for a token that
has. -/
theorem isValue_plainDeclared_iff : (plainDeclared disk packages stack folder name).IsValue ↔
    keyOf disk folder name ∉ stack ∧ ∃ file inner,
      definitionOn? disk (disk.canonicalOrSelf folder) name = some (file, .named inner) ∧
      (Id.run (expandToken
        (plainSurroundings disk packages (plainDeclared disk packages (keyOf disk folder name :: stack)))
        ⟨file, disk.canonicalOrSelf folder⟩ inner)).IsValue := by
  by_cases hstack : keyOf disk folder name ∈ stack
  · rw [plainDeclared_of_mem hstack]
    simp [not_isValue_unknown, hstack]
  cases hdefinition : definitionOn? disk (disk.canonicalOrSelf folder) name with
  | none =>
    rw [plainDeclared_of_none hdefinition]
    simp [not_isValue_unknown]
  | some found =>
    obtain ⟨file, definition⟩ := found
    rw [plainDeclared_of_some hstack hdefinition, isValue_expandDefinition_iff]
    constructor
    · rintro ⟨inner, rfl, hinner⟩
      exact ⟨hstack, file, inner, rfl, hinner⟩
    · rintro ⟨-, file', inner, hsame, hinner⟩
      obtain ⟨rfl, rfl⟩ := Prod.mk.inj (Option.some.inj hsame)
      exact ⟨inner, rfl, hinner⟩

/-- The declared type is another name for a value. -/
def DeclaresValue (disk : Disk) (packages : PackageFinder) (folder : Path) (name : List Char) : Prop :=
  ∃ file inner, definitionOn? disk (disk.canonicalOrSelf folder) name = some (file, .named inner) ∧
    StandsForValue disk packages ⟨file, disk.canonicalOrSelf folder⟩ inner

/-- A token of the type of a value stands for one, if the declared types of values are names for values. -/
theorem standsForValue_of_isValue {below : Path → List Char → InferredType}
    (hbelow : ∀ folder name, (below folder name).IsValue → DeclaresValue disk packages folder name)
    (h : (Id.run (expandToken (plainSurroundings disk packages below) scope token)).IsValue) :
    StandsForValue disk packages scope token := by
  rcases isValue_expandToken_iff.mp h with ⟨t, hbasic, hvalue⟩ | ⟨folder, name, hrequest, hdeclared⟩
  · exact .basic hbasic hvalue
  · obtain ⟨file, inner, hdefinition, hvalue⟩ := hbelow folder name hdeclared
    exact .declared hrequest hdefinition hvalue

/-- Only names for values have the type of a value, whatever is being expanded around them. -/
theorem declaresValue_of_isValue {stack : List TypeKey} {folder : Path} {name : List Char}
    (h : (plainDeclared disk packages stack folder name).IsValue) : DeclaresValue disk packages folder name := by
  obtain ⟨hnew, file, inner, hdefinition, hinner⟩ := isValue_plainDeclared_iff.mp h
  -- below the type there is one declaration less to go
  have hless := remaining_lt (mem_typeKeys hdefinition) hnew
  exact ⟨file, inner, hdefinition, standsForValue_of_isValue (fun _ _ => declaresValue_of_isValue) hinner⟩
termination_by remaining disk stack

/-- No chain of names goes on forever from what stands for a value. -/
theorem StandsForValue.settled (h : StandsForValue disk packages scope token) {folder : Path} {name : List Char}
    (hrequest : requested? disk packages scope token = some (folder, name)) :
    Settled disk packages (keyOf disk folder name) := by
  induction h generalizing folder name with
  | basic hbasic _ => simp [requested?, hbasic, requestedBy?] at hrequest
  | declared hrequest' hdefinition _ ih =>
    rw [hrequest'] at hrequest
    obtain ⟨rfl, rfl⟩ := Prod.mk.inj (Option.some.inj hrequest)
    -- the key has one definition, and that names one token only
    refine .of_names fun below hnames => ?_
    obtain ⟨file', definition, hdefinition', token', htoken, folder', name', hbelow, rfl⟩ := hnames.requested
    rw [hdefinition] at hdefinition'
    obtain ⟨rfl, rfl⟩ := Prod.mk.inj (Option.some.inj hdefinition')
    obtain rfl := List.mem_singleton.mp htoken
    exact ih hbelow

/-- What stands for a value has the type of a value, among types that all lead to it. -/
theorem StandsForValue.isValue (h : StandsForValue disk packages scope token)
    (hstack : ∀ folder name, requested? disk packages scope token = some (folder, name) →
      LeadsTo disk packages stack (keyOf disk folder name)) :
    (Id.run (expandToken (plainSurroundings disk packages (plainDeclared disk packages stack)) scope token)).IsValue := by
  induction h generalizing stack with
  | basic hbasic hvalue => exact isValue_expandToken_iff.mpr (.inl ⟨_, hbasic, hvalue⟩)
  | @declared scope token folder name file inner hrequest hdefinition hinner ih =>
    -- the type is not on the stack: all types there lead to it, and it does not lead back
    have hleads := hstack folder name hrequest
    have hsettled := StandsForValue.settled (.declared hrequest hdefinition hinner) hrequest
    refine isValue_expandToken_iff.mpr (.inr ⟨folder, name, hrequest, ?_⟩)
    refine isValue_plainDeclared_iff.mpr ⟨hsettled.not_mem hleads, file, inner, hdefinition, ih ?_⟩
    intro folder' name' hbelow
    exact hleads.cons ⟨folder, name, file, .named inner, rfl, hdefinition, inner, .head _, folder', name', hbelow, rfl⟩

/-- A token has the type of a value if and only if it stands for one. -/
theorem isValue_plainType_iff :
    (plainType disk packages scope token).IsValue ↔ StandsForValue disk packages scope token := by
  constructor
  · exact standsForValue_of_isValue fun _ _ => declaresValue_of_isValue
  · intro h
    exact h.isValue fun _ _ _ => .nil

/-- The read is of a value: of a form field, or of a variable whose declaration stands for a value, if there is one. -/
def ReadsValue (disk : Disk) (packages : PackageFinder) (body : Body) (read : Read) : Prop :=
  read.kind = .formFile ∨ read.kind = .formValue ∨
    ∀ inner, localType? body.scope.file.lines body.start body.stop read.name.toList = some inner →
      StandsForValue disk packages body.scope inner

theorem isValue_plainLocal_iff {body : Body} : (plainLocal disk packages body name).IsValue ↔
    ∀ inner, localType? body.scope.file.lines body.start body.stop name = some inner →
      StandsForValue disk packages body.scope inner := by
  unfold plainLocal
  cases localType? body.scope.file.lines body.start body.stop name with
  | none => simp [isValue_primitive]
  | some inner => simp [isValue_plainType_iff]

theorem isValue_plainRead_iff {body : Body} {read : Read} :
    (plainRead disk packages body read).IsValue ↔ ReadsValue disk packages body read := by
  have hnamed : ∀ (type : InferredType) required, (type.named read.name required).IsValue ↔ type.IsValue :=
    fun _ _ => Iff.rfl
  unfold plainRead ReadsValue
  rw [hnamed]
  cases read.kind with
  | formFile => simp [isValue_primitive]
  | formValue => simp [isValue_primitive]
  | path => simp [isValue_plainLocal_iff]
  | query => simp [isValue_plainLocal_iff]
  | body => simp [isValue_plainLocal_iff]

end Types

open RouteDoc.Types

/-! ## Parameters of a handler -/

def Go.ReadKind.location : Go.ReadKind → String
  | .path => "path"
  | .query => "query"
  | .body => "body"
  | .formFile => "formData"
  | .formValue => "formData"

theorem Go.ReadKind.location_eq_body {kind : Go.ReadKind} (h : kind.location = "body") : kind = .body := by
  cases kind <;> simp_all [location]

namespace RouteHolder

variable {holder : RouteHolder} {placement : String × InferredType}

theorem mem_placements_iff (hvalue : placement.1 ≠ "body") : placement ∈ holder.placements ↔
    placement ∈ holder.path.map ("path", ·) ∨ placement ∈ holder.query.map ("query", ·) ∨
      placement ∈ holder.form.map ("formData", ·) := by
  have hbody : placement ∉ holder.body?.toList.map ("body", ·) := by
    intro hmem
    obtain ⟨type, -, rfl⟩ := List.mem_map.mp hmem
    exact hvalue rfl
  simp only [placements, List.mem_append, hbody, or_false, or_assoc]

/-- One more read is one more parameter outside the body. -/
theorem mem_placements_addRead {kind : Go.ReadKind} {type : InferredType} (hvalue : placement.1 ≠ "body") :
    placement ∈ (holder.addRead kind type).placements ↔
      placement ∈ holder.placements ∨ placement = (kind.location, type) := by
  rw [mem_placements_iff hvalue, mem_placements_iff hvalue]
  cases kind with
  | body =>
    have hother : placement ≠ ("body", type) := fun heq => hvalue (congrArg Prod.fst heq)
    simp [addRead, Go.ReadKind.location, hother]
  | path | query | formFile | formValue =>
    simp only [addRead, Go.ReadKind.location, List.map_append, List.map_cons, List.map_nil, List.mem_append,
      List.mem_singleton]
    tauto

theorem mem_placements_addAll {type : Go.Read → InferredType} {reads : List Go.Read} (hvalue : placement.1 ≠ "body") :
    placement ∈ (holder.addAll type reads).placements ↔
      placement ∈ holder.placements ∨ ∃ read ∈ reads, placement = (read.kind.location, type read) := by
  induction reads generalizing holder with
  | nil => simp [addAll]
  | cons read reads ih =>
    have hstep : holder.addAll type (read :: reads) = (holder.addRead read.kind (type read)).addAll type reads := rfl
    rw [hstep, ih, mem_placements_addRead hvalue, or_assoc]
    simp

theorem join_kept (second : RouteHolder) (h : holder.isEndpoint = false) :
    (holder.join second).route = holder.route ∧ (holder.join second).methods = holder.methods ∧
      (holder.join second).placements = holder.placements := by
  unfold join
  rw [h]
  exact ⟨rfl, rfl, rfl⟩

end RouteHolder

namespace Parameter

variable {holder : RouteHolder} {placement : String × InferredType}

theorem ofPlacement_mem (h : placement ∈ holder.placements) : ofPlacement placement ∈ ofRoute holder := by
  rw [ofRoute_eq]
  exact List.mem_map_of_mem h

theorem legal_ofPlacement_iff (h : holder.Plain) (hmem : placement ∈ holder.placements)
    (hvalue : placement.1 ≠ "body") : (ofPlacement placement).Legal ↔ placement.2.IsValue := by
  have hwell := wellFormed_ofRoute h _ (ofPlacement_mem hmem)
  have hlocation := (ofPlacement_shows placement).location
  rw [hwell.legal_iff (hlocation ▸ hvalue), ofPlacement, if_neg hvalue, ofObjects_simple_iff, not_not]

theorem isValue_of_formData (h : holder.Plain) (hmem : placement ∈ holder.placements)
    (hform : placement.1 = "formData") : placement.2.IsValue := by
  have htype : placement.2 ∈ holder.form := by
    obtain ⟨location, type⟩ := placement
    subst hform
    simpa [RouteHolder.placements] using hmem
  obtain ⟨hschema, -, hbare⟩ := h.form _ htype
  rcases hschema with hstring | hfile
  · exact ⟨hbare, "string", hstring, by decide⟩
  · exact ⟨hbare, "file", hfile, by decide⟩

/-- The parameters of a route outside the body are legal unless they are of objects; form fields always are legal. -/
theorem legal_of_route (h : holder.Plain) : ∀ p ∈ ofRoute holder, p.location ≠ "body" →
    (p.Legal ↔ ¬ p.OfObjects) ∧ (p.location = "formData" → p.Legal) := by
  intro p hp hvalue
  refine ⟨(wellFormed_ofRoute h p hp).legal_iff hvalue, fun hform => ?_⟩
  rw [ofRoute_eq] at hp
  obtain ⟨placement, hmem, rfl⟩ := List.mem_map.mp hp
  rw [(ofPlacement_shows placement).location] at hform hvalue
  exact (legal_ofPlacement_iff h hmem hvalue).mpr (isValue_of_formData h hmem hform)

/-- The parameter stems from a read, and is legal if the read is of a value. -/
structure Passes (disk : Disk) (packages : PackageFinder) (body : Body) (read : Go.Read) (p : Parameter) : Prop where
  name : p.name = read.name
  location : p.location = read.kind.location
  legal : p.Legal ↔ ReadsValue disk packages body read

end Parameter

namespace Generator

variable {g : Generator} {memo : Memo} {s : Session} {config : DocumentConfig} {table : RouteTable}

/-- The body of a function that is declared at a place in a file. -/
def bodyAt (g : Generator) (location : Location) (file : SourceFile) : Body :=
  ⟨⟨file, packageFolder g.disk g.packages location.package location.file⟩, location.line,
    (Go.scanHandler file.lines location.line).stop⟩

theorem exists_collected {document : Document} (h : (g.generate config table memo s).1.1 = .ok document) :
    ∃ holders, (g.collect table memo s).1.1 = .ok holders ∧ document = Document.build config holders := by
  have hrun : ∀ f : Except Error (List RouteHolder) → Resolve (Except Error Document),
      (g.collect table >>= f) memo s
        = f (g.collect table memo s).1.1 (g.collect table memo s).1.2 (g.collect table memo s).2 := fun _ => rfl
  rw [generate, hrun] at h
  cases hanswer : (g.collect table memo s).1.1 with
  | error e =>
    rw [hanswer] at h
    cases h
  | ok holders =>
    rw [hanswer] at h
    exact ⟨holders, rfl, (Except.ok.inj h).symm⟩

theorem exists_holder_of_lists {holders : List RouteHolder} {place : String × String} {operation : Operation}
    (h : (Document.build config holders).Lists place operation) :
    ∃ holder ∈ holders, ∃ method ∈ holder.methods, config.placeOf (holder, method) = place ∧
      operation.parameters = Parameter.ofRoute holder := by
  obtain ⟨n, r, hlast, rfl⟩ := (lists_build_iff config holders place operation).mp h
  have hmem : r ∈ registrations holders := List.mem_of_getElem? hlast.numbered
  obtain ⟨holder, hholder, hr⟩ := List.mem_flatMap.mp hmem
  obtain ⟨method, hmethod, rfl⟩ := List.mem_map.mp hr
  exact ⟨holder, hholder, method, hmethod, hlast.placed, rfl⟩

/-- The holder of a route is that of its handler, up to the name. -/
theorem exists_plainHolder {find : Symbol → Option Location} {base holder : RouteHolder} {handler : HandlerRef}
    (hbase : base.isEndpoint = false) (h : g.plainRoute? find base handler = some holder) :
    ∃ location file, g.sourceAt? (find handler.reader) = some (location, file) ∧
      holder.route = base.route ∧ holder.methods = base.methods ∧
      holder.placements = (g.plainHolder base handler.reader location file).placements := by
  obtain ⟨⟨location, file⟩, hsource, rfl⟩ := Option.map_eq_some_iff.mp h
  refine ⟨location, file, hsource, ?_⟩
  obtain ⟨-, hreader, hroute, hmethods⟩ := g.plainHolder_kept base handler.reader location file
  cases handler with
  | func symbol => exact ⟨hroute, hmethods, rfl⟩
  | kit decoder endpoint =>
    obtain ⟨hroute', hmethods', hplacements⟩ := RouteHolder.join_kept
      { base with name := g.plainName (find endpoint) endpoint, isEndpoint := true } (hreader.trans hbase)
    exact ⟨hroute'.trans hroute, hmethods'.trans hmethods, hplacements⟩

/-- The parameters of a route outside the body are what its handler reads. -/
theorem mem_placements_plainHolder {entry : RouteEntry} {id : Nat} {symbol : Symbol} {location : Location}
    {file : SourceFile} {placement : String × InferredType} (hvalue : placement.1 ≠ "body") :
    placement ∈ (g.plainHolder (entry.base id) symbol location file).placements ↔
      ∃ read ∈ (Go.scanHandler file.lines location.line).reads,
        placement = (read.kind.location, plainRead g.disk g.packages (g.bodyAt location file) read) := by
  unfold plainHolder
  rw [RouteHolder.mem_placements_addAll hvalue]
  simp [RouteHolder.placements, RouteEntry.base, bodyAt]

/-- The parameters of the operation outside the body are what a handler reads, and are legal where it reads values. -/
structure PassesReads (g : Generator) (location : Location) (file : SourceFile) (operation : Operation) : Prop where
  parameters : ∀ p ∈ operation.parameters, p.location ≠ "body" →
    ∃ read ∈ (Go.scanHandler file.lines location.line).reads, p.Passes g.disk g.packages (g.bodyAt location file) read
  reads : ∀ read ∈ (Go.scanHandler file.lines location.line).reads, read.kind ≠ .body →
    ∃ p ∈ operation.parameters, p.Passes g.disk g.packages (g.bodyAt location file) read

theorem passes_ofPlacement {holder : RouteHolder} {body : Body} {read : Go.Read} (hplain : holder.Plain)
    (hmem : (read.kind.location, plainRead g.disk g.packages body read) ∈ holder.placements)
    (hvalue : read.kind.location ≠ "body") :
    (Parameter.ofPlacement (read.kind.location, plainRead g.disk g.packages body read)).Passes g.disk g.packages body
      read := by
  have hshows := Parameter.ofPlacement_shows (read.kind.location, plainRead g.disk g.packages body read)
  exact ⟨hshows.name, hshows.location, (Parameter.legal_ofPlacement_iff hplain hmem hvalue).trans isValue_plainRead_iff⟩

theorem passesReads_of_placements {location : Location} {file : SourceFile} {entry : RouteEntry} {id : Nat}
    {symbol : Symbol} {holder : RouteHolder} {operation : Operation} (hplain : holder.Plain)
    (hplacements : holder.placements = (g.plainHolder (entry.base id) symbol location file).placements)
    (hparameters : operation.parameters = Parameter.ofRoute holder) : g.PassesReads location file operation := by
  refine ⟨fun p hp hvalue => ?_, fun read hread hbody => ?_⟩
  · rw [hparameters, Parameter.ofRoute_eq] at hp
    obtain ⟨placement, hmem, rfl⟩ := List.mem_map.mp hp
    rw [(Parameter.ofPlacement_shows placement).location] at hvalue
    obtain ⟨read, hread, rfl⟩ := (mem_placements_plainHolder hvalue).mp (hplacements ▸ hmem)
    exact ⟨read, hread, passes_ofPlacement hplain hmem hvalue⟩
  · have hvalue : read.kind.location ≠ "body" := mt Go.ReadKind.location_eq_body hbody
    have hmem : (read.kind.location, plainRead g.disk g.packages (g.bodyAt location file) read) ∈ holder.placements := by
      rw [hplacements]
      exact (mem_placements_plainHolder hvalue).mpr ⟨read, hread, rfl⟩
    exact ⟨_, hparameters ▸ Parameter.ofPlacement_mem hmem, passes_ofPlacement hplain hmem hvalue⟩

/-- In every generated document form fields are legal, and all other parameters outside the body are unless they are of
objects. If the table is listed alike at any time and the handlers are placed, these parameters are what the handlers
read, and one is legal if and only if what is read is a value. -/
theorem parameters_legal_iff (g : Generator) (config : DocumentConfig) (table : RouteTable) (memo : Memo) (s : Session)
    (hreached : g.Reached memo s) (document : Document) (h : (g.generate config table memo s).1.1 = .ok document) :
    (∀ place operation, document.Lists place operation → ∀ p ∈ operation.parameters, p.location ≠ "body" →
      (p.Legal ↔ ¬ p.OfObjects) ∧ (p.location = "formData" → p.Legal)) ∧
    ∀ (find : Symbol → Option Location) (entries : List RouteEntry), Sound g.disk g.packages memo s → memo.stack = [] →
      Steady g.disk id table (.ok entries) →
      (∀ entry ∈ entries, ∀ symbol ∈ entry.handler.symbols, g.Placed symbol (find symbol)) →
      ∀ place operation, document.Lists place operation → ∃ entry ∈ routed entries, ∃ method ∈ (entry.base 0).methods,
        config.placeOf (entry.base 0, method) = place ∧
        ∃ location file, g.sourceAt? (find entry.handler.reader) = some (location, file) ∧
          g.PassesReads location file operation := by
  obtain ⟨holders, hcollect, rfl⟩ := exists_collected h
  have hplain : ∀ holder ∈ holders, holder.Plain := by
    have hyields := (collect_yields (g := g) table memo s hreached.plain).1
    rw [hcollect] at hyields
    exact hyields
  refine ⟨fun place operation hlists => ?_, fun find entries hsound hstack htable hplaced place operation hlists => ?_⟩
  · obtain ⟨holder, hholder, -, -, -, hparameters⟩ := exists_holder_of_lists hlists
    rw [hparameters]
    exact Parameter.legal_of_route (hplain holder hholder)
  · -- what the generator remembers makes no difference: the routes are those that the disk gives
    have hvalue := ((collect_lasting find htable hplaced).first.run memo s hsound hstack).1
    rw [hcollect] at hvalue
    obtain rfl := Except.ok.inj hvalue
    obtain ⟨holder, hholder, method, hmethod, hplace, hparameters⟩ := exists_holder_of_lists hlists
    have hplainHolder := hplain holder hholder
    rw [merge_plainEntries] at hholder
    obtain ⟨⟨entry, id⟩, hentry, hroute⟩ := List.mem_filterMap.mp hholder
    obtain ⟨location, file, hsource, hpath, hmethods, hplacements⟩ := exists_plainHolder rfl hroute
    refine ⟨entry, List.fst_mem_of_mem_zipIdx hentry, method, hmethods ▸ hmethod, ?_, location, file, hsource, ?_⟩
    · rw [← hplace]
      simp only [DocumentConfig.placeOf, hpath]
      rfl
    · exact passesReads_of_placements hplainHolder hplacements hparameters

/-- A project whose one route reads a record from the query and a text from a form. -/
def filterDisk : Disk :=
  let source := "package m\ntype F struct \x7b\n\tA string\n\x7d\nfunc R() \x7b\n"
    ++ "\tr.Handle(\"/a\", h).Methods(\"GET\")\n\x7d\nfunc h(r T) \x7b\n\tvar f F\n"
    ++ "\tr.URL.Query().Get(\"f\")\n\tr.FormValue(\"g\")\n\x7d\n"
  ⟨.folder [("m", .folder [("t.go", .file source.toUTF8)])], []⟩

def filterPackages : Packages :=
  [.sourceRoot ⟨["", "m"]⟩]

def filterEntries : List RouteEntry :=
  [⟨some "/a", some ["GET"], .func ⟨"m.h", some ⟨["", "m", "t.go"]⟩⟩⟩]

/-- What the project reads from the query is an object in its document, and not legal there. -/
theorem parameters_legal_iff_filter :
    ∃ document, ((Generator.ofSources filterDisk filterPackages).generate {}
        (Routes.muxTable filterDisk filterPackages ⟨["", "m"]⟩) {} {}).1.1 = .ok document ∧
      parameterTypes document = [("query", some "object", none), ("formData", some "string", none)] ∧
      ∃ place operation, document.Lists place operation ∧ ∃ p ∈ operation.parameters, p.location = "query" ∧
        ¬ p.Legal ∧ ∃ body read, p.Passes filterDisk filterPackages body read ∧
          ¬ ReadsValue filterDisk filterPackages body read := by
  have hnamed : filterDisk.tree.Named := ⟨by decide, ⟨by decide, True.intro, True.intro⟩, True.intro⟩
  have hlisted : (Routes.muxTable filterDisk filterPackages ⟨["", "m"]⟩ {}).1.toOption = some filterEntries := by
    decide +kernel
  obtain ⟨htable, hplaced⟩ := Routes.muxTable_listed hnamed hlisted
  have htypes : ((Generator.ofSources filterDisk filterPackages).generate {}
      (Routes.muxTable filterDisk filterPackages ⟨["", "m"]⟩) {} {}).1.1.toOption.map parameterTypes
        = some [("query", some "object", none), ("formData", some "string", none)] := by
    decide +kernel
  cases hresult : ((Generator.ofSources filterDisk filterPackages).generate {}
      (Routes.muxTable filterDisk filterPackages ⟨["", "m"]⟩) {} {}).1.1 with
  | error e =>
    rw [hresult] at htypes
    cases htypes
  | ok document =>
    rw [hresult] at htypes
    obtain ⟨hlegal, hreads⟩ := parameters_legal_iff (Generator.ofSources filterDisk filterPackages) {}
      (Routes.muxTable filterDisk filterPackages ⟨["", "m"]⟩) {} {} .fresh document hresult
    have hshown : ("query", some "object", none) ∈ parameterTypes document := by
      rw [Option.some.inj htypes]
      exact .head _
    obtain ⟨path, hpath, hmethods⟩ := List.mem_flatMap.mp hshown
    obtain ⟨method, hmethod, hparameters⟩ := List.mem_flatMap.mp hmethods
    obtain ⟨p, hp, hparts⟩ := List.mem_map.mp hparameters
    obtain ⟨hlocation, htype⟩ := Prod.mk.inj hparts
    have hlists : document.Lists (path.1, method.1) method.2 := ⟨path.2, hpath, hmethod⟩
    have hvalue : p.location ≠ "body" := by simp [hlocation]
    have hillegal : ¬ p.Legal := fun h =>
      (hlegal _ _ hlists p hp hvalue).1.mp h (.inl (Prod.mk.inj htype).1)
    obtain ⟨-, -, -, -, -, location, file, -, hpasses⟩ := hreads (Handler.plainPlace filterDisk filterPackages)
      filterEntries (sound_fresh filterDisk filterPackages) rfl htable hplaced _ _ hlists
    obtain ⟨read, -, hread⟩ := hpasses.parameters p hp hvalue
    exact ⟨document, rfl, Option.some.inj htypes, _, _, hlists, p, hp, hlocation, hillegal, _, read, hread,
      fun h => hillegal (hread.legal.mpr h)⟩

end Generator

end RouteDoc
