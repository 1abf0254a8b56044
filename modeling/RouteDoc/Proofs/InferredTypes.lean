import RouteDoc.Generate
import RouteDoc.Proofs.DocumentAssembly
import RouteDoc.Proofs.SourceCache

/-!
What inferred types are made of. Every schema type in an expanded type is one of `valueTypes`, at every
depth (`InferredType.Plain`); only form fields can be files, and those have no parts
(`InferredType.FormField`). `Yields` says that a computation of the resolver answers something with a
property and remembers plain types only, if it started with such a memory. It goes through every step of
the expansion, by induction over the declarations to go (`resolveDeclared_yields`), and from there
through the reads of a handler to the holders of a whole table (`collect_yields`).
-/

namespace RouteDoc

def valueTypes : List String :=
  ["string", "number", "boolean", "object"]

/-- Every schema type in the type is one of a value. -/
inductive InferredType.Plain : InferredType → Prop where
  | intro {type : InferredType} (schema : ∀ t, type.schemaType? = some t → t ∈ valueTypes)
      (children : ∀ child ∈ type.children, child.Plain) : type.Plain

def AllPlain (types : List InferredType) : Prop :=
  ∀ type ∈ types, type.Plain

/-- The type of a form field: a text or a file. -/
structure InferredType.FormField (type : InferredType) : Prop where
  schema : type.schemaType? = some "string" ∨ type.schemaType? = some "file"
  single : type.isArray = false
  bare : type.children = []

namespace InferredType

theorem plain_unknown : unknown.Plain :=
  .intro (fun _ h => by cases h) (fun _ h => by cases h)

theorem plain_primitive {t : String} (h : t ∈ valueTypes) : (primitive t).Plain :=
  .intro (fun _ heq => Option.some.inj heq ▸ h) (fun _ hchild => by cases hchild)

theorem plain_object {children : List InferredType} (h : ∀ child ∈ children, child.Plain) :
    (object children).Plain :=
  .intro (fun _ heq => by cases heq) h

theorem Plain.child {type child : InferredType} (h : type.Plain) (hchild : child ∈ type.children) :
    child.Plain := by
  obtain ⟨-, hchildren⟩ := h
  exact hchildren child hchild

/-- Being plain is about the schema types alone. -/
theorem Plain.of_same {type other : InferredType} (h : type.Plain)
    (hschema : other.schemaType? = type.schemaType?) (hchildren : other.children = type.children) :
    other.Plain := by
  obtain ⟨htype, hparts⟩ := h
  exact .intro (hschema ▸ htype) (hchildren ▸ hparts)

end InferredType

namespace Types

open RouteDoc.Go

/-- The base is of values, as far as it says what it is of. -/
def Base.Plain : Base → Prop
  | .schema type => type ∈ valueTypes
  | _ => True

/-- What is chosen first is among the types, or what is chosen otherwise. -/
theorem mem_of_choice {c : Prop} [Decidable c] {first t : String} {otherwise : Option String}
    (h : (if c then some first else otherwise) = some t) (hfirst : first ∈ valueTypes)
    (hotherwise : otherwise = some t → t ∈ valueTypes) : t ∈ valueTypes := by
  split at h
  · exact Option.some.inj h ▸ hfirst
  · exact hotherwise h

theorem mem_of_primitive? {token t : String} (h : primitive? token = some t) : t ∈ valueTypes := by
  refine mem_of_choice h (by decide) fun h => ?_
  refine mem_of_choice h (by decide) fun h => ?_
  exact mem_of_choice h (by decide) nofun

theorem mem_of_wellKnown? {token t : String} (h : wellKnown? token = some t) : t ∈ valueTypes := by
  refine mem_of_choice h (by decide) fun h => ?_
  refine mem_of_choice h (by decide) fun h => ?_
  exact mem_of_choice h (by decide) nofun

theorem Base.plain_read (token : List Char) : (Base.read token).Plain := by
  unfold Base.read
  dsimp only
  split
  · rename_i type hfound
    cases hprimitive : primitive? (String.ofList token) with
    | some t =>
      rw [hprimitive] at hfound
      exact mem_of_primitive? (hprimitive.trans hfound)
    | none =>
      rw [hprimitive] at hfound
      exact mem_of_wellKnown? hfound
  · split
    · show "object" ∈ valueTypes
      decide
    · split
      · exact True.intro
      · split <;> exact True.intro

/-! ## Computations of the resolver -/

/-- All finished types that are remembered are plain. -/
def Memo.Plain (memo : Memo) : Prop :=
  ∀ key type, (key, type) ∈ memo.types → type.Plain

theorem Memo.plain_empty : Memo.Plain {} :=
  fun _ _ h => by cases h

theorem Memo.Plain.leave {memo : Memo} {type : InferredType} (h : memo.Plain) (htype : type.Plain)
    (key : TypeKey) (cuts : Nat) : (memo.leave key type cuts).Plain := by
  intro key' type' hmem
  unfold Memo.leave at hmem
  split at hmem
  · rcases List.mem_cons.mp hmem with heq | hmem
    · obtain ⟨-, rfl⟩ := Prod.mk.inj heq
      exact htype
    · exact h key' type' hmem
  · exact h key' type' hmem

/-- The computation answers something with the property, and keeps what is remembered plain. -/
def Yields {α : Type} (P : α → Prop) (x : Resolve α) : Prop :=
  ∀ memo s, memo.Plain → P (x memo s).1.1 ∧ (x memo s).1.2.Plain

namespace Yields

variable {α β : Type} {P : α → Prop} {Q : β → Prop}

theorem pure {a : α} (h : P a) : Yields P (Pure.pure a) :=
  fun _ _ hmemo => ⟨h, hmemo⟩

theorem bind {x : Resolve α} {f : α → Resolve β} (hx : Yields P x) (hf : ∀ a, P a → Yields Q (f a)) :
    Yields Q (x >>= f) := by
  intro memo s hmemo
  obtain ⟨hP, hmemo'⟩ := hx memo s hmemo
  exact hf _ hP _ _ hmemo'

theorem lift_bind {x : Run α} {f : α → Resolve β} (hf : ∀ a, Yields Q (f a)) :
    Yields Q (liftM x >>= f) :=
  fun memo s hmemo => hf (x s).1 memo (x s).2 hmemo

theorem get_bind {f : Memo → Resolve β} (hf : ∀ memo, memo.Plain → Yields Q (f memo)) :
    Yields Q (get >>= f) :=
  fun memo s hmemo => hf memo hmemo memo s hmemo

theorem modify_bind {f : Memo → Memo} {x : Unit → Resolve β} (hf : ∀ memo, memo.Plain → (f memo).Plain)
    (hx : Yields Q (x ())) : Yields Q (modify f >>= x) :=
  fun memo s hmemo => hx (f memo) s (hf memo hmemo)

end Yields

section

variable {disk : Disk} {packages : PackageFinder} {below : Path → List Char → Resolve InferredType}
  {scope : Scope}

theorem importsOf_yields (file : SourceFile) :
    Yields (fun _ => True) (importsOf file : Resolve Imports) := by
  apply Yields.get_bind
  intro memo _
  cases Assoc.get? file.path.components memo.imports with
  | some imports => exact Yields.pure True.intro
  | none =>
    apply Yields.modify_bind
    · exact fun _ h => h
    · exact Yields.pure True.intro

theorem expandBase_yields (h : ∀ folder name, Yields InferredType.Plain (below folder name))
    {base : Base} (hbase : base.Plain) :
    Yields InferredType.Plain (expandBase (surroundingsOver disk packages below) scope base) := by
  cases base with
  | schema type => exact Yields.pure (InferredType.plain_primitive hbase)
  | shapeless => exact Yields.pure InferredType.plain_unknown
  | own name => exact h scope.folder name
  | imported label name =>
    apply Yields.bind (importsOf_yields scope.file)
    intro imports _
    simp only [surroundingsOver]
    cases (Assoc.get? (String.ofList label) imports).bind (packages.folder? disk) with
    | some folder => exact h folder name
    | none => exact Yields.lift_bind fun _ => Yields.pure InferredType.plain_unknown

theorem expandToken_yields (h : ∀ folder name, Yields InferredType.Plain (below folder name))
    (token : List Char) :
    Yields InferredType.Plain (expandToken (surroundingsOver disk packages below) scope token) := by
  apply Yields.bind (expandBase_yields h (Base.plain_read _))
  intro type htype
  exact Yields.pure (htype.of_same rfl rfl)

theorem expandNames_yields {type : List Char} (tag : JsonTag)
    (h : Yields InferredType.Plain (expandToken (surroundingsOver disk packages below) scope type))
    (names : List (List Char)) :
    Yields AllPlain
      (expandNames (surroundingsOver disk packages below) scope type tag names) := by
  induction names with
  | nil => exact Yields.pure nofun
  | cons name names ih =>
    apply Yields.bind h
    intro first hfirst
    apply Yields.bind ih
    intro rest hrest
    exact Yields.pure (List.forall_mem_cons.mpr ⟨hfirst.of_same rfl rfl, hrest⟩)

theorem expandEmbedded_yields {type : List Char} {tag : JsonTag}
    (h : Yields InferredType.Plain (expandToken (surroundingsOver disk packages below) scope type)) :
    Yields AllPlain
      (expandEmbedded (surroundingsOver disk packages below) scope type tag) := by
  have hnames := expandNames_yields tag h [embeddedName type]
  -- both ways end alike: members that are inlined, or the type under its own name where there are none
  have hmembers : ∀ members : List InferredType, AllPlain members →
      Yields AllPlain
        (if members.isEmpty then
          expandNames (surroundingsOver disk packages below) scope type tag [embeddedName type]
        else return members) := by
    intro members hplain
    split
    · exact hnames
    · exact Yields.pure hplain
  unfold expandEmbedded
  cases tag.name? with
  | some name => exact Yields.bind (P := AllPlain) (Yields.pure nofun) hmembers
  | none =>
    apply Yields.bind h
    intro embedded hembedded
    refine Yields.bind (P := AllPlain) (Yields.pure ?_) hmembers
    split
    · exact nofun
    · exact fun child hchild => hembedded.child hchild

mutual

theorem expandField_yields (h : ∀ folder name, Yields InferredType.Plain (below folder name))
    (field : Field) :
    Yields AllPlain (expandField (surroundingsOver disk packages below) scope field) := by
  cases field with
  | plain names type tag? =>
    simp only [expandField]
    split
    · exact Yields.pure nofun
    · exact expandNames_yields _ (expandToken_yields h type) _
  | embedded type tag? =>
    simp only [expandField]
    split
    · exact Yields.pure nofun
    · exact expandEmbedded_yields (expandToken_yields h type)
  | nested name lead fields tag? =>
    simp only [expandField]
    split
    · exact Yields.pure nofun
    · apply Yields.bind (expandFields_yields h fields)
      intro children hchildren
      apply Yields.pure
      intro type htype
      rw [List.mem_singleton.mp htype]
      exact (InferredType.plain_object hchildren).of_same rfl rfl

theorem expandFields_yields (h : ∀ folder name, Yields InferredType.Plain (below folder name))
    (fields : List Field) :
    Yields AllPlain (expandFields (surroundingsOver disk packages below) scope fields) := by
  cases fields with
  | nil => exact Yields.pure nofun
  | cons field fields =>
    apply Yields.bind (expandField_yields h field)
    intro first hfirst
    apply Yields.bind (expandFields_yields h fields)
    intro rest hrest
    apply Yields.pure
    exact List.forall_mem_append.mpr ⟨hfirst, hrest⟩

end

theorem expandDefinition_yields (h : ∀ folder name, Yields InferredType.Plain (below folder name))
    (definition : TypeDefinition) :
    Yields InferredType.Plain
      (expandDefinition (surroundingsOver disk packages below) scope definition) := by
  cases definition with
  | struct fields =>
    apply Yields.bind (expandFields_yields h fields)
    intro children hchildren
    exact Yields.pure (InferredType.plain_object hchildren)
  | interface => exact Yields.pure (InferredType.plain_primitive (by decide))
  | named token => exact expandToken_yields h token

theorem definedType_yields (h : ∀ folder name, Yields InferredType.Plain (below folder name))
    (folder : Path) (name : List Char) :
    Yields InferredType.Plain (definedType disk packages below folder name) := by
  apply Yields.lift_bind
  intro found
  cases found with
  | none => exact Yields.lift_bind fun _ => Yields.pure InferredType.plain_unknown
  | some pair => exact expandDefinition_yields h pair.2

theorem declaredType_yields (h : ∀ folder name, Yields InferredType.Plain (below folder name))
    (folder : Path) (name : List Char) :
    Yields InferredType.Plain (declaredType disk packages below folder name) := by
  apply Yields.get_bind
  intro memo hmemo
  cases hfound : Assoc.get? ((disk.canonicalOrSelf folder).components, name) memo.types with
  | some type => exact Yields.pure (hmemo _ _ (Assoc.mem_of_get? hfound))
  | none =>
    dsimp only
    split
    · -- a cycle is cut
      apply Yields.lift_bind
      intro _
      apply Yields.modify_bind
      · exact fun _ hplain => hplain
      · exact Yields.pure InferredType.plain_unknown
    · apply Yields.modify_bind
      · exact fun _ hplain => hplain
      · apply Yields.bind (definedType_yields h _ name)
        intro type htype
        apply Yields.modify_bind
        · exact fun _ hplain => hplain.leave htype _ _
        · exact Yields.pure htype

theorem resolveDeclared_yields (n : Nat) (folder : Path) (name : List Char) :
    Yields InferredType.Plain (resolveDeclared disk packages n folder name) := by
  induction n generalizing folder name with
  -- on the declarations that may still be opened below each other
  | zero => exact Yields.pure InferredType.plain_unknown
  | succ n ih => exact declaredType_yields ih folder name

/-- What a read of the given kind may be of. -/
def ReadOf (kind : ReadKind) (type : InferredType) : Prop :=
  match kind with
  | .formFile | .formValue => type.FormField
  | _ => type.Plain

theorem resolveLocal_yields (body : Body) (name : List Char) :
    Yields InferredType.Plain (resolveLocal disk packages body name) := by
  unfold resolveLocal
  cases localType? body.scope.file.lines body.start body.stop name with
  | none => exact Yields.pure (InferredType.plain_primitive (by decide))
  | some token => exact expandToken_yields (resolveDeclared_yields _) token

theorem resolveRead_yields (body : Body) (read : Read) :
    Yields (ReadOf read.kind) (resolveRead disk packages body read) := by
  have hvalue : ∀ required, Yields InferredType.Plain
      (do return (← resolveLocal disk packages body read.name.toList).named read.name required) := by
    intro required
    apply Yields.bind (resolveLocal_yields body read.name.toList)
    exact fun type htype => Yields.pure (htype.of_same rfl rfl)
  unfold resolveRead
  cases read.kind with
  | path => exact hvalue _
  | query => exact hvalue _
  | body => exact hvalue _
  | formFile => exact Yields.pure ⟨.inr rfl, rfl, rfl⟩
  | formValue => exact Yields.pure ⟨.inl rfl, rfl, rfl⟩

end

end Types

/-! ## Holders -/

open RouteDoc.Types

/-- Every parameter of the holder is of a type that its place allows. -/
structure RouteHolder.Plain (holder : RouteHolder) : Prop where
  path : AllPlain holder.path
  query : AllPlain holder.query
  body : ∀ type, holder.body? = some type → type.Plain
  form : ∀ type ∈ holder.form, type.FormField

namespace RouteHolder

variable {holder : RouteHolder}

theorem Plain.addRead {kind : Go.ReadKind} {type : InferredType} (h : holder.Plain)
    (htype : ReadOf kind type) : (holder.addRead kind type).Plain := by
  cases kind with
  | path =>
    refine { h with path := List.forall_mem_append.mpr ⟨h.path, ?_⟩ }
    exact List.forall_mem_singleton.mpr htype
  | query =>
    refine { h with query := List.forall_mem_append.mpr ⟨h.query, ?_⟩ }
    exact List.forall_mem_singleton.mpr htype
  | body =>
    refine { h with body := fun other hother => ?_ }
    rcases Option.or_eq_some_iff.mp hother with hfirst | ⟨-, hsecond⟩
    · exact h.body other hfirst
    · exact Option.some.inj hsecond ▸ htype
  | formFile =>
    refine { h with form := List.forall_mem_append.mpr ⟨h.form, ?_⟩ }
    exact List.forall_mem_singleton.mpr htype
  | formValue =>
    refine { h with form := List.forall_mem_append.mpr ⟨h.form, ?_⟩ }
    exact List.forall_mem_singleton.mpr htype

theorem Plain.join {second : RouteHolder} (h : holder.Plain) (hsecond : second.Plain) :
    (holder.join second).Plain := by
  unfold RouteHolder.join
  cases holder.isEndpoint with
  | true => exact ⟨hsecond.path, hsecond.query, hsecond.body, hsecond.form⟩
  | false => exact ⟨h.path, h.query, h.body, h.form⟩

theorem Plain.mergeInto {merged : List (Nat × RouteHolder)} (h : holder.Plain)
    (hmerged : ∀ entry ∈ merged, entry.2.Plain) : ∀ entry ∈ mergeInto merged holder, entry.2.Plain := by
  intro entry hentry
  rcases Assoc.mem_putSorted hentry with rfl | hold
  · dsimp only
    cases hfirst : Assoc.get? holder.id merged with
    | none => exact h
    | some first => exact (hmerged _ (Assoc.mem_of_get? hfirst)).join h
  · exact hmerged entry hold

theorem plain_foldl_mergeInto {holders : List RouteHolder} {merged : List (Nat × RouteHolder)}
    (h : ∀ holder ∈ holders, holder.Plain) (hmerged : ∀ entry ∈ merged, entry.2.Plain) :
    ∀ entry ∈ holders.foldl RouteHolder.mergeInto merged, entry.2.Plain := by
  induction holders generalizing merged with
  | nil => exact hmerged
  | cons holder holders ih =>
    obtain ⟨hfirst, hrest⟩ := List.forall_mem_cons.mp h
    exact ih hrest (hfirst.mergeInto hmerged)

theorem plain_merge {holders : List RouteHolder} (h : ∀ holder ∈ holders, holder.Plain) :
    ∀ holder ∈ merge holders, holder.Plain := by
  intro holder hholder
  obtain ⟨entry, hentry, rfl⟩ := List.mem_map.mp hholder
  exact plain_foldl_mergeInto h (List.forall_mem_nil _) entry hentry

end RouteHolder

/-- What is answered, if something is, has the property. -/
def IfOk {ε α : Type} (P : α → Prop) : Except ε α → Prop
  | .ok a => P a
  | .error _ => True

namespace Generator

variable {g : Generator}

theorem addReads_yields (body : Body) (reads : List Go.Read) {holder : RouteHolder}
    (h : holder.Plain) : Yields RouteHolder.Plain (g.addReads body holder reads) := by
  induction reads generalizing holder with
  | nil => exact Yields.pure h
  | cons read reads ih =>
    apply Yields.bind (resolveRead_yields body read)
    exact fun type htype => ih (h.addRead htype)

theorem handlerHolder_yields {base : RouteHolder} (h : base.Plain) (symbol : Symbol) :
    Yields (IfOk RouteHolder.Plain) (g.handlerHolder base symbol) := by
  apply Yields.lift_bind
  intro answer
  cases answer with
  | error e => exact Yields.pure True.intro
  | ok found =>
    have hholder : Yields RouteHolder.Plain (g.holderAt base symbol found.1 found.2) :=
      addReads_yields _ _ ⟨h.path, h.query, h.body, h.form⟩
    apply Yields.bind hholder
    exact fun holder hplain => Yields.pure hplain

theorem routeHolders_yields {base : RouteHolder} (h : base.Plain) (handler : HandlerRef) :
    Yields (fun holders => ∀ holder ∈ holders, RouteHolder.Plain holder)
      (g.routeHolders base handler) := by
  apply Yields.bind (handlerHolder_yields h _)
  intro answer hanswer
  cases answer with
  | error e => exact Yields.lift_bind fun _ => Yields.pure nofun
  | ok holder =>
    cases handler with
    | func symbol => exact Yields.pure (List.forall_mem_singleton.mpr hanswer)
    | kit decoder endpoint =>
      apply Yields.lift_bind
      intro name
      apply Yields.pure
      refine List.forall_mem_cons.mpr ⟨hanswer, List.forall_mem_singleton.mpr ?_⟩
      exact ⟨h.path, h.query, h.body, h.form⟩

theorem entryHolders_yields (id : Nat) (entries : List RouteEntry) :
    Yields (fun holders => ∀ holder ∈ holders, RouteHolder.Plain holder)
      (g.entryHolders id entries) := by
  induction entries generalizing id with
  | nil => exact Yields.pure nofun
  | cons entry entries ih =>
    unfold entryHolders
    cases entry.path? with
    | none => exact ih id
    | some route =>
      have hbase : RouteHolder.Plain { id := id, route := route, methods := entry.methods?.getD [] } :=
        ⟨nofun, nofun, nofun, nofun⟩
      apply Yields.bind (routeHolders_yields hbase entry.handler)
      intro first hfirst
      apply Yields.bind (ih (id + 1))
      intro rest hrest
      exact Yields.pure (List.forall_mem_append.mpr ⟨hfirst, hrest⟩)

theorem collect_yields (table : RouteTable) :
    Yields (IfOk fun holders => ∀ holder ∈ holders, RouteHolder.Plain holder) (g.collect table) := by
  apply Yields.lift_bind
  intro answer
  cases answer with
  | error e => exact Yields.pure True.intro
  | ok entries =>
    apply Yields.lift_bind
    intro _
    apply Yields.bind (entryHolders_yields 0 entries)
    intro holders hholders
    apply Yields.lift_bind
    intro _
    exact Yields.pure (RouteHolder.plain_merge hholders)

end Generator

end RouteDoc
