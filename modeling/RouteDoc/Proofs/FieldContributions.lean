import RouteDoc.Proofs.ResolverStates

/-!
What the fields of a struct contribute to its members. In every reached state each field contributes
what it would contribute alone, whatever stands before and behind it: a field whose type is not found,
or is being expanded already, takes nothing from the others (`fields_independent`).

An embedded field contributes the members of its struct. If the struct has none, the expansion does not
tell it from a type that is not found, and gives one member of an unknown type
(`embedded_flattened_iff`).
-/

namespace RouteDoc.Types

open RouteDoc.Go

/-- The types that fields give when they are expanded in a state. -/
def fieldTypes (disk : Disk) (packages : PackageFinder) (scope : Scope) (fields : List Field)
    (state : ResolverState) : List InferredType :=
  (expandFields (surroundings disk packages) scope fields state.1 state.2).1.1

variable {disk : Disk} {packages : PackageFinder} {scope : Scope} {state : ResolverState}

theorem fieldTypes_of_reached (h : Reached disk packages state) (hfile : OnDisk disk scope.file)
    (fields : List Field) :
    fieldTypes disk packages scope fields state
      = plainFields disk packages state.1.stack scope fields :=
  expandFields_of_coherent (coherent_of_reached h) hfile fields

section

variable {stack : List TypeKey}

theorem plainFields_cons (field : Field) (fields : List Field) :
    plainFields disk packages stack scope (field :: fields)
      = Id.run (expandField (plainSurroundings disk packages (plainDeclared disk packages stack))
          scope field) ++ plainFields disk packages stack scope fields := by
  simp only [plainFields, expandFields]
  rfl

theorem plainFields_append (before after : List Field) :
    plainFields disk packages stack scope (before ++ after)
      = plainFields disk packages stack scope before
        ++ plainFields disk packages stack scope after := by
  induction before with
  | nil => rfl
  | cons field fields ih =>
    rw [List.cons_append, plainFields_cons, plainFields_cons, ih, List.append_assoc]

theorem plainFields_between (before after : List Field) (field : Field) :
    plainFields disk packages stack scope (before ++ field :: after)
      = plainFields disk packages stack scope before
        ++ plainFields disk packages stack scope [field]
        ++ plainFields disk packages stack scope after := by
  rw [← List.singleton_append, plainFields_append, plainFields_append, List.append_assoc]

end

/-- Fields are expanded independently of each other. In every state that a resolver reaches, with
whatever it remembers and whatever it is expanding, the fields of two lists give what the lists give
apart, also when these are expanded in other states with the same stack. So a field, of whatever type,
stands between what the fields before and behind it give without it. -/
theorem fields_independent (disk : Disk) (packages : PackageFinder) (scope : Scope)
    (hfile : OnDisk disk scope.file) (state first second : ResolverState)
    (h : Reached disk packages state) (hfirst : Reached disk packages first)
    (hsecond : Reached disk packages second) (hstack : first.1.stack = state.1.stack)
    (hstack' : second.1.stack = state.1.stack) (before after : List Field) :
    fieldTypes disk packages scope (before ++ after) state
        = fieldTypes disk packages scope before first
          ++ fieldTypes disk packages scope after second ∧
      ∀ field, fieldTypes disk packages scope (before ++ field :: after) state
        = fieldTypes disk packages scope before first
          ++ fieldTypes disk packages scope [field] state
          ++ fieldTypes disk packages scope after second := by
  have hbefore : fieldTypes disk packages scope before first
      = plainFields disk packages state.1.stack scope before := by
    rw [fieldTypes_of_reached hfirst hfile, hstack]
  have hafter : fieldTypes disk packages scope after second
      = plainFields disk packages state.1.stack scope after := by
    rw [fieldTypes_of_reached hsecond hfile, hstack']
  constructor
  · rw [fieldTypes_of_reached h hfile, plainFields_append, hbefore, hafter]
  · intro field
    rw [fieldTypes_of_reached h hfile, fieldTypes_of_reached h hfile, plainFields_between, hbefore,
      hafter]

/-- A file as the scope of tokens; an empty one if the disk has none there. -/
def scopeAt (disk : Disk) (path folder : Path) : Scope :=
  ⟨(disk.source? path).getD ⟨path, []⟩, folder⟩

theorem onDisk_scopeAt {path folder : Path} (h : (disk.source? path).isSome) :
    OnDisk disk (scopeAt disk path folder).file := by
  obtain ⟨file, hfile⟩ := Option.isSome_iff_exists.mp h
  simp only [scopeAt, hfile]
  exact ⟨path, hfile⟩

/-- The last state of a resolver with `depth` types on its stack when it is asked for a token; a fresh
one if there is none. -/
def stateAt (disk : Disk) (packages : PackageFinder) (path folder : Path) (token : List Char)
    (depth : Nat) : ResolverState :=
  ((ask disk packages path folder token [] {} {}).1.1.2.find? fun state =>
    state.1.stack.length == depth).getD ({}, {})

theorem reached_stateAt {path folder : Path} {token : List Char} {depth : Nat}
    (h : (disk.source? path).isSome) :
    Reached disk packages (stateAt disk packages path folder token depth) := by
  unfold stateAt
  cases hfind : (ask disk packages path folder token [] {} {}).1.1.2.find? fun state =>
      state.1.stack.length == depth with
  | none => exact .fresh
  | some state => exact .within path folder token .fresh rfl h (List.mem_of_find?_eq_some hfind)

def cyclicScope : Scope :=
  scopeAt cyclicDisk ⟨["", "m", "t.go"]⟩ ⟨["", "m"]⟩

/-- A state in which both of the structs are being expanded. -/
def cyclicMidst : ResolverState :=
  stateAt cyclicDisk ⟨fun _ _ => none⟩ ⟨["", "m", "t.go"]⟩ ⟨["", "m"]⟩ ['A'] 2

/-- A field whose type is being expanded, any other one, and one behind them. -/
theorem fields_independent_cyclic :
    Reached cyclicDisk ⟨fun _ _ => none⟩ cyclicMidst ∧ cyclicMidst.1.stack.length = 2 ∧
      OnDisk cyclicDisk cyclicScope.file ∧
      ∀ field, fieldTypes cyclicDisk ⟨fun _ _ => none⟩ cyclicScope
          ([.plain [['A']] ['*', 'A'] none] ++ field :: [.plain [['N']] ['i', 'n', 't'] none])
          cyclicMidst
        = fieldTypes cyclicDisk ⟨fun _ _ => none⟩ cyclicScope [.plain [['A']] ['*', 'A'] none]
            cyclicMidst
          ++ fieldTypes cyclicDisk ⟨fun _ _ => none⟩ cyclicScope [field] cyclicMidst
          ++ fieldTypes cyclicDisk ⟨fun _ _ => none⟩ cyclicScope
            [.plain [['N']] ['i', 'n', 't'] none] cyclicMidst := by
  have hsource : (cyclicDisk.source? ⟨["", "m", "t.go"]⟩).isSome := by decide +kernel
  have hreached : Reached cyclicDisk ⟨fun _ _ => none⟩ cyclicMidst := reached_stateAt hsource
  have hfile : OnDisk cyclicDisk cyclicScope.file := onDisk_scopeAt hsource
  refine ⟨hreached, by decide +kernel, hfile, ?_⟩
  exact (fields_independent cyclicDisk ⟨fun _ _ => none⟩ cyclicScope hfile cyclicMidst cyclicMidst
    cyclicMidst hreached hreached hreached rfl rfl _ _).2

/-! ## Embedded structs -/

/-- The token stands for a struct, directly or through other names: the scope and the fields of its
definition. -/
inductive StandsForStruct (disk : Disk) (packages : PackageFinder) :
    Scope → List Char → Scope → List Field → Prop where
  | declared {scope : Scope} {token : List Char} {folder : Path} {name : List Char}
      {file : SourceFile} {fields : List Field} : (readToken token).1 = false →
    requested? disk packages scope token = some (folder, name) →
    definitionOn? disk (disk.canonicalOrSelf folder) name = some (file, .struct fields) →
    StandsForStruct disk packages scope token ⟨file, disk.canonicalOrSelf folder⟩ fields
  | renamed {scope inner : Scope} {token other : List Char} {folder : Path} {name : List Char}
      {file : SourceFile} {fields : List Field} : (readToken token).1 = false →
    requested? disk packages scope token = some (folder, name) →
    definitionOn? disk (disk.canonicalOrSelf folder) name = some (file, .named other) →
    StandsForStruct disk packages ⟨file, disk.canonicalOrSelf folder⟩ other inner fields →
    StandsForStruct disk packages scope token inner fields

theorem requested?_own {token name : List Char} (h : (readToken token).2 = .own name) :
    requested? disk packages scope token = some (scope.folder, name) := by
  rw [requested?, h]
  rfl

theorem expandToken_of_requested {below : Path → List Char → InferredType} {token : List Char}
    {folder : Path} {name : List Char} (hsingle : (readToken token).1 = false)
    (h : requested? disk packages scope token = some (folder, name)) :
    Id.run (expandToken (plainSurroundings disk packages below) scope token)
      = below folder name := by
  have hbase : expandBase (plainSurroundings disk packages below) scope (readToken token).2
      = pure (below folder name) := by
    unfold requested? at h
    cases hread : (readToken token).2 with
    | schema type => simp [hread, requestedBy?] at h
    | shapeless => simp [hread, requestedBy?] at h
    | own other =>
      rw [hread] at h
      obtain ⟨rfl, rfl⟩ := Prod.mk.inj (Option.some.inj h)
      rfl
    | imported label other =>
      rw [hread] at h
      obtain ⟨found, hfound, hpair⟩ := Option.map_eq_some_iff.mp h
      obtain ⟨rfl, rfl⟩ := Prod.mk.inj hpair
      simp only [expandBase, plainSurroundings, bind, hfound]
      rfl
  simp only [expandToken, hbase, hsingle, pure_bind, Bool.or_false, Id.run_pure]
  cases below folder name
  rfl

/-- What a settled type names does not lead back to it, so the type around it does not matter. -/
theorem plainDeclared_below {key : TypeKey} (hsettled : Settled disk packages key) {folder : Path}
    {name : List Char} (hnames : Names disk packages key (keyOf disk folder name)) :
    plainDeclared disk packages [key] folder name = plainDeclared disk packages [] folder name :=
  plainDeclared_of_free (hsettled.inv hnames) (Free.nil.cons hsettled hnames) .nil rfl

/-- A settled struct is the object of what its fields give. -/
theorem plainDeclared_of_struct {folder : Path} {name : List Char} {file : SourceFile}
    {fields : List Field}
    (hdef : definitionOn? disk (disk.canonicalOrSelf folder) name = some (file, .struct fields))
    (hsettled : Settled disk packages (keyOf disk folder name)) :
    plainDeclared disk packages [] folder name
      = .object (plainFields disk packages [] ⟨file, disk.canonicalOrSelf folder⟩ fields) := by
  rw [plainDeclared_of_some List.not_mem_nil hdef]
  apply congrArg InferredType.object
  refine (expandFields_inStep alike (P := fun _ => True) fields ?_).1
  intro token htoken
  refine ⟨expandToken_plain_congr ?_, True.intro⟩
  intro folder' name' hrequest
  exact plainDeclared_below hsettled ⟨folder, name, file, _, rfl, hdef, token, htoken, folder',
    name', hrequest, rfl⟩

/-- What stands for a settled struct is the object of what its fields give. -/
theorem StandsForStruct.plainType {token : List Char} {inner : Scope} {fields : List Field}
    (h : StandsForStruct disk packages scope token inner fields)
    (hsettled : ∀ folder name, requested? disk packages scope token = some (folder, name) →
      Settled disk packages (keyOf disk folder name)) :
    plainType disk packages scope token
      = .object (plainFields disk packages [] inner fields) := by
  induction h with
  | declared hsingle hrequest hdef =>
    rw [Types.plainType, expandToken_of_requested hsingle hrequest]
    exact plainDeclared_of_struct hdef (hsettled _ _ hrequest)
  | @renamed scope inner token other folder name file fields hsingle hrequest hdef _ ih =>
    have hkey := hsettled folder name hrequest
    have hnames : ∀ folder' name', requested? disk packages ⟨file, disk.canonicalOrSelf folder⟩ other
        = some (folder', name') →
        Names disk packages (keyOf disk folder name) (keyOf disk folder' name') :=
      fun folder' name' hother => ⟨folder, name, file, _, rfl, hdef, other, .head _, folder', name',
        hother, rfl⟩
    rw [Types.plainType, expandToken_of_requested hsingle hrequest,
      plainDeclared_of_some List.not_mem_nil hdef,
      ← ih fun folder' name' hother => hkey.inv (hnames folder' name' hother)]
    exact expandToken_plain_congr fun folder' name' hother =>
      plainDeclared_below hkey (hnames folder' name' hother)

theorem StandsForStruct.onDisk {token : List Char} {inner : Scope} {fields : List Field}
    (h : StandsForStruct disk packages scope token inner fields) : OnDisk disk inner.file := by
  induction h with
  | declared _ _ hdef => exact onDisk_of_definitionOn? hdef
  | renamed _ _ _ _ ih => exact ih

/-- Where no cycle is cut, a token has the type that it has outside of all stacks. -/
theorem resolveType_of_uncut (h : Reached disk packages state) (hfile : OnDisk disk scope.file)
    {token : List Char}
    (huncut : (resolveType disk packages scope token state.1 state.2).1.2.cuts = state.1.cuts) :
    (∀ folder name, requested? disk packages scope token = some (folder, name) →
      Settled disk packages (keyOf disk folder name)) ∧
    Id.run (expandToken (plainSurroundings disk packages
      (plainDeclared disk packages state.1.stack)) scope token)
      = plainType disk packages scope token := by
  obtain ⟨-, hcoherent, hstack, hfinished⟩ :=
    resolveType_of_coherent (coherent_of_reached h) hfile token
  have hhas := hfinished huncut
  refine ⟨fun folder name hrequest => hcoherent.settled_of_has (hhas folder name hrequest), ?_⟩
  apply expandToken_plain_congr
  intro folder name hrequest
  have hfree := hcoherent.free (hhas folder name hrequest)
  rw [hstack] at hfree
  exact plainDeclared_of_free (hcoherent.settled_of_has (hhas folder name hrequest)) hfree .nil rfl

theorem skip_of_name?_eq_none {tag? : Option (List Char)} (h : (JsonTag.read tag?).name? = none) :
    (JsonTag.read tag?).skip = false := by
  unfold JsonTag.read at h ⊢
  cases hvalue : tag?.bind jsonValue? with
  | none => rfl
  | some value =>
    rw [hvalue] at h
    simp only [JsonTag.ofValue] at h ⊢
    cases hparts : Text.split ',' value with
    | nil => rfl
    | cons name options =>
      rw [hparts] at h
      have hempty : name = [] := by
        by_contra hne
        simp [hne] at h
      simp [hempty]

/-- What an embedded field without a name gives if its type is an object: the members, or one of an
unknown type if there are none. -/
theorem expandField_embedded {around : Surroundings Id} {type : List Char}
    {tag? : Option (List Char)} {members : List InferredType}
    (hname : (JsonTag.read tag?).name? = none)
    (htype : Id.run (expandToken around scope type) = .object members) :
    Id.run (expandField around scope (.embedded type tag?))
      = if members.isEmpty then
          [InferredType.unknown.named (String.ofList (embeddedName type))
            (!(JsonTag.read tag?).omitEmpty && !isPointer type)]
        else members := by
  have htoken : expandToken around scope type = pure (InferredType.object members) := htype
  have hnames : expandNames around scope type (JsonTag.read tag?) [embeddedName type]
      = pure [(InferredType.object members).named (String.ofList (embeddedName type))
          (!(JsonTag.read tag?).omitEmpty && !isPointer type)] := by
    simp only [expandNames, htoken, hname, pure_bind, Option.getD_none]
  simp only [expandField, skip_of_name?_eq_none hname, expandEmbedded, hname, htoken, hnames,
    pure_bind, Option.isNone_none, Bool.false_eq_true, if_true, if_false]
  cases members with
  | nil => rfl
  | cons first rest => rfl

/-- **An embedded struct is flattened if and only if it has members.** Let an embedded field without a
name stand for a struct, directly or through other names, and let no cycle be cut when its type is
resolved in a reached state. Then the type is the object of the members that a fresh resolver gives for
the fields of the struct. If there are members, the field contributes exactly these, in order, between
what the other fields give. If there are none, it still contributes one, of an unknown type, under the
name of the type. -/
theorem embedded_flattened_iff (disk : Disk) (packages : PackageFinder) (state : ResolverState)
    (h : Reached disk packages state) (scope inner : Scope) (hfile : OnDisk disk scope.file)
    (type : List Char) (tag? : Option (List Char)) (fields before after : List Field)
    (hname : (JsonTag.read tag?).name? = none)
    (hstruct : StandsForStruct disk packages scope type inner fields)
    (huncut : (resolveType disk packages scope type state.1 state.2).1.2.cuts = state.1.cuts) :
    let members := fieldTypes disk packages inner fields ({}, {})
    let given := fieldTypes disk packages scope [.embedded type tag?] state
    (resolveType disk packages scope type state.1 state.2).1.1 = .object members ∧
      fieldTypes disk packages scope (before ++ .embedded type tag? :: after) state
        = fieldTypes disk packages scope before state ++ given
          ++ fieldTypes disk packages scope after state ∧
      (given = members ↔ members ≠ []) ∧
      (members = [] → given = [InferredType.unknown.named (String.ofList (embeddedName type))
        (!(JsonTag.read tag?).omitEmpty && !isPointer type)]) := by
  intro members given
  have hmembers : members = plainFields disk packages [] inner fields :=
    fieldTypes_of_reached .fresh hstruct.onDisk fields
  obtain ⟨hsettled, houtside⟩ := resolveType_of_uncut h hfile huncut
  rw [hstruct.plainType hsettled, ← hmembers] at houtside
  have hgiven : given = if members.isEmpty then
        [InferredType.unknown.named (String.ofList (embeddedName type))
          (!(JsonTag.read tag?).omitEmpty && !isPointer type)]
      else members := by
    calc given = plainFields disk packages state.1.stack scope [.embedded type tag?] :=
          fieldTypes_of_reached h hfile _
      _ = Id.run (expandField (plainSurroundings disk packages
            (plainDeclared disk packages state.1.stack)) scope (.embedded type tag?)) ++ [] :=
          plainFields_cons _ _
      _ = _ := by rw [List.append_nil, expandField_embedded hname houtside]
  refine ⟨?_, ?_, ?_, ?_⟩
  · rw [← houtside]
    exact (resolveType_of_coherent (coherent_of_reached h) hfile type).1
  · show fieldTypes disk packages scope (before ++ .embedded type tag? :: after) state
      = fieldTypes disk packages scope before state
        ++ fieldTypes disk packages scope [.embedded type tag?] state
        ++ fieldTypes disk packages scope after state
    simp only [fieldTypes_of_reached h hfile, plainFields_between]
  · rw [hgiven]
    cases members <;> simp
  · intro hnone
    rw [hgiven, hnone]
    rfl

/-- A struct that embeds one without members that show, and another one through a name for it. -/
def embeddingDisk : Disk :=
  let source := "package m\n\ntype B struct \x7b\n\tx int\n\x7d\n"
    ++ "\ntype N struct \x7b\n\tX int\n\x7d\n\ntype O = *N\n"
    ++ "\ntype S struct \x7b\n\tB\n\tO\n\x7d\n"
  ⟨.folder [("m", .folder [("t.go", .file source.toUTF8)])], []⟩

def embeddingScope : Scope :=
  scopeAt embeddingDisk ⟨["", "m", "t.go"]⟩ ⟨["", "m"]⟩

def embeddingMidst : ResolverState :=
  stateAt embeddingDisk ⟨fun _ _ => none⟩ ⟨["", "m", "t.go"]⟩ ⟨["", "m"]⟩ ['S'] 1

def structFields? : TypeDefinition → Option (List Field)
  | .struct fields => some fields
  | _ => none

theorem exists_struct {disk : Disk} {folder : Path} {name : List Char}
    (h : ((definitionOn? disk folder name).bind fun found => structFields? found.2).isSome) :
    ∃ file fields, definitionOn? disk folder name = some (file, .struct fields) := by
  obtain ⟨fields, hfields⟩ := Option.isSome_iff_exists.mp h
  obtain ⟨⟨file, definition⟩, hfound, hstruct⟩ := Option.bind_eq_some_iff.mp hfields
  cases definition with
  | struct fields => exact ⟨file, fields, hfound⟩
  | interface => cases hstruct
  | named token => cases hstruct

def otherName? : TypeDefinition → Option (List Char)
  | .named token => some token
  | _ => none

theorem exists_named {disk : Disk} {folder : Path} {name other : List Char}
    (h : (definitionOn? disk folder name).bind (fun found => otherName? found.2) = some other) :
    ∃ file, definitionOn? disk folder name = some (file, .named other) := by
  obtain ⟨⟨file, definition⟩, hfound, hother⟩ := Option.bind_eq_some_iff.mp h
  cases definition with
  | struct fields => cases hother
  | interface => cases hother
  | named token =>
    obtain rfl := Option.some.inj hother
    exact ⟨file, hfound⟩

/-- The two embedded fields: the first one stays a member, the second one is flattened. -/
theorem embedded_flattened_iff_empty :
    Reached embeddingDisk ⟨fun _ _ => none⟩ embeddingMidst ∧ embeddingMidst.1.stack ≠ [] ∧
      (∃ inner fields,
        StandsForStruct embeddingDisk ⟨fun _ _ => none⟩ embeddingScope ['B'] inner fields ∧
        fieldTypes embeddingDisk ⟨fun _ _ => none⟩ inner fields ({}, {}) = [] ∧
        fieldTypes embeddingDisk ⟨fun _ _ => none⟩ embeddingScope [.embedded ['B'] none]
          embeddingMidst = [InferredType.unknown.named "B" true]) ∧
      ∃ inner fields,
        StandsForStruct embeddingDisk ⟨fun _ _ => none⟩ embeddingScope ['O'] inner fields ∧
        fieldTypes embeddingDisk ⟨fun _ _ => none⟩ inner fields ({}, {}) ≠ [] ∧
        fieldTypes embeddingDisk ⟨fun _ _ => none⟩ embeddingScope [.embedded ['O'] none]
          embeddingMidst = fieldTypes embeddingDisk ⟨fun _ _ => none⟩ inner fields ({}, {}) := by
  -- one evaluation for all, since each of them runs the resolver up to the state
  have hfacts :
      (embeddingDisk.source? ⟨["", "m", "t.go"]⟩).isSome ∧
        ((definitionOn? embeddingDisk (embeddingDisk.canonicalOrSelf ⟨["", "m"]⟩) ['B']).bind
          fun found => structFields? found.2).isSome ∧
        ((definitionOn? embeddingDisk (embeddingDisk.canonicalOrSelf ⟨["", "m"]⟩) ['O']).bind
          fun found => otherName? found.2) = some ['*', 'N'] ∧
        ((definitionOn? embeddingDisk
          (embeddingDisk.canonicalOrSelf (embeddingDisk.canonicalOrSelf ⟨["", "m"]⟩)) ['N']).bind
          fun found => structFields? found.2).isSome ∧
        embeddingMidst.1.stack ≠ [] ∧
        ∀ token ∈ [['B'], ['O']],
          (resolveType embeddingDisk ⟨fun _ _ => none⟩ embeddingScope token embeddingMidst.1
            embeddingMidst.2).1.2.cuts = embeddingMidst.1.cuts ∧
          ((resolveType embeddingDisk ⟨fun _ _ => none⟩ embeddingScope token embeddingMidst.1
            embeddingMidst.2).1.1.children.isEmpty ↔ token = ['B']) := by
    decide +kernel
  obtain ⟨hsource, hempty, hother, hnamed, hstack, htokens⟩ := hfacts
  have hreached : Reached embeddingDisk ⟨fun _ _ => none⟩ embeddingMidst := reached_stateAt hsource
  have hfile : OnDisk embeddingDisk embeddingScope.file := onDisk_scopeAt hsource
  refine ⟨hreached, hstack, ?_, ?_⟩
  · obtain ⟨file, fields, hdef⟩ := exists_struct hempty
    have hstruct : StandsForStruct embeddingDisk ⟨fun _ _ => none⟩ embeddingScope ['B']
        ⟨file, embeddingDisk.canonicalOrSelf ⟨["", "m"]⟩⟩ fields :=
      .declared (by decide) (requested?_own (by decide)) hdef
    obtain ⟨huncut, hchildren⟩ := htokens ['B'] (.head _)
    obtain ⟨htype, -, -, hnone⟩ := embedded_flattened_iff embeddingDisk ⟨fun _ _ => none⟩
      embeddingMidst hreached embeddingScope _ hfile ['B'] none fields [] [] rfl hstruct huncut
    rw [htype] at hchildren
    have hmembers := List.isEmpty_iff.mp (hchildren.mpr rfl)
    exact ⟨_, fields, hstruct, hmembers, hnone hmembers⟩
  · obtain ⟨file, hdef⟩ := exists_named hother
    obtain ⟨file', fields, hdef'⟩ := exists_struct hnamed
    have hstruct : StandsForStruct embeddingDisk ⟨fun _ _ => none⟩ embeddingScope ['O']
        ⟨file', embeddingDisk.canonicalOrSelf (embeddingDisk.canonicalOrSelf ⟨["", "m"]⟩)⟩ fields :=
      .renamed (by decide) (requested?_own (by decide)) hdef
        (.declared (by decide) (requested?_own (by decide)) hdef')
    obtain ⟨huncut, hchildren⟩ := htokens ['O'] (.tail _ (.head _))
    obtain ⟨htype, -, hflat, -⟩ := embedded_flattened_iff embeddingDisk ⟨fun _ _ => none⟩
      embeddingMidst hreached embeddingScope _ hfile ['O'] none fields [] [] rfl hstruct huncut
    rw [htype] at hchildren
    have hmembers : fieldTypes embeddingDisk ⟨fun _ _ => none⟩
        ⟨file', embeddingDisk.canonicalOrSelf (embeddingDisk.canonicalOrSelf ⟨["", "m"]⟩)⟩ fields
        ({}, {}) ≠ [] :=
      fun hnone => absurd (hchildren.mp (List.isEmpty_iff.mpr hnone)) (by decide)
    exact ⟨_, fields, hstruct, hmembers, hflat.mpr hmembers⟩

end RouteDoc.Types
