import RouteDoc.Proofs.RouteSources
import RouteDoc.Proofs.TwinDisks

/-!
Handlers on two disks of one shape. A handler is looked up by what the lines of files import, bind and declare, and
by the packages around them. If files at the same place answer alike (`ReadAlike`), and packages are found alike
(`PackagesAlike`), then a chain of identifiers means the same symbol on both disks (`qualify_alike`). Runs on the two
disks are compared by `Alike`: each has one answer, and the answers are related. It is carried through the functions
that look up a handler one at a time.
-/

namespace RouteDoc.Routes

open RouteDoc.Go RouteDoc.Text RouteDoc.Types

/-- Lines that answer alike to all that a handler is looked up by. -/
structure ReadAlike (lines lines' : List (List Char)) : Prop where
  imports : fileImports lines = fileImports lines'
  clause : lines.findSome? packageClause? = lines'.findSome? packageClause?
  binding : ∀ name, isIdent name = true → variableBinding? lines name = variableBinding? lines' name
  field : ∀ name, isIdent name = true → fieldBinding? lines name = fieldBinding? lines' name
  declaration : ∀ receiver? name,
    lines.find? (declares receiver? name) = lines'.find? (declares receiver? name)

theorem ReadAlike.refl (lines : List (List Char)) : ReadAlike lines lines :=
  ⟨rfl, rfl, fun _ _ => rfl, fun _ _ => rfl, fun _ _ => rfl⟩

/-- Contents that are no text, or texts whose lines without comments are read alike. -/
def BytesAlike (bytes bytes' : ByteArray) : Prop :=
  (String.fromUTF8? bytes = none ∧ String.fromUTF8? bytes' = none) ∨
    ∃ text text', String.fromUTF8? bytes = some text ∧ String.fromUTF8? bytes' = some text' ∧
      ReadAlike (Source.stripComments text.toList) (Source.stripComments text'.toList)

theorem BytesAlike.refl (bytes : ByteArray) : BytesAlike bytes bytes := by
  cases h : String.fromUTF8? bytes with
  | none => exact .inl ⟨h, h⟩
  | some text => exact .inr ⟨text, text, h, h, .refl _⟩

/-- Files at the same place of two disks that are read alike. -/
structure FilesAlike (a b : Disk) (file file' : SourceFile) : Prop where
  path : file.path = file'.path
  lines : ReadAlike file.lines file'.lines
  onDisk : OnDisk a file
  onDisk' : OnDisk b file'

/-- The two runs have one answer each, and the answers are related. -/
def Alike (a b : Disk) {α β : Type} (R : α → β → Prop) (x : Run α) (y : Run β) : Prop :=
  ∃ v w, Steady a id x v ∧ Steady b id y w ∧ R v w

variable {a b : Disk}

/-! ## Runs on two disks -/

namespace Alike

variable {α β γ δ : Type} {R : α → β → Prop} {S : γ → δ → Prop}

theorem pure {v : α} {w : β} (h : R v w) : Alike a b R (Pure.pure v) (Pure.pure w) :=
  ⟨v, w, Rerun.pure rfl rfl, Rerun.pure rfl rfl, h⟩

theorem bind {x : Run α} {y : Run β} {f : α → Run γ} {g : β → Run δ} (hxy : Alike a b R x y)
    (hfg : ∀ v w, R v w → Alike a b S (f v) (g w)) : Alike a b S (x >>= f) (y >>= g) := by
  obtain ⟨v, w, hx, hy, hR⟩ := hxy
  obtain ⟨v', w', hf, hg, hS⟩ := hfg v w hR
  refine ⟨v', w', Rerun.bind hx fun c c' hc hc' => ?_, Rerun.bind hy fun c c' hc hc' => ?_, hS⟩
  · rw [id_eq] at hc hc'
    rw [hc, hc']
    exact hf
  · rw [id_eq] at hc hc'
    rw [hc, hc']
    exact hg

theorem report_bind {level level' : Level} {text text' : String} {x : Run γ} {y : Run δ} (h : Alike a b S x y) :
    Alike a b S (do Run.report level text; x) (do Run.report level' text'; y) := by
  obtain ⟨v, w, hx, hy, hS⟩ := h
  exact ⟨v, w, Rerun.bind (Rerun.report level level text text) fun _ _ _ _ => hx,
    Rerun.bind (Rerun.report level' level' text' text') fun _ _ _ _ => hy, hS⟩

end Alike

theorem source?_twins (h : a.Twins BytesAlike b) (p : Path) :
    (a.source? p = none ∧ b.source? p = none) ∨
      ∃ file file', a.source? p = some file ∧ b.source? p = some file' ∧ FilesAlike a b file file' := by
  have hread : ∀ q, (∃ fault, a.readSource q = .error fault ∧ b.readSource q = .error fault) ∨
      ∃ lines lines', a.readSource q = .ok ⟨q, lines⟩ ∧ b.readSource q = .ok ⟨q, lines'⟩ ∧
        ReadAlike lines lines' := by
    intro q
    unfold Disk.readSource Disk.read
    rcases h.node q with ⟨fault, ha, hb⟩ | ⟨node, node', ha, hb, hnode⟩
    · rw [ha, hb]
      exact .inl ⟨fault, rfl, rfl⟩
    · rw [ha, hb]
      cases node <;> cases node'
      · rename_i bytes bytes'
        rcases hnode with ⟨hnone, hnone'⟩ | ⟨text, text', htext, htext', hlines⟩
        · simp only [hnone, hnone']
          exact .inl ⟨.notText, rfl, rfl⟩
        · simp only [htext, htext']
          exact .inr ⟨_, _, rfl, rfl, hlines⟩
      · exact hnode.elim
      · exact hnode.elim
      · exact .inl ⟨.isFolder, rfl, rfl⟩
  unfold Disk.source? SourceCache.key
  rw [h.canonicalOrSelf]
  rcases hread (b.canonicalOrSelf p) with ⟨fault, ha, hb⟩ | ⟨lines, lines', ha, hb, hlines⟩
  · rw [ha, hb]
    exact .inl ⟨rfl, rfl⟩
  · rw [ha, hb]
    refine .inr ⟨_, _, rfl, rfl, rfl, hlines, ⟨p, ?_⟩, ⟨p, ?_⟩⟩
    · unfold Disk.source? SourceCache.key
      rw [h.canonicalOrSelf, ha]
      rfl
    · unfold Disk.source? SourceCache.key
      rw [hb]
      rfl

theorem Alike.load_some {γ δ : Type} {S : γ → δ → Prop} {p p' : Path} {file file' : SourceFile}
    {f : Except Error SourceFile → Run γ} {g : Except Error SourceFile → Run δ} (hfile : a.source? p = some file)
    (hfile' : b.source? p' = some file') (hp : a.Unmistaken p) (hp' : b.Unmistaken p')
    (h : Alike a b S (f (.ok file)) (g (.ok file'))) : Alike a b S (load a p >>= f) (load b p' >>= g) := by
  obtain ⟨v, w, hv, hw, hS⟩ := h
  refine ⟨v, w, Rerun.bind_except (Rerun.load hp) (fun other hother => ?_) (fun e e' hnone => ?_),
    Rerun.bind_except (Rerun.load hp') (fun other hother => ?_) (fun e e' hnone => ?_), hS⟩
  · rw [hfile] at hother
    rw [← Option.some.inj hother]
    exact hv
  · rw [hfile] at hnone
    cases hnone
  · rw [hfile'] at hother
    rw [← Option.some.inj hother]
    exact hw
  · rw [hfile'] at hnone
    cases hnone

/-- Nothing is loaded on either disk, and something else is done without it, perhaps after a warning. -/
theorem Alike.load_none {γ δ : Type} {S : γ → δ → Prop} {p p' : Path} {f : Except Error SourceFile → Run γ}
    {g : Except Error SourceFile → Run δ} {x : Run γ} {y : Run δ} (hnone : a.source? p = none)
    (hnone' : b.source? p' = none) (hp : a.Unmistaken p) (hp' : b.Unmistaken p') (hxy : Alike a b S x y)
    (hf : (∀ e, f (.error e) = x) ∨ ∃ text : Error → String, ∀ e, f (.error e) = do Run.warn (text e); x)
    (hg : (∀ e, g (.error e) = y) ∨ ∃ text : Error → String, ∀ e, g (.error e) = do Run.warn (text e); y) :
    Alike a b S (load a p >>= f) (load b p' >>= g) := by
  obtain ⟨v, w, hx, hy, hS⟩ := hxy
  refine ⟨v, w, Rerun.bind_except (Rerun.load hp) (fun other hother => ?_) (fun e e' _ => ?_),
    Rerun.bind_except (Rerun.load hp') (fun other hother => ?_) (fun e e' _ => ?_), hS⟩
  · rw [hnone] at hother
    cases hother
  · rcases hf with hsame | ⟨text, hwarn⟩
    · rw [hsame e, hsame e']
      exact hx
    · rw [hwarn e, hwarn e']
      exact Rerun.warn_bind hx
  · rw [hnone'] at hother
    cases hother
  · rcases hg with hsame | ⟨text, hwarn⟩
    · rw [hsame e, hsame e']
      exact hy
    · rw [hwarn e, hwarn e']
      exact Rerun.warn_bind hy

/-- Paths under which files are loaded that are alike, or nothing is on either disk. -/
structure PathsAlike (a b : Disk) (p p' : Path) : Prop where
  sure : a.Unmistaken p
  sure' : b.Unmistaken p'
  source : (a.source? p = none ∧ b.source? p' = none) ∨
    ∃ file file', a.source? p = some file ∧ b.source? p' = some file' ∧ FilesAlike a b file file'

theorem pathsAlike_of_twins (h : a.Twins BytesAlike b) {p : Path} (hp : a.Unmistaken p ∧ b.Unmistaken p) :
    PathsAlike a b p p :=
  ⟨hp.1, hp.2, source?_twins h p⟩

/-- A file is loaded on both disks, or something else is done without it on both. -/
theorem PathsAlike.load_bind {γ δ : Type} {S : γ → δ → Prop} {p p' : Path} (hpaths : PathsAlike a b p p')
    {f : Except Error SourceFile → Run γ} {g : Except Error SourceFile → Run δ} {x : Run γ} {y : Run δ}
    (hok : ∀ file file', FilesAlike a b file file' → Alike a b S (f (.ok file)) (g (.ok file')))
    (hxy : Alike a b S x y) (hf : ∀ e, f (.error e) = x) (hg : ∀ e, g (.error e) = y) :
    Alike a b S (load a p >>= f) (load b p' >>= g) := by
  rcases hpaths.source with ⟨hnone, hnone'⟩ | ⟨file, file', hsource, hsource', hfiles⟩
  · exact Alike.load_none hnone hnone' hpaths.sure hpaths.sure' hxy (.inl hf) (.inl hg)
  · exact Alike.load_some hsource hsource' hpaths.sure hpaths.sure' (hok file file' hfiles)

/-! ## What a package is asked for -/

theorem siblings_twins {R : ByteArray → ByteArray → Prop} (h : a.Twins R b) (file : Path) :
    siblings a file = siblings b file := by
  have hfiles : a.packageFiles = b.packageFiles := funext h.packageFiles
  simp only [siblings, hfiles, h.sameFile]

/-- The files of the package around files that are alike can be asked for on both disks. -/
theorem FilesAlike.pathsAlike {file file' : SourceFile} (hfiles : FilesAlike a b file file')
    (h : a.Twins BytesAlike b) : ∀ path ∈ file.path :: siblings a file.path, PathsAlike a b path path := by
  intro path hpath
  apply pathsAlike_of_twins h
  refine ⟨unmistaken_package hfiles.onDisk path hpath, ?_⟩
  rw [siblings_twins h, hfiles.path] at hpath
  exact unmistaken_package hfiles.onDisk' path hpath

theorem firstAnswer_alike {α β : Type} {R : α → β → Prop} {ask : SourceFile → Option α}
    {ask' : SourceFile → Option β}
    (hask : ∀ file file', FilesAlike a b file file' → Option.Rel R (ask file) (ask' file')) {files files' : List Path}
    (hfiles : List.Forall₂ (PathsAlike a b) files files') :
    Alike a b (Option.Rel R) (firstAnswer a ask files) (firstAnswer b ask' files') := by
  induction hfiles with
  | nil => exact Alike.pure .none
  | cons hpath hfiles hrest =>
    refine hpath.load_bind (fun file file' halike => ?_) hrest (fun _ => rfl) (fun _ => rfl)
    have hanswer := hask file file' halike
    dsimp only
    generalize ask file = answer, ask' file' = answer' at hanswer
    cases hanswer with
    | none => exact hrest
    | some hR => exact Alike.pure (.some hR)

theorem find?_eq_findIdx? (p : List Char → Bool) (lines : List (List Char)) :
    lines.find? p = (lines.findIdx? p).map fun index => lines.getD index [] := by
  induction lines with
  | nil => rfl
  | cons line lines ih =>
    rw [List.find?_cons, List.findIdx?_cons]
    cases p line with
    | true => simp
    | false => simp [ih, Function.comp_def]

theorem isSome_findFunction {lines lines' : List (List Char)} (h : ReadAlike lines lines')
    (receiver? : Option (List Char)) (name : List Char) :
    (findFunction lines receiver? name).isSome = (findFunction lines' receiver? name).isSome := by
  have hline := congrArg Option.isSome (h.declaration receiver? name)
  rwa [find?_eq_findIdx?, find?_eq_findIdx?, Option.isSome_map, Option.isSome_map] at hline

theorem searchSiblings_alike (receiver? : Option (List Char)) (name : List Char) {files : List Path}
    (hfiles : ∀ path ∈ files, PathsAlike a b path path) :
    Alike a b Eq (findInPackage.searchSiblings a receiver? name files)
      (findInPackage.searchSiblings b receiver? name files) := by
  induction files with
  | nil => exact Alike.pure rfl
  | cons path files ih =>
    have hrest := ih fun other hother => hfiles other (by simp [hother])
    refine (hfiles path (by simp)).load_bind (fun file file' halike => ?_) hrest (fun _ => rfl) (fun _ => rfl)
    dsimp only
    rw [isSome_findFunction halike.lines]
    split
    · exact Alike.pure rfl
    · exact hrest

theorem findInPackage_alike (h : a.Twins BytesAlike b) {file file' : SourceFile}
    (hfiles : FilesAlike a b file file') (receiver? : Option (List Char)) (name : List Char) :
    Alike a b Eq (findInPackage a file receiver? name) (findInPackage b file' receiver? name) := by
  have hpaths := hfiles.pathsAlike h
  unfold findInPackage
  rw [isSome_findFunction hfiles.lines, ← siblings_twins h, ← hfiles.path]
  split
  · exact Alike.pure rfl
  · exact searchSiblings_alike receiver? name fun path hpath => hpaths path (by simp [hpath])

/-! ## Handlers -/

/-- Contexts of files that are alike, with the same imports and package. -/
structure ContextsAlike (a b : Disk) (ctx ctx' : FileContext) : Prop where
  file : FilesAlike a b ctx.file ctx'.file
  imports : ctx.imports = ctx'.imports
  package : ctx.package = ctx'.package

/-- Chains of locators that find packages alike on disks of one shape: a file is in a package of the same import path,
and the files of an import path are alike. -/
structure PackagesAlike (a b : Disk) (packages packages' : Packages) : Prop where
  twins : a.Twins BytesAlike b
  importPath : ∀ file, OnDisk a file →
    file.path.parent?.bind (packages.importPath? a) = file.path.parent?.bind (packages'.importPath? b)
  files : ∀ importPath, Option.Rel (List.Forall₂ (PathsAlike a b)) (packages.files a importPath).toOption
    (packages'.files b importPath).toOption

variable {packages packages' : Packages} {ctx ctx' : FileContext}

theorem contextsAlike_of {file file' : SourceFile} (h : PackagesAlike a b packages packages')
    (hfiles : FilesAlike a b file file') : ContextsAlike a b (.of a packages file) (.of b packages' file') := by
  have himport := h.importPath file hfiles.onDisk
  rw [hfiles.path] at himport
  refine ⟨hfiles, hfiles.lines.imports, ?_⟩
  simp only [FileContext.of, hfiles.path, himport, hfiles.lines.clause]

theorem ContextsAlike.packageOf? (hctx : ContextsAlike a b ctx ctx') (label? : Option (List Char)) :
    Routes.packageOf? ctx label? = Routes.packageOf? ctx' label? := by
  cases label? with
  | none => simp [Routes.packageOf?, hctx.package]
  | some label => simp [Routes.packageOf?, hctx.imports]

theorem declaredResult_alike {file file' : SourceFile} (h : ReadAlike file.lines file'.lines) (package : String)
    (function : List Char) : declaredResult package function file = declaredResult package function file' := by
  have hline := h.declaration none function
  rw [find?_eq_findIdx?, find?_eq_findIdx?] at hline
  unfold declaredResult findFunction
  cases hindex : file.lines.findIdx? (declares none function) with
  | none =>
    rw [hindex] at hline
    rw [Option.map_eq_none_iff.mp hline.symm]
  | some index =>
    rw [hindex, Option.map_some] at hline
    obtain ⟨index', hindex', heq⟩ := Option.map_eq_some_iff.mp hline.symm
    rw [hindex']
    dsimp only
    rw [h.imports, heq]

theorem constructorResult_alike (h : PackagesAlike a b packages packages') (hctx : ContextsAlike a b ctx ctx')
    (package : String) (function : List Char) :
    Alike a b Eq (constructorResult a packages ctx package function)
      (constructorResult b packages' ctx' package function) := by
  have hask : ∀ files files', List.Forall₂ (PathsAlike a b) files files' →
      Alike a b Eq (do return (← firstAnswer a (declaredResult package function) files).join)
        (do return (← firstAnswer b (declaredResult package function) files').join) := by
    intro files files' hfiles
    have hfirst : Alike a b (Option.Rel Eq) (firstAnswer a (declaredResult package function) files)
        (firstAnswer b (declaredResult package function) files') := by
      refine firstAnswer_alike (fun file file' halike => ?_) hfiles
      rw [declaredResult_alike halike.lines]
      cases declaredResult package function file' with
      | none => exact .none
      | some answer => exact .some rfl
    refine Alike.bind hfirst fun answer answer' hanswer => ?_
    cases hanswer with
    | none => exact Alike.pure rfl
    | some heq => exact Alike.pure (by rw [heq])
  unfold constructorResult
  rw [← hctx.package, ← hctx.file.path, ← siblings_twins h.twins]
  by_cases hown : package = ctx.package
  · simp only [hown, if_true]
    exact hown ▸ hask _ _ (List.forall₂_same.mpr (hctx.file.pathsAlike h.twins))
  · simp only [hown, if_false]
    have hfiles := h.files package
    generalize (packages.files a package).toOption = files?, (packages'.files b package).toOption = files?' at hfiles
    cases hfiles with
    | none => exact Alike.pure rfl
    | some hfiles => exact hask _ _ hfiles

theorem bindingType_alike (h : PackagesAlike a b packages packages') (hctx : ContextsAlike a b ctx ctx')
    (binding : Binding) :
    Alike a b Eq (bindingType a packages ctx binding) (bindingType b packages' ctx' binding) := by
  cases binding with
  | type name => exact Alike.pure (by rw [hctx.packageOf?])
  | call function =>
    unfold bindingType
    dsimp only
    rw [← hctx.packageOf?]
    cases packageOf? ctx function.alias? with
    | none => exact Alike.pure rfl
    | some package =>
      refine Alike.bind (constructorResult_alike h hctx package function.name) fun type type' htype => ?_
      subst htype
      cases type with
      | some type => exact Alike.pure rfl
      | none => exact Alike.pure rfl

theorem boundType_alike (h : PackagesAlike a b packages packages') (hctx : ContextsAlike a b ctx ctx')
    {owner : List (List Char)} (howner : ∀ name ∈ owner, isIdent name = true) :
    Alike a b Eq (boundType a packages ctx owner) (boundType b packages' ctx' owner) := by
  match owner with
  | [] => exact Alike.pure rfl
  | [owner] =>
    unfold boundType
    dsimp only
    rw [hctx.file.lines.binding owner (howner owner (by simp))]
    cases variableBinding? ctx'.file.lines owner with
    | some binding => exact bindingType_alike h hctx binding
    | none => exact Alike.pure rfl
  | _ :: next :: rest =>
    have hfield : isIdent ((next :: rest).getLast?.getD []) = true := by
      rw [List.getLast?_eq_some_getLast (List.cons_ne_nil next rest), Option.getD_some]
      exact howner _ (List.mem_cons_of_mem _ (List.getLast_mem _))
    unfold boundType
    dsimp only
    rw [← hctx.file.path, ← siblings_twins h.twins]
    -- the owner's field may be declared in another file of the package, and is read in that file
    refine Alike.bind (firstAnswer_alike (R := fun found found' => FilesAlike a b found.1 found'.1 ∧
      found.2 = found'.2) (fun file file' halike => ?_) (List.forall₂_same.mpr (hctx.file.pathsAlike h.twins)))
      fun found found' hfound => ?_
    · rw [halike.lines.field _ hfield]
      cases fieldBinding? file'.lines ((next :: rest).getLast?.getD []) with
      | none => exact .none
      | some type => exact .some ⟨halike, rfl⟩
    · cases hfound with
      | none => exact Alike.pure rfl
      | some hpair =>
        rename_i found found'
        obtain ⟨file, type⟩ := found
        obtain ⟨file', type'⟩ := found'
        obtain ⟨halike, htype⟩ := hpair
        dsimp only at halike htype ⊢
        rw [← htype, ← halike.path, ← h.twins.sameFile]
        apply bindingType_alike h
        split
        · exact hctx
        · exact contextsAlike_of h halike

theorem attachFile_alike (h : a.Twins BytesAlike b) (hctx : ContextsAlike a b ctx ctx')
    (receiver? : Option (List Char)) (name : List Char) (symbol : Symbol) :
    Alike a b Eq (attachFile a ctx receiver? name symbol) (attachFile b ctx' receiver? name symbol) := by
  refine Alike.bind (findInPackage_alike h hctx.file receiver? name) fun found found' hfound => ?_
  exact Alike.pure (by rw [hfound])

theorem qualify_alike (h : PackagesAlike a b packages packages') (hctx : ContextsAlike a b ctx ctx') {chain : List Char}
    (hchain : isChain chain = true) :
    Alike a b Eq (qualify a packages ctx chain) (qualify b packages' ctx' chain) := by
  have howner : ∀ name ∈ (split '.' chain).dropLast, isIdent name = true :=
    fun name hname => List.all_eq_true.mp hchain name (List.dropLast_subset _ hname)
  unfold qualify
  rw [← hctx.imports, ← hctx.package]
  dsimp only
  split
  · exact Alike.pure rfl
  · refine Alike.bind (boundType_alike h hctx howner) fun type type' htype => ?_
    subst htype
    cases type with
    | none => exact attachFile_alike h.twins hctx none _ _
    | some type =>
      dsimp only
      split
      · exact attachFile_alike h.twins hctx (some type.name) _ _
      · exact Alike.pure rfl

theorem qualifyHandler_alike (h : PackagesAlike a b packages packages') (hctx : ContextsAlike a b ctx ctx')
    {expr : HandlerExpr} (hexpr : ∀ chain ∈ expr.chains, isChain chain = true) :
    Alike a b Eq (qualifyHandler a packages ctx expr) (qualifyHandler b packages' ctx' expr) := by
  cases expr with
  | func chain =>
    refine Alike.bind (qualify_alike h hctx (hexpr chain (by simp [HandlerExpr.chains])))
      fun symbol symbol' hsymbol => ?_
    exact Alike.pure (by rw [hsymbol])
  | kit decoder endpoint =>
    refine Alike.bind (qualify_alike h hctx (hexpr decoder (by simp [HandlerExpr.chains])))
      fun first first' hfirst => ?_
    refine Alike.bind (qualify_alike h hctx (hexpr endpoint (by simp [HandlerExpr.chains])))
      fun second second' hsecond => ?_
    exact Alike.pure (by rw [hfirst, hsecond])

end RouteDoc.Routes
