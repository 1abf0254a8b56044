import RouteDoc.Proofs.ReadNames
import RouteDoc.Proofs.RouteHolders
import RouteDoc.Routes.Manifest
import RouteDoc.Routes.Mux

/-!
Handlers and tables that come from the sources. Looking a handler up in the sources finds it at one
place, whatever was loaded before (`Generator.placed_ofSources`), as long as the file that a symbol
names itself is spelled without a slash or dot behind it. A manifest is listed without the cache at all
(`manifestTable_steady`). The registrations of a project are read file by file through the cache, and
every file they name for a handler belongs to the package of a file of the project (`muxTable_settles`).
-/

namespace RouteDoc

open RouteDoc.Types RouteDoc.Text

theorem Types.OnDisk.unmistaken {disk : Disk} {file : SourceFile} (h : OnDisk disk file) :
    disk.Unmistaken file.path := by
  obtain ⟨p, hp⟩ := h
  obtain ⟨names, bytes, text, hl, -, -, rfl⟩ := bytes_of_source? hp
  exact .inl ⟨names, Disk.locate_ofNames (Disk.located_of_locate hl)⟩

theorem Packages.unmistaken_files {packages : Packages} {disk : Disk} {importPath : String}
    {files : List Path} (h : packages.files disk importPath = .ok files) :
    ∀ path ∈ files, disk.Unmistaken path := by
  intro path hpath
  unfold Packages.files at h
  cases hfolder : packages.folder? disk importPath with
  | none => simp [hfolder] at h
  | some folder =>
    cases hlisted : disk.packageFiles folder with
    | error why => simp [hfolder, hlisted] at h
    | ok listed =>
      simp only [hfolder, hlisted, Except.ok.injEq] at h
      rw [← h] at hpath
      exact .inl (locate_of_packageFiles hlisted hpath)

namespace Handler

variable {disk : Disk} {packages : Packages} {symbol : Symbol}

/-- The first declaration among the given files, without a cache; nothing if the file that the symbol
names cannot be loaded. -/
def plainSearch (disk : Disk) (symbol : Symbol) (parts : SymbolParts) :
    List Path → Option (Option Location)
  | [] => some none
  | file :: files =>
    match disk.source? file with
    | none => if symbol.file?.isSome then none else plainSearch disk symbol parts files
    | some source =>
      match Go.findFunction source.lines parts.receiver? parts.name with
      | some index => some (some ⟨symbol.text, source.path, index + 1⟩)
      | none => plainSearch disk symbol parts files

def plainPlace (disk : Disk) (packages : Packages) (symbol : Symbol) : Option Location :=
  if symbol.parts.name.isEmpty then none
  else match candidates disk packages symbol symbol.parts with
    | .error _ => none
    | .ok files => (plainSearch disk symbol symbol.parts files).join

theorem searchFiles_steady (symbol : Symbol) (parts : SymbolParts) {files : List Path}
    (h : ∀ file ∈ files, disk.Unmistaken file) :
    Steady disk Except.toOption (searchFiles disk symbol parts files)
      (plainSearch disk symbol parts files) := by
  induction files with
  | nil => exact Rerun.pure rfl rfl
  | cons file files ih =>
    have hrest := ih fun other hother => h other (by simp [hother])
    unfold plainSearch
    refine Rerun.bind_except (Rerun.load (h file (by simp))) (fun source hsource => ?_)
      (fun e e' hnone => ?_)
    · rw [hsource]
      dsimp only
      cases Go.findFunction source.lines parts.receiver? parts.name with
      | some index => exact Rerun.pure rfl rfl
      | none => exact hrest
    · rw [hnone]
      dsimp only
      by_cases hown : symbol.file?.isSome
      · simp only [hown, if_true]
        exact Rerun.pure rfl rfl
      · simp only [hown, Bool.false_eq_true, if_false]
        exact Rerun.warn_bind hrest

/-- A symbol is sought in the file that it names, or in the listed files of a folder. -/
theorem unmistaken_candidates {files : List Path}
    (hown : ∀ file, symbol.file? = some file → disk.Unmistaken file)
    (h : candidates disk packages symbol symbol.parts = .ok files) :
    ∀ file ∈ files, disk.Unmistaken file := by
  unfold candidates at h
  cases hfile : symbol.file? with
  | some file =>
    rw [hfile] at h
    intro path hpath
    rw [← Except.ok.inj h, List.mem_singleton] at hpath
    rw [hpath]
    exact hown file hfile
  | none =>
    cases hfiles : packages.files disk (String.ofList symbol.parts.package) with
    | error e => simp [hfile, hfiles] at h
    | ok listed =>
      simp only [hfile, hfiles, Except.ok.injEq] at h
      rw [← h]
      exact Packages.unmistaken_files hfiles

theorem locate_steady (hown : ∀ file, symbol.file? = some file → disk.Unmistaken file) :
    Steady disk Except.toOption (locate disk packages symbol) (plainPlace disk packages symbol) := by
  unfold locate plainPlace
  by_cases hname : symbol.parts.name.isEmpty
  · simp only [hname, if_true]
    exact Rerun.pure rfl rfl
  · simp only [hname, Bool.false_eq_true, if_false]
    cases hfiles : candidates disk packages symbol symbol.parts with
    | error e => exact Rerun.pure rfl rfl
    | ok files =>
      have hsearch := searchFiles_steady symbol symbol.parts (unmistaken_candidates hown hfiles)
      refine Rerun.bind_except hsearch (fun found hfound => ?_) (fun e e' hnone => ?_)
      · dsimp only
        rw [hfound]
        cases found with
        | some location => exact Rerun.pure rfl rfl
        | none => exact Rerun.pure rfl rfl
      · dsimp only
        rw [hnone]
        exact Rerun.pure rfl rfl

theorem onDisk_of_plainSearch {parts : SymbolParts} {files : List Path} {location : Location}
    (h : plainSearch disk symbol parts files = some (some location)) :
    ∃ file, OnDisk disk file ∧ location.file = file.path := by
  fun_induction plainSearch disk symbol parts files with
  | case1 => cases h
  | case2 file files hsource hown => cases h
  | case3 file files hsource hown ih => exact ih h
  | case4 file files source hsource index hindex =>
    cases h
    exact ⟨source, ⟨file, hsource⟩, rfl⟩
  | case5 file files source hsource hnone ih => exact ih h

end Handler

/-- Handlers in the sources are placed, unless their symbols name files in a way that leads nowhere. -/
theorem Generator.placed_ofSources {disk : Disk} {packages : Packages} {symbol : Symbol}
    (hown : ∀ file, symbol.file? = some file → disk.Unmistaken file) :
    (Generator.ofSources disk packages).Placed symbol
      (Handler.plainPlace disk packages symbol) := by
  refine ⟨Handler.locate_steady hown, fun location hplace => ?_⟩
  unfold Handler.plainPlace at hplace
  split at hplace
  · cases hplace
  · split at hplace
    · cases hplace
    · rename_i files hfiles
      have hfound := Option.join_eq_some_iff.mp hplace
      obtain ⟨file, hfile, hpath⟩ := Handler.onDisk_of_plainSearch hfound
      rw [hpath]
      exact hfile.unmistaken

/-! ## Tables -/

namespace Routes

/-- A step with one answer, which has a property, and which reads the disk on the first time only. -/
def Settles (disk : Disk) {α : Type} (x : Run α) (P : α → Prop) : Prop :=
  ∃ v, Steady disk id x v ∧ P v

namespace Settles

variable {disk : Disk} {α β : Type} {P : α → Prop} {Q : β → Prop}

theorem pure {a : α} (h : P a) : Settles disk (Pure.pure a) P :=
  ⟨a, Rerun.pure rfl rfl, h⟩

theorem mono {P' : α → Prop} {x : Run α} (h : Settles disk x P) (himp : ∀ a, P a → P' a) :
    Settles disk x P' := by
  obtain ⟨v, hv, hP⟩ := h
  exact ⟨v, hv, himp v hP⟩

theorem bind {x : Run α} {f : α → Run β} (hx : Settles disk x P)
    (hf : ∀ a, P a → Settles disk (f a) Q) : Settles disk (x >>= f) Q := by
  obtain ⟨v, hv, hP⟩ := hx
  obtain ⟨w, hw, hQ⟩ := hf v hP
  refine ⟨w, Rerun.bind hv fun a a' ha ha' => ?_, hQ⟩
  rw [id_eq] at ha ha'
  rw [ha, ha']
  exact hw

theorem report_bind {level : Level} {text : String} {x : Run β} (hx : Settles disk x Q) :
    Settles disk (do Run.report level text; x) Q := by
  obtain ⟨w, hw, hQ⟩ := hx
  exact ⟨w, Rerun.bind (Rerun.report level level text text) fun _ _ _ _ => hw, hQ⟩

/-- A file is loaded, and something else is done without it, perhaps after a warning. -/
theorem load_bind {p : Path} {f : Except Error SourceFile → Run β} {x : Run β}
    (hp : disk.Unmistaken p) (hok : ∀ file, disk.source? p = some file → Settles disk (f (.ok file)) Q)
    (hx : Settles disk x Q)
    (herror : (∀ e, f (.error e) = x) ∨ ∃ text : Error → String, ∀ e,
      f (.error e) = do Run.warn (text e); x) :
    Settles disk (load disk p >>= f) Q := by
  cases hsource : disk.source? p with
  | some file =>
    obtain ⟨w, hw, hQ⟩ := hok file hsource
    refine ⟨w, Rerun.bind_except (Rerun.load hp) (fun other hother => ?_) (fun e e' hnone => ?_), hQ⟩
    · rw [hsource] at hother
      rw [← Option.some.inj hother]
      exact hw
    · rw [hsource] at hnone
      cases hnone
  | none =>
    obtain ⟨w, hw, hQ⟩ := hx
    refine ⟨w, Rerun.bind_except (Rerun.load hp) (fun other hother => ?_) (fun e e' _ => ?_), hQ⟩
    · rw [hsource] at hother
      cases hother
    · rcases herror with hsame | ⟨text, hwarn⟩
      · rw [hsame e, hsame e']
        exact hw
      · rw [hwarn e, hwarn e']
        exact Rerun.warn_bind hw

end Settles

/-- The file that a symbol names, if it names one, is not taken for another. -/
def Sure (disk : Disk) (symbol : Symbol) : Prop :=
  ∀ file, symbol.file? = some file → disk.Unmistaken file

variable {disk : Disk} {packages : Packages}

/-- A manifest gives one answer, and loads nothing. -/
theorem manifestTable_steady (disk : Disk) (path : Path) :
    Steady disk id (manifestTable disk path) (manifestTable disk path {}).1 := by
  unfold manifestTable
  cases disk.read path with
  | error why => exact Rerun.pure rfl rfl
  | ok text =>
    dsimp only
    cases readManifest? path text with
    | none => exact Rerun.pure rfl rfl
    | some routes =>
      dsimp only
      cases manifestEntries path 0 routes with
      | error e => exact Rerun.pure rfl rfl
      | ok entries =>
        exact Rerun.bind (Rerun.report _ _ _ _) fun _ _ _ _ => Rerun.pure rfl rfl

theorem unmistaken_siblings {file path : Path} (h : path ∈ siblings disk file) :
    disk.Unmistaken path := by
  unfold siblings at h
  split at h
  · rename_i files hfiles
    obtain ⟨folder, -, hlisted⟩ := Option.map_eq_some_iff.mp hfiles
    exact .inl (locate_of_packageFiles hlisted (List.mem_filter.mp h).1)
  · cases h

theorem firstAnswer_settles {α : Type} {ask : SourceFile → Option α} {P : Option α → Prop}
    {files : List Path} (hfiles : ∀ path ∈ files, disk.Unmistaken path) (hnone : P none)
    (h : ∀ file, OnDisk disk file → P (ask file)) :
    Settles disk (firstAnswer disk ask files) P := by
  induction files with
  | nil => exact Settles.pure hnone
  | cons path files ih =>
    have hrest := ih fun other hother => hfiles other (by simp [hother])
    refine Settles.load_bind (hfiles path (by simp)) (fun file hfile => ?_) hrest
      (.inl fun _ => rfl)
    dsimp only
    cases hask : ask file with
    | some answer => exact Settles.pure (hask ▸ h file ⟨path, hfile⟩)
    | none => exact hrest

theorem searchSiblings_settles {receiver? : Option (List Char)} {name : List Char}
    {files : List Path} (hfiles : ∀ path ∈ files, disk.Unmistaken path) :
    Settles disk (findInPackage.searchSiblings disk receiver? name files)
      (fun found => ∀ path ∈ found, path ∈ files) := by
  induction files with
  | nil => exact Settles.pure fun _ h => by cases h
  | cons path files ih =>
    have hrest : Settles disk (findInPackage.searchSiblings disk receiver? name files)
        (fun found => ∀ other ∈ found, other ∈ path :: files) :=
      (ih fun other hother => hfiles other (by simp [hother])).mono fun found hfound other hother =>
        List.mem_cons_of_mem path (hfound other hother)
    refine Settles.load_bind (hfiles path (by simp)) (fun file _ => ?_) hrest (.inl fun _ => rfl)
    dsimp only
    split
    · apply Settles.pure
      intro other hother
      cases hother
      exact List.mem_cons_self
    · exact hrest

/-- A declaration is sought in the file and its siblings only. -/
theorem findInPackage_settles (file : SourceFile) (receiver? : Option (List Char)) (name : List Char) :
    Settles disk (findInPackage disk file receiver? name)
      (fun found => ∀ path ∈ found, path ∈ file.path :: siblings disk file.path) := by
  unfold findInPackage
  split
  · apply Settles.pure
    intro path hpath
    cases hpath
    exact List.mem_cons_self
  · exact (searchSiblings_settles fun path hpath => unmistaken_siblings hpath).mono
      fun found hfound path hpath => List.mem_cons_of_mem _ (hfound path hpath)

/-- The file of a handler and its siblings can be asked for. -/
theorem unmistaken_package {file : SourceFile} (hfile : OnDisk disk file) :
    ∀ path ∈ file.path :: siblings disk file.path, disk.Unmistaken path := by
  intro path hpath
  rcases List.mem_cons.mp hpath with rfl | hpath
  · exact hfile.unmistaken
  · exact unmistaken_siblings hpath

theorem constructorResult_settles {ctx : FileContext} (hctx : OnDisk disk ctx.file)
    (package : String) (function : List Char) :
    Settles disk (constructorResult disk packages ctx package function)
      (fun found => ∀ type ∈ found, Worded type.name) := by
  have hask : ∀ files, (∀ path ∈ files, disk.Unmistaken path) →
      Settles disk (do return (← firstAnswer disk (declaredResult package function) files).join)
        (fun found => ∀ type ∈ found, Worded type.name) := by
    intro files hfiles
    have hnone : ∀ type ∈ (none : Option (Option BoundType)).join, Worded type.name :=
      fun _ h => by cases h
    exact Settles.bind
      (firstAnswer_settles hfiles hnone fun file _ => declaredResult_worded package function file)
      fun _ hword => Settles.pure hword
  unfold constructorResult
  by_cases hown : package = ctx.package
  · simp only [hown, if_true]
    exact hown ▸ hask _ (unmistaken_package hctx)
  · simp only [hown, if_false]
    cases hfiles : packages.files disk package with
    | error e => exact Settles.pure fun _ h => by cases h
    | ok files => exact hask files (Packages.unmistaken_files hfiles)

theorem bindingType_settles {ctx : FileContext} (hctx : OnDisk disk ctx.file) {binding : Go.Binding}
    (hword : Worded binding.qualifiedName.name) :
    Settles disk (bindingType disk packages ctx binding) (fun found => ∀ type ∈ found, Worded type.name) := by
  cases binding with
  | type name =>
    apply Settles.pure
    intro type htype
    obtain ⟨package, -, rfl⟩ := Option.map_eq_some_iff.mp htype
    exact hword
  | call function =>
    unfold bindingType
    dsimp only
    cases packageOf? ctx function.alias? with
    | none => exact Settles.pure fun _ h => by cases h
    | some package =>
      refine Settles.bind (constructorResult_settles hctx package function.name) fun found hfound => ?_
      cases found with
      | some type => exact Settles.pure hfound
      | none => exact Settles.pure (promisedType?_worded package hword)

theorem boundType_settles {ctx : FileContext} (hctx : OnDisk disk ctx.file)
    (owner : List (List Char)) :
    Settles disk (boundType disk packages ctx owner) (fun found => ∀ type ∈ found, Worded type.name) := by
  match owner with
  | [] => exact Settles.pure fun _ h => by cases h
  | [owner] =>
    unfold boundType
    dsimp only
    cases hbinding : Go.variableBinding? ctx.file.lines owner with
    | some binding => exact bindingType_settles hctx (Go.variableBinding?_worded _ _ binding hbinding)
    | none => exact Settles.pure fun _ h => by cases h
  | _ :: next :: rest =>
    unfold boundType
    -- the owner's field may be declared in another file of the package, and is read in that file
    refine Settles.bind
      (P := fun found => ∀ file type, found = some (file, type) → OnDisk disk file ∧ Worded type.name)
      (firstAnswer_settles (unmistaken_package hctx) (fun _ _ h => by cases h) ?_) ?_
    · intro file hfile other type hfound
      obtain ⟨found, hfield, hpair⟩ := Option.map_eq_some_iff.mp hfound
      cases hpair
      exact ⟨hfile, Go.fieldBinding?_worded _ _ type hfield⟩
    · intro found hfound
      cases found with
      | none => exact Settles.pure fun _ h => by cases h
      | some pair =>
        obtain ⟨file, type⟩ := pair
        obtain ⟨hfile, hword⟩ := hfound file type rfl
        dsimp only
        refine bindingType_settles ?_ hword
        split
        · exact hctx
        · exact hfile

/-- The symbol is at home in the package of a file. If it names a file, that is the file itself or one
beside it, and the symbol is spelled with the import path of the package. -/
def AtHome (disk : Disk) (ctx : FileContext) (symbol : Symbol) : Prop :=
  ∀ path ∈ symbol.file?, path ∈ ctx.file.path :: siblings disk ctx.file.path ∧
    ∃ tail, '/' ∉ tail ∧ symbol.text.toList = ctx.package.toList ++ '.' :: tail

theorem AtHome.sure {ctx : FileContext} {symbol : Symbol} (h : AtHome disk ctx symbol)
    (hctx : OnDisk disk ctx.file) : Sure disk symbol :=
  fun path hpath => unmistaken_package hctx path (h path hpath).1

theorem attachFile_settles (ctx : FileContext) (receiver? : Option (List Char)) (name : List Char)
    {symbol : Symbol} (tail : List Char) (htail : '/' ∉ tail)
    (htext : symbol.text.toList = ctx.package.toList ++ '.' :: tail) :
    Settles disk (attachFile disk ctx receiver? name symbol) (AtHome disk ctx) :=
  Settles.bind (findInPackage_settles ctx.file receiver? name) fun _ hfound =>
    Settles.pure fun path hpath => ⟨hfound path hpath, tail, htail, htext⟩

theorem qualify_settles {ctx : FileContext} (hctx : OnDisk disk ctx.file) {chain : List Char}
    (hchain : Go.isChain chain = true) :
    Settles disk (qualify disk packages ctx chain) (AtHome disk ctx) := by
  have hname : Worded ((split '.' chain).getLast?.getD chain) := by
    rw [List.getLast?_eq_getLast_of_ne_nil (split_ne_nil '.' chain)]
    exact worded_of_isChain hchain _ (List.getLast_mem (split_ne_nil '.' chain))
  have hfree : ∀ symbol : Symbol, symbol.file? = none → AtHome disk ctx symbol := by
    intro symbol hnone path hpath
    rw [hnone] at hpath
    cases hpath
  unfold qualify
  dsimp only
  split
  · exact Settles.pure (hfree _ rfl)
  · refine Settles.bind (boundType_settles hctx _) fun found hfound => ?_
    cases found with
    | none =>
      refine attachFile_settles ctx none _ _ hname.slash_not_mem ?_
      simp [Symbol.function]
    | some type =>
      dsimp only
      split
      · rename_i hown
        have htype := (hfound type rfl).slash_not_mem
        refine attachFile_settles ctx (some type.name) _
          ('(' :: '*' :: (type.name ++ ')' :: '.' :: (split '.' chain).getLast?.getD chain)) ?_ ?_
        · simp [htype, hname.slash_not_mem]
        · simp [Symbol.method, hown]
      · exact Settles.pure (hfree _ rfl)

theorem qualifyHandler_settles {ctx : FileContext} (hctx : OnDisk disk ctx.file) {expr : HandlerExpr}
    (hexpr : ∀ chain ∈ expr.chains, Go.isChain chain = true) :
    Settles disk (qualifyHandler disk packages ctx expr)
      (fun handler => ∀ symbol ∈ handler.symbols, AtHome disk ctx symbol) := by
  cases expr with
  | func chain =>
    refine Settles.bind (qualify_settles hctx (hexpr chain (by simp [HandlerExpr.chains])))
      fun symbol hsymbol => ?_
    apply Settles.pure
    intro other hother
    rw [List.mem_singleton.mp hother]
    exact hsymbol
  | kit decoder endpoint =>
    refine Settles.bind (qualify_settles hctx (hexpr decoder (by simp [HandlerExpr.chains])))
      fun decoder hdecoder => ?_
    refine Settles.bind (qualify_settles hctx (hexpr endpoint (by simp [HandlerExpr.chains])))
      fun endpoint hendpoint => ?_
    apply Settles.pure
    intro other hother
    rcases List.mem_cons.mp hother with rfl | hother
    · exact hdecoder
    · rw [List.mem_singleton.mp hother]
      exact hendpoint

theorem registration_settles {ctx : FileContext} (hctx : OnDisk disk ctx.file)
    (base chain : List Char) :
    Settles disk (registration disk packages ctx base chain)
      (fun entry? => ∀ entry ∈ entry?.toList, ∀ symbol ∈ entry.handler.symbols, AtHome disk ctx symbol) := by
  unfold registration
  cases hexpr : (handlerArgument? chain).bind readHandler with
  | none => exact Settles.pure fun _ h => by cases h
  | some expr =>
    obtain ⟨argument, -, hread⟩ := Option.bind_eq_some_iff.mp hexpr
    refine Settles.bind (qualifyHandler_settles hctx (readHandler_chains hread)) fun handler hhandler => ?_
    apply Settles.pure
    intro entry hentry
    rw [Option.toList_some, List.mem_singleton] at hentry
    rw [hentry]
    exact hhandler

theorem scanStatements_settles {ctx : FileContext} (hctx : OnDisk disk ctx.file)
    (statements : List (List Char)) (subrouters : Prefixes) :
    Settles disk (scanStatements disk packages ctx subrouters statements)
      (fun entries => ∀ entry ∈ entries, ∀ symbol ∈ entry.handler.symbols, AtHome disk ctx symbol) := by
  induction statements generalizing subrouters with
  | nil => exact Settles.pure fun _ h => by cases h
  | cons statement statements ih =>
    unfold scanStatements
    cases routerCall? ctx statement with
    | none => exact ih subrouters
    | some call =>
      obtain ⟨target?, receiver, chain⟩ := call
      dsimp only
      split
      · exact ih _
      · refine Settles.bind (registration_settles hctx _ chain) fun entry? hentry => ?_
        refine Settles.bind (ih subrouters) fun rest hrest => ?_
        apply Settles.pure
        intro entry hmem
        rcases List.mem_append.mp hmem with hmem | hmem
        · exact hentry entry hmem
        · exact hrest entry hmem

/-- The symbol is at home in the package of one of the files. -/
def HomeAmong (disk : Disk) (packages : Packages) (files : List Path) (symbol : Symbol) : Prop :=
  ∃ path ∈ files, ∃ file, disk.source? path = some file ∧ AtHome disk (.of disk packages file) symbol

theorem HomeAmong.sure {files : List Path} {symbol : Symbol} (h : HomeAmong disk packages files symbol) :
    Sure disk symbol := by
  obtain ⟨path, -, file, hfile, hhome⟩ := h
  exact hhome.sure ⟨path, hfile⟩

theorem HomeAmong.mono {files more : List Path} {symbol : Symbol} (hsub : files ⊆ more)
    (h : HomeAmong disk packages files symbol) : HomeAmong disk packages more symbol := by
  obtain ⟨path, hpath, hhome⟩ := h
  exact ⟨path, hsub hpath, hhome⟩

theorem scanFiles_settles {files : List Path} (hfiles : ∀ path ∈ files, disk.Unmistaken path) :
    Settles disk (scanFiles disk packages files)
      (fun entries => ∀ entry ∈ entries, ∀ symbol ∈ entry.handler.symbols,
        HomeAmong disk packages files symbol) := by
  induction files with
  | nil => exact Settles.pure fun _ h => by cases h
  | cons path files ih =>
    have hrest : Settles disk (scanFiles disk packages files)
        (fun entries => ∀ entry ∈ entries, ∀ symbol ∈ entry.handler.symbols,
          HomeAmong disk packages (path :: files) symbol) :=
      (ih fun other hother => hfiles other (by simp [hother])).mono fun entries hentries entry hentry symbol hsymbol =>
        (hentries entry hentry symbol hsymbol).mono (List.subset_cons_self path files)
    refine Settles.load_bind (hfiles path (by simp)) (fun file hfile => ?_) hrest
      (.inr ⟨_, fun _ => rfl⟩)
    refine Settles.bind (scanStatements_settles ⟨path, hfile⟩ _ _) fun entries hentries => ?_
    refine Settles.bind hrest fun rest hrest => ?_
    apply Settles.pure
    intro entry hmem symbol hsymbol
    rcases List.mem_append.mp hmem with hmem | hmem
    · exact ⟨path, List.mem_cons_self, file, hfile, hentries entry hmem symbol hsymbol⟩
    · exact hrest entry hmem symbol hsymbol

end Routes

/-! ## The files of a project -/

/-- No entry at or below the node goes without a name. -/
def Node.Named (node : Node) : Prop :=
  node.AllNames fun name _ => name ≠ ""

theorem Path.getLast?_entry (p : Path) (name : String) :
    (p.entry name).pieces.getLast? = some name := by
  unfold Path.entry Path.join
  split
  · rfl
  · split <;> simp

namespace Project

theorem isName_of_not_ignored {name : String} {node : Node} (hname : name ≠ "")
    (h : isIgnored name node = false) : Path.IsName name := by
  refine ⟨hname, ?_, ?_⟩ <;> rintro rfl <;> simp [isIgnored] at h

mutual

theorem last_name_filesAt {p path : Path} {piece : String} (node : Node) (h : node.Named)
    (hlast : p.pieces.getLast? = some piece) (hname : Path.IsName piece)
    (hpath : path ∈ filesAt p node) :
    ∃ piece, path.pieces.getLast? = some piece ∧ Path.IsName piece := by
  cases node with
  | file bytes =>
    simp only [filesAt] at hpath
    split at hpath
    · rw [List.mem_singleton.mp hpath]
      exact ⟨piece, hlast, hname⟩
    · cases hpath
  | folder entries => exact last_name_filesBelow entries h hpath

theorem last_name_filesBelow {p path : Path} (entries : List (String × Node))
    (h : (Node.folder entries).Named) (hpath : path ∈ filesBelow p entries) :
    ∃ piece, path.pieces.getLast? = some piece ∧ Path.IsName piece := by
  match entries with
  | [] => cases hpath
  | (name, node) :: rest =>
    obtain ⟨hname, hnode, hrest⟩ := h
    simp only [filesBelow] at hpath
    rcases List.mem_append.mp hpath with hpath | hpath
    · split at hpath
      · cases hpath
      · rename_i hkept
        have hplain := isName_of_not_ignored hname (Bool.eq_false_iff.mpr hkept)
        exact last_name_filesAt node hnode (Path.getLast?_entry p name) hplain hpath
    · exact last_name_filesBelow rest hrest hpath

end

theorem files_of_isFolder {disk : Disk} {root : Path} (h : disk.isFolder root = true) :
    ∃ files, Project.files disk root = .ok files := by
  unfold Disk.isFolder at h
  unfold Project.files
  cases hnode : disk.node root with
  | error fault => simp [hnode] at h
  | ok node => exact ⟨_, rfl⟩

theorem unmistaken_files {disk : Disk} {root : Path} {files : List Path}
    (hnamed : disk.tree.Named) (hroot : disk.isFolder root = true)
    (h : Project.files disk root = .ok files) : ∀ path ∈ files, disk.Unmistaken path := by
  intro path hpath
  obtain ⟨names, entries, hl, hat⟩ := Disk.folder_of_isFolder hroot
  simp only [Project.files, Disk.node, hl, hat] at h
  rw [← Except.ok.inj h, sortPaths] at hpath
  obtain ⟨piece, hlast, hname⟩ :=
    last_name_filesBelow entries (hnamed.of_at? hat).2 (List.mem_mergeSort.mp hpath)
  exact Disk.unmistaken_of_last_name hlast hname

end Project

/-- The registrations of a project are listed alike at any time, and read once. Every handler among
them is at home in the package of a file of the project. -/
theorem Routes.muxTable_settles {disk : Disk} (packages : Packages) (root : Path)
    (hnamed : disk.tree.Named) :
    Settles disk (muxTable disk packages root)
      (fun answer => ∀ entries, answer = .ok entries → disk.isFolder root = true ∧
        ∃ files, Project.files disk root = .ok files ∧
          ∀ entry ∈ entries, ∀ symbol ∈ entry.handler.symbols, HomeAmong disk packages files symbol) := by
  unfold muxTable
  refine Settles.report_bind ?_
  by_cases hroot : disk.isFolder root = true
  · rw [if_neg (by simp [hroot])]
    unfold Project.scan
    obtain ⟨files, hfiles⟩ := Project.files_of_isFolder hroot
    simp only [hfiles, pure_bind]
    refine Settles.bind (scanFiles_settles (Project.unmistaken_files hnamed hroot hfiles))
      fun entries hentries => ?_
    refine Settles.report_bind (Settles.pure fun entries' hsame => ?_)
    obtain rfl := Except.ok.inj hsame
    exact ⟨hroot, files, rfl, hentries⟩
  · rw [if_pos (by simpa using hroot)]
    exact Settles.pure fun _ h => by cases h

/-- What a project lists once, it always lists, and its handlers are placed. -/
theorem Routes.muxTable_listed {disk : Disk} {packages : Packages} {root : Path}
    {entries : List RouteEntry} (hnamed : disk.tree.Named)
    (h : (muxTable disk packages root {}).1.toOption = some entries) :
    Steady disk id (muxTable disk packages root) (.ok entries) ∧
      ∀ entry ∈ entries, ∀ symbol ∈ entry.handler.symbols,
        (Generator.ofSources disk packages).Placed symbol
          (Handler.plainPlace disk packages symbol) := by
  obtain ⟨answer, hsteady, hplaced⟩ := muxTable_settles packages root hnamed
  have hanswer : (muxTable disk packages root {}).1 = answer :=
    (hsteady.first.run {} SourceCache.agrees_empty).1
  rw [hanswer] at h
  cases answer with
  | error e => cases h
  | ok listed =>
    obtain rfl : listed = entries := Option.some.inj h
    obtain ⟨-, files, -, hhome⟩ := hplaced listed rfl
    exact ⟨hsteady, fun entry hentry symbol hsymbol =>
      Generator.placed_ofSources (hhome entry hentry symbol hsymbol).sure⟩

end RouteDoc
