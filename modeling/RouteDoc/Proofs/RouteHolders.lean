import RouteDoc.Generate
import RouteDoc.Proofs.DocumentAssembly
import RouteDoc.Proofs.ResolutionReads

/-!
What the routes of a table say. All of it can be computed from the disk alone (`plainRoute?`), and the
generator follows that, whatever its cache and its resolver remember (`routeHolders_lasting`,
`collect_lasting`). Every handler has to be `Placed` for it: it is found at one place, in a file that is
not taken for another one.

The holders of one route stand next to each other with one number, so merging joins them in place
(`foldl_mergeInto`).
-/

namespace RouteDoc

open RouteDoc.Types

/-! ## Merging -/

namespace RouteHolder

variable {merged : List (Nat × RouteHolder)} (holder : RouteHolder)

theorem mergeInto_append (h : ∀ entry ∈ merged, entry.1 < holder.id) (rest : List (Nat × RouteHolder)) :
    mergeInto (merged ++ rest) holder = merged ++ mergeInto rest holder := by
  have hne : ∀ entry ∈ merged, entry.1 ≠ holder.id := fun entry hentry => Nat.ne_of_lt (h entry hentry)
  have hbefore : ∀ entry ∈ merged, entry.1 ≠ holder.id ∧ decide (holder.id < entry.1) = false :=
    fun entry hentry => ⟨hne entry hentry, decide_eq_false (Nat.lt_asymm (h entry hentry))⟩
  rw [mergeInto, Assoc.get?_append rest hne]
  exact Assoc.putSorted_append rest hbefore

theorem mergeInto_later (h : ∀ entry ∈ merged, entry.1 < holder.id) :
    mergeInto merged holder = merged ++ [(holder.id, holder)] := by
  have happend := mergeInto_append holder h []
  rw [List.append_nil] at happend
  exact happend

theorem mergeInto_last (h : ∀ entry ∈ merged, entry.1 < holder.id) (first : RouteHolder) :
    mergeInto (merged ++ [(holder.id, first)]) holder
      = merged ++ [(holder.id, first.join holder)] := by
  rw [mergeInto_append holder h, mergeInto, Assoc.get?, if_pos rfl]
  simp only
  rw [Assoc.putSorted, if_pos rfl]

def renumber (id : Nat) (holder : RouteHolder) : RouteHolder :=
  { holder with id := id }

/-- The holder with all that a handler reads, each of its own type. -/
def addAll (type : Go.Read → InferredType) (holder : RouteHolder) (reads : List Go.Read) :
    RouteHolder :=
  reads.foldl (fun holder read => holder.addRead read.kind (type read)) holder

/-- What is read changes nothing of a holder that does not change with every single read. -/
theorem addAll_kept {α : Type} (view : RouteHolder → α)
    (h : ∀ holder kind type, view (addRead holder kind type) = view holder)
    (type : Go.Read → InferredType) (reads : List Go.Read) :
    view (holder.addAll type reads) = view holder := by
  induction reads generalizing holder with
  | nil => rfl
  | cons read reads ih => exact (ih _).trans (h holder read.kind (type read))

theorem addAll_renumber (id : Nat) (type : Go.Read → InferredType) (reads : List Go.Read) :
    (holder.renumber id).addAll type reads = (holder.addAll type reads).renumber id := by
  induction reads generalizing holder with
  | nil => rfl
  | cons read reads ih =>
    have hread : (holder.renumber id).addRead read.kind (type read)
        = (holder.addRead read.kind (type read)).renumber id := by
      cases read.kind <;> rfl
    show ((holder.renumber id).addRead read.kind (type read)).addAll type reads = _
    rw [hread, ih]
    rfl

theorem renumber_join (id : Nat) (first second : RouteHolder) :
    (first.renumber id).join (second.renumber id) = (first.join second).renumber id := by
  unfold join
  cases hfirst : first.isEndpoint <;> simp [renumber, hfirst]

end RouteHolder

/-! ## What a route says -/

namespace HandlerRef

/-- The function whose body tells what a request holds. -/
def reader : HandlerRef → Symbol
  | .func symbol => symbol
  | .kit decoder _ => decoder

/-- The functions that are looked for. -/
def symbols : HandlerRef → List Symbol
  | .func symbol => [symbol]
  | .kit decoder endpoint => [decoder, endpoint]

end HandlerRef

/-- The holder of an entry before its handler is read. -/
def RouteEntry.base (id : Nat) (entry : RouteEntry) : RouteHolder :=
  { id := id, route := entry.path?.getD "", methods := entry.methods?.getD [] }

/-- The entries that have a path. -/
def routed (entries : List RouteEntry) : List RouteEntry :=
  entries.filter (·.path?.isSome)

namespace Generator

/-- A function is found at one place or never, whatever was loaded before, and the file it is found in
is not taken for another one. -/
structure Placed (g : Generator) (symbol : Symbol) (place? : Option Location) : Prop where
  steady : Steady g.disk Except.toOption (g.locate symbol) place?
  unmistaken : ∀ location, place? = some location → g.disk.Unmistaken location.file

variable (g : Generator)

def sourceAt? (place? : Option Location) : Option (Location × SourceFile) :=
  place?.bind fun location => (g.disk.source? location.file).map fun file => (location, file)

/-- What a handler says about a route, without a memory. -/
def plainHolder (base : RouteHolder) (symbol : Symbol) (location : Location) (file : SourceFile) :
    RouteHolder :=
  let scan := Go.scanHandler file.lines location.line
  let folder := packageFolder g.disk g.packages location.package location.file
  RouteHolder.addAll
    (plainRead g.disk g.packages ⟨⟨file, folder⟩, location.line, scan.stop⟩)
    { base with name := scan.name?.getD symbol.name } scan.reads

def plainName (place? : Option Location) (endpoint : Symbol) : String :=
  match g.sourceAt? place? with
  | some (location, file) => (Go.scanEndpoint file.lines location.line).getD endpoint.name
  | none => endpoint.name

def plainHolders (place : Symbol → Option Location) (base : RouteHolder) (handler : HandlerRef) :
    List RouteHolder :=
  match g.sourceAt? (place handler.reader) with
  | none => []
  | some (location, file) =>
    let holder := g.plainHolder base handler.reader location file
    match handler with
    | .func _ => [holder]
    | .kit _ endpoint =>
      [holder, { base with name := g.plainName (place endpoint) endpoint, isEndpoint := true }]

def plainRoute? (place : Symbol → Option Location) (base : RouteHolder) (handler : HandlerRef) :
    Option RouteHolder :=
  (g.sourceAt? (place handler.reader)).map fun (location, file) =>
    let holder := g.plainHolder base handler.reader location file
    match handler with
    | .func _ => holder
    | .kit _ endpoint =>
      holder.join
        { base with name := g.plainName (place endpoint) endpoint, isEndpoint := true }

section

variable (place : Symbol → Option Location) (base : RouteHolder) (symbol : Symbol)
  (location : Location) (file : SourceFile) (handler : HandlerRef)

/-- What a handler says changes neither the number nor the place of a route, nor what kind of holder it has. -/
theorem plainHolder_kept : (g.plainHolder base symbol location file).id = base.id ∧
    (g.plainHolder base symbol location file).isEndpoint = base.isEndpoint ∧
    (g.plainHolder base symbol location file).route = base.route ∧
    (g.plainHolder base symbol location file).methods = base.methods := by
  refine ⟨?_, ?_, ?_, ?_⟩
  · exact RouteHolder.addAll_kept _ RouteHolder.id (fun _ kind _ => by cases kind <;> rfl) _ _
  · exact RouteHolder.addAll_kept _ RouteHolder.isEndpoint (fun _ kind _ => by cases kind <;> rfl) _ _
  · exact RouteHolder.addAll_kept _ RouteHolder.route (fun _ kind _ => by cases kind <;> rfl) _ _
  · exact RouteHolder.addAll_kept _ RouteHolder.methods (fun _ kind _ => by cases kind <;> rfl) _ _

theorem plainHolder_renumber (id : Nat) :
    g.plainHolder (base.renumber id) symbol location file
      = (g.plainHolder base symbol location file).renumber id :=
  RouteHolder.addAll_renumber { base with name := _ } id _ _

theorem plainRoute?_renumber (id : Nat) :
    g.plainRoute? place (base.renumber id) handler
      = (g.plainRoute? place base handler).map (·.renumber id) := by
  unfold plainRoute?
  cases g.sourceAt? (place handler.reader) with
  | none => rfl
  | some found =>
    simp only [Option.map_some, plainHolder_renumber]
    cases handler with
    | func symbol => rfl
    | kit decoder endpoint =>
      have hjoin := RouteHolder.renumber_join id (g.plainHolder base decoder found.1 found.2)
        { base with name := g.plainName (place endpoint) endpoint, isEndpoint := true }
      exact congrArg some hjoin

theorem isEndpoint_plainRoute? {holder : RouteHolder} (hbase : base.isEndpoint = false)
    (h : g.plainRoute? place base handler = some holder) : holder.isEndpoint = false := by
  obtain ⟨⟨location, file⟩, -, rfl⟩ := Option.map_eq_some_iff.mp h
  cases handler with
  | func symbol => exact (g.plainHolder_kept base symbol location file).2.1.trans hbase
  | kit decoder endpoint => rfl

/-- The holders of a route that is later than all others are merged into one behind them. -/
theorem foldl_mergeInto_plainHolders {merged : List (Nat × RouteHolder)}
    (h : ∀ entry ∈ merged, entry.1 < base.id) :
    (g.plainHolders place base handler).foldl RouteHolder.mergeInto merged
      = merged ++ ((g.plainRoute? place base handler).map fun holder => (base.id, holder)).toList := by
  unfold plainHolders plainRoute?
  cases g.sourceAt? (place handler.reader) with
  | none => simp
  | some found =>
    obtain ⟨location, file⟩ := found
    have hid := (g.plainHolder_kept base handler.reader location file).1
    have hfirst := RouteHolder.mergeInto_later
      (g.plainHolder base handler.reader location file) (hid ▸ h)
    rw [hid] at hfirst
    cases handler with
    | func symbol => simpa using hfirst
    | kit decoder endpoint =>
      simp only [List.foldl_cons, List.foldl_nil, Option.map_some, Option.toList_some]
      rw [hfirst]
      exact RouteHolder.mergeInto_last { base with name := _, isEndpoint := true } h _

end

/-! ## The generator follows -/

variable {g}

theorem sourceOf_steady {symbol : Symbol} {place? : Option Location}
    (h : g.Placed symbol place?) :
    Steady g.disk Except.toOption (g.sourceOf symbol) (g.sourceAt? place?) := by
  refine Rerun.bind_except h.steady (fun location hplace => ?_) (fun e e' hnone => ?_)
  · have hload := Rerun.load (h.unmistaken location hplace)
    refine Rerun.bind_except hload (fun file hfile => ?_) (fun e e' hfile => ?_)
    · have hvalue : g.sourceAt? place? = some (location, file) := by
        simp [sourceAt?, hplace, hfile]
      exact Rerun.pure hvalue.symm hvalue.symm
    · have hvalue : g.sourceAt? place? = none := by
        simp [sourceAt?, hplace, hfile]
      exact Rerun.pure hvalue.symm hvalue.symm
  · have hvalue : g.sourceAt? place? = none := by
      simp [sourceAt?, hnone]
    exact Rerun.pure hvalue.symm hvalue.symm

theorem endpointName_steady {endpoint : Symbol} {place? : Option Location} (route : String)
    (h : g.Placed endpoint place?) :
    Steady g.disk id (g.endpointName route endpoint) (g.plainName place? endpoint) := by
  refine Rerun.bind_except h.steady (fun location hplace => ?_) (fun e e' hnone => ?_)
  · have hload := Rerun.load (h.unmistaken location hplace)
    refine Rerun.bind_except hload (fun file hfile => ?_) (fun e e' hfile => ?_)
    · have hvalue : g.plainName place? endpoint
          = (Go.scanEndpoint file.lines location.line).getD endpoint.name := by
        simp [plainName, sourceAt?, hplace, hfile]
      rw [hvalue]
      exact Rerun.pure rfl rfl
    · have hvalue : g.plainName place? endpoint = endpoint.name := by
        simp [plainName, sourceAt?, hplace, hfile]
      rw [hvalue]
      exact Rerun.warn_bind (Rerun.pure rfl rfl)
  · have hvalue : g.plainName place? endpoint = endpoint.name := by
      simp [plainName, sourceAt?, hnone]
    rw [hvalue]
    exact Rerun.warn_bind (Rerun.pure rfl rfl)

theorem addReads_lasting {body : Body} (hfile : OnDisk g.disk body.scope.file)
    (reads : List Go.Read) (holder : RouteHolder) :
    Lasting g.disk g.packages [] (g.addReads body holder reads) (g.addReads body holder reads)
      (holder.addAll (plainRead g.disk g.packages body) reads) := by
  induction reads generalizing holder with
  | nil => exact Lasting.pure holder
  | cons read reads ih =>
    apply Lasting.bind (resolveRead_lasting body hfile read)
    exact ih (holder.addRead read.kind (plainRead g.disk g.packages body read))

theorem onDisk_of_sourceAt? {place? : Option Location} {location : Location} {file : SourceFile}
    (h : g.sourceAt? place? = some (location, file)) : OnDisk g.disk file := by
  obtain ⟨place, -, hmap⟩ := Option.bind_eq_some_iff.mp h
  obtain ⟨source, hsource, hpair⟩ := Option.map_eq_some_iff.mp hmap
  obtain ⟨-, rfl⟩ := Prod.mk.inj hpair
  exact ⟨place.file, hsource⟩

/-- Loading the handler first and reading it then is all that a route needs. -/
theorem routeHolders_run (base : RouteHolder) (handler : HandlerRef) :
    g.routeHolders base handler = do
      match ← (liftM (g.sourceOf handler.reader) : Resolve _) with
      | .error error =>
        Run.warn ("Skipping route " ++ base.route ++ ": " ++ error.message)
        return []
      | .ok (location, file) =>
        let holder ← g.holderAt base handler.reader location file
        match handler with
        | .func _ => return [holder]
        | .kit _ endpoint =>
          let name ← g.endpointName base.route endpoint
          return [holder, { base with name := name, isEndpoint := true }] := by
  unfold routeHolders handlerHolder
  cases handler with
  | func symbol =>
    simp only [HandlerRef.reader, bind_assoc]
    refine bind_congr fun answer => ?_
    cases answer with
    | error e => rw [pure_bind]
    | ok found => simp only [bind_assoc, pure_bind]
  | kit decoder endpoint =>
    simp only [HandlerRef.reader, bind_assoc]
    refine bind_congr fun answer => ?_
    cases answer with
    | error e => rw [pure_bind]
    | ok found => simp only [bind_assoc, pure_bind]

/-- One route: whatever happened before, its holders are those that the disk gives it. -/
theorem routeHolders_lasting {place : Symbol → Option Location} {handler : HandlerRef}
    (base : RouteHolder) (h : ∀ symbol ∈ handler.symbols, g.Placed symbol (place symbol)) :
    Lasting g.disk g.packages [] (g.routeHolders base handler) (g.routeHolders base handler)
      (g.plainHolders place base handler) := by
  have hreader : g.Placed handler.reader (place handler.reader) := by
    apply h
    cases handler <;> simp [HandlerRef.symbols, HandlerRef.reader]
  rw [routeHolders_run]
  refine Lasting.lift_except (sourceOf_steady hreader) (fun found hfound => ?_) (fun e e' hnone => ?_)
  · obtain ⟨location, file⟩ := found
    have hholder : Lasting g.disk g.packages [] (g.holderAt base handler.reader location file)
        (g.holderAt base handler.reader location file)
        (g.plainHolder base handler.reader location file) :=
      addReads_lasting (onDisk_of_sourceAt? hfound) _ _
    refine Lasting.bind hholder ?_
    unfold plainHolders
    rw [hfound]
    cases handler with
    | func symbol => exact Lasting.pure _
    | kit decoder endpoint =>
      have hname := endpointName_steady base.route (h endpoint (by simp [HandlerRef.symbols]))
      refine Lasting.lift_bind hname fun name name' hvalue hvalue' => ?_
      rw [id_eq] at hvalue hvalue'
      rw [hvalue, hvalue']
      exact Lasting.pure _
  · unfold plainHolders
    rw [hnone]
    exact Lasting.bind (Lasting.warn _ _) (Lasting.pure _)

def plainEntries (g : Generator) (place : Symbol → Option Location) (id : Nat)
    (entries : List RouteEntry) : List RouteHolder :=
  ((routed entries).zipIdx id).flatMap fun (entry, id) =>
    g.plainHolders place (entry.base id) entry.handler

theorem entryHolders_lasting {place : Symbol → Option Location} {entries : List RouteEntry}
    (id : Nat)
    (h : ∀ entry ∈ entries, ∀ symbol ∈ entry.handler.symbols, g.Placed symbol (place symbol)) :
    Lasting g.disk g.packages [] (g.entryHolders id entries) (g.entryHolders id entries)
      (g.plainEntries place id entries) := by
  induction entries generalizing id with
  | nil => exact Lasting.pure _
  | cons entry entries ih =>
    have hrest := fun id => ih id fun other hother => h other (by simp [hother])
    unfold entryHolders plainEntries routed
    cases hpath : entry.path? with
    | none =>
      rw [List.filter_cons_of_neg (by simp [hpath])]
      exact hrest id
    | some route =>
      have hbase : entry.base id
          = { id := id, route := route, methods := entry.methods?.getD [] } := by
        simp [RouteEntry.base, hpath]
      rw [List.filter_cons_of_pos (by simp [hpath])]
      have hfirst := routeHolders_lasting (entry.base id) (h entry (by simp))
      rw [hbase] at hfirst
      refine Lasting.bind hfirst ?_
      rw [← hbase]
      exact Lasting.bind (hrest (id + 1)) (Lasting.pure _)

theorem collect_lasting (place : Symbol → Option Location) {table : RouteTable}
    {entries : List RouteEntry} (htable : Steady g.disk id table (.ok entries))
    (h : ∀ entry ∈ entries, ∀ symbol ∈ entry.handler.symbols, g.Placed symbol (place symbol)) :
    Lasting g.disk g.packages [] (g.collect table) (g.collect table)
      (.ok (RouteHolder.merge (g.plainEntries place 0 entries))) := by
  refine Lasting.lift_bind htable fun answer answer' hvalue hvalue' => ?_
  rw [id_eq] at hvalue hvalue'
  rw [hvalue, hvalue']
  refine Lasting.bind (Lasting.report .info _ _) ?_
  refine Lasting.bind (entryHolders_lasting 0 h) ?_
  exact Lasting.bind (Lasting.report .info _ _) (Lasting.pure _)

/-! ## One holder per route -/

section

variable (g) (place : Symbol → Option Location)

/-- Merging the holders of routes with growing numbers joins those of each route. The induction is on
the routes; what has been merged so far has smaller numbers. -/
theorem foldl_mergeInto (routes : List RouteEntry) {id : Nat} {merged : List (Nat × RouteHolder)}
    (h : ∀ entry ∈ merged, entry.1 < id) :
    ((routes.zipIdx id).flatMap fun (entry, id) =>
        g.plainHolders place (entry.base id) entry.handler).foldl RouteHolder.mergeInto merged
      = merged ++ (routes.zipIdx id).filterMap fun (entry, id) =>
          (g.plainRoute? place (entry.base id) entry.handler).map fun holder => (id, holder) := by
  induction routes generalizing id merged with
  | nil => simp
  | cons entry routes ih =>
    have hfirst := g.foldl_mergeInto_plainHolders place (entry.base id) entry.handler h
    rw [List.zipIdx_cons, List.flatMap_cons, List.foldl_append, hfirst, ih]
    · rw [List.append_assoc, List.filterMap_cons]
      dsimp only
      cases g.plainRoute? place (entry.base id) entry.handler <;> rfl
    · intro other hother
      rcases List.mem_append.mp hother with hother | hother
      · have := h other hother
        omega
      · obtain ⟨holder, -, rfl⟩ := Option.map_eq_some_iff.mp (Option.mem_toList.mp hother)
        exact Nat.lt_succ_self id

theorem merge_plainEntries (entries : List RouteEntry) :
    RouteHolder.merge (g.plainEntries place 0 entries)
      = (routed entries).zipIdx.filterMap fun (entry, id) =>
          g.plainRoute? place (entry.base id) entry.handler := by
  unfold RouteHolder.merge plainEntries
  rw [g.foldl_mergeInto place (routed entries) (by simp), List.nil_append, List.map_filterMap]
  congr 1
  funext ⟨entry, id⟩
  dsimp only
  cases g.plainRoute? place (entry.base id) entry.handler <;> rfl

end

theorem id_plainRoute? {place : Symbol → Option Location} {entry : RouteEntry} {id : Nat}
    {holder : RouteHolder} (h : g.plainRoute? place (entry.base id) entry.handler = some holder) :
    holder.id = id := by
  have hbase : entry.base id = (entry.base 0).renumber id := rfl
  rw [hbase, plainRoute?_renumber] at h
  obtain ⟨other, -, rfl⟩ := Option.map_eq_some_iff.mp h
  rfl

/-- The numbers of the routes that come out are some of the numbers given out, in order. -/
theorem map_id_plainRoutes (g : Generator) (place : Symbol → Option Location)
    (routes : List RouteEntry) (id : Nat) :
    (((routes.zipIdx id).filterMap fun (entry, id) =>
      g.plainRoute? place (entry.base id) entry.handler).map (·.id)).Sublist
        (List.range' id routes.length) := by
  induction routes generalizing id with
  | nil => exact List.Sublist.refl _
  | cons entry routes ih =>
    rw [List.zipIdx_cons, List.filterMap_cons, List.length_cons, List.range'_succ]
    dsimp only
    cases hroute : g.plainRoute? place (entry.base id) entry.handler with
    | none => exact (ih (id + 1)).cons id
    | some holder =>
      rw [List.map_cons, id_plainRoute? hroute]
      exact (ih (id + 1)).cons_cons id

end Generator

end RouteDoc
