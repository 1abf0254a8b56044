import RouteDoc.Proofs.PlainResolution

/-!
A resolver that remembers answers like one that does not. `Sound` says what a resolver may remember:
files as the disk holds them, imports as the files give them, and finished types that are settled and
look as they do outside of all stacks. `Follows` says that a computation of the resolver answers as a
plain one, keeps what is remembered sound, leaves the stack as it was, and cuts no cycle without
counting it. Every expansion follows the plain one (`resolveDeclared_follows`), by induction over the
declarations to go; a type is remembered only where no cut was counted, and then it is settled.

The main statement is `answers_independent`: a sequence of requests to one resolver is answered as
each request alone is answered by a fresh one.
-/

namespace RouteDoc.Types

open RouteDoc.Go Relation

/-- What a resolver may remember. -/
structure Sound (disk : Disk) (packages : PackageFinder) (memo : Memo) (s : Session) : Prop where
  cache : s.cache.Agrees disk
  /-- A finished type is settled, and is what its name declares outside of all stacks. -/
  types : ∀ key type, (key, type) ∈ memo.types → Settled disk packages key ∧
    ∀ folder name, keyOf disk folder name = key → plainDeclared disk packages [] folder name = type
  imports : ∀ c imports, (c, imports) ∈ memo.imports → ∀ file, OnDisk disk file →
    file.path.components = c → imports = fileImports file.lines

theorem sound_fresh (disk : Disk) (packages : PackageFinder) : Sound disk packages {} {} :=
  ⟨SourceCache.agrees_empty, fun _ _ h => absurd h List.not_mem_nil,
    fun _ _ h => absurd h List.not_mem_nil⟩

theorem Sound.step {disk : Disk} {packages : PackageFinder} {memo : Memo} {s t : Session}
    (h : Sound disk packages memo s) (ht : t.cache.Agrees disk) : Sound disk packages memo t :=
  ⟨ht, h.types, h.imports⟩

/-- Which type is being expanded does not matter for what is remembered. -/
theorem Sound.enter {disk : Disk} {packages : PackageFinder} {memo : Memo} {s : Session}
    (h : Sound disk packages memo s) (key : TypeKey) : Sound disk packages (memo.enter key) s :=
  ⟨h.cache, h.types, h.imports⟩

theorem Sound.keepImports {disk : Disk} {packages : PackageFinder} {memo : Memo} {s : Session}
    (h : Sound disk packages memo s) {file : SourceFile} (hfile : OnDisk disk file) :
    Sound disk packages (memo.keepImports file (fileImports file.lines)) s := by
  refine ⟨h.cache, h.types, ?_⟩
  intro c imports hmem other hother hpath
  rcases List.mem_cons.mp hmem with heq | hmem
  · obtain ⟨rfl, rfl⟩ := Prod.mk.inj heq
    rw [hfile.eq_of_components hother hpath]
  · exact h.imports c imports hmem other hother hpath

/-- The computation answers `y` from every sound memory with the given stack, keeps the memory sound
and the stack as it is, and if it cuts no cycle then `P` holds. -/
structure Follows (disk : Disk) (packages : PackageFinder) (stack : List TypeKey) {α : Type}
    (x : Resolve α) (y : α) (P : Prop) : Prop where
  run : ∀ memo s, Sound disk packages memo s → memo.stack = stack →
    (x memo s).1.1 = y ∧ Sound disk packages (x memo s).1.2 (x memo s).2 ∧
      (x memo s).1.2.stack = stack ∧ memo.cuts ≤ (x memo s).1.2.cuts ∧
      ((x memo s).1.2.cuts = memo.cuts → P)

variable {disk : Disk} {packages : PackageFinder} {stack : List TypeKey}

namespace Follows

variable {α β γ : Type}

theorem pure (a : α) : Follows disk packages stack (Pure.pure a) a True :=
  ⟨fun _ _ hsound hstack => ⟨rfl, hsound, hstack, Nat.le_refl _, fun _ => True.intro⟩⟩

theorem weaken {x : Resolve α} {y : α} {P Q : Prop} (h : Follows disk packages stack x y P)
    (hPQ : P → Q) : Follows disk packages stack x y Q := by
  refine ⟨fun memo s hsound hstack => ?_⟩
  obtain ⟨hvalue, hsound', hstack', hcuts, hP⟩ := h.run memo s hsound hstack
  exact ⟨hvalue, hsound', hstack', hcuts, fun hsame => hPQ (hP hsame)⟩

/-- One step after the other; cuts only grow, so none in all means none in either. -/
theorem bind {x : Resolve α} {y : α} {f : α → Resolve β} {z : β} {P Q : Prop}
    (hx : Follows disk packages stack x y P) (hf : Follows disk packages stack (f y) z Q) :
    Follows disk packages stack (x >>= f) z (P ∧ Q) := by
  refine ⟨fun memo s hsound hstack => ?_⟩
  obtain ⟨hvalue, hsound₁, hstack₁, hcuts₁, hP⟩ := hx.run memo s hsound hstack
  obtain ⟨hvalue₂, hsound₂, hstack₂, hcuts₂, hQ⟩ := hf.run _ _ hsound₁ hstack₁
  have hrun : (x >>= f) memo s = f y (x memo s).1.2 (x memo s).2 := by
    rw [← hvalue]
    rfl
  rw [hrun]
  refine ⟨hvalue₂, hsound₂, hstack₂, Nat.le_trans hcuts₁ hcuts₂, fun hsame => ?_⟩
  exact ⟨hP (by omega), hQ (by omega)⟩

theorem bind_right {x : Resolve α} {y : α} {f : α → Resolve β} {z : β} {Q : Prop}
    (hx : Follows disk packages stack x y True) (hf : Follows disk packages stack (f y) z Q) :
    Follows disk packages stack (x >>= f) z Q :=
  (bind hx hf).weaken And.right

theorem lift_bind {x : Run α} {view : α → γ} {v : γ} {f : α → Resolve β} {z : β} {P : Prop}
    (hx : Answers disk view x v) (hf : ∀ a, view a = v → Follows disk packages stack (f a) z P) :
    Follows disk packages stack (liftM x >>= f) z P := by
  refine ⟨fun memo s hsound hstack => ?_⟩
  obtain ⟨ha, hagrees, -⟩ := hx.run s hsound.cache
  exact (hf _ ha).run memo (x s).2 (hsound.step hagrees) hstack

theorem lift {x : Run α} {y : α} (h : Answers disk id x y) :
    Follows disk packages stack (liftM x) y True := by
  refine ⟨fun memo s hsound hstack => ?_⟩
  obtain ⟨hvalue, hagrees, -⟩ := h.run s hsound.cache
  exact ⟨hvalue, hsound.step hagrees, hstack, Nat.le_refl _, fun _ => True.intro⟩

theorem report (level : Level) (text : String) :
    Follows disk packages stack (liftM (Run.report level text)) () True :=
  lift (Rerun.report level level text text).first

end Follows

theorem importsOf_run (file : SourceFile) (memo : Memo) (s : Session) :
    (importsOf file : Resolve Imports) memo s =
      match Assoc.get? file.path.components memo.imports with
      | some imports => ((imports, memo), s)
      | none => ((fileImports file.lines, memo.keepImports file (fileImports file.lines)), s) := by
  change (match Assoc.get? file.path.components memo.imports with
    | some imports => (pure imports : Resolve Imports)
    | none => do
      modify (Memo.keepImports file (fileImports file.lines))
      pure (fileImports file.lines)) memo s = _
  cases Assoc.get? file.path.components memo.imports <;> rfl

theorem importsOf_follows {file : SourceFile} (hfile : OnDisk disk file) :
    Follows disk packages stack (importsOf file) (fileImports file.lines) True := by
  refine ⟨fun memo s hsound hstack => ?_⟩
  rw [importsOf_run]
  cases hget : Assoc.get? file.path.components memo.imports with
  | some imports =>
    have hsame := hsound.imports _ _ (Assoc.mem_of_get? hget) file hfile rfl
    exact ⟨hsame, hsound, hstack, Nat.le_refl _, fun _ => True.intro⟩
  | none => exact ⟨rfl, hsound.keepImports hfile, hstack, Nat.le_refl _, fun _ => True.intro⟩

/-- Following the plain expansion is a way of tracking it. -/
def following (disk : Disk) (packages : PackageFinder) (stack : List TypeKey) :
    Tracking disk Resolve where
  Rel x y P := Follows disk packages stack x y P
  pure := Follows.pure
  bind := Follows.bind
  weaken := Follows.weaken
  lift h := Follows.lift h.first
  imports := importsOf_follows

/-- The three things that can happen when a declared type is asked for: it is remembered, it is on
the stack, or it is entered, expanded and left. -/
theorem declaredType_run (below : Path → List Char → Resolve InferredType) (folder : Path)
    (name : List Char) (memo : Memo) (s : Session) :
    declaredType disk packages below folder name memo s =
      match Assoc.get? (keyOf disk folder name) memo.types with
      | some type => ((type, memo), s)
      | none =>
        if keyOf disk folder name ∈ memo.stack then
          ((.unknown, memo.cut), (Run.warn ("Circular reference detected for type: "
            ++ String.ofList name) s).2)
        else
          let after := definedType disk packages below (disk.canonicalOrSelf folder) name
            (memo.enter (keyOf disk folder name)) s
          ((after.1.1, after.1.2.leave (keyOf disk folder name) after.1.1 memo.cuts), after.2) := by
  change (match Assoc.get? (keyOf disk folder name) memo.types with
    | some type => (pure type : Resolve InferredType)
    | none =>
      if keyOf disk folder name ∈ memo.stack then do
        Run.warn ("Circular reference detected for type: " ++ String.ofList name)
        modify Memo.cut
        return .unknown
      else do
        modify (Memo.enter (keyOf disk folder name))
        let type ← definedType disk packages below (disk.canonicalOrSelf folder) name
        modify (Memo.leave (keyOf disk folder name) type memo.cuts)
        return type) memo s = _
  cases Assoc.get? (keyOf disk folder name) memo.types with
  | some type => rfl
  | none =>
    by_cases hstack : keyOf disk folder name ∈ memo.stack
    · simp only [if_pos hstack]
      rfl
    · simp only [if_neg hstack]
      rfl

/-- A finished type may be remembered if no cycle was cut below it: it is settled then, so it looks
the same outside of the stack. -/
theorem sound_leave {folder : Path} {name : List Char} {memo : Memo} {s : Session} {cuts : Nat}
    (hsound : Sound disk packages memo s)
    (hstack : LeadsTo disk packages stack (keyOf disk folder name))
    (hsettled : memo.cuts = cuts → Settled disk packages (keyOf disk folder name)) :
    Sound disk packages (memo.leave (keyOf disk folder name)
      (plainDeclared disk packages stack folder name) cuts) s := by
  refine ⟨hsound.cache, ?_, hsound.imports⟩
  intro key type hmem
  simp only [Memo.leave] at hmem
  split at hmem
  · rename_i hcuts
    rcases List.mem_cons.mp hmem with heq | hmem
    · obtain ⟨rfl, rfl⟩ := Prod.mk.inj heq
      refine ⟨hsettled hcuts, fun folder' name' hkey => ?_⟩
      rw [plainDeclared_congr hkey]
      exact plainDeclared_of_settled (hsettled hcuts) LeadsTo.nil hstack rfl
    · exact hsound.types key type hmem
  · exact hsound.types key type hmem

/-- Asking for a declared type follows the plain expansion if expanding its definition does. -/
theorem declaredType_follows {below : Path → List Char → Resolve InferredType} {folder : Path}
    {name : List Char} (hstack : LeadsTo disk packages stack (keyOf disk folder name))
    (h : keyOf disk folder name ∉ stack →
      Follows disk packages (keyOf disk folder name :: stack)
        (definedType disk packages below (disk.canonicalOrSelf folder) name)
        (plainDefined disk packages stack folder name)
        (Settled disk packages (keyOf disk folder name))) :
    Follows disk packages stack (declaredType disk packages below folder name)
      (plainDeclared disk packages stack folder name)
      (Settled disk packages (keyOf disk folder name)) := by
  refine ⟨fun memo s hsound hmemo => ?_⟩
  rw [declaredType_run]
  cases hget : Assoc.get? (keyOf disk folder name) memo.types with
  | some type =>
    -- what is remembered was computed under another stack, which a settled type does not see
    obtain ⟨hsettled, htype⟩ := hsound.types _ _ (Assoc.mem_of_get? hget)
    refine ⟨?_, hsound, hmemo, Nat.le_refl _, fun _ => hsettled⟩
    rw [plainDeclared_of_settled hsettled hstack LeadsTo.nil rfl, htype folder name rfl]
  | none =>
    by_cases hmem : keyOf disk folder name ∈ stack
    · simp only [hmemo, if_pos hmem]
      refine ⟨(plainDeclared_of_mem hmem).symm, ⟨hsound.cache, hsound.types, hsound.imports⟩,
        hmemo, Nat.le_succ _, fun hsame => ?_⟩
      -- the cut was counted, so nothing above is taken for settled
      exact absurd hsame (Nat.succ_ne_self _)
    · simp only [hmemo, if_neg hmem]
      obtain ⟨hvalue, hsound', hstack', hcuts, hsettled⟩ :=
        (h hmem).run _ s (hsound.enter _) (congrArg (keyOf disk folder name :: ·) hmemo)
      rw [← plainDeclared_of_not_mem hmem] at hvalue
      rw [hvalue]
      exact ⟨rfl, sound_leave hsound' hstack hsettled, congrArg List.tail hstack', hcuts, hsettled⟩

/-- Expansion with a memory follows the plain one, as long as there are more steps than declarations
to go. The induction is on the steps: entering a type leaves one declaration less. -/
theorem resolveDeclared_follows {n : Nat} {folder : Path} {name : List Char}
    (hn : remaining disk stack < n)
    (hstack : LeadsTo disk packages stack (keyOf disk folder name)) :
    Follows disk packages stack (resolveDeclared disk packages n folder name)
      (plainDeclared disk packages stack folder name)
      (Settled disk packages (keyOf disk folder name)) := by
  induction n generalizing stack folder name with
  | zero => exact absurd hn (Nat.not_lt_zero _)
  | succ n ih =>
    refine declaredType_follows hstack fun hnew => ?_
    refine ((following disk packages _).definedType ?_).weaken Settled.of_names
    intro folder' name' hnames hkey
    have hless := remaining_lt hkey hnew
    exact ih (by omega) (hstack.cons hnames)

/-- The type that a token stands for, without a memory. -/
def plainType (disk : Disk) (packages : PackageFinder) (scope : Scope) (token : List Char) :
    InferredType :=
  Id.run (expandToken (plainSurroundings disk packages (plainDeclared disk packages [])) scope
    token)

theorem resolveType_follows {scope : Scope} (hfile : OnDisk disk scope.file) (token : List Char) :
    Follows disk packages [] (resolveType disk packages scope token)
      (plainType disk packages scope token) True := by
  have hbelow : ∀ folder name, Follows disk packages []
      (resolveDeclared disk packages (chainBound disk) folder name)
      (plainDeclared disk packages [] folder name)
      (Settled disk packages (keyOf disk folder name)) :=
    fun folder name => resolveDeclared_follows (remaining_lt_chainBound disk []) LeadsTo.nil
  exact ((following disk packages []).expandToken hfile fun folder name _ =>
    hbelow folder name).weaken fun _ => True.intro

def plainLocal (disk : Disk) (packages : PackageFinder) (body : Body) (name : List Char) :
    InferredType :=
  match localType? body.scope.file.lines body.start body.stop name with
  | some token => plainType disk packages body.scope token
  | none => .primitive "string"

theorem resolveLocal_follows (body : Body) (hfile : OnDisk disk body.scope.file)
    {name : List Char} :
    Follows disk packages [] (resolveLocal disk packages body name)
      (plainLocal disk packages body name) True := by
  unfold resolveLocal plainLocal
  cases localType? body.scope.file.lines body.start body.stop name with
  | some token => exact resolveType_follows hfile token
  | none => exact Follows.pure _

def plainRead (disk : Disk) (packages : PackageFinder) (body : Body) (read : Read) :
    InferredType :=
  let type : InferredType := match read.kind with
    | .formFile => .primitive "file"
    | .formValue => .primitive "string"
    | _ => plainLocal disk packages body read.name.toList
  type.named read.name (read.kind != .query)

theorem resolveRead_follows (body : Body) (hfile : OnDisk disk body.scope.file) (read : Read) :
    Follows disk packages [] (resolveRead disk packages body read)
      (plainRead disk packages body read) True := by
  unfold resolveRead plainRead
  cases read.kind with
  | formFile => exact Follows.pure _
  | formValue => exact Follows.pure _
  | path => exact Follows.bind_right (resolveLocal_follows body hfile) (Follows.pure _)
  | query => exact Follows.bind_right (resolveLocal_follows body hfile) (Follows.pure _)
  | body => exact Follows.bind_right (resolveLocal_follows body hfile) (Follows.pure _)

/-! ## Sequences of requests -/

/-- What a resolver can be asked about a place in a file. -/
inductive Question where
  /-- The type that a token stands for. -/
  | ofToken (text : List Char)
  /-- The type of a variable that is declared between two lines. -/
  | ofVariable (start stop : Nat) (name : List Char)
  /-- The type of what a handler between two lines reads. -/
  | ofRead (start stop : Nat) (read : Read)

/-- A question about a file, which is loaded for it, in the package of a folder. -/
structure Request where
  file : Path
  folder : Path
  question : Question

def Question.answer (disk : Disk) (packages : PackageFinder) (scope : Scope) :
    Question → Resolve InferredType
  | .ofToken text => resolveType disk packages scope text
  | .ofVariable start stop name => resolveLocal disk packages ⟨scope, start, stop⟩ name
  | .ofRead start stop read => resolveRead disk packages ⟨scope, start, stop⟩ read

def Question.plain (disk : Disk) (packages : PackageFinder) (scope : Scope) :
    Question → InferredType
  | .ofToken text => plainType disk packages scope text
  | .ofVariable start stop name => plainLocal disk packages ⟨scope, start, stop⟩ name
  | .ofRead start stop read => plainRead disk packages ⟨scope, start, stop⟩ read

def Request.answer (disk : Disk) (packages : PackageFinder) (request : Request) :
    Resolve (Option InferredType) := do
  match ← load disk request.file with
  | .error _ => return none
  | .ok file => return some (← request.question.answer disk packages ⟨file, request.folder⟩)

def Request.plain (disk : Disk) (packages : PackageFinder) (request : Request) :
    Option InferredType :=
  (disk.source? request.file).map fun file =>
    request.question.plain disk packages ⟨file, request.folder⟩

/-- The answers of one resolver to requests, one after the other. -/
def answers (disk : Disk) (packages : PackageFinder) :
    List Request → Resolve (List (Option InferredType))
  | [] => return []
  | request :: requests => do
    let first ← request.answer disk packages
    let rest ← answers disk packages requests
    return first :: rest

theorem Question.answer_follows {scope : Scope} (hfile : OnDisk disk scope.file)
    (question : Question) :
    Follows disk packages [] (question.answer disk packages scope)
      (question.plain disk packages scope) True := by
  cases question with
  | ofToken text => exact resolveType_follows hfile text
  | ofVariable start stop name => exact resolveLocal_follows ⟨scope, start, stop⟩ hfile
  | ofRead start stop read => exact resolveRead_follows ⟨scope, start, stop⟩ hfile read

theorem Request.answer_follows (request : Request)
    (h : (disk.source? request.file).isSome) :
    Follows disk packages [] (request.answer disk packages) (request.plain disk packages)
      True := by
  obtain ⟨file, hfile⟩ := Option.isSome_iff_exists.mp h
  have hplain : request.plain disk packages
      = some (request.question.plain disk packages ⟨file, request.folder⟩) := by
    rw [Request.plain, hfile]
    rfl
  rw [hplain]
  -- a file that is on the disk is loaded, whatever the cache remembers
  have hload := (Rerun.load (.inl (Disk.locate_of_source? hfile))).first
  refine Follows.lift_bind hload fun answer hanswer => ?_
  rw [hfile] at hanswer
  cases answer with
  | error e => cases hanswer
  | ok other =>
    rw [Option.some.inj hanswer]
    exact Follows.bind_right (request.question.answer_follows ⟨request.file, hfile⟩)
      (Follows.pure _)

theorem answers_follows (requests : List Request)
    (h : ∀ request ∈ requests, (disk.source? request.file).isSome) :
    Follows disk packages [] (answers disk packages requests)
      (requests.map fun request => request.plain disk packages) True := by
  induction requests with
  | nil => exact Follows.pure _
  | cons request requests ih =>
    have hrest := ih fun other hother => h other (by simp [hother])
    refine Follows.bind_right (request.answer_follows (h request (by simp))) ?_
    exact Follows.bind_right hrest (Follows.pure _)

/-- The answers of a resolver do not depend on what it was asked before: a sequence of requests to one
resolver with one cache is answered as each of them is by a fresh resolver with a fresh cache, and as
the expansion without a memory answers it. -/
theorem answers_independent (disk : Disk) (packages : PackageFinder) (requests : List Request)
    (h : ∀ request ∈ requests, (disk.source? request.file).isSome) :
    (answers disk packages requests {} {}).1.1
        = requests.map (fun request => (request.answer disk packages {} {}).1.1) ∧
      (answers disk packages requests {} {}).1.1
        = requests.map (fun request => request.plain disk packages) := by
  have hall := ((answers_follows requests h).run {} {} (sound_fresh disk packages) rfl).1
  refine ⟨?_, hall⟩
  rw [hall]
  refine List.map_congr_left fun request hrequest => ?_
  exact ((request.answer_follows (h request hrequest)).run {} {}
    (sound_fresh disk packages) rfl).1.symm

/-- Two structs that hold each other. -/
def cyclicDisk : Disk :=
  let source := "package m\n\ntype A struct \x7b\n\tB *B\n\x7d\n"
    ++ "\ntype B struct \x7b\n\tA *A\n\tN int\n\x7d\n"
  ⟨.folder [("m", .folder [("t.go", .file source.toUTF8)])], []⟩

/-- The two structs, entered from either side. -/
def cyclicRequests : List Request :=
  [['A'], ['B'], ['A']].map fun name =>
    ⟨⟨["", "m", "t.go"]⟩, ⟨["", "m"]⟩, .ofToken name⟩

theorem answers_independent_cyclic :
    (∀ request ∈ cyclicRequests, (cyclicDisk.source? request.file).isSome) ∧
      (answers cyclicDisk ⟨fun _ _ => none⟩ cyclicRequests {} {}).1.1
        = cyclicRequests.map
          (fun request => (request.answer cyclicDisk ⟨fun _ _ => none⟩ {} {}).1.1) ∧
      (answers cyclicDisk ⟨fun _ _ => none⟩ cyclicRequests {} {}).1.1
        = cyclicRequests.map (fun request => request.plain cyclicDisk ⟨fun _ _ => none⟩) := by
  have h : ∀ request ∈ cyclicRequests, (cyclicDisk.source? request.file).isSome := by
    decide +kernel
  exact ⟨h, answers_independent cyclicDisk ⟨fun _ _ => none⟩ cyclicRequests h⟩

end RouteDoc.Types
