import RouteDoc.Proofs.LiteralLines

/-!
Names that are read from sources. Whatever is taken for the name of a type or for a handler is made of word
characters, with dots between the names of a chain: the type that a line binds a variable to or gives to a field
(`variableBinding?_worded`, `fieldBinding?_worded`), the type that a function returns (`declaredResult_worded`),
and the chains of a handler expression (`readHandler_chains`). So a name never has a slash, and in a symbol the
last slash is that of the import path.
-/

namespace RouteDoc

namespace Text

def Worded (s : List Char) : Prop :=
  ∀ c ∈ s, isWord c = true

theorem Worded.slash_not_mem {s : List Char} (h : Worded s) : '/' ∉ s :=
  fun hmem => absurd (h '/' hmem) (by decide +kernel)

theorem Worded.of_after? {word s rest : List Char} (h : Worded s) (hrest : after? word s = some rest) :
    Worded rest := by
  rw [after?_eq_some_iff] at hrest
  intro c hc
  exact h c (by rw [hrest]; exact List.mem_append_right word hc)

section

variable {α β : Type} {P : β → Prop}

theorem forall_mem_bind {x : Option α} {f : α → Option β} (h : ∀ a ∈ x, ∀ b ∈ f a, P b) :
    ∀ b ∈ x >>= f, P b := by
  intro b hb
  obtain ⟨a, ha, hfa⟩ := Option.bind_eq_some_iff.mp hb
  exact h a ha b hfa

theorem forall_mem_search {f : Option Char → List Char → Option β} (h : ∀ before s, ∀ b ∈ f before s, P b)
    (before : Option Char) (s : List Char) : ∀ b ∈ search f before s, P b := by
  induction s generalizing before with
  | nil => exact h before []
  | cons c s ih =>
    intro b hb
    rw [search] at hb
    split at hb
    · rename_i a ha
      exact h before (c :: s) b (ha.trans hb)
    · exact ih (some c) b hb

theorem forall_mem_findSome? {f : α → Option β} (h : ∀ a, ∀ b ∈ f a, P b) (list : List α) :
    ∀ b ∈ list.findSome? f, P b := by
  intro b hb
  obtain ⟨a, -, ha⟩ := List.exists_of_findSome?_eq_some hb
  exact h a b ha

theorem forall_mem_orElse {x y : Option β} (hx : ∀ b ∈ x, P b) (hy : ∀ b ∈ y, P b) : ∀ b ∈ (x <|> y), P b := by
  cases x with
  | none => exact hy
  | some b => exact hx

end

end Text

namespace Go

open RouteDoc.Text

variable {name : List Char}

theorem ident?_isIdent (s : List Char) : ∀ found ∈ ident? s, isIdent found.1 = true := by
  intro found hfound
  cases s with
  | nil => cases hfound
  | cons first s =>
    simp only [ident?, Option.mem_def, Option.ite_none_right_eq_some, Option.some.injEq] at hfound
    obtain ⟨hstart, rfl⟩ := hfound
    simp only [isIdent, hstart, Bool.true_and, List.all_eq_true]
    exact fun c hc => List.mem_takeWhile_imp hc

theorem qualified?_worded (s : List Char) : ∀ found ∈ qualified? s, Worded found.1.name := by
  intro found hfound
  unfold qualified? at hfound
  split at hfound
  · cases hfound
  · rename_i first rest hfirst
    split at hfound
    · rename_i second behind hsecond
      obtain rfl := Option.some.inj hfound
      exact Routes.isWord_of_isIdent (ident?_isIdent rest _ hsecond)
    · obtain rfl := Option.some.inj hfound
      exact Routes.isWord_of_isIdent (ident?_isIdent s _ hfirst)
  · rename_i first rest _ hfirst
    obtain rfl := Option.some.inj hfound
    exact Routes.isWord_of_isIdent (ident?_isIdent s _ hfirst)

/-- A reader that gives the qualified name at some place, if something holds of what follows it. -/
theorem forall_mem_qualified? {s : List Char} {f : QualifiedName × List Char → Option QualifiedName}
    (h : ∀ found, ∀ type ∈ f found, type = found.1) : ∀ type ∈ qualified? s >>= f, Worded type.name := by
  refine forall_mem_bind fun found hfound type htype => ?_
  rw [h found type htype]
  exact qualified?_worded s found hfound

theorem receiverBinding?_worded (name line : List Char) :
    ∀ type ∈ receiverBinding? name line, Worded type.name := by
  refine forall_mem_bind fun rest _ => ?_
  split
  · refine forall_mem_bind fun behind _ => forall_mem_bind fun type _ => ?_
    exact forall_mem_qualified? fun found type htype => (Option.some.inj htype).symm
  · exact fun _ h => by cases h

theorem eq_of_mem_guard {p : Prop} [Decidable p] {type other : QualifiedName}
    (h : other ∈ (do guard p; return type : Option QualifiedName)) : other = type := by
  obtain ⟨-, -, hreturn⟩ := Option.bind_eq_some_iff.mp h
  exact (Option.some.inj hreturn).symm

theorem literalBinding?_worded (name : List Char) (before : Option Char) (s : List Char) :
    ∀ type ∈ literalBinding? name before s, Worded type.name := by
  refine forall_mem_bind fun value _ => ?_
  exact forall_mem_qualified? fun found type htype => eq_of_mem_guard htype

theorem newBinding?_worded (name : List Char) (before : Option Char) (s : List Char) :
    ∀ type ∈ newBinding? name before s, Worded type.name := by
  refine forall_mem_bind fun value _ => forall_mem_bind fun type _ => ?_
  exact forall_mem_qualified? fun found type htype => eq_of_mem_guard htype

theorem varBinding?_worded (name : List Char) (before : Option Char) (s : List Char) :
    ∀ type ∈ varBinding? name before s, Worded type.name := by
  refine forall_mem_bind fun _ _ => forall_mem_bind fun behind _ => forall_mem_bind fun declared _ => ?_
  refine forall_mem_bind fun rest _ => forall_mem_bind fun type _ => ?_
  exact forall_mem_qualified? fun found type htype => eq_of_mem_guard htype

theorem callBinding?_worded (name : List Char) (before : Option Char) (s : List Char) :
    ∀ function ∈ callBinding? name before s, Worded function.name := by
  rw [callBinding?_eq]
  refine forall_mem_bind fun _ _ => forall_mem_bind fun behind _ => forall_mem_bind fun rest _ => ?_
  refine forall_mem_bind fun value _ => ?_
  exact forall_mem_qualified? fun found type htype => eq_of_mem_guard htype

def Binding.qualifiedName : Binding → QualifiedName
  | .type name => name
  | .call function => function

theorem lineBinding?_worded (name line : List Char) :
    ∀ binding ∈ lineBinding? name line, Worded binding.qualifiedName.name := by
  unfold lineBinding?
  refine forall_mem_orElse ?_ ?_
  · intro binding hbinding
    obtain ⟨type, htype, rfl⟩ := Option.map_eq_some_iff.mp hbinding
    refine forall_mem_orElse (receiverBinding?_worded name line) ?_ type htype
    refine forall_mem_orElse (forall_mem_search (literalBinding?_worded name) none line) ?_
    refine forall_mem_orElse (forall_mem_search (newBinding?_worded name) none line) ?_
    exact forall_mem_search (varBinding?_worded name) none line
  · intro binding hbinding
    obtain ⟨function, hfunction, rfl⟩ := Option.map_eq_some_iff.mp hbinding
    exact forall_mem_search (callBinding?_worded name) none line function hfunction

theorem variableBinding?_worded (lines : List (List Char)) (name : List Char) :
    ∀ binding ∈ variableBinding? lines name, Worded binding.qualifiedName.name :=
  forall_mem_findSome? (lineBinding?_worded name) lines

theorem lineField?_worded (name line : List Char) : ∀ type ∈ lineField? name line, Worded type.name := by
  refine forall_mem_bind fun rest _ => forall_mem_bind fun type _ => ?_
  refine forall_mem_qualified? fun found type htype => ?_
  obtain ⟨-, -, hreturn⟩ := Option.bind_eq_some_iff.mp htype
  exact (Option.some.inj hreturn).symm

theorem fieldBinding?_worded (lines : List (List Char)) (name : List Char) :
    ∀ type ∈ fieldBinding? lines name, Worded type.name :=
  forall_mem_findSome? (lineField?_worded name) lines

theorem resultType?_worded (line function : List Char) :
    ∀ type ∈ resultType? line function, Worded type.name := by
  refine forall_mem_bind fun rest _ => forall_mem_bind fun results _ => ?_
  exact forall_mem_qualified? fun found type htype => (Option.some.inj htype).symm

end Go

namespace Routes

open RouteDoc.Go RouteDoc.Text

theorem declaredResult_worded (package : String) (function : List Char) (file : SourceFile) :
    ∀ type ∈ (declaredResult package function file).join, Worded type.name := by
  intro type htype
  unfold declaredResult at htype
  split at htype
  · cases htype
  · have hsome := Option.some.inj (Option.join_eq_some_iff.mp htype)
    obtain ⟨result, hresult, hreturn⟩ := Option.bind_eq_some_iff.mp hsome
    have hword := resultType?_worded _ _ result hresult
    split at hreturn
    · obtain ⟨path, -, hreturn⟩ := Option.bind_eq_some_iff.mp hreturn
      obtain rfl := Option.some.inj hreturn
      exact hword
    · obtain rfl := Option.some.inj hreturn
      exact hword

theorem promisedType?_worded (package : String) {function : List Char} (h : Worded function) :
    ∀ type ∈ promisedType? package function, Worded type.name := by
  intro type htype
  unfold promisedType? at htype
  split at htype
  · cases htype
  · rename_i name _ hname
    obtain rfl := Option.some.inj htype
    exact h.of_after? hname
  · cases htype

/-! ## Chains -/

theorem worded_of_isChain {chain : List Char} (h : isChain chain = true) :
    ∀ segment ∈ split '.' chain, Worded segment := by
  intro segment hsegment
  exact isWord_of_isIdent (List.all_eq_true.mp h segment hsegment)

def HandlerExpr.chains : HandlerExpr → List (List Char)
  | .func chain => [chain]
  | .kit decoder endpoint => [decoder, endpoint]

theorem isChain_of_callTarget? {arg chain : List Char} (h : callTarget? arg = some chain) :
    isChain chain = true := by
  simp only [callTarget?, Option.ite_none_right_eq_some, Option.some.injEq] at h
  obtain ⟨hchain, rfl⟩ := h
  exact hchain

theorem serverOf?_chains {args : List (List Char)} {expr : HandlerExpr} (h : serverOf? args = some expr) :
    ∀ chain ∈ expr.chains, isChain chain = true := by
  obtain ⟨first, -, h⟩ := Option.bind_eq_some_iff.mp h
  obtain ⟨endpoint, hendpoint, h⟩ := Option.bind_eq_some_iff.mp h
  obtain ⟨second, -, h⟩ := Option.bind_eq_some_iff.mp h
  obtain ⟨decoder, hdecoder, h⟩ := Option.bind_eq_some_iff.mp h
  obtain rfl := Option.some.inj h
  intro chain hchain
  rcases List.mem_cons.mp hchain with rfl | hchain
  · exact isChain_of_callTarget? hdecoder
  · rw [List.mem_singleton.mp hchain]
    exact isChain_of_callTarget? hendpoint

theorem readHandler_chains {text : List Char} {expr : HandlerExpr} (h : readHandler text = some expr) :
    ∀ chain ∈ expr.chains, isChain chain = true := by
  fun_induction readHandler text with
  | case1 => cases h
  | case2 text hfunc hcut hchain =>
    obtain rfl := Option.some.inj h
    simpa [HandlerExpr.chains] using hchain
  | case3 => cases h
  | case4 => cases h
  | case5 => cases h
  | case6 text hfunc before rest hcut callee hchain hname arg args hargs ih => exact ih h
  | case7 => exact serverOf?_chains h
  | case8 text hfunc before rest hcut callee hchain hname hserver =>
    obtain rfl := Option.some.inj h
    simpa [HandlerExpr.chains] using hchain

end Routes

end RouteDoc
