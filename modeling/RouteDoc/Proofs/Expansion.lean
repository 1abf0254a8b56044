import Mathlib.Tactic.Common
import RouteDoc.Types.Expand

/-!
One level of expansion, seen in two monads at once. Being in step is any relation between their
computations that is kept by the steps of the monads (`InStep`). Expansions whose surroundings are in
step (`InStep.Around`) are in step on bases and tokens. The tokens that a definition expands do not
depend on what they expand to (`Go.TypeDefinition.tokens`), so two ways of expanding declared types that
stay in step on the tokens of a definition stay in step on the definition (`expandDefinition_inStep`).
-/

namespace RouteDoc

namespace Go

open RouteDoc.Types

mutual

/-- The tokens that a field has expanded. -/
def Field.tokens : Field → List (List Char)
  | .plain names type tag? =>
    if (JsonTag.read tag?).skip || (names.filter isExported).isEmpty then [] else [type]
  | .embedded type tag? => if (JsonTag.read tag?).skip then [] else [type]
  | .nested name _ fields tag? =>
    if (JsonTag.read tag?).skip || !isExported name then [] else fieldTokens fields

def fieldTokens : List Field → List (List Char)
  | [] => []
  | field :: fields => field.tokens ++ fieldTokens fields

end

def TypeDefinition.tokens : TypeDefinition → List (List Char)
  | .struct fields => fieldTokens fields
  | .interface => []
  | .named token => [token]

end Go

namespace Types

open RouteDoc.Go

/-- A relation between the computations of two monads: they answer alike, and the proposition holds
of what happens on the way. Going on from equal answers adds up what has been seen. -/
structure InStep (m n : Type → Type) [Monad m] [Monad n] where
  Rel : ∀ {α : Type}, m α → n α → Prop → Prop
  pure : ∀ {α : Type} (a : α), Rel (pure a) (pure a) True
  bind : ∀ {α β : Type} {x : m α} {y : n α} {f : α → m β} {g : α → n β} {P Q : Prop},
    Rel x y P → (∀ a, Rel (f a) (g a) Q) → Rel (x >>= f) (y >>= g) (P ∧ Q)
  weaken : ∀ {α : Type} {x : m α} {y : n α} {P Q : Prop}, Rel x y P → (P → Q) → Rel x y Q

variable {m n : Type → Type} [Monad m] [Monad n]

namespace InStep

variable (R : InStep m n)

/-- A first step and what follows it, where only the first one shows something. -/
theorem bind_left {α β : Type} {x : m α} {y : n α} {f : α → m β} {g : α → n β} {P : Prop}
    (hx : R.Rel x y P) (hf : ∀ a, R.Rel (f a) (g a) True) : R.Rel (x >>= f) (y >>= g) P :=
  R.weaken (R.bind hx hf) And.left

theorem bind_pure {α β : Type} {x : m α} {y : n α} {f : α → β} {P : Prop} (hx : R.Rel x y P) :
    R.Rel (x >>= fun a => Pure.pure (f a)) (y >>= fun a => Pure.pure (f a)) P :=
  R.bind_left hx fun a => R.pure (f a)

theorem trivial {α : Type} {x : m α} {y : n α} {P : Prop} (h : R.Rel x y P) : R.Rel x y True :=
  R.weaken h fun _ => True.intro

end InStep

variable (R : InStep m n) {around : Surroundings m} {around' : Surroundings n} {scope : Scope}

/-- Surroundings that are in step wherever they are relied on. -/
structure InStep.Around (around : Surroundings m) (around' : Surroundings n) : Prop where
  imports : ∀ file, R.Rel (around.imports file) (around'.imports file) True
  folder? : around.folder? = around'.folder?
  warn : ∀ text, R.Rel (around.warn text) (around'.warn text) True
  declared : ∀ folder name, R.Rel (around.declared folder name) (around'.declared folder name) True

variable {R} in
theorem InStep.Around.expandBase (h : R.Around around around') (base : Base) :
    R.Rel (Types.expandBase around scope base) (Types.expandBase around' scope base) True := by
  cases base with
  | schema type => exact R.pure _
  | shapeless => exact R.pure _
  | own name => exact h.declared scope.folder name
  | imported label name =>
    apply R.bind_left (h.imports scope.file)
    intro imports
    rw [h.folder?]
    cases (Assoc.get? (String.ofList label) imports).bind around'.folder? with
    | none => exact R.bind_left (h.warn _) fun _ => R.pure _
    | some folder => exact h.declared folder name

variable {R} in
theorem InStep.Around.expandToken (h : R.Around around around') (token : List Char) :
    R.Rel (Types.expandToken around scope token) (Types.expandToken around' scope token) True :=
  R.bind_pure (h.expandBase (readToken token).2)

theorem expandNames_inStep {type : List Char} (tag : JsonTag) {P : Prop}
    (h : R.Rel (expandToken around scope type) (expandToken around' scope type) P)
    (names : List (List Char)) :
    R.Rel (expandNames around scope type tag names) (expandNames around' scope type tag names)
      (names ≠ [] → P) := by
  induction names with
  | nil => exact R.weaken (R.pure _) fun _ hne => absurd rfl hne
  | cons name names ih =>
    refine R.weaken (R.bind_left h fun type' => ?_) fun hP _ => hP
    exact R.trivial (R.bind_pure ih)

theorem expandEmbedded_inStep [LawfulMonad m] [LawfulMonad n] {type : List Char} {tag : JsonTag}
    {P : Prop}
    (h : R.Rel (expandToken around scope type) (expandToken around' scope type) P) :
    R.Rel (expandEmbedded around scope type tag) (expandEmbedded around' scope type tag) P := by
  have hnames := expandNames_inStep R tag h [embeddedName type]
  unfold expandEmbedded
  cases tag.name? with
  | some name =>
    simp only [Option.isNone_some, Bool.false_eq_true, if_false, pure_bind, List.isEmpty_nil,
      if_true]
    exact R.weaken hnames fun hP => hP (by simp)
  | none =>
    simp only [Option.isNone_none, if_true]
    refine R.bind_left h fun embedded => ?_
    simp only [pure_bind]
    cases (if embedded.isArray then [] else embedded.children : List InferredType).isEmpty with
    | true => exact R.trivial hnames
    | false => exact R.pure _

mutual

theorem expandField_inStep [LawfulMonad m] [LawfulMonad n] {P : List Char → Prop} (field : Field)
    (h : ∀ token ∈ field.tokens,
      R.Rel (expandToken around scope token) (expandToken around' scope token) (P token)) :
    R.Rel (expandField around scope field) (expandField around' scope field)
      (∀ token ∈ field.tokens, P token) := by
  cases field with
  | plain names type tag? =>
    simp only [expandField]
    split
    · rename_i hskip
      exact R.weaken (R.pure _) fun _ => by simp [Field.tokens, hskip]
    · rename_i hskip
      cases hnames : names.filter isExported with
      | nil => exact R.weaken (R.pure _) fun _ => by simp [Field.tokens, hnames]
      | cons name rest =>
        have htokens : (Field.plain names type tag?).tokens = [type] := by
          simp [Field.tokens, hskip, hnames]
        rw [htokens] at h ⊢
        refine R.weaken (expandNames_inStep R (JsonTag.read tag?) (h type (by simp)) _) ?_
        intro hP token htoken
        rw [List.mem_singleton.mp htoken]
        exact hP (by simp)
  | embedded type tag? =>
    simp only [expandField]
    split
    · rename_i hskip
      exact R.weaken (R.pure _) fun _ => by simp [Field.tokens, hskip]
    · rename_i hskip
      have htokens : (Field.embedded type tag?).tokens = [type] := by simp [Field.tokens, hskip]
      rw [htokens] at h ⊢
      refine R.weaken (expandEmbedded_inStep R (h type (by simp))) fun hP token htoken => ?_
      rw [List.mem_singleton.mp htoken]
      exact hP
  | nested name lead fields tag? =>
    simp only [expandField]
    split
    · rename_i hskip
      exact R.weaken (R.pure _) fun _ => by simp [Field.tokens, hskip]
    · rename_i hskip
      have htokens : (Field.nested name lead fields tag?).tokens = fieldTokens fields := by
        simp [Field.tokens, hskip]
      rw [htokens] at h ⊢
      exact R.bind_pure (expandFields_inStep fields h)

theorem expandFields_inStep [LawfulMonad m] [LawfulMonad n] {P : List Char → Prop}
    (fields : List Field)
    (h : ∀ token ∈ fieldTokens fields,
      R.Rel (expandToken around scope token) (expandToken around' scope token) (P token)) :
    R.Rel (expandFields around scope fields) (expandFields around' scope fields)
      (∀ token ∈ fieldTokens fields, P token) := by
  cases fields with
  | nil => exact R.weaken (R.pure _) fun _ => by simp [fieldTokens]
  | cons field fields =>
    simp only [fieldTokens, List.mem_append] at h ⊢
    have hfirst := expandField_inStep field fun token htoken => h token (.inl htoken)
    have hrest := expandFields_inStep fields fun token htoken => h token (.inr htoken)
    refine R.weaken (R.bind hfirst fun first => R.bind_pure hrest) ?_
    rintro ⟨hP, hQ⟩ token (htoken | htoken)
    · exact hP token htoken
    · exact hQ token htoken

end

/-- Expansions that stay in step on the tokens of a definition stay in step on the definition, and
have seen all that they have seen at the tokens. -/
theorem expandDefinition_inStep [LawfulMonad m] [LawfulMonad n] {P : List Char → Prop}
    (definition : TypeDefinition)
    (h : ∀ token ∈ definition.tokens,
      R.Rel (expandToken around scope token) (expandToken around' scope token) (P token)) :
    R.Rel (expandDefinition around scope definition) (expandDefinition around' scope definition)
      (∀ token ∈ definition.tokens, P token) := by
  cases definition with
  | struct fields => exact R.bind_pure (expandFields_inStep R fields h)
  | interface => exact R.weaken (R.pure _) fun _ => by simp [TypeDefinition.tokens]
  | named token =>
    refine R.weaken (h token (by simp [TypeDefinition.tokens])) fun hP token' htoken => ?_
    rw [List.mem_singleton.mp htoken]
    exact hP

end Types

end RouteDoc
