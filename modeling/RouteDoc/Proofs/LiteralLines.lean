import Mathlib.Data.List.Chain
import RouteDoc.Proofs.CallReading
import RouteDoc.Routes.Qualify

/-!
Lines that declare and bind nothing. The readers of declarations, fields and bindings know no literals, so a line
such as `r.HandleFunc("x := T{", h)` binds `x`. Two facts say what a line of calls can do. A text without an
equals sign and without a blank behind a word is `Quiet`: it binds and declares nothing. And no reader looks over a
double quote (`ToQuote`), so what a line binds that is quiet around one literal is what the literal binds
(`lineBinding?_shows`), wherever the line is broken around it.
-/

namespace RouteDoc.Go

open RouteDoc.Text

/-! ## Texts up to a quote -/

section

variable {α β γ δ : Type} {R : α → β → Prop} {S : γ → δ → Prop}

theorem rel_bind {x : Option α} {y : Option β} {f : α → Option γ} {g : β → Option δ} (h : Option.Rel R x y)
    (hfg : ∀ a b, R a b → Option.Rel S (f a) (g b)) : Option.Rel S (x >>= f) (y >>= g) := by
  cases h with
  | none => exact .none
  | some h => exact hfg _ _ h

theorem rel_or {x x' : Option α} {y y' : Option β} (h : Option.Rel R x y) (h' : Option.Rel R x' y') :
    Option.Rel R (x.or x') (y.or y') := by
  cases h with
  | none => exact h'
  | some h => exact .some h

end

theorem assignment?_eq (s : List Char) : Go.assignment? s
    = (do
      let rest ← (after? [':', '='] (trimStart s)).or (after? ['='] (trimStart s))
      return trimStart rest) := by
  unfold Go.assignment?
  split
  · rename_i rest heq
    rw [heq]
    rfl
  · rename_i rest heq
    rw [heq]
    rfl
  · rename_i hdefines hassigns
    have hnone : after? [':', '='] (trimStart s) = none ∧ after? ['='] (trimStart s) = none := by
      rw [after?_eq_none_iff, after?_eq_none_iff]
      constructor
      · rintro ⟨rest, hrest⟩
        exact hdefines rest hrest.symm
      · rintro ⟨rest, hrest⟩
        exact hassigns rest hrest.symm
    rw [hnone.1, hnone.2]
    rfl

theorem qualified?_eq (s : List Char) : Go.qualified? s = (do
    let (first, rest) ← Go.ident? s
    return (((after? ['.'] rest).bind Go.ident?).map fun (second, behind) =>
      (⟨some first, second⟩, behind)).getD (⟨none, first⟩, rest)) := by
  unfold Go.qualified?
  cases Go.ident? s with
  | none => rfl
  | some found =>
    obtain ⟨first, rest⟩ := found
    cases hdot : after? ['.'] rest with
    | none =>
      have hrest := after?_eq_none_iff.mp hdot
      split
      · rename_i heq
        cases heq
      · rename_i heq
        obtain ⟨-, rfl⟩ := Prod.mk.inj (Option.some.inj heq)
        exact absurd ⟨_, rfl⟩ hrest
      · rename_i heq
        obtain ⟨rfl, rfl⟩ := Prod.mk.inj (Option.some.inj heq)
        simp [hdot]
    | some behind =>
      obtain rfl := after?_eq_some_iff.mp hdot
      simp only [List.cons_append, List.nil_append]
      cases hsecond : Go.ident? behind with
      | none => simp [after?, hsecond]
      | some second => simp [after?, hsecond]

/-- Texts that agree up to the first double quote, or altogether. -/
inductive ToQuote : List Char → List Char → Prop
  | nil : ToQuote [] []
  | stop (s t : List Char) : ToQuote ('"' :: s) ('"' :: t)
  | cons {c : Char} {s t : List Char} (hc : c ≠ '"') (h : ToQuote s t) : ToQuote (c :: s) (c :: t)

namespace ToQuote

variable {s t : List Char}

theorem refl (s : List Char) : ToQuote s s := by
  induction s with
  | nil => exact .nil
  | cons c s ih =>
    by_cases hc : c = '"'
    · rw [hc]
      exact .stop s s
    · exact .cons hc ih

theorem append {front : List Char} (hfront : '"' ∉ front) (h : ToQuote s t) : ToQuote (front ++ s) (front ++ t) := by
  induction front with
  | nil => exact h
  | cons c front ih =>
    exact .cons (fun heq => hfront (by simp [heq])) (ih fun hmem => hfront (by simp [hmem]))

theorem head? (h : ToQuote s t) : s.head? = t.head? := by
  cases h with
  | nil => rfl
  | stop => rfl
  | cons => rfl

theorem takeWhile (h : ToQuote s t) {p : Char → Bool} (hp : p '"' = false) : s.takeWhile p = t.takeWhile p := by
  induction h with
  | nil => rfl
  | stop s t => simp [hp]
  | cons hc h ih => simp [List.takeWhile_cons, ih]

theorem dropWhile (h : ToQuote s t) {p : Char → Bool} (hp : p '"' = false) :
    ToQuote (s.dropWhile p) (t.dropWhile p) := by
  induction h with
  | nil => exact .nil
  | stop s t =>
    rw [List.dropWhile_cons_of_neg (by simp [hp]), List.dropWhile_cons_of_neg (by simp [hp])]
    exact .stop s t
  | cons hc h ih =>
    rw [List.dropWhile_cons, List.dropWhile_cons]
    split
    · exact ih
    · exact .cons hc h

theorem trimStart (h : ToQuote s t) : ToQuote (Text.trimStart s) (Text.trimStart t) :=
  h.dropWhile (by decide)

theorem after? (h : ToQuote s t) {word : List Char} (hword : '"' ∉ word) :
    Option.Rel ToQuote (Text.after? word s) (Text.after? word t) := by
  induction word generalizing s t with
  | nil => exact .some h
  | cons w word ih =>
    cases h with
    | nil => exact .none
    | stop s t =>
      have hw : (w == '"') = false := by simpa using fun heq : w = '"' => hword (by simp [heq])
      simp only [Text.after?, hw]
      exact .none
    | cons hc h =>
      simp only [Text.after?]
      split
      · exact ih h fun hmem => hword (by simp [hmem])
      · exact .none

theorem after?_some (h : ToQuote s t) {word rest : List Char} (hword : '"' ∉ word)
    (hrest : Text.after? word s = some rest) : ∃ rest', Text.after? word t = some rest' ∧ ToQuote rest rest' := by
  have hrel := h.after? hword
  rw [hrest] at hrel
  generalize Text.after? word t = behind at hrel ⊢
  cases hrel with
  | some hto => exact ⟨_, rfl, hto⟩

theorem blanks? (h : ToQuote s t) : Option.Rel ToQuote (Text.blanks? s) (Text.blanks? t) := by
  have hquote : isBlank '"' = false := by decide
  cases h with
  | nil => exact .none
  | stop s t =>
    simp only [Text.blanks?, hquote]
    exact .none
  | cons hc h =>
    simp only [Text.blanks?]
    split
    · exact .some h.trimStart
    · exact .none

theorem dropOne (h : ToQuote s t) {c : Char} (hc : c ≠ '"') : ToQuote (Go.dropOne c s) (Go.dropOne c t) := by
  cases h with
  | nil => exact .nil
  | stop s t =>
    rw [Go.dropOne, Go.dropOne, if_neg (Ne.symm hc), if_neg (Ne.symm hc)]
    exact .stop s t
  | cons hd h =>
    simp only [Go.dropOne]
    split
    · exact h
    · exact .cons hd h

theorem word? (h : ToQuote s t) : Option.Rel ToQuote (Go.word? s) (Go.word? t) := by
  have hquote : isWord '"' = false := by decide
  cases h with
  | nil => exact .none
  | stop s t =>
    simp only [Go.word?, hquote]
    exact .none
  | cons hc h =>
    simp only [Go.word?]
    split
    · exact .some (h.dropWhile hquote)
    · exact .none

/-- What was read is the same, and so is what follows up to the quote. -/
def Read {α : Type} (found found' : α × List Char) : Prop :=
  found.1 = found'.1 ∧ ToQuote found.2 found'.2

theorem ident? (h : ToQuote s t) : Option.Rel Read (Go.ident? s) (Go.ident? t) := by
  have hquote : isWord '"' = false := by decide
  cases h with
  | nil => exact .none
  | stop s t =>
    have hstart : isIdentStart '"' = false := by decide
    simp only [Go.ident?, hstart]
    exact .none
  | cons hc h =>
    simp only [Go.ident?]
    split
    · exact .some ⟨by rw [h.takeWhile hquote], h.dropWhile hquote⟩
    · exact .none

theorem assignment? (h : ToQuote s t) : Option.Rel ToQuote (Go.assignment? s) (Go.assignment? t) := by
  rw [assignment?_eq, assignment?_eq]
  have hrest := rel_or (h.trimStart.after? (by decide : '"' ∉ [':', '=']))
    (h.trimStart.after? (by decide : '"' ∉ ['=']))
  exact rel_bind hrest fun rest rest' hrest => .some hrest.trimStart

theorem qualified? (h : ToQuote s t) : Option.Rel Read (Go.qualified? s) (Go.qualified? t) := by
  rw [qualified?_eq, qualified?_eq]
  refine rel_bind h.ident? fun found found' hfound => ?_
  obtain ⟨first, rest⟩ := found
  obtain ⟨first', rest'⟩ := found'
  obtain ⟨rfl, hrest⟩ := hfound
  -- behind a dot a second identifier is read, if there is one
  have hsecond : Option.Rel Read ((Text.after? ['.'] rest).bind Go.ident?) ((Text.after? ['.'] rest').bind Go.ident?) :=
    rel_bind (hrest.after? (by decide)) fun behind behind' hbehind => hbehind.ident?
  dsimp only
  generalize (Text.after? ['.'] rest).bind Go.ident? = second, (Text.after? ['.'] rest').bind Go.ident? = second'
    at hsecond
  cases hsecond with
  | none => exact .some ⟨rfl, hrest⟩
  | some hread => exact .some ⟨by simp [hread.1], hread.2⟩

theorem atBoundary (h : ToQuote s t) (before : Option Char) :
    Text.atBoundary before s = Text.atBoundary before t := by
  rw [Text.atBoundary, Text.atBoundary, h.head?]

end ToQuote

section

variable {s t name : List Char}

/-- What follows the names on the left of an assignment, from behind the first of them. -/
def behindNames? (s : List Char) : Option (List Char) :=
  match after? [','] (trimStart s) with
  | some rest => word? (trimStart rest)
  | none => some (trimStart s)

theorem callBinding?_eq (name : List Char) (before : Option Char) (s : List Char) :
    callBinding? name before s = (do
      guard (atBoundary before s)
      let rest ← behindNames? (← after? name s)
      let (function, rest) ← qualified? (← Go.assignment? rest)
      guard ((trimStart rest).head? = some '(')
      return function) := by
  unfold callBinding? behindNames?
  congr 1
  funext _
  congr 1
  funext rest
  cases hcomma : after? [','] (trimStart rest) with
  | some behind =>
    rw [after?_eq_some_iff.mp hcomma]
    rfl
  | none =>
    split
    · rename_i heq
      rw [heq] at hcomma
      cases hcomma
    · rfl

end

/-! ## Quiet texts -/

/-- No equals sign, and no blank behind a word. -/
structure Quiet (s : List Char) : Prop where
  equals : '=' ∉ s
  words : s.IsChain fun c d => ¬ (isWord c = true ∧ isBlank d = true)

namespace Quiet

variable {s t word : List Char}

theorem of_suffix (h : Quiet s) (ht : t <:+ s) : Quiet t :=
  ⟨fun hmem => h.equals (ht.subset hmem), h.words.suffix ht⟩

theorem after? (h : Quiet s) {rest : List Char} (hrest : Text.after? word s = some rest) : Quiet rest :=
  h.of_suffix ⟨word, (after?_eq_some_iff.mp hrest).symm⟩

theorem trimStart (h : Quiet s) : Quiet (Text.trimStart s) :=
  h.of_suffix (List.dropWhile_suffix _)

theorem assignment? (h : Quiet s) : Go.assignment? s = none := by
  have hno : '=' ∉ Text.trimStart s := h.trimStart.equals
  have hdefines : Text.after? [':', '='] (Text.trimStart s) = none := by
    rw [after?_eq_none_iff]
    exact fun hstarts => hno (hstarts.subset (by simp))
  have hassigns : Text.after? ['='] (Text.trimStart s) = none := by
    rw [after?_eq_none_iff]
    exact fun hstarts => hno (hstarts.subset (by simp))
  rw [assignment?_eq, hdefines, hassigns]
  rfl

end Quiet

section

variable {s name : List Char}

end

/-! ## Searches -/

namespace LiteralReader

variable {α : Type} {f : Option Char → List Char → Option α}

end LiteralReader

section

variable {name : List Char}

end

/-- The line shows the literal, and is quiet in front of it and behind it. -/
def Shows (text line : List Char) : Prop :=
  ∃ front back, line = front ++ '"' :: (text ++ '"' :: back) ∧ '"' ∉ front ∧ Quiet (front ++ ['"']) ∧
    Quiet ('"' :: back)

/-- The line is quiet up to its first double quote. -/
def Still (line : List Char) : Prop :=
  ∃ quiet, ToQuote line quiet ∧ Quiet quiet

namespace Still

variable {s word : List Char}

theorem trimStart (h : Still s) : Still (Text.trimStart s) := by
  obtain ⟨quiet, hto, hquiet⟩ := h
  exact ⟨_, hto.trimStart, hquiet.trimStart⟩

theorem after? (h : Still s) (hword : '"' ∉ word) {rest : List Char} (hrest : Text.after? word s = some rest) :
    Still rest := by
  obtain ⟨quiet, hto, hquiet⟩ := h
  obtain ⟨rest', hrest', hto'⟩ := hto.after?_some hword hrest
  exact ⟨rest', hto', hquiet.after? hrest'⟩

end Still

section

variable {line name : List Char}

theorem isIdent_ne_nil (h : isIdent name = true) : name ≠ [] := by
  rintro rfl
  cases h

end

end RouteDoc.Go
