import Mathlib.Data.List.TakeWhile
import RouteDoc.Go.Call
import RouteDoc.Proofs.CommentStripping
import RouteDoc.Proofs.SymbolParts

/-!
What the recognisers of text find. A word is found exactly in front of the text that follows it
(`after?_eq_some_iff`); a search passes over a part of the text in which nothing can start, and what was read
before does not matter to it (`search_pass`, `searchAll_pass`). A word does not start in a part that does not hold
it and ends with a character foreign to it (`not_starts_in`); this is how searches for words pass over literals
(`search_pass_clear`).

Blanks are neither word characters nor parts of a receiver, which is why a text that starts and ends with such
characters is not changed by trimming (`trim_of_ends`).
-/

namespace RouteDoc.Text

/-! ## Blanks -/

/-- The code points of white space. -/
def blankPoints : List Nat :=
  [0x9, 0xA, 0xB, 0xC, 0xD, 0x20, 0x85, 0xA0, 0x1680, 0x2000, 0x2001, 0x2002, 0x2003, 0x2004, 0x2005, 0x2006,
    0x2007, 0x2008, 0x2009, 0x200A, 0x2028, 0x2029, 0x202F, 0x205F, 0x3000]

theorem toNat_mem_of_isBlank {c : Char} (h : isBlank c = true) : c.toNat ∈ blankPoints := by
  simp only [isBlank, Span.covers, blankSpans, Span.has, List.any_cons, List.any_nil, Bool.or_eq_true,
    Bool.and_eq_true, decide_eq_true_eq, beq_iff_eq, Bool.or_false] at h
  simp only [blankPoints, List.mem_cons, List.not_mem_nil, or_false]
  omega

/-- What fails of every code point of white space fails of every blank. -/
theorem eq_false_of_isBlank {p : Char → Bool} (h : blankPoints.all (fun n => !p (Char.ofNat n)) = true)
    {c : Char} (hc : isBlank c = true) : p c = false := by
  have hpoint := List.all_eq_true.mp h c.toNat (toNat_mem_of_isBlank hc)
  rw [Char.ofNat_toNat] at hpoint
  simpa using hpoint

theorem isBlank_of_isWord {c : Char} (h : isWord c = true) : isBlank c = false := by
  by_contra hblank
  have hword := eq_false_of_isBlank (p := isWord) (by decide +kernel) (by simpa using hblank)
  rw [h] at hword
  cases hword

theorem isBlank_of_isReceiverChar {c : Char} (h : Go.isReceiverChar c = true) : isBlank c = false := by
  by_contra hblank
  have hreceiver := eq_false_of_isBlank (p := Go.isReceiverChar) (by decide +kernel) (by simpa using hblank)
  rw [h] at hreceiver
  cases hreceiver

theorem trimStart_cons {c : Char} (h : isBlank c = false) (s : List Char) : trimStart (c :: s) = c :: s := by
  simp [trimStart, h]

theorem trimStart_of_head {s : List Char} (h : ∀ c, s.head? = some c → isBlank c = false) : trimStart s = s := by
  cases s with
  | nil => rfl
  | cons c s => exact trimStart_cons (h c rfl) s

theorem trimEnd_of_last {s : List Char} (h : ∀ c, s.getLast? = some c → isBlank c = false) : trimEnd s = s := by
  have hreverse : trimStart s.reverse = s.reverse :=
    trimStart_of_head fun c hc => h c (by rwa [List.head?_reverse] at hc)
  rw [trimEnd, ← trimStart, hreverse, List.reverse_reverse]

theorem trim_of_ends {s : List Char} (hhead : ∀ c, s.head? = some c → isBlank c = false)
    (hlast : ∀ c, s.getLast? = some c → isBlank c = false) : trim s = s := by
  rw [trim, trimStart_of_head hhead, trimEnd_of_last hlast]

theorem trimStart_blanks {lead : List Char} (h : ∀ c ∈ lead, isBlank c = true) (s : List Char) :
    trimStart (lead ++ s) = trimStart s :=
  List.dropWhile_append_of_pos h

theorem trim_blanks {s : List Char} (h : ∀ c ∈ s, isBlank c = true) : trim s = [] := by
  have hnone : trimStart s = [] := List.dropWhile_eq_nil_iff.mpr h
  rw [trim, hnone]
  rfl

theorem trim_between {lead tail : List Char} (hlead : ∀ c ∈ lead, isBlank c = true)
    (htail : ∀ c ∈ tail, isBlank c = true) (s : List Char) : trim (lead ++ s ++ tail) = trim s := by
  rw [trim, List.append_assoc, trimStart_blanks hlead, trimStart, List.dropWhile_append]
  split
  · rename_i hblank
    have hnone : trim tail = [] := trim_blanks htail
    rw [trim, trimStart, List.isEmpty_iff.mp hblank]
    exact hnone
  · exact Source.trimEnd_append htail

/-! ## Words -/

theorem after?_append (word s : List Char) : after? word (word ++ s) = some s := by
  induction word with
  | nil => rfl
  | cons w word ih => simp [after?, ih]

theorem after?_eq_some_iff {word s rest : List Char} : after? word s = some rest ↔ s = word ++ rest := by
  constructor
  · intro h
    fun_induction after? word s with
    | case1 s => simpa using h
    | case2 => cases h
    | case3 w word c s heq ih =>
      rw [beq_iff_eq.mp heq, ih h]
      rfl
    | case4 => cases h
  · rintro rfl
    exact after?_append word rest

theorem after?_eq_none_iff {word s : List Char} : after? word s = none ↔ ¬ word <+: s := by
  constructor
  · rintro hnone ⟨rest, rfl⟩
    rw [after?_append] at hnone
    cases hnone
  · intro hno
    cases hafter : after? word s with
    | none => rfl
    | some rest => exact absurd ⟨rest, (after?_eq_some_iff.mp hafter).symm⟩ hno

/-- A word that starts within a text whose last character is foreign to the word lies within the text. -/
theorem not_starts_in {word text : List Char} {last : Char} (hforeign : last ∉ word)
    (hno : ¬ word <:+: text) {t : List Char} (ht : t <:+ text ++ [last]) (htne : t ≠ []) (s : List Char) :
    ¬ word <+: t ++ s := by
  intro hstarts
  obtain ⟨front, hfront⟩ := ht
  obtain ⟨inner, rfl⟩ : ∃ inner, t = inner ++ [last] := by
    rcases List.eq_nil_or_concat' t with hnil | ⟨inner, c, rfl⟩
    · exact absurd hnil htne
    · rw [← List.append_assoc] at hfront
      obtain ⟨-, hc⟩ := List.append_inj' hfront rfl
      exact ⟨inner, by rw [hc]⟩
  rw [← List.append_assoc] at hfront
  have htext : front ++ inner = text := (List.append_inj' hfront rfl).1
  have hinner : word <+: inner → False := fun h => hno (htext ▸ h.isInfix.trans (List.suffix_append _ _).isInfix)
  obtain ⟨rest, hrest⟩ := hstarts
  rw [List.append_assoc] at hrest
  rcases List.append_eq_append_iff.mp hrest with ⟨more, hmore, -⟩ | ⟨more, hmore, hlast⟩
  · exact hinner ⟨more, hmore.symm⟩
  · cases more with
    | nil => exact hinner ⟨[], by simpa using hmore⟩
    | cons c more =>
      obtain ⟨rfl, -⟩ := List.cons.inj hlast
      exact hforeign (by simp [hmore])

/-! ## Searches -/

section

variable {α : Type}

theorem search_pass (f : List Char → Option α) (before : Option Char) {a s : List Char}
    (h : ∀ t, t <:+ a → t ≠ [] → f (t ++ s) = none) :
    search (fun _ => f) before (a ++ s) = search (fun _ => f) none s := by
  induction a generalizing before with
  | nil =>
    cases s with
    | nil => rfl
    | cons c s => rfl
  | cons c a ih =>
    have hhere := h (c :: a) (List.suffix_refl _) (by simp)
    rw [List.cons_append] at hhere
    rw [List.cons_append, search, hhere]
    exact ih _ fun t ht => h t (ht.trans (List.suffix_cons c a))

theorem search_found {f : List Char → Option α} {s : List Char} {a : α} (before : Option Char)
    (h : f s = some a) : search (fun _ => f) before s = some a := by
  cases s with
  | nil => exact h
  | cons c s => rw [search, h]

theorem searchAll_skip (f : List Char → Option (α × List Char)) (before : Option Char) (a s : List Char) :
    searchAll (fun _ => f) before a.length (a ++ s) = searchAll (fun _ => f) none 0 s := by
  induction a generalizing before with
  | nil =>
    cases s with
    | nil => rfl
    | cons c s => rfl
  | cons c a ih => exact ih _

theorem searchAll_pass (f : List Char → Option (α × List Char)) (before : Option Char) {a s : List Char}
    (h : ∀ t, t <:+ a → t ≠ [] → f (t ++ s) = none) :
    searchAll (fun _ => f) before 0 (a ++ s) = searchAll (fun _ => f) none 0 s := by
  induction a generalizing before with
  | nil => exact searchAll_skip f before [] s
  | cons c a ih =>
    have hhere := h (c :: a) (List.suffix_refl _) (by simp)
    rw [List.cons_append] at hhere
    rw [List.cons_append, searchAll, hhere]
    exact ih _ fun t ht => h t (ht.trans (List.suffix_cons c a))

theorem searchAll_found {f : List Char → Option (α × List Char)} (before : Option Char) {a s : List Char}
    {found : α} (hne : a ≠ []) (h : f (a ++ s) = some (found, s)) :
    searchAll (fun _ => f) before 0 (a ++ s) = found :: searchAll (fun _ => f) none 0 s := by
  cases a with
  | nil => exact absurd rfl hne
  | cons c a =>
    rw [List.cons_append] at h
    have hskip : (a ++ s).length - s.length = a.length := by simp
    rw [List.cons_append, searchAll, h]
    simp only [hskip, searchAll_skip]

/-- A recogniser that answers only where one of the words starts. -/
def Recognises (words : List (List Char)) (f : List Char → Option α) : Prop :=
  ∀ t, (∀ word ∈ words, ¬ word <+: t) → f t = none

theorem Recognises.mono {words more : List (List Char)} {f : List Char → Option α} (h : Recognises words f)
    (hsub : words ⊆ more) : Recognises more f := fun t ht => h t fun word hword => ht word (hsub hword)

/-- A part of a text in which none of the words starts, whatever follows it: its last character is foreign to
them, and they do not stand in front of it. -/
structure Clear (words : List (List Char)) (text : List Char) (last : Char) : Prop where
  foreign : ∀ word ∈ words, last ∉ word
  absent : ∀ word ∈ words, ¬ word <:+: text

variable {words : List (List Char)} {text : List Char} {last : Char}

theorem clear_of_all (hforeign : words.all (fun word => !word.contains last) = true)
    (habsent : words.all (fun word => !decide (word <:+: text)) = true) : Clear words text last where
  foreign word hword := by simpa using List.all_eq_true.mp hforeign word hword
  absent word hword := by simpa using List.all_eq_true.mp habsent word hword

theorem Recognises.eq_none {f : List Char → Option α} (h : Recognises words f) (hclear : Clear words text last)
    {t : List Char} (ht : t <:+ text ++ [last]) (hne : t ≠ []) (s : List Char) : f (t ++ s) = none :=
  h _ fun word hword => not_starts_in (hclear.foreign word hword) (hclear.absent word hword) ht hne s

theorem search_pass_clear {f : List Char → Option α} (h : Recognises words f) (hclear : Clear words text last)
    (before : Option Char) (s : List Char) :
    search (fun _ => f) before (text ++ last :: s) = search (fun _ => f) none s := by
  have hpass := search_pass f before fun t ht hne => h.eq_none hclear ht hne s
  rwa [List.append_assoc] at hpass

theorem searchAll_pass_clear {f : List Char → Option (α × List Char)} (h : Recognises words f)
    (hclear : Clear words text last) (before : Option Char) (s : List Char) :
    searchAll (fun _ => f) before 0 (text ++ last :: s) = searchAll (fun _ => f) none 0 s := by
  have hpass := searchAll_pass f before fun t ht hne => h.eq_none hclear ht hne s
  rwa [List.append_assoc] at hpass

end

/-! ## Pieces -/

theorem split_of_not_mem {sep : Char} {s : List Char} (h : sep ∉ s) : split sep s = [s] := by
  induction s with
  | nil => rfl
  | cons c s ih =>
    have hc : c ≠ sep := fun heq => h (by simp [heq])
    simp [split, hc, ih fun hmem => h (by simp [hmem])]

theorem split_append {sep : Char} {a : List Char} (h : sep ∉ a) (b : List Char) :
    split sep (a ++ sep :: b) = a :: split sep b := by
  induction a with
  | nil => simp [split]
  | cons c a ih =>
    have hc : c ≠ sep := fun heq => h (by simp [heq])
    simp [split, hc, ih fun hmem => h (by simp [hmem])]

theorem not_mem_of_mem_split {sep : Char} {s piece : List Char} (h : piece ∈ split sep s) : sep ∉ piece := by
  induction s generalizing piece with
  | nil =>
    rw [split, List.mem_singleton] at h
    simp [h]
  | cons c s ih =>
    rw [split] at h
    split at h
    · rcases List.mem_cons.mp h with rfl | h
      · exact List.not_mem_nil
      · exact ih h
    · rename_i hc
      have hne : split sep s ≠ [] := Source.split_eq_splitOnP sep s ▸ List.splitOnP_ne_nil _ s
      obtain ⟨first, rest, hsplit⟩ := List.exists_cons_of_ne_nil hne
      simp only [hsplit] at h ih
      rcases List.mem_cons.mp h with rfl | h
      · intro hmem
        rcases List.mem_cons.mp hmem with rfl | hmem
        · simp at hc
        · exact ih List.mem_cons_self hmem
      · exact ih (List.mem_cons_of_mem first h)

theorem mem_intercalate {c : Char} {between : List Char} {pieces : List (List Char)}
    (h : c ∈ between.intercalate pieces) : c ∈ between ∨ ∃ piece ∈ pieces, c ∈ piece := by
  induction pieces with
  | nil => simp at h
  | cons piece pieces ih =>
    cases pieces with
    | nil => exact .inr ⟨piece, by simp, by simpa using h⟩
    | cons next pieces =>
      rw [List.intercalate_cons_cons] at h
      rcases List.mem_append.mp h with h | h
      · rcases List.mem_append.mp h with h | h
        · exact .inr ⟨piece, by simp, h⟩
        · exact .inl h
      · rcases ih h with h | ⟨other, hother, h⟩
        · exact .inl h
        · exact .inr ⟨other, by simp [hother], h⟩

theorem split_intercalate {sep : Char} {pieces : List (List Char)} (hne : pieces ≠ [])
    (h : ∀ piece ∈ pieces, sep ∉ piece) : split sep ([sep].intercalate pieces) = pieces := by
  rw [Source.split_eq_splitOnP]
  exact List.splitOn_intercalate sep h hne

end RouteDoc.Text
