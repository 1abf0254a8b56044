import RouteDoc.Proofs.TypeScan

/-!
What a search finds when the recogniser looks at the character before it. `FoundAt` says that a recogniser answers at
some place of a text; a search answers with the first place (`search_eq_some_iff`). A search for all answers goes on
behind each find and so may pass over others; where finds do not overlap, it passes over none, and its first answer of
some kind is that of a search for this kind (`find?_searchAll`).

The second part says what the recognisers of identifiers, assignments and quoted keys read, as texts put together from
their parts.
-/

namespace RouteDoc.Text

/-! ## Searches -/

theorem getLast?_cons_or (c : Char) (front : List Char) (before : Option Char) :
    (c :: front).getLast?.or before = front.getLast?.or (some c) := by
  rw [List.getLast?_cons]
  cases front.getLast? <;> rfl

/-- Of two places of a text, the second is reached from the first through what lies between them. -/
theorem exists_between {front back front' back' : List Char} (h : front ++ back = front' ++ back')
    (hlt : front.length < front'.length) : ∃ mid, mid ≠ [] ∧ front' = front ++ mid ∧ back = mid ++ back' := by
  rcases List.append_eq_append_iff.mp h with ⟨mid, rfl, hback⟩ | ⟨mid, rfl, -⟩
  · refine ⟨mid, ?_, rfl, hback⟩
    rintro rfl
    simp at hlt
  · rw [List.length_append] at hlt
    omega

section

variable {α : Type}

/-- The recogniser answers `a` behind `front`; `before` stands in front of the text. -/
def FoundAt (f : Option Char → List Char → Option α) (before : Option Char) (s front : List Char) (a : α) : Prop :=
  ∃ back, s = front ++ back ∧ f (front.getLast?.or before) back = some a

variable {f : Option Char → List Char → Option α} {before : Option Char} {s front : List Char} {c : Char} {a : α}

theorem foundAt_here : FoundAt f before s [] a ↔ f before s = some a := by
  constructor
  · rintro ⟨back, rfl, h⟩
    exact h
  · intro h
    exact ⟨s, rfl, h⟩

theorem foundAt_cons : FoundAt f before (c :: s) (c :: front) a ↔ FoundAt f (some c) s front a := by
  simp only [FoundAt, getLast?_cons_or, List.cons_append, List.cons.injEq, true_and]

theorem foundAt_cases (h : FoundAt f before (c :: s) front a) :
    front = [] ∧ f before (c :: s) = some a ∨ ∃ front', front = c :: front' ∧ FoundAt f (some c) s front' a := by
  cases front with
  | nil => exact .inl ⟨rfl, foundAt_here.mp h⟩
  | cons d front =>
    obtain ⟨back, hs, -⟩ := id h
    obtain ⟨rfl, -⟩ := List.cons.inj hs
    exact .inr ⟨front, rfl, foundAt_cons.mp h⟩

theorem foundAt_nil (h : FoundAt f before [] front a) : front = [] ∧ f before [] = some a := by
  obtain ⟨back, hs, hback⟩ := h
  obtain ⟨rfl, rfl⟩ := List.append_eq_nil_iff.mp hs.symm
  exact ⟨rfl, hback⟩

theorem search_eq_none_iff : search f before s = none ↔ ∀ front a, ¬ FoundAt f before s front a := by
  induction s generalizing before with
  | nil =>
    rw [search]
    constructor
    · intro h front a hfound
      rw [(foundAt_nil hfound).2] at h
      cases h
    · intro h
      exact Option.eq_none_iff_forall_ne_some.mpr fun a ha => h [] a (foundAt_here.mpr ha)
  | cons c s ih =>
    rw [search]
    constructor
    · intro h front a hfound
      split at h
      · cases h
      · rename_i hnone
        rcases foundAt_cases hfound with ⟨-, hhere⟩ | ⟨front', -, hrest⟩
        · rw [hhere] at hnone
          cases hnone
        · exact ih.mp h front' a hrest
    · intro h
      have hnone : f before (c :: s) = none :=
        Option.eq_none_iff_forall_ne_some.mpr fun a ha => h [] a (foundAt_here.mpr ha)
      rw [hnone]
      exact ih.mpr fun front a hfound => h (c :: front) a (foundAt_cons.mpr hfound)

/-- A search answers at the first place at which there is an answer. -/
theorem search_eq_some_iff : search f before s = some a ↔
    ∃ front, FoundAt f before s front a ∧ ∀ front' a', FoundAt f before s front' a' → front.length ≤ front'.length := by
  induction s generalizing before with
  | nil =>
    rw [search]
    constructor
    · intro h
      exact ⟨[], foundAt_here.mpr h, fun _ _ _ => Nat.zero_le _⟩
    · rintro ⟨front, hfound, -⟩
      exact (foundAt_nil hfound).2
  | cons c s ih =>
    rw [search]
    cases hhere : f before (c :: s) with
    | some a' =>
      constructor
      · intro h
        obtain rfl := Option.some.inj h
        exact ⟨[], foundAt_here.mpr hhere, fun _ _ _ => Nat.zero_le _⟩
      · rintro ⟨front, hfound, hfirst⟩
        have hlength : front.length ≤ 0 := hfirst [] a' (foundAt_here.mpr hhere)
        obtain rfl := List.eq_nil_of_length_eq_zero (Nat.le_zero.mp hlength)
        rw [← hhere, foundAt_here.mp hfound]
    | none =>
      refine ih.trans ⟨?_, ?_⟩
      · rintro ⟨front, hfound, hfirst⟩
        refine ⟨c :: front, foundAt_cons.mpr hfound, fun front' a' hfound' => ?_⟩
        rcases foundAt_cases hfound' with ⟨-, hsome⟩ | ⟨rest, rfl, hrest⟩
        · rw [hhere] at hsome
          cases hsome
        · exact Nat.succ_le_succ (hfirst rest a' hrest)
      · rintro ⟨front, hfound, hfirst⟩
        rcases foundAt_cases hfound with ⟨-, hsome⟩ | ⟨rest, rfl, hrest⟩
        · rw [hhere] at hsome
          cases hsome
        · exact ⟨rest, hrest, fun front' a' hfound' =>
            Nat.le_of_succ_le_succ (hfirst (c :: front') a' (foundAt_cons.mpr hfound'))⟩

/-- The same with a condition that says where there are answers. -/
theorem search_eq_some_iff_of {P : List Char → α → Prop} (h : ∀ front a, FoundAt f before s front a ↔ P front a) :
    search f before s = some a ↔ ∃ front, P front a ∧ ∀ front' a', P front' a' → front.length ≤ front'.length := by
  rw [search_eq_some_iff]
  simp only [h]

end

section

variable {α : Type} {f : Option Char → List Char → Option (α × List Char)} {before : Option Char} {s : List Char}

theorem foundAt_of_mem_searchAll {n : Nat} {a : α} (h : a ∈ searchAll f before n s) :
    ∃ front rest, FoundAt f before s front (a, rest) := by
  induction s generalizing before n with
  | nil => cases h
  | cons c s ih =>
    -- what is found in the rest of the text is found in the text
    have hrest : ∀ {m}, a ∈ searchAll f (some c) m s → ∃ front rest, FoundAt f before (c :: s) front (a, rest) := by
      intro m hmem
      obtain ⟨front, rest, hfound⟩ := ih hmem
      exact ⟨c :: front, rest, foundAt_cons.mpr hfound⟩
    cases n with
    | succ n => exact hrest h
    | zero =>
      rw [searchAll] at h
      split at h
      · rename_i found rest hhere
        rcases List.mem_cons.mp h with rfl | h
        · exact ⟨[], rest, foundAt_here.mpr hhere⟩
        · exact hrest h
      · exact hrest h

theorem head?_searchAll (hnil : ∀ before, f before [] = none) :
    (searchAll f before 0 s).head? = (search f before s).map Prod.fst := by
  induction s generalizing before with
  | nil => rw [search, hnil]; rfl
  | cons c s ih =>
    rw [searchAll, search]
    split
    · rename_i found rest hhere
      rw [hhere]
      rfl
    · rename_i hnone
      rw [hnone]
      exact ih

/-- Passing over places without an answer makes no difference. -/
theorem searchAll_unskipped {n : Nat} (h : ∀ front found, FoundAt f before s front found → n ≤ front.length) :
    searchAll f before n s = searchAll f before 0 s := by
  induction s generalizing before n with
  | nil => rfl
  | cons c s ih =>
    cases n with
    | zero => rfl
    | succ n =>
      have hnone : f before (c :: s) = none :=
        Option.eq_none_iff_forall_ne_some.mpr fun found hfound => by
          simpa using h [] found (foundAt_here.mpr hfound)
      have hrest : searchAll f (some c) n s = searchAll f (some c) 0 s :=
        ih fun front found hfound => Nat.le_of_succ_le_succ (h (c :: front) found (foundAt_cons.mpr hfound))
      rw [searchAll, hrest, searchAll, hnone]

/-- If no answer is found within what another one has read, the first of the answers with a property is that of a
search for answers with the property. -/
theorem find?_searchAll (p : α → Bool) (hnil : ∀ before, f before [] = none)
    (hapart : ∀ front a rest front' found, FoundAt f before s front (a, rest) → FoundAt f before s front' found →
      front.length < front'.length → s.length ≤ front'.length + rest.length) :
    (searchAll f before 0 s).find? p
      = search (fun before s => ((f before s).map Prod.fst).filter p) before s := by
  induction s generalizing before with
  | nil => rw [search, hnil]; rfl
  | cons c s ih =>
    have hrest : (searchAll f (some c) 0 s).find? p
        = search (fun before s => ((f before s).map Prod.fst).filter p) (some c) s :=
      ih fun front a rest front' found hfound hfound' hlt => by
        simpa [Nat.add_right_comm] using hapart (c :: front) a rest (c :: front') found (foundAt_cons.mpr hfound)
          (foundAt_cons.mpr hfound') (Nat.succ_lt_succ hlt)
    rw [searchAll, search]
    cases hhere : f before (c :: s) with
    | none => exact hrest
    | some found =>
      obtain ⟨a, rest⟩ := found
      have hskip : searchAll f (some c) (s.length - rest.length) s = searchAll f (some c) 0 s := by
        refine searchAll_unskipped fun front found hfound => ?_
        have hfar := hapart [] a rest (c :: front) found (foundAt_here.mpr hhere) (foundAt_cons.mpr hfound) (by simp)
        simp only [List.length_cons] at hfar
        omega
      dsimp only
      rw [hskip, List.find?_cons]
      cases hp : p a with
      | true => simp [Option.filter_some, hp]
      | false => simpa [Option.filter_some, hp] using hrest

end

theorem atBoundary_iff {before : Option Char} {c : Char} {s : List Char} (hc : isWord c = true) :
    atBoundary before (c :: s) = true ↔ ∀ d, before = some d → isWord d = false := by
  cases before with
  | none => simp [atBoundary, hc]
  | some d => simp [atBoundary, hc]

end RouteDoc.Text

namespace RouteDoc.Go

open RouteDoc.Text

/-! ## Parts of a line -/

/-- A quoted key and the mark behind it, with blanks around the key. -/
def KeyText (close : Char) (key text : List Char) : Prop :=
  key ≠ [] ∧ '"' ∉ key ∧ ∃ gap gap', Blank gap ∧ Blank gap' ∧ text = gap ++ '"' :: (key ++ '"' :: (gap' ++ [close]))

/-- The name, the sign of an assignment or definition and the assigned text, with blanks around the sign. -/
def AssignText (name value text : List Char) : Prop :=
  isIdent name = true ∧ ∃ gap sign gap', Blank gap ∧ Blank gap' ∧ (sign = [':', '='] ∨ sign = ['=']) ∧
    text = name ++ (gap ++ (sign ++ (gap' ++ value)))

/-- A word of any word characters. -/
def IsWord (word : List Char) : Prop :=
  word ≠ [] ∧ ∀ c ∈ word, isWord c = true

variable {s rest : List Char}

theorem Blank.not_mem {c : Char} (h : Blank s) (hc : isBlank c = false) : c ∉ s := by
  intro hmem
  rw [h c hmem] at hc
  cases hc

theorem not_mem_of_isIdent {c : Char} (h : isIdent s = true) (hc : isWord c = false) : c ∉ s := by
  intro hmem
  rw [Routes.isWord_of_isIdent h c hmem] at hc
  cases hc

theorem IsWord.not_mem {c : Char} (h : IsWord s) (hc : isWord c = false) : c ∉ s := by
  intro hmem
  rw [h.2 c hmem] at hc
  cases hc

theorem ident?_eq_some_iff {name : List Char} : ident? s = some (name, rest) ↔
    isIdent name = true ∧ s = name ++ rest ∧ ∀ c, rest.head? = some c → isWord c = false := by
  constructor
  · intro h
    refine ⟨ident?_isIdent s _ h, ident?_eq_append h, fun c hc => ?_⟩
    cases s with
    | nil => cases h
    | cons first s =>
      rw [ident?] at h
      split at h
      · obtain ⟨-, rfl⟩ := Prod.mk.inj (Option.some.inj h)
        have hstop := List.head?_dropWhile_not isWord s
        simpa [hc] using hstop
      · cases h
  · rintro ⟨hname, rfl, hrest⟩
    exact ident?_append hname hrest

theorem word?_eq_some_iff : word? s = some rest ↔
    ∃ word, IsWord word ∧ s = word ++ rest ∧ ∀ c, rest.head? = some c → isWord c = false := by
  constructor
  · intro h
    cases s with
    | nil => cases h
    | cons first s =>
      rw [word?] at h
      split at h
      · rename_i hfirst
        obtain rfl := Option.some.inj h
        refine ⟨first :: s.takeWhile isWord, ⟨by simp, fun c hc => ?_⟩, ?_, fun c hc => ?_⟩
        · rcases List.mem_cons.mp hc with rfl | hc
          · exact hfirst
          · exact List.mem_takeWhile_imp hc
        · rw [List.cons_append, List.takeWhile_append_dropWhile]
        · have hstop := List.head?_dropWhile_not isWord s
          simpa [hc] using hstop
      · cases h
  · rintro ⟨word, ⟨hne, hword⟩, rfl, hrest⟩
    obtain ⟨first, more, rfl⟩ := List.exists_cons_of_ne_nil hne
    have hmore : ∀ c ∈ more, isWord c = true := fun c hc => hword c (by simp [hc])
    rw [List.cons_append, word?, if_pos (hword first (by simp)), (takeWhile_stop hmore hrest).2]

theorem quotedWord?_eq_some_iff {word : List Char} : quotedWord? s = some (word, rest) ↔
    word ≠ [] ∧ '"' ∉ word ∧ s = '"' :: (word ++ '"' :: rest) := by
  constructor
  · intro h
    unfold quotedWord? at h
    split at h
    · split at h
      · cases h
      · rename_i hsome
        obtain ⟨hquote, rfl⟩ := cut?_eq_some h
        refine ⟨?_, hquote, rfl⟩
        rintro rfl
        exact hsome _ h
    · cases h
  · rintro ⟨hne, hquote, rfl⟩
    obtain ⟨first, more, rfl⟩ := List.exists_cons_of_ne_nil hne
    rw [quotedWord?, cut?_append hquote]

theorem quotedKey?_eq_some_iff {close : Char} (hclose : isBlank close = false) {key : List Char} :
    quotedKey? close s = some (key, rest) ↔ ∃ text, KeyText close key text ∧ s = text ++ rest := by
  constructor
  · intro h
    rw [quotedKey?] at h
    split at h
    · cases h
    · rename_i found behind hquoted
      split at h
      · rename_i mark behind' hmark
        split at h
        · rename_i heq
          subst heq
          obtain ⟨rfl, rfl⟩ := Prod.mk.inj (Option.some.inj h)
          obtain ⟨gap, hgap, hs⟩ := eq_blank_append_trimStart s
          obtain ⟨gap', hgap', hbehind⟩ := eq_blank_append_trimStart behind
          rw [hmark] at hbehind
          obtain ⟨hne, hquote, hword⟩ := quotedWord?_eq_some_iff.mp hquoted
          refine ⟨_, ⟨hne, hquote, gap, gap', hgap, hgap', rfl⟩, ?_⟩
          rw [hs, hword, hbehind]
          simp
        · cases h
      · cases h
  · rintro ⟨text, ⟨hne, hquote, gap, gap', hgap, hgap', rfl⟩, rfl⟩
    have hmark : isBlank '"' = false := by decide
    have hread : quotedWord? ('"' :: (key ++ '"' :: (gap' ++ close :: rest))) = some (key, gap' ++ close :: rest) :=
      quotedWord?_eq_some_iff.mpr ⟨hne, hquote, rfl⟩
    simp only [List.append_assoc, List.cons_append, List.nil_append]
    rw [quotedKey?, hgap.trimStart_append, trimStart_cons hmark, hread]
    simp only [hgap'.trimStart_append, trimStart_cons hclose, if_true]

theorem assignment?_eq_some_iff {value : List Char} : assignment? s = some value ↔
    (∀ c, value.head? = some c → isBlank c = false) ∧ ∃ gap sign gap', Blank gap ∧ Blank gap' ∧
      (sign = [':', '='] ∨ sign = ['=']) ∧ s = gap ++ (sign ++ (gap' ++ value)) := by
  constructor
  · intro h
    obtain ⟨gap, hgap, hs⟩ := eq_blank_append_trimStart s
    have hsolid : ∀ behind : List Char, ∀ c, (trimStart behind).head? = some c → isBlank c = false := by
      intro behind c hc
      have hstop := List.head?_dropWhile_not isBlank behind
      rw [trimStart] at hc
      simpa [hc] using hstop
    rw [assignment?] at h
    split at h
    · rename_i behind hsign
      obtain rfl := Option.some.inj h
      obtain ⟨gap', hgap', hbehind⟩ := eq_blank_append_trimStart behind
      refine ⟨hsolid behind, gap, [':', '='], gap', hgap, hgap', .inl rfl, ?_⟩
      rw [← hbehind, hs, hsign]
      rfl
    · rename_i behind hsign
      obtain rfl := Option.some.inj h
      obtain ⟨gap', hgap', hbehind⟩ := eq_blank_append_trimStart behind
      refine ⟨hsolid behind, gap, ['='], gap', hgap, hgap', .inr rfl, ?_⟩
      rw [← hbehind, hs, hsign]
      rfl
    · cases h
  · rintro ⟨hvalue, gap, sign, gap', hgap, hgap', hsign, rfl⟩
    have hbehind : trimStart (gap' ++ value) = value := by
      rw [hgap'.trimStart_append, trimStart_of_head hvalue]
    have hcolon : isBlank ':' = false := by decide
    have hequals : isBlank '=' = false := by decide
    rw [assignment?, hgap.trimStart_append]
    rcases hsign with rfl | rfl
    · simp only [List.cons_append, List.nil_append, trimStart_cons hcolon, hbehind]
    · simp only [List.cons_append, List.nil_append, trimStart_cons hequals, hbehind]

end RouteDoc.Go
