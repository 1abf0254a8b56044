import RouteDoc.Proofs.FunctionLines

/-!
The forms in which functions are declared. A line declares a function by its keyword and name, or a method by its
keyword, receiver and name (`FunctionForm`). The receiver has a name or none, a star or none, a type and perhaps type
arguments (`ReceiverForm`). However the blanks are set, such a line is read as a declaration of its name, and the type
of the receiver is found in its clause (`FunctionForm.declaration?`). So in a text that has such lines beside lines
that do not start with the keyword, a search by name and type stops at the first line that declares what is sought
(`functions_found`).
-/

namespace RouteDoc.Go

open RouteDoc.Text

/-! ## Receivers -/

/-- The name of a receiver with blanks behind it, or nothing. -/
inductive ReceiverName : List Char → Prop
  | missing : ReceiverName []
  | named {name gap : List Char} (hname : ∀ c ∈ name, isWord c = true) (hgap : Blank gap) (hne : gap ≠ []) :
    ReceiverName (name ++ gap)

/-- Type arguments in brackets with blanks behind them, or nothing. -/
inductive TypeArguments : List Char → Prop
  | missing : TypeArguments []
  | bracketed {inner gap : List Char} (hinner : ')' ∉ inner) (hgap : Blank gap) :
    TypeArguments ('[' :: (inner ++ ']' :: gap))

/-- The clause of a receiver of the given type, as it is written. -/
inductive ReceiverForm (type : List Char) : List Char → Prop
  | value {lead name gap args : List Char} (hlead : Blank lead) (hname : ReceiverName name)
    (htype : isAsciiIdent type = true) (hgap : Blank gap) (hargs : TypeArguments args) :
    ReceiverForm type (lead ++ (name ++ (type ++ (gap ++ args))))
  | pointer {lead name gap gap' args : List Char} (hlead : Blank lead) (hname : ReceiverName name) (hgap : Blank gap)
    (htype : isAsciiIdent type = true) (hgap' : Blank gap') (hargs : TypeArguments args) :
    ReceiverForm type (lead ++ (name ++ '*' :: (gap ++ (type ++ (gap' ++ args)))))

variable {type clause : List Char}

/-- Whether the character may stand in a receiver in front of its type arguments. -/
def isClauseChar (c : Char) : Bool :=
  isBlank c || isWord c || c == '*'

theorem isClauseChar_of_blank {s : List Char} (h : Blank s) : ∀ c ∈ s, isClauseChar c = true := by
  intro c hc
  simp [isClauseChar, h c hc]

theorem isClauseChar_of_isAsciiIdent (h : isAsciiIdent type = true) : ∀ c ∈ type, isClauseChar c = true := by
  intro c hc
  simp [isClauseChar, isWord_of_isAsciiWord (isAsciiWord_of_isAsciiIdent h c hc)]

theorem ReceiverName.chars {name : List Char} (h : ReceiverName name) : ∀ c ∈ name, isClauseChar c = true := by
  cases h with
  | missing => simp
  | named hname hgap hne =>
    refine List.forall_mem_append.mpr ⟨fun c hc => ?_, isClauseChar_of_blank hgap⟩
    simp [isClauseChar, hname c hc]

theorem ReceiverName.getLast? {lead name : List Char} (h : ReceiverName name) (hlead : Blank lead) :
    ∀ c, (lead ++ name).getLast? = some c → isBlank c = true := by
  intro c hc
  cases h with
  | missing =>
    rw [List.append_nil] at hc
    exact hlead c (List.mem_of_getLast? hc)
  | named hname hgap hne =>
    rw [← List.append_assoc, List.getLast?_append_of_ne_nil _ hne] at hc
    exact hgap c (List.mem_of_getLast? hc)

/-- The type in a receiver clause, what stands before it and what stands behind it. Where blanks follow the star, it is
a word of its own before the type. -/
theorem ReceiverForm.parts (h : ReceiverForm type clause) : ∃ front stars tail args,
    clause = (front ++ (stars ++ (type ++ tail))) ++ args ∧ (∀ c, front.getLast? = some c → isBlank c = true) ∧
      (∀ c ∈ front, isClauseChar c = true) ∧ (∀ c ∈ stars, c = '*') ∧ isAsciiIdent type = true ∧ Blank tail ∧
      TypeArguments args := by
  cases h with
  | value hlead hname htype hgap hargs =>
    rename_i lead name gap args
    refine ⟨lead ++ name, [], gap, args, by simp, hname.getLast? hlead, ?_, by simp, htype, hgap, hargs⟩
    exact List.forall_mem_append.mpr ⟨isClauseChar_of_blank hlead, hname.chars⟩
  | pointer hlead hname hgap htype hgap' hargs =>
    rename_i lead name gap gap' args
    have hfront := List.forall_mem_append.mpr ⟨isClauseChar_of_blank hlead, hname.chars⟩
    by_cases hne : gap = []
    · subst hne
      exact ⟨lead ++ name, ['*'], gap', args, by simp, hname.getLast? hlead, hfront, by simp, htype, hgap', hargs⟩
    · refine ⟨(lead ++ name) ++ '*' :: gap, [], gap', args, by simp, fun c hc => ?_, ?_, by simp, htype, hgap', hargs⟩
      · rw [List.append_cons, List.getLast?_append_of_ne_nil _ hne] at hc
        exact hgap c (List.mem_of_getLast? hc)
      · exact List.forall_mem_append.mpr ⟨hfront, List.forall_mem_cons.mpr ⟨by decide, isClauseChar_of_blank hgap⟩⟩

theorem ReceiverForm.receiverClause (h : ReceiverForm type clause) : ReceiverClause type clause ∧ ')' ∉ clause := by
  obtain ⟨front, stars, tail, args, rfl, hfront, hplain, hstars, htype, htail, hargs⟩ := h.parts
  have hwords := isAsciiWord_of_isAsciiIdent htype
  have hall : ∀ c ∈ front ++ (stars ++ (type ++ tail)), isClauseChar c = true := by
    refine List.forall_mem_append.mpr ⟨hplain, List.forall_mem_append.mpr ⟨fun c hc => ?_, ?_⟩⟩
    · rw [hstars c hc]
      decide
    · exact List.forall_mem_append.mpr ⟨isClauseChar_of_isAsciiIdent htype, isClauseChar_of_blank htail⟩
  constructor
  · refine .written hfront hstars (isAsciiIdent_ne_nil htype) (fun hstar => ?_) (fun c hc => ?_) htail
      (fun hmem => absurd (hall _ hmem) (by decide)) (fun c hc => ?_)
    · exact absurd (hwords '*' (List.mem_of_head? hstar)) (by decide)
    · exact isBlank_of_isWord (isWord_of_isAsciiWord (hwords c hc))
    · cases hargs with
      | missing => cases hc
      | bracketed hinner hgap => exact (Option.some.inj hc).symm
  · intro hmem
    rcases List.mem_append.mp hmem with hmem | hmem
    · exact absurd (hall _ hmem) (by decide)
    · cases hargs with
      | missing => cases hmem
      | bracketed hinner hgap =>
        have hblank : ')' ∉ _ := fun h => absurd (hgap ')' h) (by decide)
        simp [hinner, hblank] at hmem

/-! ## Lines -/

/-- A line that declares a function of the given name, and for a method the type of its receiver. -/
inductive FunctionForm : Option (List Char) → List Char → List Char → Prop
  | function {name gap gap' rest : List Char} {mark : Char} (hgap : Blank gap) (hne : gap ≠ [])
    (hname : isAsciiIdent name = true) (hgap' : Blank gap') (hmark : mark = '(' ∨ mark = '[') :
    FunctionForm none name (['f', 'u', 'n', 'c'] ++ (gap ++ (name ++ (gap' ++ mark :: rest))))
  | method {type clause name gap gap' gap'' rest : List Char} (hgap : Blank gap) (hne : gap ≠ [])
    (hreceiver : ReceiverForm type clause) (hgap' : Blank gap') (hname : isAsciiIdent name = true)
    (hgap'' : Blank gap'') :
    FunctionForm (some type) name
      (['f', 'u', 'n', 'c'] ++ (gap ++ (('(' :: (clause ++ ')' :: gap')) ++ (name ++ (gap'' ++ '(' :: rest)))))

theorem FunctionForm.declaration? {type? : Option (List Char)} {name line : List Char}
    (h : FunctionForm type? name line) :
    ∃ clause?, Go.declaration? line = some ⟨clause?, name⟩ ∧ clause?.bind receiverType? = type? := by
  cases h with
  | function hgap hne hname hgap' hmark =>
    exact ⟨none, declaration?_eq_some_iff.mpr (.written hgap hne .function hname hgap' hmark), rfl⟩
  | method hgap hne hreceiver hgap' hname hgap'' =>
    rename_i type clause gap gap' gap'' rest
    obtain ⟨hclause, hopen⟩ := hreceiver.receiverClause
    refine ⟨some clause, declaration?_eq_some_iff.mpr ?_, receiverType?_eq_some_iff.mpr hclause⟩
    exact .written hgap hne (.method hopen hgap') hname hgap'' (.inl rfl)

theorem FunctionForm.functionName? {type? : Option (List Char)} {name line : List Char}
    (h : FunctionForm type? name line) : Go.functionName? line = some name := by
  obtain ⟨clause?, hdeclaration, -⟩ := h.declaration?
  rw [Go.functionName?, hdeclaration]
  rfl

theorem declaration?_eq_none {line : List Char} (h : ¬ ['f', 'u', 'n', 'c'] <+: line) :
    Go.declaration? line = none := by
  cases hdeclaration : Go.declaration? line with
  | none => rfl
  | some declaration =>
    obtain ⟨hgap, hne, hreceiver, hname, hgap', hmark⟩ := declaration?_eq_some_iff.mp hdeclaration
    exact absurd (List.prefix_append _ _) h

/-! ## Searches -/

/-- The outcome of a search for the first line with the property. -/
def IsFirst (P : List Char → Prop) (lines : List (List Char)) : Option Nat → Prop
  | some index => ∃ before line behind, lines = before ++ line :: behind ∧ index = before.length ∧ P line ∧
      ∀ other ∈ before, ¬ P other
  | none => ∀ line ∈ lines, ¬ P line

theorem isFirst_findIdx? {P : List Char → Prop} {p : List Char → Bool} {lines : List (List Char)}
    (h : ∀ line ∈ lines, p line = true ↔ P line) : IsFirst P lines (lines.findIdx? p) := by
  induction lines with
  | nil => exact fun line hline => by cases hline
  | cons line lines ih =>
    obtain ⟨hline, hlines⟩ := List.forall_mem_cons.mp h
    have hrest := ih hlines
    rw [List.findIdx?_cons]
    split
    · rename_i hp
      exact ⟨[], line, lines, rfl, rfl, hline.mp hp, by simp⟩
    · rename_i hp
      have hnot : ¬ P line := fun hP => hp (hline.mpr hP)
      cases hfound : lines.findIdx? p with
      | none =>
        rw [hfound] at hrest
        exact List.forall_mem_cons.mpr ⟨hnot, hrest⟩
      | some index =>
        rw [hfound] at hrest
        obtain ⟨before, found, behind, rfl, rfl, hP, hbefore⟩ := hrest
        exact ⟨line :: before, found, behind, rfl, rfl, hP, List.forall_mem_cons.mpr ⟨hnot, hbefore⟩⟩

/-- A line that is a declaration or does not start with the keyword. -/
def Readable (line : List Char) : Prop :=
  (∃ type? name, FunctionForm type? name line) ∨ ¬ ['f', 'u', 'n', 'c'] <+: line

theorem FunctionForm.declares_iff {type? : Option (List Char)} {name line : List Char}
    (h : FunctionForm type? name line) {receiver? : Option (List Char)} {sought : List Char} :
    declares receiver? sought line = true ↔ name = sought ∧ ∀ receiver ∈ receiver?, type? = some receiver := by
  obtain ⟨clause?, hdeclaration, rfl⟩ := h.declaration?
  rw [declares, hdeclaration]
  cases receiver? with
  | none => simp
  | some receiver => simp

/-- Among readable lines a search for a function stops at a line exactly if it is written as the declaration of one of
that name, and with a type given as that of one of its methods. -/
theorem Readable.declares_iff {line : List Char} (h : Readable line) (receiver? : Option (List Char))
    (sought : List Char) : declares receiver? sought line = true ↔
      ∃ type?, FunctionForm type? sought line ∧ ∀ receiver ∈ receiver?, type? = some receiver := by
  constructor
  · intro hdeclares
    rcases h with ⟨type?, name, hform⟩ | hother
    · obtain ⟨rfl, htype⟩ := hform.declares_iff.mp hdeclares
      exact ⟨type?, hform, htype⟩
    · rw [declares, declaration?_eq_none hother] at hdeclares
      cases hdeclares
  · rintro ⟨type?, hform, htype⟩
    exact hform.declares_iff.mpr ⟨rfl, htype⟩

/-- **Functions are found as they are declared.** Every line of one of the forms is read as the declaration of its name.
In a text of such lines and lines that do not start with the keyword, a search by name ends at the first line that
declares a function or method of that name. A search by name and type ends at the first line that declares a method of
that name for that type, and passes over functions and over methods of other types. -/
theorem functions_found (lines : List (List Char)) (hlines : ∀ line ∈ lines, Readable line) (name : List Char) :
    (∀ type? line, FunctionForm type? name line → functionName? line = some name) ∧
    IsFirst (fun line => ∃ type?, FunctionForm type? name line) lines (findFunction lines none name) ∧
    ∀ type, IsFirst (FunctionForm (some type) name) lines (findFunction lines (some type) name) := by
  refine ⟨fun type? line hform => hform.functionName?, ?_, fun type => ?_⟩
  · refine isFirst_findIdx? fun line hline => ?_
    rw [(hlines line hline).declares_iff]
    simp
  · refine isFirst_findIdx? fun line hline => ?_
    rw [(hlines line hline).declares_iff]
    constructor
    · rintro ⟨type?, hform, htype⟩
      rwa [htype type rfl] at hform
    · intro hform
      exact ⟨some type, hform, fun other hother => hother⟩

/-- A text with a generic function, and with methods of the same name for two types. -/
def serverLines : List (List Char) := [
  "package p".toList,
  "func Get[T any](x T) T \x7b".toList,
  "func (c Cache[K, V]) Get() V \x7b".toList,
  "func  ( s  * Server [K] )Get (r Request) \x7b".toList,
  "\treturn func(x int) \x7b\x7d".toList]

theorem readable_serverLines : ∀ line ∈ serverLines, Readable line := by
  have hblank {s : List Char} (h : s.all isBlank = true) : Blank s := List.all_eq_true.mp h
  have hword {s : List Char} (h : s.all isWord = true) : ∀ c ∈ s, isWord c = true := List.all_eq_true.mp h
  have hget : FunctionForm none "Get".toList "func Get[T any](x T) T \x7b".toList :=
    @FunctionForm.function _ [' '] [] "T any](x T) T \x7b".toList '[' (hblank (by decide)) (by simp) (by decide)
      (hblank (by decide)) (.inr rfl)
  have hcache : ReceiverForm "Cache".toList "c Cache[K, V]".toList :=
    @ReceiverForm.value _ [] ['c', ' '] [] "[K, V]".toList (hblank (by decide))
      (@ReceiverName.named ['c'] [' '] (hword (by decide)) (hblank (by decide)) (by simp)) (by decide)
      (hblank (by decide)) (@TypeArguments.bracketed "K, V".toList [] (by decide) (hblank (by decide)))
  have hcacheGet : FunctionForm (some "Cache".toList) "Get".toList "func (c Cache[K, V]) Get() V \x7b".toList :=
    @FunctionForm.method _ _ _ [' '] [' '] [] ") V \x7b".toList (hblank (by decide)) (by simp) hcache
      (hblank (by decide)) (by decide) (hblank (by decide))
  have hserver : ReceiverForm "Server".toList " s  * Server [K] ".toList :=
    @ReceiverForm.pointer _ [' '] ['s', ' ', ' '] [' '] [' '] "[K] ".toList (hblank (by decide))
      (@ReceiverName.named ['s'] [' ', ' '] (hword (by decide)) (hblank (by decide)) (by simp)) (hblank (by decide))
      (by decide) (hblank (by decide)) (@TypeArguments.bracketed ['K'] [' '] (by decide) (hblank (by decide)))
  have hserverGet : FunctionForm (some "Server".toList) "Get".toList
      "func  ( s  * Server [K] )Get (r Request) \x7b".toList :=
    @FunctionForm.method _ _ _ [' ', ' '] [] [' '] "r Request) \x7b".toList (hblank (by decide)) (by simp) hserver
      (hblank (by decide)) (by decide) (hblank (by decide))
  simp only [serverLines, List.forall_mem_cons]
  exact ⟨.inr (by decide), .inl ⟨_, _, hget⟩, .inl ⟨_, _, hcacheGet⟩, .inl ⟨_, _, hserverGet⟩, .inr (by decide), by simp⟩

/-- The method of the second type is found behind the function and the method of the first type. -/
theorem functions_found_server : (∀ line ∈ serverLines, Readable line) ∧
    findFunction serverLines none "Get".toList = some 1 ∧
    IsFirst (FunctionForm (some "Server".toList) "Get".toList) serverLines (some 3) := by
  have hfound : findFunction serverLines (some "Server".toList) "Get".toList = some 3 := by decide
  refine ⟨readable_serverLines, by decide, ?_⟩
  rw [← hfound]
  exact (functions_found serverLines readable_serverLines _).2.2 _

end RouteDoc.Go
