import RouteDoc.Go.TypeDecl
import RouteDoc.Proofs.CallReading
import RouteDoc.Types.Expand

/-!
Fields of structs as they are written, and how a line is read as one. Three readers are tried on every line: for the
head of an anonymous struct, for an embedded type, for names with a type. A field is read as what it is
(`field?_written`, `nestedHead?_head`) since each form keeps the readers before its own away. The head of a struct
ends with a brace, which no other field does (`nestedHead?_getLast?`); and behind the first name of a list there is
a comma or a type, so that the name alone is not taken for an embedded type (`embedded?_plain`).

Names, types and tags carry what they have to be made of, so a `FieldDecl` is always a field that can be written.
-/

namespace RouteDoc.Go

open RouteDoc.Text

/-! ## Fields -/

structure Ident where
  text : List Char
  valid : isIdent text = true

/-- The text of a type on one line. -/
structure TypeText where
  text : List Char
  ne_nil : text ≠ []
  head : ∀ c, text.head? = some c → isBlank c = false ∧ c ≠ ','
  last : ∀ c, text.getLast? = some c → isBlank c = false ∧ c ≠ '{'
  raw : '\x60' ∉ text

/-- What a tag holds between its quotes. -/
structure Tag where
  body : List Char
  raw : '\x60' ∉ body

/-- A tag with its quotes. -/
def Tag.text (tag : Tag) : List Char :=
  '\x60' :: (tag.body ++ ['\x60'])

inductive FieldDecl where
  /-- Names that share a type. -/
  | plain (first : Ident) (more : List Ident) (type : TypeText) (tag? : Option Tag)
  /-- A type of this package or another, or a pointer to one. -/
  | embedded (pointer : Bool) (package? : Option Ident) (name : Ident) (tag? : Option Tag)
  /-- A name with an anonymous struct, or with slices of one or a pointer to one. -/
  | nested (name : Ident) (slices : Nat) (pointer : Bool) (fields : List FieldDecl) (tag? : Option Tag)

def star (pointer : Bool) : List Char :=
  if pointer then ['*'] else []

def brackets (slices : Nat) : List Char :=
  (List.replicate slices ['[', ']']).flatten

def embeddedText (pointer : Bool) (package? : Option Ident) (name : Ident) : List Char :=
  star pointer ++ (package?.elim [] fun package => package.text ++ ['.']) ++ name.text

mutual

/-- The field that a declaration is read as. -/
def FieldDecl.field : FieldDecl → Field
  | .plain first more type tag? => .plain ((first :: more).map Ident.text) type.text (tag?.map Tag.text)
  | .embedded pointer package? name tag? => .embedded (embeddedText pointer package? name) (tag?.map Tag.text)
  | .nested name slices pointer fields tag? =>
    .nested name.text (brackets slices ++ star pointer) (fieldsOf fields) (tag?.map Tag.text)

def fieldsOf : List FieldDecl → List Field
  | [] => []
  | decl :: decls => decl.field :: fieldsOf decls

end

def FieldDecl.names : FieldDecl → List (List Char)
  | .plain first more _ _ => (first :: more).map Ident.text
  | .embedded _ _ name _ => [name.text]
  | .nested name _ _ _ _ => [name.text]

/-- The names that a field goes by. -/
def Field.names : Field → List (List Char)
  | .plain names _ _ => names
  | .embedded type _ => [Types.embeddedName type]
  | .nested name _ _ _ => [name]

/-! ## Layouts -/

def Blank (s : List Char) : Prop :=
  ∀ c ∈ s, isBlank c = true

/-- What follows the type of a field: a tag or nothing. -/
inductive TagEnd : Option Tag → List Char → Prop
  | bare : TagEnd none []
  | tagged {gap : List Char} (hgap : Blank gap) (tag : Tag) : TagEnd (some tag) (gap ++ tag.text)

/-- A list of names with commas between them. -/
inductive NameList : List Ident → List Char → Prop
  | one (name : Ident) : NameList [name] name.text
  | cons (name : Ident) {before behind : List Char} (hbefore : Blank before) (hbehind : Blank behind)
    {names : List Ident} {text : List Char} (h : NameList names text) :
    NameList (name :: names) (name.text ++ before ++ ',' :: (behind ++ text))

/-- A field that takes one line, as it is written. -/
inductive Written : FieldDecl → List Char → Prop
  | plain {first : Ident} {more : List Ident} {names gap back : List Char} {tag? : Option Tag}
    (hnames : NameList (first :: more) names) (hgap : Blank gap) (hne : gap ≠ []) (type : TypeText)
    (hback : TagEnd tag? back) : Written (.plain first more type tag?) (names ++ gap ++ type.text ++ back)
  | embedded (pointer : Bool) (package? : Option Ident) (name : Ident) {back : List Char} {tag? : Option Tag}
    (hback : TagEnd tag? back) :
    Written (.embedded pointer package? name tag?) (embeddedText pointer package? name ++ back)

def structBrace (gap : List Char) : List Char :=
  ['s', 't', 'r', 'u', 'c', 't'] ++ (gap ++ ['{'])

/-- The first line of an anonymous struct, as it is written. -/
def Head (name : Ident) (slices : Nat) (pointer : Bool) (text : List Char) : Prop :=
  ∃ gap gap', Blank gap ∧ gap ≠ [] ∧ Blank gap' ∧
    text = name.text ++ (gap ++ (brackets slices ++ (star pointer ++ structBrace gap')))

/-! ## Readers and where they stop -/

theorem Blank.trimStart_append {s : List Char} (h : Blank s) (rest : List Char) :
    trimStart (s ++ rest) = trimStart rest :=
  trimStart_blanks h rest

theorem Blank.head?_append_ne {gap s : List Char} {c : Char} (h : Blank gap) (hc : isBlank c = false)
    (hs : s.head? ≠ some c) : (gap ++ s).head? ≠ some c := by
  cases gap with
  | nil => exact hs
  | cons first gap =>
    intro hhead
    have hblank := h first List.mem_cons_self
    rw [Option.some.inj hhead, hc] at hblank
    cases hblank

theorem takeWhile_stop {p : Char → Bool} {text s : List Char} (htext : ∀ c ∈ text, p c = true)
    (hs : ∀ c, s.head? = some c → p c = false) :
    (text ++ s).takeWhile p = text ∧ (text ++ s).dropWhile p = s := by
  rw [List.takeWhile_append_of_pos htext, List.dropWhile_append_of_pos htext]
  cases s with
  | nil => simp
  | cons c s => simp [hs c rfl]

theorem ident?_append {name s : List Char} (h : isIdent name = true)
    (hs : ∀ c, s.head? = some c → isWord c = false) : ident? (name ++ s) = some (name, s) := by
  cases name with
  | nil => cases h
  | cons first name =>
    simp only [isIdent, Bool.and_eq_true, List.all_eq_true] at h
    obtain ⟨htake, hdrop⟩ := takeWhile_stop h.2 hs
    rw [List.cons_append, ident?, if_pos h.1, htake, hdrop]

theorem dotted?_append {c : Char} {cs s : List Char} (hc : isIdentStart c = true)
    (hcs : ∀ d ∈ cs, isChainChar d = true) (hs : ∀ d, s.head? = some d → isChainChar d = false) :
    dotted? (c :: cs ++ s) = some (c :: cs, s) := by
  obtain ⟨htake, hdrop⟩ := takeWhile_stop hcs hs
  rw [List.cons_append, dotted?, if_pos hc, htake, hdrop]

theorem isWord_of_isBlank {c : Char} (h : isBlank c = true) : isWord c = false := by
  by_contra hword
  rw [isBlank_of_isWord (Bool.of_not_eq_false hword)] at h
  cases h

theorem isChainChar_of_isBlank {c : Char} (h : isBlank c = true) : isChainChar c = false := by
  rw [isChainChar, isWord_of_isBlank h, Bool.false_or, beq_eq_false_iff_ne]
  intro hdot
  rw [hdot] at h
  exact absurd h (by decide)

/-- Characters that stand around the parts of a field and belong to none of them. -/
theorem fieldMark : ∀ c ∈ [',', '\x60', '{', '}', '*'],
    isBlank c = false ∧ isChainChar c = false ∧ isWord c = false ∧ isIdentStart c = false := by
  have hall : [',', '\x60', '{', '}', '*'].all
      (fun c => !isBlank c && !isChainChar c && !isWord c && !isIdentStart c) = true := by decide
  intro c hc
  simpa [and_assoc] using List.all_eq_true.mp hall c hc

theorem Ident.head (name : Ident) :
    ∃ c cs, name.text = c :: cs ∧ isIdentStart c = true ∧ ∀ d ∈ cs, isWord d = true := by
  obtain ⟨text, h⟩ := name
  cases text with
  | nil => cases h
  | cons c cs =>
    simp only [isIdent, Bool.and_eq_true, List.all_eq_true] at h
    exact ⟨c, cs, rfl, h.1, h.2⟩

theorem Ident.isWord (name : Ident) : ∀ c ∈ name.text, isWord c = true :=
  Routes.isWord_of_isIdent name.valid

/-! ## Tags -/

theorem rawLiteral?_text (tag : Tag) : rawLiteral? tag.text = some tag.text := by
  simp only [Tag.text, rawLiteral?, cut?_append tag.raw]

theorem TagEnd.head {tag? : Option Tag} {back : List Char} (h : TagEnd tag? back) :
    ∀ c, back.head? = some c → isBlank c = true ∨ c = '\x60' := by
  intro c hc
  cases h with
  | bare => cases hc
  | @tagged gap hgap tag =>
    cases gap with
    | nil => exact .inr (by simpa [Tag.text] using hc.symm)
    | cons d gap =>
      obtain rfl : d = c := by simpa using hc
      exact .inl (hgap d (by simp))

theorem TagEnd.read {tag? : Option Tag} {back : List Char} (h : TagEnd tag? back) :
    tagOrEnd? (trimStart back) = some (tag?.map Tag.text) := by
  cases h with
  | bare => rfl
  | @tagged gap hgap tag =>
    have hquote : isBlank '\x60' = false := (fieldMark '\x60' (by simp)).1
    have htrim : trimStart (gap ++ tag.text) = tag.text := by
      rw [hgap.trimStart_append, Tag.text, trimStart_cons hquote]
    rw [htrim, Option.map_some]
    show (rawLiteral? tag.text).map some = some (some tag.text)
    rw [rawLiteral?_text]
    rfl

theorem TagEnd.stops {tag? : Option Tag} {back : List Char} (h : TagEnd tag? back) :
    ∀ c, back.head? = some c → isChainChar c = false := by
  intro c hc
  rcases h.head c hc with hblank | rfl
  · exact isChainChar_of_isBlank hblank
  · exact (fieldMark '\x60' (by simp)).2.1

/-! ## Embedded types -/

theorem embeddedText_split (pointer : Bool) (package? : Option Ident) (name : Ident) :
    ∃ c cs, embeddedText pointer package? name = star pointer ++ c :: cs ∧ isIdentStart c = true ∧
      ∀ d ∈ cs, isChainChar d = true := by
  have hchain : ∀ (ident : Ident) (d : Char), d ∈ ident.text → isChainChar d = true := fun ident d hd => by
    simp [isChainChar, ident.isWord d hd]
  cases package? with
  | none =>
    obtain ⟨c, cs, htext, hstart, -⟩ := name.head
    exact ⟨c, cs, by simp [embeddedText, htext], hstart, fun d hd => hchain name d (by simp [htext, hd])⟩
  | some package =>
    obtain ⟨c, cs, htext, hstart, -⟩ := package.head
    refine ⟨c, cs ++ '.' :: name.text, by simp [embeddedText, htext], hstart, fun d hd => ?_⟩
    rcases List.mem_append.mp hd with hd | hd
    · exact hchain package d (by simp [htext, hd])
    · rcases List.mem_cons.mp hd with rfl | hd
      · decide
      · exact hchain name d hd

theorem embedded?_written (pointer : Bool) (package? : Option Ident) (name : Ident) {back : List Char}
    {tag? : Option Tag} (hback : TagEnd tag? back) :
    embedded? (embeddedText pointer package? name ++ back)
      = some (.embedded (embeddedText pointer package? name) (tag?.map Tag.text)) := by
  obtain ⟨c, cs, htext, hstart, hchain⟩ := embeddedText_split pointer package? name
  have hdotted := dotted?_append hstart hchain hback.stops
  have hne : c ≠ '*' := by
    rintro rfl
    rw [(fieldMark '*' (by simp)).2.2.2] at hstart
    cases hstart
  rw [htext, List.append_assoc]
  cases pointer with
  | true =>
    simp only [star, if_true, List.cons_append, List.nil_append] at hdotted ⊢
    simp [embedded?, hdotted, hback.read]
  | false =>
    simp only [star, Bool.false_eq_true, if_false, List.cons_append, List.nil_append] at hdotted ⊢
    simp [embedded?, hne, hdotted, hback.read]

/-! ## Names with a type -/

/-- Behind the first name of a list stands another name, behind a comma, or nothing. -/
theorem NameList.split {names : List Ident} {text : List Char} (h : NameList names text) :
    ∃ first more, names = first :: more ∧ ((more = [] ∧ text = first.text) ∨
      ∃ before tail, Blank before ∧ text = first.text ++ (before ++ ',' :: tail)) := by
  cases h with
  | one name => exact ⟨name, [], rfl, .inl ⟨rfl, rfl⟩⟩
  | @cons name before behind hbefore hbehind names text h =>
    exact ⟨name, names, rfl, .inr ⟨before, behind ++ text, hbefore, by simp⟩⟩

/-- What follows the names of a field: blanks and a type that starts with no comma. -/
structure Behind (s : List Char) : Prop where
  head : ∀ c, s.head? = some c → isBlank c = true
  type : ∃ c cs, trimStart s = c :: cs ∧ c ≠ ',' ∧ c ≠ '\x60'

theorem behind_type {gap : List Char} (hgap : Blank gap) (hne : gap ≠ []) (type : TypeText) (back : List Char) :
    Behind (gap ++ (type.text ++ back)) := by
  obtain ⟨c, cs, htype⟩ := List.exists_cons_of_ne_nil type.ne_nil
  obtain ⟨hblank, hcomma⟩ := type.head c (by simp [htype])
  refine ⟨fun d hd => ?_, c, cs ++ back, ?_, hcomma, ?_⟩
  · obtain ⟨first, gap, rfl⟩ := List.exists_cons_of_ne_nil hne
    obtain rfl : first = d := by simpa using hd
    exact hgap first (by simp)
  · rw [hgap.trimStart_append, htype]
    exact trimStart_cons hblank (cs ++ back)
  · rintro rfl
    exact type.raw (by simp [htype])

/-- The names of a list are all read, before fewer of them are tried. -/
theorem nameLists_names {names : List Ident} {text : List Char} (h : NameList names text) {s : List Char}
    (hs : Behind s) :
    ∃ first more rest, names = first :: more ∧ text ++ s = first.text ++ rest ∧
      (∀ c, rest.head? = some c → isWord c = false) ∧
      ∀ n known, rest.length ≤ n → ∃ others, nameLists n known rest = (known ++ more.map Ident.text, s) :: others := by
  induction h with
  | one name =>
    refine ⟨name, [], s, rfl, rfl, fun c hc => isWord_of_isBlank (hs.head c hc), fun n known _ => ⟨[], ?_⟩⟩
    obtain ⟨c, cs, htrim, hcomma, -⟩ := hs.type
    cases n with
    | zero => simp [nameLists]
    | succ n => simp [nameLists, htrim, hcomma]
  | @cons name before behind hbefore hbehind names text h ih =>
    obtain ⟨second, more, rest, rfl, htext, hstop, hread⟩ := ih
    have hcomma : isBlank ',' = false ∧ isWord ',' = false :=
      ⟨(fieldMark ',' (by simp)).1, (fieldMark ',' (by simp)).2.2.1⟩
    refine ⟨name, second :: more, before ++ ',' :: (behind ++ (second.text ++ rest)), rfl, by simp [← htext],
      fun c hc => ?_, fun n known hn => ?_⟩
    · cases before with
      | nil =>
        obtain rfl : ',' = c := by simpa using hc
        exact hcomma.2
      | cons d before =>
        obtain rfl : d = c := by simpa using hc
        exact isWord_of_isBlank (hbefore d (by simp))
    · obtain ⟨m, rfl⟩ : ∃ m, n = m + 1 := ⟨n - 1, by simp at hn; omega⟩
      have hlength : rest.length ≤ m := by
        simp only [List.length_append, List.length_cons] at hn
        omega
      obtain ⟨others, hothers⟩ := hread m (known ++ [second.text]) hlength
      obtain ⟨c, cs, hsecond, hstart, -⟩ := second.head
      have hblank : isBlank c = false := isBlank_of_isWord (second.isWord c (by simp [hsecond]))
      have hident : ident? (trimStart (behind ++ (second.text ++ rest))) = some (second.text, rest) := by
        rw [hbehind.trimStart_append, hsecond, List.cons_append, trimStart_cons hblank, ← List.cons_append, ← hsecond]
        exact ident?_append second.valid hstop
      have htrim : trimStart (before ++ ',' :: (behind ++ (second.text ++ rest)))
          = ',' :: (behind ++ (second.text ++ rest)) := by
        rw [hbefore.trimStart_append, trimStart_cons hcomma.1]
      refine ⟨others ++ [(known, before ++ ',' :: (behind ++ (second.text ++ rest)))], ?_⟩
      rw [nameLists, htrim]
      simp only [hident, hothers]
      simp

theorem typeAndTag?_written {gap back : List Char} {tag? : Option Tag} (hgap : Blank gap) (hne : gap ≠ [])
    (type : TypeText) (hback : TagEnd tag? back) :
    typeAndTag? (gap ++ (type.text ++ back)) = some (type.text, tag?.map Tag.text) := by
  obtain ⟨c, cs, htype⟩ := List.exists_cons_of_ne_nil type.ne_nil
  have hstop : ∀ d, (type.text ++ back).head? = some d → isBlank d = false := by
    intro d hd
    obtain rfl : c = d := by simpa [htype] using hd
    exact (type.head c (by simp [htype])).1
  obtain ⟨htake, hdrop⟩ := takeWhile_stop hgap hstop
  -- the type ends at the tag, and the blanks in front of the tag are no part of it
  obtain ⟨trailing, tagText, htrailing, hsplit, hread⟩ :
      ∃ trailing tagText, Blank trailing ∧ back = trailing ++ tagText ∧
      tagOrEnd? tagText = some (tag?.map Tag.text) ∧ ∀ d, tagText.head? = some d → d = '\x60' := by
    cases hback with
    | bare => exact ⟨[], [], by simp [Blank], rfl, rfl, by simp⟩
    | @tagged gap' hgap' tag =>
      refine ⟨gap', tag.text, hgap', rfl, ?_, by simp [Tag.text]⟩
      show (rawLiteral? tag.text).map some = some (some tag.text)
      rw [rawLiteral?_text]
      rfl
  obtain ⟨hread, hquote⟩ := hread
  have hplain : ∀ d ∈ type.text ++ trailing, (d != '\x60') = true := by
    intro d hd
    rw [bne_iff_ne]
    rintro rfl
    rcases List.mem_append.mp hd with hd | hd
    · exact type.raw hd
    · have hblank := htrailing _ hd
      rw [(fieldMark '\x60' (by simp)).1] at hblank
      cases hblank
  obtain ⟨htake', hdrop'⟩ := takeWhile_stop (s := tagText) hplain (fun d hd => by simp [hquote d hd])
  have hend : trimEnd (type.text ++ trailing) = type.text := by
    rw [Source.trimEnd_append htrailing]
    exact trimEnd_of_last fun d hd => (type.last d hd).1
  obtain ⟨first, more, rfl⟩ := List.exists_cons_of_ne_nil hne
  rw [typeAndTag?, htake, hdrop, hsplit, ← List.append_assoc]
  simp only [htake', hdrop', hread]
  rw [htype, List.cons_append] at hend ⊢
  simp [hend]

theorem plain?_written {first : Ident} {more : List Ident} {names gap back : List Char} {tag? : Option Tag}
    (hnames : NameList (first :: more) names) (hgap : Blank gap) (hne : gap ≠ []) (type : TypeText)
    (hback : TagEnd tag? back) :
    plain? (names ++ gap ++ type.text ++ back)
      = some (.plain ((first :: more).map Ident.text) type.text (tag?.map Tag.text)) := by
  obtain ⟨other, rest, behind, hsame, htext, hstop, hread⟩ := nameLists_names hnames (behind_type hgap hne type back)
  obtain ⟨rfl, rfl⟩ := List.cons.inj hsame
  obtain ⟨others, hothers⟩ := hread behind.length [first.text] (Nat.le_refl _)
  have hline : names ++ gap ++ type.text ++ back = first.text ++ behind := by rw [← htext]; simp
  rw [hline, plain?, ident?_append first.valid hstop]
  simp [hothers, typeAndTag?_written hgap hne type hback]

theorem tagOrEnd?_eq_none {c : Char} {s : List Char} (hc : c ≠ '\x60') : tagOrEnd? (c :: s) = none := by
  simp [tagOrEnd?, rawLiteral?, hc]

/-- Names with a type are not taken for an embedded type. -/
theorem embedded?_plain {first : Ident} {more : List Ident} {names s : List Char}
    (hnames : NameList (first :: more) names) (hs : Behind s) : embedded? (names ++ s) = none := by
  -- behind the first name stands a comma or the type
  obtain ⟨rest, hline, hstop, c, cs, htrim, hc⟩ : ∃ rest, names ++ s = first.text ++ rest ∧
      (∀ d, rest.head? = some d → isChainChar d = false) ∧ ∃ c cs, trimStart rest = c :: cs ∧ c ≠ '\x60' := by
    obtain ⟨other, tail, hsame, hcases⟩ := hnames.split
    obtain ⟨rfl, rfl⟩ := List.cons.inj hsame
    have hcomma := fieldMark ',' (by simp)
    rcases hcases with ⟨-, rfl⟩ | ⟨before, tail, hbefore, rfl⟩
    · obtain ⟨c, cs, htrim, -, hc⟩ := hs.type
      exact ⟨s, rfl, fun d hd => isChainChar_of_isBlank (hs.head d hd), c, cs, htrim, hc⟩
    · refine ⟨before ++ ',' :: (tail ++ s), by simp, fun d hd => ?_, ',', tail ++ s, ?_, by decide⟩
      · cases before with
        | nil =>
          obtain rfl : ',' = d := by simpa using hd
          exact hcomma.2.1
        | cons b before =>
          obtain rfl : b = d := by simpa using hd
          exact isChainChar_of_isBlank (hbefore b (by simp))
      · rw [hbefore.trimStart_append, trimStart_cons hcomma.1]
  obtain ⟨d, ds, hfirst, hstart, -⟩ := first.head
  have hne : d ≠ '*' := by
    rintro rfl
    rw [(fieldMark '*' (by simp)).2.2.2] at hstart
    cases hstart
  have hdotted := Routes.dotted?_ident first.valid hstop
  rw [hline]
  rw [hfirst, List.cons_append] at hdotted ⊢
  simp [embedded?, hne, hdotted, htrim, tagOrEnd?_eq_none hc]

/-! ## Heads of anonymous structs -/

theorem ident?_eq_append {s name rest : List Char} (h : ident? s = some (name, rest)) : s = name ++ rest := by
  cases s with
  | nil => cases h
  | cons c cs =>
    rw [ident?] at h
    split at h
    · obtain ⟨rfl, rfl⟩ := Prod.mk.inj (Option.some.inj h)
      simp
    · cases h

theorem isWord_of_ident? {s name rest : List Char} (h : ident? s = some (name, rest)) :
    ∀ c ∈ name, isWord c = true := by
  cases s with
  | nil => cases h
  | cons first s =>
    rw [ident?] at h
    split at h
    · rename_i hfirst
      obtain ⟨rfl, rfl⟩ := Prod.mk.inj (Option.some.inj h)
      intro c hc
      rcases List.mem_cons.mp hc with rfl | hc
      · exact Routes.isWord_of_isIdentStart hfirst
      · exact List.mem_takeWhile_imp hc
    · cases h

theorem eq_blank_append_trimStart (s : List Char) : ∃ gap, Blank gap ∧ s = gap ++ trimStart s :=
  ⟨s.takeWhile isBlank, fun _ hc => List.mem_takeWhile_imp hc, by rw [trimStart, List.takeWhile_append_dropWhile]⟩

theorem blanks?_split {s rest : List Char} (h : blanks? s = some rest) : ∃ gap, Blank gap ∧ s = gap ++ rest := by
  cases s with
  | nil => cases h
  | cons first s =>
    rw [blanks?] at h
    split at h
    · rename_i hfirst
      obtain ⟨gap, hgap, hs⟩ := eq_blank_append_trimStart s
      obtain rfl := Option.some.inj h
      refine ⟨first :: gap, fun c hc => ?_, by rw [List.cons_append, ← hs]⟩
      rcases List.mem_cons.mp hc with rfl | hc
      · exact hfirst
      · exact hgap c hc
    · cases h

theorem emptyBrackets_split (s : List Char) :
    s = (emptyBrackets s).1 ++ (emptyBrackets s).2 ∧ ∀ c ∈ (emptyBrackets s).1, c = '[' ∨ c = ']' := by
  fun_induction emptyBrackets s with
  | case1 cs brackets rest heq ih =>
    rw [heq] at ih
    refine ⟨by rw [List.cons_append, List.cons_append, ← ih.1], fun c hc => ?_⟩
    rcases List.mem_cons.mp hc with rfl | hc
    · exact .inl rfl
    · rcases List.mem_cons.mp hc with rfl | hc
      · exact .inr rfl
      · exact ih.2 c hc
  | case2 cs hcs => exact ⟨rfl, nofun⟩

/-- The head of a struct is a name, brackets and a star, and the keyword with its brace. -/
theorem nestedHead?_split {line : List Char} {found : List Char × List Char} (h : nestedHead? line = some found) :
    ∃ name gap lead gap', (∀ c ∈ name, isWord c = true) ∧ Blank gap ∧ (∀ c ∈ lead, c = '[' ∨ c = ']' ∨ c = '*') ∧
      Blank gap' ∧ line = name ++ (gap ++ (lead ++ structBrace gap')) := by
  obtain ⟨⟨name, rest⟩, hname, h⟩ := Option.bind_eq_some_iff.mp h
  obtain ⟨type, htype, h⟩ := Option.bind_eq_some_iff.mp h
  dsimp only at h htype
  obtain ⟨behind, hbehind, h⟩ := Option.bind_eq_some_iff.mp h
  obtain ⟨_, hguard, _⟩ := Option.bind_eq_some_iff.mp h
  have hbrace : trimStart behind = ['{'] := by
    by_contra hne
    simp [guard, hne] at hguard
  obtain ⟨gap, hgap, rfl⟩ := blanks?_split htype
  obtain ⟨gap', hgap', hend⟩ := eq_blank_append_trimStart behind
  obtain ⟨hbrackets, hmarks⟩ := emptyBrackets_split type
  -- the star, if there is one, stands behind the brackets
  obtain ⟨lead, hlead, hstar⟩ : ∃ lead, (∀ c ∈ lead, c = '[' ∨ c = ']' ∨ c = '*') ∧
      type = lead ++ structBrace gap' := by
    rw [after?_eq_some_iff] at hbehind
    split at hbehind
    · rename_i cs hrest
      dsimp only at hbehind
      refine ⟨(emptyBrackets type).1 ++ ['*'], fun c hc => ?_, ?_⟩
      · rcases List.mem_append.mp hc with hc | hc
        · exact (hmarks c hc).imp_right .inl
        · exact .inr (.inr (List.mem_singleton.mp hc))
      · rw [structBrace, ← hbrace, ← hend, ← hbehind, List.append_assoc, List.singleton_append, ← hrest]
        exact hbrackets
    · dsimp only at hbehind
      refine ⟨(emptyBrackets type).1, fun c hc => (hmarks c hc).imp_right .inl, ?_⟩
      rw [structBrace, ← hbrace, ← hend, ← hbehind]
      exact hbrackets
  refine ⟨name, gap, lead, gap', isWord_of_ident? hname, hgap, hlead, hgap', ?_⟩
  rw [ident?_eq_append hname, hstar]

theorem nestedHead?_getLast? {line : List Char} {found : List Char × List Char} (h : nestedHead? line = some found) :
    line.getLast? = some '{' := by
  obtain ⟨name, gap, lead, gap', -, -, -, -, rfl⟩ := nestedHead?_split h
  simp only [structBrace, ← List.append_assoc, List.getLast?_concat]

theorem emptyBrackets_brackets (slices : Nat) {s : List Char} (hs : s.head? ≠ some '[') :
    emptyBrackets (brackets slices ++ s) = (brackets slices, s) := by
  induction slices with
  | zero =>
    cases s with
    | nil => rfl
    | cons c s =>
      have hc : c ≠ '[' := by simpa using hs
      simp [brackets, emptyBrackets, hc]
  | succ slices ih =>
    have hsplit : brackets (slices + 1) = '[' :: ']' :: brackets slices := by
      simp [brackets, List.replicate_succ]
    rw [hsplit, List.cons_append, List.cons_append, emptyBrackets, ih]

theorem blanks?_append {gap : List Char} (hgap : Blank gap) (hne : gap ≠ []) {s : List Char}
    (hs : ∀ c, s.head? = some c → isBlank c = false) : blanks? (gap ++ s) = some s := by
  obtain ⟨first, more, rfl⟩ := List.exists_cons_of_ne_nil hne
  have hmore : Blank more := fun c hc => hgap c (by simp [hc])
  rw [List.cons_append, blanks?, if_pos (hgap first (by simp)), hmore.trimStart_append, trimStart_of_head hs]

theorem nestedHead?_head {name : Ident} {slices : Nat} {pointer : Bool} {text : List Char}
    (h : Head name slices pointer text) :
    nestedHead? text = some (name.text, brackets slices ++ star pointer) := by
  obtain ⟨gap, gap', hgap, hne, hgap', rfl⟩ := h
  have hident : ident? (name.text ++ (gap ++ (brackets slices ++ (star pointer ++ structBrace gap'))))
      = some (name.text, gap ++ (brackets slices ++ (star pointer ++ structBrace gap'))) := by
    refine ident?_append name.valid fun c hc => ?_
    obtain ⟨first, more, rfl⟩ := List.exists_cons_of_ne_nil hne
    obtain rfl : first = c := by simpa using hc
    exact isWord_of_isBlank (hgap first (by simp))
  have hblanks : blanks? (gap ++ (brackets slices ++ (star pointer ++ structBrace gap')))
      = some (brackets slices ++ (star pointer ++ structBrace gap')) := by
    refine blanks?_append hgap hne fun c hc => ?_
    have hmark : c ∈ ['[', '*', 's'] := by
      cases slices <;> cases pointer <;> simp [brackets, star, structBrace, List.replicate_succ] at hc <;> simp [← hc]
    have hall : ['[', '*', 's'].all (fun c => !isBlank c) = true := by decide
    simpa using List.all_eq_true.mp hall c hmark
  have hbrackets : emptyBrackets (brackets slices ++ (star pointer ++ structBrace gap'))
      = (brackets slices, star pointer ++ structBrace gap') :=
    emptyBrackets_brackets slices (by cases pointer <;> simp [star, structBrace])
  have hafter : after? ['s', 't', 'r', 'u', 'c', 't'] (structBrace gap') = some (gap' ++ ['{']) := after?_append _ _
  have hbrace : trimStart (gap' ++ ['{']) = ['{'] := by
    rw [hgap'.trimStart_append, trimStart_cons (fieldMark '{' (by simp)).1]
  rw [nestedHead?, hident]
  cases pointer with
  | true =>
    simp only [star, if_true, List.cons_append, List.nil_append] at hblanks hbrackets ⊢
    simp [hblanks, hbrackets, hafter, hbrace]
  | false =>
    have hstar : ∀ cs, structBrace gap' = '*' :: cs → False := fun cs heq => by simp [structBrace] at heq
    simp only [star, Bool.false_eq_true, if_false, List.nil_append] at hblanks hbrackets ⊢
    simp [hblanks, hbrackets, hafter, hbrace]

/-! ## Lines -/

theorem TagEnd.getLast?_append {tag? : Option Tag} {back : List Char} (h : TagEnd tag? back) (front : List Char) :
    (front ++ back).getLast? = front.getLast? ∨ (front ++ back).getLast? = some '\x60' := by
  cases h with
  | bare => exact .inl (by rw [List.append_nil])
  | @tagged gap hgap tag =>
    right
    rw [Tag.text, ← List.cons_append, ← List.append_assoc, ← List.append_assoc]
    exact List.getLast?_concat

theorem Written.last {decl : FieldDecl} {text : List Char} (h : Written decl text) :
    ∀ c, text.getLast? = some c → isBlank c = false ∧ c ≠ '{' := by
  -- a tag ends with its quote, and without one the field ends as its type does
  have hback : ∀ {front back : List Char} {tag? : Option Tag}, TagEnd tag? back →
      (∀ c, front.getLast? = some c → isBlank c = false ∧ c ≠ '{') →
      ∀ c, (front ++ back).getLast? = some c → isBlank c = false ∧ c ≠ '{' := by
    intro front back tag? hback hfront c hc
    rcases hback.getLast?_append front with hlast | hlast
    · exact hfront c (hlast ▸ hc)
    · obtain rfl : '\x60' = c := Option.some.inj (hlast.symm.trans hc)
      exact ⟨(fieldMark '\x60' (by simp)).1, by decide⟩
  cases h with
  | @plain first more names gap back tag? hnames hgap hne type htag =>
    apply hback htag
    intro c hc
    rw [List.getLast?_append_of_ne_nil _ type.ne_nil] at hc
    exact type.last c hc
  | embedded pointer package? name htag =>
    apply hback htag
    intro c hc
    obtain ⟨first, rest, hname, -⟩ := name.head
    have hne : name.text ≠ [] := by simp [hname]
    rw [embeddedText, List.getLast?_append_of_ne_nil _ hne] at hc
    have hword := name.isWord c (List.mem_of_getLast? hc)
    refine ⟨isBlank_of_isWord hword, ?_⟩
    intro heq
    rw [heq, (fieldMark '{' (by simp)).2.2.1] at hword
    cases hword

theorem Written.first {decl : FieldDecl} {text : List Char} (h : Written decl text) :
    ∃ c cs, text = c :: cs ∧ (isIdentStart c = true ∨ c = '*') := by
  cases h with
  | @plain first more names gap back tag? hnames hgap hne type hback =>
    obtain ⟨other, tail, hsame, hcases⟩ := hnames.split
    obtain ⟨rfl, rfl⟩ := List.cons.inj hsame
    obtain ⟨c, cs, hfirst, hstart, -⟩ := first.head
    rcases hcases with ⟨-, rfl⟩ | ⟨before, tail, -, rfl⟩
    · exact ⟨c, _, by rw [hfirst]; rfl, .inl hstart⟩
    · exact ⟨c, _, by rw [hfirst]; rfl, .inl hstart⟩
  | embedded pointer package? name hback =>
    obtain ⟨c, cs, htext, hstart, -⟩ := embeddedText_split pointer package? name
    cases pointer with
    | false => exact ⟨c, _, by rw [htext]; rfl, .inl hstart⟩
    | true => exact ⟨'*', _, by rw [htext]; rfl, .inr rfl⟩

/-- A field on one line is read as what it is. -/
theorem field?_written {decl : FieldDecl} {text : List Char} (h : Written decl text) :
    nestedHead? text = none ∧ field? text = some decl.field := by
  refine ⟨?_, ?_⟩
  · cases hfound : nestedHead? text with
    | none => rfl
    | some found => exact absurd rfl (h.last '{' (nestedHead?_getLast? hfound)).2
  · cases h with
    | @plain first more names gap back tag? hnames hgap hne type hback =>
      have hembedded := embedded?_plain hnames (behind_type hgap hne type back)
      have hplain := plain?_written hnames hgap hne type hback
      rw [← List.append_assoc, ← List.append_assoc] at hembedded
      rw [field?, hembedded, hplain, FieldDecl.field]
      rfl
    | embedded pointer package? name hback =>
      rw [field?, embedded?_written pointer package? name hback, FieldDecl.field]
      rfl

theorem Ident.dot_not_mem (name : Ident) : '.' ∉ name.text :=
  fun hmem => absurd (name.isWord '.' hmem) (by decide)

theorem embeddedName_text (pointer : Bool) (package? : Option Ident) (name : Ident) :
    Types.embeddedName (embeddedText pointer package? name) = name.text := by
  obtain ⟨c, cs, htext, hstart, -⟩ := embeddedText_split pointer package? name
  have hc : (c == '*') = false := by
    rw [beq_eq_false_iff_ne]
    rintro rfl
    rw [(fieldMark '*' (by simp)).2.2.2] at hstart
    cases hstart
  have hbare : (embeddedText pointer package? name).dropWhile (· == '*')
      = (package?.elim [] fun package => package.text ++ ['.']) ++ name.text := by
    have hsame : c :: cs = (package?.elim [] fun package => package.text ++ ['.']) ++ name.text := by
      rw [embeddedText, List.append_assoc] at htext
      exact (List.append_cancel_left htext).symm
    rw [htext, ← hsame]
    cases pointer <;> simp [star, hc]
  rw [Types.embeddedName, hbare]
  cases package? with
  | none => simp [split_of_not_mem name.dot_not_mem]
  | some package => simp [split_append package.dot_not_mem, split_of_not_mem name.dot_not_mem]

theorem names_field (decl : FieldDecl) : decl.field.names = decl.names := by
  cases decl with
  | plain first more type tag? => rw [FieldDecl.field, Field.names, FieldDecl.names]
  | embedded pointer package? name tag? =>
    rw [FieldDecl.field, Field.names, FieldDecl.names, embeddedName_text]
  | nested name slices pointer fields tag? => rw [FieldDecl.field, Field.names, FieldDecl.names]

end RouteDoc.Go
