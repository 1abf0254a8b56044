import RouteDoc.Proofs.DocumentAssembly
import RouteDoc.Proofs.FunctionLines

/-!
The imports of a file, read from its header. A header is written as single imports, blocks with one import on a line,
and lines that neither import anything nor start a function, in any order (`Header`); the file ends behind it or goes
on with a function.

No line of a header is taken for one of another kind, because an alias is no reserved word (`ImportText.ne_keyword`). So
each line does one thing to the imports found so far, and a header adds its imports one after the other, however they
are grouped (`importsFrom_header`). In the end every name stands for the last import that gives it
(`fileImports_header`).
-/

namespace RouteDoc.Go

open RouteDoc.Text

/-! ## Headers -/

def keywords : List String :=
  ["break", "case", "chan", "const", "continue", "default", "defer", "else", "fallthrough", "for", "func", "go", "goto",
    "if", "import", "interface", "map", "package", "range", "return", "select", "struct", "switch", "type", "var"]

/-- An import may be called by an identifier in ASCII, among them the blank one, or by a dot. -/
def IsAlias (name : List Char) : Prop :=
  name = ['.'] ∨ isAsciiIdent name = true ∧ String.ofList name ∉ keywords

/-- An import as it is written behind the keyword or in a block. -/
inductive ImportText : ImportSpec → List Char → Prop
  | plain {path : List Char} (hne : path ≠ []) (hquote : '"' ∉ path) : ImportText ⟨none, path⟩ ('"' :: (path ++ ['"']))
  | named {name gap path : List Char} (hname : IsAlias name) (hgap : Blank gap) (hgapne : gap ≠ []) (hne : path ≠ [])
    (hquote : '"' ∉ path) : ImportText ⟨some name, path⟩ (name ++ (gap ++ '"' :: (path ++ ['"'])))

def StartsWithWord (word line : List Char) : Prop :=
  ∃ lead rest, Blank lead ∧ line = lead ++ (word ++ rest) ∧ ∀ c, rest.head? = some c → isWord c = false

/-- The lines of a block of imports behind the one that opens it. -/
inductive Block : List ImportSpec → List (List Char) → Prop
  | close {lead tail : List Char} (hlead : Blank lead) (htail : Blank tail) : Block [] [lead ++ [')'] ++ tail]
  | blank {specs : List ImportSpec} {line : List Char} {lines : List (List Char)} (hline : Blank line)
    (hlines : Block specs lines) : Block specs (line :: lines)
  | spec {spec : ImportSpec} {specs : List ImportSpec} {lead text tail : List Char} {lines : List (List Char)}
    (hlead : Blank lead) (htail : Blank tail) (htext : ImportText spec text) (hlines : Block specs lines) :
    Block (spec :: specs) ((lead ++ text ++ tail) :: lines)

/-- The lines of a header and the imports that are written in them; a line that is blank starts with no word. -/
inductive Header : List ImportSpec → List (List Char) → Prop
  | nil : Header [] []
  | other {specs : List ImportSpec} {line : List Char} {lines : List (List Char)}
    (himport : ¬ StartsWithWord ['i', 'm', 'p', 'o', 'r', 't'] line)
    (hfunc : ¬ StartsWithWord ['f', 'u', 'n', 'c'] line) (hlines : Header specs lines) : Header specs (line :: lines)
  | single {spec : ImportSpec} {specs : List ImportSpec} {lead gap text tail : List Char} {lines : List (List Char)}
    (hlead : Blank lead) (hgap : Blank gap) (htail : Blank tail) (htext : ImportText spec text)
    (hlines : Header specs lines) :
    Header (spec :: specs) ((lead ++ (['i', 'm', 'p', 'o', 'r', 't'] ++ ' ' :: (gap ++ text)) ++ tail) :: lines)
  | block {inner specs : List ImportSpec} {lead space tail : List Char} {block lines : List (List Char)}
    (hlead : Blank lead) (hspace : space = [' '] ∨ space = []) (htail : Blank tail) (hblock : Block inner block)
    (hlines : Header specs lines) :
    Header (inner ++ specs)
      ((lead ++ (['i', 'm', 'p', 'o', 'r', 't'] ++ space ++ ['(']) ++ tail) :: (block ++ lines))

inductive FunctionLine : List Char → Prop
  | method {lead rest : List Char} (hlead : Blank lead) : FunctionLine (lead ++ (['f', 'u', 'n', 'c'] ++ ['('] ++ rest))
  | named {lead gap rest : List Char} {c : Char} (hlead : Blank lead) (hgap : Blank gap) (hc : isBlank c = false) :
    FunctionLine (lead ++ (['f', 'u', 'n', 'c'] ++ ' ' :: gap ++ [c] ++ rest))

/-- What may stand behind a header: nothing, or a function and anything behind it. -/
inductive HeaderEnd : List (List Char) → Prop
  | nil : HeaderEnd []
  | function {line : List Char} {lines : List (List Char)} (h : FunctionLine line) : HeaderEnd (line :: lines)

/-! ## Written imports are read -/

theorem importPath?_quoted {path : List Char} (hne : path ≠ []) (hquote : '"' ∉ path) :
    importPath? ('"' :: (path ++ ['"'])) = some path := by
  obtain ⟨c, cs, rfl⟩ := List.exists_cons_of_ne_nil hne
  rw [importPath?, quotedWord?, cut?_append hquote]

theorem IsAlias.head {name : List Char} (h : IsAlias name) :
    ∃ c cs, name = c :: cs ∧ (c = '.' ∧ cs = [] ∨ isIdentStart c = true) := by
  rcases h with rfl | ⟨hident, -⟩
  · exact ⟨'.', [], rfl, .inl ⟨rfl, rfl⟩⟩
  · cases name with
    | nil => cases hident
    | cons c cs =>
      rw [isAsciiIdent, Bool.and_eq_true] at hident
      exact ⟨c, cs, rfl, .inr hident.1⟩

theorem ImportText.head {spec : ImportSpec} {text : List Char} (h : ImportText spec text) :
    ∃ c cs, text = c :: cs ∧ isBlank c = false ∧ c ≠ ')' ∧ c ≠ '(' := by
  cases h with
  | plain => exact ⟨'"', _, rfl, by decide, by decide, by decide⟩
  | named hname =>
    obtain ⟨c, cs, rfl, hc⟩ := hname.head
    refine ⟨c, _, rfl, ?_⟩
    rcases hc with ⟨rfl, -⟩ | hstart
    · exact ⟨by decide, by decide, by decide⟩
    · refine ⟨isBlank_of_isWord (Routes.isWord_of_isIdentStart hstart), ?_, ?_⟩ <;> rintro rfl <;> cases hstart

theorem ImportText.getLast? {spec : ImportSpec} {text : List Char} (h : ImportText spec text) (front : List Char) :
    (front ++ text).getLast? = some '"' := by
  cases h <;> simp [List.getLast?_append, List.getLast?_cons]

theorem stops_at_gap {gap : List Char} (hgap : Blank gap) (hne : gap ≠ []) (s : List Char) :
    ∀ c, (gap ++ s).head? = some c → isAsciiWord c = false := by
  obtain ⟨first, gap, rfl⟩ := List.exists_cons_of_ne_nil hne
  intro c hc
  obtain rfl := Option.some.inj hc
  have hword := isWord_of_isBlank (hgap first (by simp))
  by_contra hascii
  rw [isWord_of_isAsciiWord (Bool.of_not_eq_false hascii)] at hword
  cases hword

/-- Behind its alias an import goes on with a blank, so no reserved word starts it. -/
theorem ImportText.ne_keyword {spec : ImportSpec} {text : List Char} (h : ImportText spec text) {word : List Char}
    (hident : isAsciiIdent word = true) (hkeyword : String.ofList word ∈ keywords) {c : Char}
    (hc : isAsciiWord c = false) (rest : List Char) : text ≠ word ++ c :: rest := by
  intro heq
  have hread : asciiIdent? text = some (word, c :: rest) :=
    asciiIdent?_eq_some_iff.mpr ⟨hident, heq, fun d hd => by rwa [← Option.some.inj hd]⟩
  cases h with
  | plain => cases hread
  | @named name gap path hname hgap hgapne =>
    rcases hname with rfl | ⟨hname, hno⟩
    · cases hread
    · have hsame := asciiIdent?_eq_some_iff.mpr ⟨hname, rfl, stops_at_gap hgap hgapne ('"' :: (path ++ ['"']))⟩
      rw [hread] at hsame
      obtain ⟨rfl, -⟩ := Prod.mk.inj (Option.some.inj hsame)
      exact hno hkeyword

theorem importSpec?_of_text {spec : ImportSpec} {line text : List Char} (h : ImportText spec text)
    (hline : ((after? ['i', 'm', 'p', 'o', 'r', 't'] line).bind blanks?).getD line = text) :
    importSpec? line = some spec := by
  rw [importSpec?, hline]
  cases h with
  | plain hne hquote => simp only [importPath?_quoted hne hquote, Option.map_some]
  | @named name gap path hname hgap hgapne hne hquote =>
    have hgapped : (blanks? (gap ++ '"' :: (path ++ ['"']))).bind importPath? = some path := by
      have hmark : ∀ c, ('"' :: (path ++ ['"'])).head? = some c → isBlank c = false := by
        intro c hc
        obtain rfl := Option.some.inj hc
        decide
      rw [blanks?_append hgap hgapne hmark, Option.bind_some, importPath?_quoted hne hquote]
    rcases hname with rfl | ⟨hident, -⟩
    · simp only [List.cons_append, List.nil_append, hgapped, Option.map_some]
    · have hread := asciiIdent?_eq_some_iff.mpr ⟨hident, rfl, stops_at_gap hgap hgapne ('"' :: (path ++ ['"']))⟩
      split
      · rename_i heq
        rw [heq] at hread
        cases hread
      · rename_i heq
        rw [heq] at hread
        cases hread
      · simp only [hread, hgapped, Option.map_some]

/-! ## One line -/

/-- The text starts with neither keyword. -/
def Unmarked (text : List Char) : Prop :=
  ∀ word ∈ [['i', 'm', 'p', 'o', 'r', 't'], ['f', 'u', 'n', 'c']], ∀ c rest, isWord c = false →
    text ≠ word ++ c :: rest

theorem Unmarked.startsWith {text : List Char} (h : Unmarked text) (word : List Char)
    (hword : word ∈ [['i', 'm', 'p', 'o', 'r', 't'], ['f', 'u', 'n', 'c']]) {c : Char} (hc : isWord c = false)
    (more : List Char) : startsWith (word ++ c :: more) text = false := by
  rw [← Bool.not_eq_true, Text.startsWith, Option.isSome_iff_exists]
  rintro ⟨rest, hrest⟩
  have htext := after?_eq_some_iff.mp hrest
  rw [List.append_assoc, List.cons_append] at htext
  exact h word hword c _ hc htext

theorem Unmarked.startsFunction {text : List Char} (h : Unmarked text) : startsFunction text = false := by
  rw [Go.startsFunction, Bool.or_eq_false_iff]
  exact ⟨h.startsWith ['f', 'u', 'n', 'c'] (by simp) (c := ' ') (by decide) [],
    h.startsWith ['f', 'u', 'n', 'c'] (by simp) (c := '(') (by decide) []⟩

theorem Unmarked.opensImports {text : List Char} (h : Unmarked text) : opensImports text = false := by
  rw [Go.opensImports, Bool.or_eq_false_iff, decide_eq_false_iff_not]
  exact ⟨h.startsWith ['i', 'm', 'p', 'o', 'r', 't'] (by simp) (c := ' ') (by decide) ['('],
    h ['i', 'm', 'p', 'o', 'r', 't'] (by simp) '(' [] (by decide)⟩

theorem ImportText.unmarked {spec : ImportSpec} {text : List Char} (h : ImportText spec text) : Unmarked text := by
  intro word hword c rest hc
  have hascii : isAsciiWord c = false := by
    by_contra hascii
    rw [isWord_of_isAsciiWord (Bool.of_not_eq_false hascii)] at hc
    cases hc
  rcases List.mem_pair.mp hword with rfl | rfl
  · exact h.ne_keyword (by decide) (by decide) hascii rest
  · exact h.ne_keyword (by decide) (by decide) hascii rest

theorem unmarked_of_not_startsWithWord {line : List Char}
    (himport : ¬ StartsWithWord ['i', 'm', 'p', 'o', 'r', 't'] line)
    (hfunc : ¬ StartsWithWord ['f', 'u', 'n', 'c'] line) : Unmarked (trim line) := by
  intro word hword c rest hc htrim
  have hstarts : StartsWithWord word line := by
    obtain ⟨lead, hlead, hline⟩ := eq_blank_append_trimStart line
    obtain ⟨tail, -, htail⟩ := eq_append_trimEnd (trimStart line)
    rw [← trim, htrim, List.append_assoc] at htail
    rw [htail] at hline
    exact ⟨lead, c :: (rest ++ tail), hlead, hline, fun d hd => by rwa [← Option.some.inj hd]⟩
  rcases List.mem_pair.mp hword with rfl | rfl
  · exact himport hstarts
  · exact hfunc hstarts

theorem trim_import {spec : ImportSpec} {lead text tail : List Char} (h : ImportText spec text)
    (hlead : Blank lead) (htail : Blank tail) (front : List Char)
    (hfront : ∀ c, front.head? = some c → isBlank c = false) :
    trim (lead ++ (front ++ text) ++ tail) = front ++ text := by
  rw [trim_between hlead htail]
  refine trim_of_ends (fun c hc => ?_) fun c hc => ?_
  · cases front with
    | nil =>
      obtain ⟨first, rest, rfl, hfirst, -⟩ := h.head
      obtain rfl := Option.some.inj hc
      exact hfirst
    | cons first front => exact hfront c hc
  · rw [h.getLast?] at hc
    obtain rfl := Option.some.inj hc
    decide

section

variable (imports : Imports) (lines : List (List Char))

theorem importsFrom_spec {spec : ImportSpec} {lead text tail : List Char} (h : ImportText spec text)
    (hlead : Blank lead) (htail : Blank tail) :
    importsFrom imports true ((lead ++ text ++ tail) :: lines) = importsFrom (imports.add spec) true lines := by
  have htrim : trim (lead ++ text ++ tail) = text := trim_import h hlead htail [] nofun
  have hcloses : text.head? ≠ some ')' := by
    obtain ⟨first, rest, rfl, -, hne, -⟩ := h.head
    simpa using hne
  have hspec : importSpec? text = some spec := by
    apply importSpec?_of_text h
    cases hafter : after? ['i', 'm', 'p', 'o', 'r', 't'] text with
    | none => rfl
    | some rest =>
      have hnone : blanks? rest = none := by
        cases rest with
        | nil => rfl
        | cons c rest =>
          rw [blanks?, if_neg]
          intro hblank
          exact h.unmarked _ (by simp) c rest (isWord_of_isBlank hblank) (after?_eq_some_iff.mp hafter)
      rw [Option.bind_some, hnone, Option.getD_none]
  rw [importsFrom, htrim]
  simp [h.unmarked.startsFunction, h.unmarked.opensImports, hcloses, hspec]

theorem importsFrom_single {spec : ImportSpec} {lead gap text tail : List Char} (h : ImportText spec text)
    (hlead : Blank lead) (hgap : Blank gap) (htail : Blank tail) :
    importsFrom imports false ((lead ++ (['i', 'm', 'p', 'o', 'r', 't'] ++ ' ' :: (gap ++ text)) ++ tail) :: lines) =
      importsFrom (imports.add spec) false lines := by
  obtain ⟨first, rest, htext, hfirst, -, hopen⟩ := h.head
  have htrim : trim (lead ++ (['i', 'm', 'p', 'o', 'r', 't'] ++ ' ' :: (gap ++ text)) ++ tail) =
      ['i', 'm', 'p', 'o', 'r', 't'] ++ ' ' :: (gap ++ text) := by
    have hletter : isBlank 'i' = false := by decide
    have htrim := trim_import h hlead htail (['i', 'm', 'p', 'o', 'r', 't', ' '] ++ gap)
      fun c hc => by rwa [← Option.some.inj hc]
    simpa using htrim
  -- Behind the space no parenthesis follows, so the line opens no block.
  have hhead : (gap ++ text).head? ≠ some '(' := hgap.head?_append_ne (by decide) (by simp [htext, hopen])
  have hspec : importSpec? (['i', 'm', 'p', 'o', 'r', 't'] ++ ' ' :: (gap ++ text)) = some spec := by
    apply importSpec?_of_text h
    have hspace : isBlank ' ' = true := by decide
    rw [after?_append, Option.bind_some, blanks?, if_pos hspace, hgap.trimStart_append, htext, trimStart_cons hfirst]
    rfl
  rw [importsFrom, htrim]
  generalize gap ++ text = behind at hhead hspec
  have hopens : after? ['('] behind = none := by
    rw [after?_eq_none_iff]
    rintro ⟨more, rfl⟩
    exact hhead rfl
  simp [startsFunction, opensImports, startsWith, after?, hopens, hspec] at hspec ⊢

theorem importsFrom_other {line : List Char} (h : Unmarked (trim line)) :
    importsFrom imports false (line :: lines) = importsFrom imports false lines := by
  have himport : startsWith ['i', 'm', 'p', 'o', 'r', 't', ' '] (trim line) = false :=
    h.startsWith ['i', 'm', 'p', 'o', 'r', 't'] (by simp) (by decide) []
  rw [importsFrom]
  simp [h.startsFunction, h.opensImports, himport]

theorem importsFrom_blank {line : List Char} (h : Blank line) :
    importsFrom imports true (line :: lines) = importsFrom imports true lines := by
  rw [importsFrom, trim_blanks h]
  rfl

theorem importsFrom_close {lead tail : List Char} (hlead : Blank lead) (htail : Blank tail) :
    importsFrom imports true ((lead ++ [')'] ++ tail) :: lines) = importsFrom imports false lines := by
  have htrim : trim (lead ++ [')'] ++ tail) = [')'] := by
    rw [trim_between hlead htail]
    decide
  rw [importsFrom, htrim]
  rfl

theorem importsFrom_open {lead space tail : List Char} (hlead : Blank lead) (hspace : space = [' '] ∨ space = [])
    (htail : Blank tail) :
    importsFrom imports false ((lead ++ (['i', 'm', 'p', 'o', 'r', 't'] ++ space ++ ['(']) ++ tail) :: lines) =
      importsFrom imports true lines := by
  rw [importsFrom, trim_between hlead htail]
  rcases hspace with rfl | rfl
  · have htrim : trim ['i', 'm', 'p', 'o', 'r', 't', ' ', '('] = ['i', 'm', 'p', 'o', 'r', 't', ' ', '('] := by
      decide
    simp only [List.cons_append, List.nil_append, htrim]
    rfl
  · have htrim : trim ['i', 'm', 'p', 'o', 'r', 't', '('] = ['i', 'm', 'p', 'o', 'r', 't', '('] := by
      decide
    simp only [List.cons_append, List.nil_append, htrim]
    rfl

end

/-- Trimming takes nothing away from a part that has no blanks at its ends. -/
theorem trim_append_of_solid {lead front : List Char} {c : Char} (hlead : Blank lead)
    (hfront : ∀ d, front.head? = some d → isBlank d = false) (hc : isBlank c = false) (rest : List Char) :
    trim (lead ++ (front ++ [c] ++ rest)) = front ++ [c] ++ trimEnd rest := by
  have hstart : trimStart (front ++ [c] ++ rest) = front ++ [c] ++ rest := by
    apply trimStart_of_head
    cases front with
    | nil => exact fun d hd => by rwa [← Option.some.inj hd]
    | cons first front => exact hfront
  have hlast : (front ++ [c]).reverse.dropWhile isBlank = (front ++ [c]).reverse := by simp [hc]
  rw [trim, hlead.trimStart_append, hstart, trimEnd, trimEnd, List.reverse_append, List.dropWhile_append, hlast]
  split
  · rename_i hempty
    rw [List.isEmpty_iff.mp hempty, List.reverse_reverse, List.reverse_nil, List.append_nil]
  · rw [List.reverse_append, List.reverse_reverse]

theorem FunctionLine.startsFunction {line : List Char} (h : FunctionLine line) :
    startsFunction (trim line) = true := by
  have hletter : ∀ {s : List Char} (d : Char), ('f' :: s).head? = some d → isBlank d = false := by
    intro s d hd
    obtain rfl := Option.some.inj hd
    decide
  cases h with
  | method hlead =>
    rw [trim_append_of_solid hlead hletter (by decide)]
    rfl
  | @named lead gap rest c hlead hgap hc =>
    have htrim := trim_append_of_solid hlead (hletter (s := ['u', 'n', 'c'] ++ ' ' :: gap)) hc rest
    rw [← List.cons_append] at htrim
    rw [htrim]
    rfl

/-! ## The imports of a file -/

/-- The name under which a file uses an import, if it gives one. -/
def ImportSpec.name? (spec : ImportSpec) : Option String :=
  match spec.alias? with
  | none => some (String.ofList (packageName spec.path))
  | some name => if name = ['_'] ∨ name = ['.'] then none else some (String.ofList name)

theorem get?_add (imports : Imports) (spec : ImportSpec) (name : String) :
    Assoc.get? name (imports.add spec) =
      if spec.name? = some name then some (String.ofList spec.path) else Assoc.get? name imports := by
  unfold Imports.add ImportSpec.name?
  split
  · rename_i halias
    simp [halias]
  · rename_i halias
    simp [halias]
  · rename_i other hblank hdot halias
    have hnamed : ¬ (other = ['_'] ∨ other = ['.']) := fun h => h.elim hblank hdot
    simp only [halias, if_neg hnamed, Option.some.injEq, Assoc.get?_put]
  · rename_i halias
    simp only [halias, Option.some.injEq, Assoc.get?_put]

theorem nodup_add {imports : Imports} (h : (imports.map Prod.fst).Nodup) (spec : ImportSpec) :
    ((imports.add spec).map Prod.fst).Nodup := by
  have hput (name value : String) : ((Assoc.put name value imports).map Prod.fst).Nodup := by
    rw [Assoc.map_fst_put]
    split
    · exact h
    · rename_i hnew
      refine List.nodup_append.mpr ⟨h, by simp, fun key hkey other hother heq => hnew ?_⟩
      rwa [← List.mem_singleton.mp hother, ← heq]
  unfold Imports.add
  split
  · exact h
  · exact h
  · exact hput _ _
  · exact hput _ _

/-- A name stands for the last of the imports that gives it. -/
theorem get?_foldl_add (specs : List ImportSpec) (name : String) (imports : Imports) :
    Assoc.get? name (specs.foldl Imports.add imports) =
      ((specs.reverse.find? fun spec => spec.name? = some name).map fun spec => String.ofList spec.path).or
        (Assoc.get? name imports) := by
  induction specs generalizing imports with
  | nil => rfl
  | cons spec specs ih =>
    rw [List.foldl_cons, ih, get?_add, List.reverse_cons, List.find?_append]
    cases specs.reverse.find? (fun spec => spec.name? = some name) with
    | some last => rfl
    | none => by_cases hname : spec.name? = some name <;> simp [hname]

theorem importsFrom_block {specs : List ImportSpec} {block : List (List Char)} (h : Block specs block)
    (imports : Imports) (lines : List (List Char)) :
    importsFrom imports true (block ++ lines) = importsFrom (specs.foldl Imports.add imports) false lines := by
  induction h generalizing imports with
  | close hlead htail => exact importsFrom_close imports lines hlead htail
  | blank hline _ ih => rw [List.cons_append, importsFrom_blank _ _ hline, ih]
  | spec hlead htail htext _ ih =>
    rw [List.cons_append, importsFrom_spec _ _ htext hlead htail, ih, List.foldl_cons]

/-- A header adds the imports written in it, one after the other. -/
theorem importsFrom_header {specs : List ImportSpec} {header : List (List Char)} (h : Header specs header)
    (imports : Imports) (lines : List (List Char)) :
    importsFrom imports false (header ++ lines) = importsFrom (specs.foldl Imports.add imports) false lines := by
  induction h generalizing imports with
  | nil => rfl
  | other himport hfunc _ ih =>
    rw [List.cons_append, importsFrom_other _ _ (unmarked_of_not_startsWithWord himport hfunc), ih]
  | single hlead hgap htail htext _ ih =>
    rw [List.cons_append, importsFrom_single _ _ htext hlead hgap htail, ih, List.foldl_cons]
  | block hlead hspace htail hblock _ ih =>
    rw [List.cons_append, importsFrom_open _ _ hlead hspace htail, List.append_assoc, importsFrom_block hblock, ih,
      List.foldl_append]

theorem importsFrom_headerEnd {lines : List (List Char)} (h : HeaderEnd lines) (imports : Imports) :
    importsFrom imports false lines = imports := by
  cases h with
  | nil => rfl
  | function hline => rw [importsFrom, if_pos hline.startsFunction]

/-- The imports of a file are those of its header, whatever stands behind it: each name once, with the path that was
given for it last. They are the same for every header with the same imports. -/
theorem fileImports_header {specs : List ImportSpec} {header lines : List (List Char)} (h : Header specs header)
    (hend : HeaderEnd lines) :
    ((fileImports (header ++ lines)).map Prod.fst).Nodup ∧
    (∀ name : String, Assoc.get? name (fileImports (header ++ lines)) =
      (specs.reverse.find? fun spec => spec.name? = some name).map fun spec => String.ofList spec.path) ∧
    ∀ header' lines', Header specs header' → HeaderEnd lines' →
      fileImports (header' ++ lines') = fileImports (header ++ lines) := by
  have hread : ∀ {header lines}, Header specs header → HeaderEnd lines →
      fileImports (header ++ lines) = specs.foldl Imports.add [] := fun h hend => by
    rw [fileImports, importsFrom_header h, importsFrom_headerEnd hend]
  refine ⟨?_, fun name => ?_, fun header' lines' h' hend' => by rw [hread h' hend', hread h hend]⟩
  · rw [hread h hend]
    exact List.foldlRecOn (motive := fun imports : Imports => (imports.map Prod.fst).Nodup) specs Imports.add
      List.nodup_nil fun _ himports spec _ => nodup_add himports spec
  · rw [hread h hend, get?_foldl_add]
    exact Option.or_none

/-- The lines of a header with a block, two single imports and lines in between. -/
def mixedHeader : List (List Char) :=
  ["package m", "", "import (", "\t\"fmt\"", "", "\tyaml \"gopkg.in/yaml.v3\"", "\t_ \"embed\"", ")",
    "import . \"math\"", "var fmtVersion = 2", "import fmt \"m/fmt/v2\""].map String.toList

/-- The last import of a repeated name wins, and what looks like an import behind the first function is none. -/
theorem fileImports_header_mixed :
    let block : List ImportSpec :=
      [⟨none, "fmt".toList⟩, ⟨some "yaml".toList, "gopkg.in/yaml.v3".toList⟩, ⟨some ['_'], "embed".toList⟩]
    let singles : List ImportSpec := [⟨some ['.'], "math".toList⟩, ⟨some "fmt".toList, "m/fmt/v2".toList⟩]
    let body := ["func main() \x7b", "import \"late\"", "\x7d"].map String.toList
    Header (block ++ singles) mixedHeader ∧ HeaderEnd body ∧
      Assoc.get? "fmt" (fileImports (mixedHeader ++ body)) = some "m/fmt/v2" ∧
      Assoc.get? "yaml" (fileImports (mixedHeader ++ body)) = some "gopkg.in/yaml.v3" ∧
      Assoc.get? "late" (fileImports (mixedHeader ++ body)) = none := by
  intro block singles body
  have hother (c : Char) (line word : List Char) (hc : isBlank c = false) (hne : word.head? ≠ some c)
      (hword : word ≠ []) : ¬ StartsWithWord word (c :: line) := by
    rintro ⟨lead, rest, hlead, hline, -⟩
    cases lead with
    | nil =>
      obtain ⟨first, more, rfl⟩ := List.exists_cons_of_ne_nil hword
      exact hne (congrArg some (List.cons.inj hline).1.symm)
    | cons first lead =>
      have hblank := hlead first (by simp)
      rw [← (List.cons.inj hline).1, hc] at hblank
      cases hblank
  have hempty {word : List Char} (hword : word ≠ []) : ¬ StartsWithWord word [] := by
    rintro ⟨lead, rest, -, hline, -⟩
    simp [hword] at hline
  have hnone : Blank [] := nofun
  have hspace : Blank [' '] := by simpa [Blank] using by decide +kernel
  have htab : Blank ['\t'] := by simpa [Blank] using by decide +kernel
  have hheader : Header (block ++ singles) mixedHeader := by
    have hfmt : ImportText ⟨none, "fmt".toList⟩ _ := .plain (by decide +kernel) (by decide +kernel)
    have hyaml : ImportText ⟨some "yaml".toList, "gopkg.in/yaml.v3".toList⟩ _ :=
      .named (.inr ⟨by decide +kernel, by decide +kernel⟩) hspace (by simp) (by decide +kernel) (by decide +kernel)
    have hembed : ImportText ⟨some ['_'], "embed".toList⟩ _ :=
      .named (.inr ⟨by decide +kernel, by decide +kernel⟩) hspace (by simp) (by decide +kernel) (by decide +kernel)
    have hmath : ImportText ⟨some ['.'], "math".toList⟩ _ :=
      .named (.inl rfl) hspace (by simp) (by decide +kernel) (by decide +kernel)
    have hagain : ImportText ⟨some "fmt".toList, "m/fmt/v2".toList⟩ _ :=
      .named (.inr ⟨by decide +kernel, by decide +kernel⟩) hspace (by simp) (by decide +kernel) (by decide +kernel)
    have hblock := Block.spec htab hnone hfmt (.blank hnone (.spec htab hnone hyaml (.spec htab hnone hembed
      (.close hnone hnone))))
    have hvar (word : List Char) := hother 'v' "ar fmtVersion = 2".toList word (by decide +kernel)
    have hpackage (word : List Char) := hother 'p' "ackage m".toList word (by decide +kernel)
    have hsingles := Header.single hnone hnone hnone hmath (.other (hvar _ (by decide) (by simp))
      (hvar _ (by decide) (by simp)) (.single hnone hnone hnone hagain .nil))
    have hwhole := Header.other (hpackage _ (by decide) (by simp)) (hpackage _ (by decide) (by simp))
      (.other (hempty (by simp)) (hempty (by simp)) (.block hnone (.inl rfl) hnone hblock hsingles))
    refine (congrArg (Header (block ++ singles)) ?_).mp hwhole
    decide +kernel
  have hbody : HeaderEnd body := by
    have hmain : FunctionLine ([] ++ (['f', 'u', 'n', 'c'] ++ ' ' :: [] ++ ['m'] ++ "ain() \x7b".toList)) :=
      .named hnone hnone (by decide +kernel)
    have hwhole : HeaderEnd (_ :: ["import \"late\"".toList, "\x7d".toList]) := .function hmain
    refine (congrArg HeaderEnd ?_).mp hwhole
    decide +kernel
  obtain ⟨-, hread, -⟩ := fileImports_header hheader hbody
  exact ⟨hheader, hbody, by rw [hread]; decide +kernel, by rw [hread]; decide +kernel, by rw [hread]; decide +kernel⟩

end RouteDoc.Go
