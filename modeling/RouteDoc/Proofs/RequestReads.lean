import RouteDoc.Proofs.HandlerBody
import RouteDoc.Proofs.WordSearch

/-!
What a handler reads of its request, as it stands on its lines. A variable holds path variables behind the line on which
it is the first to be assigned them (`BindsVars`), and query values behind a line that ends with their assignment
(`QueryBoundAt`); the bound variables of a line are those of all lines up to it (`mem_vars_iff`, `mem_queries_iff`).

A path variable is the key of an index to such a variable (`IndexedAt`), a query value the key of a call of `Get`
(`GetAt`). The reads of a line are sought from left to right without overlaps. An index that is the first of its line
is found because nothing before it has a bracket (`IndexedAt.first`). A call could be passed over within the key of
another one, but then this key has a parenthesis (`getCalls_apart`), and the string literals of the line are free of
them (`parenFree`). `reads_located` puts this together.
-/

namespace RouteDoc.Go

open RouteDoc.Text

/-! ## Bindings and reads as they are written -/

/-- The text does not end within a word. -/
def EndsWord (front : List Char) : Prop :=
  ∀ c, front.getLast? = some c → isWord c = false

/-- The line indexes the variable with the key behind `front`. -/
def IndexedAt (line front name key : List Char) : Prop :=
  EndsWord front ∧ isIdent name = true ∧ ∃ text back, KeyText ']' key text ∧
    line = front ++ (name ++ '[' :: (text ++ back))

/-- The line indexes the path variables of the request itself with the key. -/
def CallIndexed (line key : List Char) : Prop :=
  ∃ front gap word gap' text back, Blank gap ∧ IsWord word ∧ Blank gap' ∧ KeyText ']' key text ∧
    line = front ++ (muxVars ++ (gap ++ (word ++ (gap' ++ ')' :: '[' :: (text ++ back)))))

/-- The line calls `Get` of the variable with the key behind `front`. -/
def GetAt (line front name key : List Char) : Prop :=
  EndsWord front ∧ isIdent name = true ∧ ∃ text back, KeyText ')' key text ∧
    line = front ++ (name ++ (dotGet ++ (text ++ back)))

/-- The variable is assigned path variables behind `front`. -/
def VarsBoundAt (line front name : List Char) : Prop :=
  EndsWord front ∧ ∃ text back, AssignText name (muxVars ++ back) text ∧ line = front ++ text

/-- The variable is the first of the line that is assigned path variables. -/
def BindsVars (line name : List Char) : Prop :=
  ∃ front, VarsBoundAt line front name ∧ ∀ front' name', VarsBoundAt line front' name' → front.length ≤ front'.length

/-- The line ends with the assignment of the query values to the variable, which stands behind `front`. -/
def QueryBoundAt (line front name : List Char) : Prop :=
  EndsWord front ∧ ∃ word tail text, IsWord word ∧ Blank tail ∧ AssignText name (word ++ (urlQuery ++ tail)) text ∧
    line = front ++ text

/-- The variable holds path variables on the line with the index. -/
def VarsName (body : List (List Char)) (i : Nat) (name : List Char) : Prop :=
  name = ['v', 'a', 'r', 's'] ∨ ∃ line ∈ body.take (i + 1), BindsVars line name

/-- The variable holds query values on the line with the index. -/
def QueryName (body : List (List Char)) (i : Nat) (name : List Char) : Prop :=
  ∃ line ∈ body.take (i + 1), ∃ front, QueryBoundAt line front name

/-! ## Bindings -/

theorem head_of_isIdent {name : List Char} (h : isIdent name = true) :
    ∃ c cs, name = c :: cs ∧ isIdentStart c = true ∧ isWord c = true := by
  cases name with
  | nil => cases h
  | cons c cs =>
    rw [isIdent, Bool.and_eq_true] at h
    exact ⟨c, cs, rfl, h.1, Routes.isWord_of_isIdentStart h.1⟩

theorem atBoundary_ident {before : Option Char} {name : List Char} (h : isIdent name = true) (s : List Char) :
    atBoundary before (name ++ s) = true ↔ ∀ d, before = some d → isWord d = false := by
  obtain ⟨c, cs, rfl, -, hc⟩ := head_of_isIdent h
  exact atBoundary_iff hc

theorem endsWord_sign {gap sign : List Char} (hgap : Blank gap) (hsign : sign = [':', '='] ∨ sign = ['='])
    (s : List Char) : ∀ c, (gap ++ (sign ++ s)).head? = some c → isWord c = false := by
  intro c hc
  cases gap with
  | nil =>
    rcases hsign with rfl | rfl
    · obtain rfl := Option.some.inj hc
      decide
    · obtain rfl := Option.some.inj hc
      decide
  | cons first gap =>
    obtain rfl := Option.some.inj hc
    exact isWord_of_isBlank (hgap first (by simp))

theorem assigned?_eq_some_iff {before : Option Char} {s name value : List Char} :
    assigned? before s = some (name, value) ↔ (∀ d, before = some d → isWord d = false) ∧
      (∀ c, value.head? = some c → isBlank c = false) ∧ AssignText name value s := by
  have hparts : assigned? before s = some (name, value) ↔
      atBoundary before s = true ∧ ∃ rest, ident? s = some (name, rest) ∧ assignment? rest = some value := by
    simp [assigned?, Option.bind_eq_some_iff]
  rw [hparts]
  constructor
  · rintro ⟨hboundary, rest, hident, hassign⟩
    obtain ⟨hname, rfl, -⟩ := ident?_eq_some_iff.mp hident
    obtain ⟨hvalue, gap, sign, gap', hgap, hgap', hsign, rfl⟩ := assignment?_eq_some_iff.mp hassign
    exact ⟨(atBoundary_ident hname _).mp hboundary, hvalue, hname, gap, sign, gap', hgap, hgap', hsign, rfl⟩
  · rintro ⟨hbefore, hvalue, hname, gap, sign, gap', hgap, hgap', hsign, rfl⟩
    exact ⟨(atBoundary_ident hname _).mpr hbefore, _,
      ident?_eq_some_iff.mpr ⟨hname, rfl, endsWord_sign hgap hsign _⟩,
      assignment?_eq_some_iff.mpr ⟨hvalue, gap, sign, gap', hgap, hgap', hsign, rfl⟩⟩

theorem varsBinding?_eq_some_iff {line name : List Char} : varsBinding? line = some name ↔ BindsVars line name := by
  refine search_eq_some_iff_of fun front name => ?_
  simp only [FoundAt, Option.or_none, Option.bind_eq_bind, Option.bind_eq_some_iff, Option.pure_def,
    Option.some.injEq, Prod.exists, after?_eq_some_iff, assigned?_eq_some_iff]
  constructor
  · rintro ⟨text, rfl, found, value, ⟨hbefore, -, hassign⟩, back, rfl, rfl⟩
    exact ⟨hbefore, text, back, hassign, rfl⟩
  · rintro ⟨hbefore, text, back, hassign, rfl⟩
    have hmark : ∀ c, (muxVars ++ back).head? = some c → isBlank c = false := by
      intro c hc
      obtain rfl := Option.some.inj hc
      decide
    exact ⟨text, rfl, name, _, ⟨hbefore, hmark, hassign⟩, back, rfl, rfl⟩

theorem name_before_sign {front name gap colon : List Char} (hfront : EndsWord front) (hname : isIdent name = true)
    (hgap : Blank gap) (hcolon : colon = [':'] ∨ colon = []) {before : List Char}
    (hbefore : before = front ++ (name ++ (gap ++ colon))) :
    (before.reverse.dropWhile fun c => c == ':' || isBlank c).takeWhile isWord = name.reverse ∧
      (before.reverse.dropWhile fun c => c == ':' || isBlank c).dropWhile isWord = front.reverse := by
  have hword : ∀ c ∈ name.reverse, isWord c = true :=
    fun c hc => Routes.isWord_of_isIdent hname c (List.mem_reverse.mp hc)
  have hpassed : ∀ c ∈ colon.reverse ++ gap.reverse, (c == ':' || isBlank c) = true := by
    intro c hc
    rcases List.mem_append.mp hc with hc | hc
    · rcases hcolon with rfl | rfl
      · simp [List.mem_singleton.mp hc]
      · cases hc
    · simp [hgap c (List.mem_reverse.mp hc)]
  have hstop : ∀ c, (name.reverse ++ front.reverse).head? = some c → (c == ':' || isBlank c) = false := by
    obtain ⟨first, more, hcons⟩ := List.exists_cons_of_ne_nil (List.reverse_ne_nil_iff.mpr (isIdent_ne_nil hname))
    intro c hc
    rw [hcons] at hc hword
    obtain rfl := Option.some.inj hc
    have hfirst := hword first (by simp)
    have hne : first ≠ ':' := by
      rintro rfl
      exact absurd hfirst (by decide)
    simp [hne, isBlank_of_isWord hfirst]
  have hdrop : (before.reverse.dropWhile fun c => c == ':' || isBlank c) = name.reverse ++ front.reverse := by
    rw [hbefore]
    simp only [List.reverse_append]
    rw [List.append_assoc]
    exact (takeWhile_stop hpassed hstop).2
  rw [hdrop]
  exact takeWhile_stop hword fun c hc => hfront c (by rwa [List.head?_reverse] at hc)

/-- The sign that binds a query is the last of its line, and the name stands before it. -/
theorem QueryBoundAt.split {line front name : List Char} (h : QueryBoundAt line front name) :
    ∃ before behind, cutLast? '=' line = some (before, behind) ∧
      (before.reverse.dropWhile fun c => c == ':' || isBlank c).takeWhile isWord = name.reverse ∧
        (before.reverse.dropWhile fun c => c == ':' || isBlank c).dropWhile isWord = front.reverse := by
  obtain ⟨hfront, word, tail, text, hword, htail, ⟨hname, gap, sign, gap', hgap, hgap', hsign, rfl⟩, rfl⟩ := h
  obtain ⟨colon, hcolon, rfl⟩ : ∃ colon, (colon = [':'] ∨ colon = []) ∧ sign = colon ++ ['='] := by
    rcases hsign with rfl | rfl
    · exact ⟨[':'], .inl rfl, rfl⟩
    · exact ⟨[], .inr rfl, rfl⟩
  have hnone : '=' ∉ gap' ++ (word ++ (urlQuery ++ tail)) := by
    have hblank : isBlank '=' = false := by decide
    have hplain : isWord '=' = false := by decide
    simp [hgap'.not_mem hblank, htail.not_mem hblank, hword.not_mem hplain, urlQuery]
  have hcut := cutLast?_append (front ++ (name ++ (gap ++ colon))) hnone
  exact ⟨_, _, by simpa using hcut, name_before_sign hfront hname hgap hcolon rfl⟩

theorem QueryBoundAt.unique {line front front' name name' : List Char} (h : QueryBoundAt line front name)
    (h' : QueryBoundAt line front' name') : front = front' ∧ name = name' := by
  obtain ⟨before, behind, hcut, hname, hfront⟩ := h.split
  obtain ⟨before', behind', hcut', hname', hfront'⟩ := h'.split
  obtain ⟨rfl, -⟩ := Prod.mk.inj (Option.some.inj (hcut.symm.trans hcut'))
  exact ⟨List.reverse_injective (hfront.symm.trans hfront'), List.reverse_injective (hname.symm.trans hname')⟩

theorem queryBinding?_eq_some_iff {line name : List Char} :
    queryBinding? line = some name ↔ ∃ front, QueryBoundAt line front name := by
  refine (search_eq_some_iff_of (P := QueryBoundAt line) fun front name => ?_).trans ?_
  · simp only [FoundAt, Option.or_none, Option.bind_eq_bind, Option.bind_eq_some_iff, Option.pure_def,
      Option.some.injEq, Prod.exists, after?_eq_some_iff, assigned?_eq_some_iff, word?_eq_some_iff]
    constructor
    · rintro ⟨text, rfl, found, value, ⟨hbefore, -, hassign⟩, behind, ⟨word, hword, rfl, -⟩, tail, rfl, _, hempty, rfl⟩
      have htail : trimStart tail = [] := by simpa using hempty
      exact ⟨hbefore, word, tail, text, hword, List.dropWhile_eq_nil_iff.mp htail, hassign, rfl⟩
    · rintro ⟨hbefore, word, tail, text, hword, htail, hassign, rfl⟩
      have hsolid : ∀ c, (word ++ (urlQuery ++ tail)).head? = some c → isBlank c = false := by
        obtain ⟨first, more, rfl⟩ := List.exists_cons_of_ne_nil hword.1
        intro c hc
        obtain rfl := Option.some.inj hc
        exact isBlank_of_isWord (hword.2 first (by simp))
      have hdot : ∀ c, (urlQuery ++ tail).head? = some c → isWord c = false := by
        intro c hc
        obtain rfl := Option.some.inj hc
        decide
      have hempty : trimStart tail = [] := List.dropWhile_eq_nil_iff.mpr htail
      exact ⟨text, rfl, name, _, ⟨hbefore, hsolid, hassign⟩, _, ⟨word, hword, rfl, hdot⟩, tail, rfl, (),
        by simp [hempty], rfl⟩
  · exact exists_congr fun front => and_iff_left_of_imp fun h front' name' h' => (h.unique h').1 ▸ le_rfl

/-! ## The bindings of a body -/

def boundAt (body : List (List Char)) (i : Nat) : Bound :=
  (body.take (i + 1)).foldl Bound.add {}

theorem foldl_add (lines : List (List Char)) (bound : Bound) : lines.foldl Bound.add bound =
    ⟨(lines.filterMap varsBinding?).reverse ++ bound.vars,
      (lines.filterMap queryBinding?).reverse ++ bound.queries⟩ := by
  induction lines generalizing bound with
  | nil => rfl
  | cons line lines ih =>
    rw [List.foldl_cons, ih, Bound.add, List.filterMap_cons, List.filterMap_cons]
    cases varsBinding? line <;> cases queryBinding? line <;> simp

theorem mem_vars_iff {body : List (List Char)} {i : Nat} {name : List Char} :
    name ∈ (boundAt body i).vars ↔ VarsName body i name := by
  simp only [boundAt, foldl_add, List.mem_append, List.mem_reverse, List.mem_filterMap, List.mem_singleton,
    varsBinding?_eq_some_iff, VarsName]
  exact or_comm

theorem mem_queries_iff {body : List (List Char)} {i : Nat} {name : List Char} :
    name ∈ (boundAt body i).queries ↔ QueryName body i name := by
  simp only [boundAt, foldl_add, List.mem_append, List.mem_reverse, List.mem_filterMap, List.not_mem_nil, or_false,
    queryBinding?_eq_some_iff, QueryName]

def readsAt (body : List (List Char)) (i : Nat) : List Read :=
  (body[i]?.map (lineReads (boundAt body i))).getD []

theorem readsFrom_eq (bound : Bound) (lines : List (List Char)) : readsFrom bound lines =
    (List.range lines.length).flatMap fun i =>
      (lines[i]?.map (lineReads ((lines.take (i + 1)).foldl Bound.add bound))).getD [] := by
  induction lines generalizing bound with
  | nil => rfl
  | cons line lines ih =>
    rw [readsFrom, ih, List.length_cons, List.range_succ_eq_map, List.flatMap_cons, List.flatMap_map]
    rfl

/-! ## Kinds of reads -/

/-- What the line reads of the kind. -/
def keyOf? (bound : Bound) (line : List Char) : ReadKind → Option (List Char)
  | .path => pathKey? bound.vars line
  | .query => queryKey? bound.queries line
  | .body => bodyTarget? line
  | .formFile => formFileKey? line
  | .formValue => formValueKey? line

/-- The kinds in the order in which the reads of a line are listed. -/
def kinds : List ReadKind :=
  [.path, .query, .body, .formFile, .formValue]

theorem lineReads_eq (bound : Bound) (line : List Char) :
    lineReads bound line = kinds.flatMap fun kind => readOf kind (keyOf? bound line kind) := by
  simp [lineReads, kinds, keyOf?]

theorem mem_readOf_iff {kind : ReadKind} {name? : Option (List Char)} {read : Read} :
    read ∈ readOf kind name? ↔ name? = some read.name.toList ∧ read.kind = kind := by
  rw [readOf, List.mem_map]
  simp only [Option.mem_toList]
  constructor
  · rintro ⟨name, rfl, rfl⟩
    exact ⟨by rw [String.toList_ofList], rfl⟩
  · rintro ⟨rfl, rfl⟩
    exact ⟨_, rfl, by rw [String.ofList_toList]⟩

theorem readOf_eq_nil_iff {kind : ReadKind} {name? : Option (List Char)} : readOf kind name? = [] ↔ name? = none := by
  cases name? <;> simp [readOf]

theorem readOf_eq_singleton_iff {kind : ReadKind} {name? : Option (List Char)} {name : List Char} :
    readOf kind name? = [⟨String.ofList name, kind⟩] ↔ name? = some name := by
  cases name? <;> simp [readOf, String.ofList_inj]

theorem filter_lineReads (bound : Bound) (line : List Char) (kind : ReadKind) :
    (lineReads bound line).filter (fun read => read.kind = kind) = readOf kind (keyOf? bound line kind) := by
  have hfilter : ∀ other, (readOf other (keyOf? bound line other)).filter (fun read => read.kind = kind) =
      if other = kind then readOf kind (keyOf? bound line kind) else [] := by
    intro other
    split
    · rename_i heq
      subst heq
      exact List.filter_eq_self.mpr fun read hread => by simp [(mem_readOf_iff.mp hread).2]
    · rename_i hne
      exact List.filter_eq_nil_iff.mpr fun read hread => by simp [(mem_readOf_iff.mp hread).2, hne]
  rw [lineReads_eq, List.filter_flatMap]
  simp only [hfilter]
  cases kind <;> simp [kinds]

/-- The reads of a line are of different kinds, in the order of the kinds. -/
theorem kinds_lineReads (bound : Bound) (line : List Char) : ((lineReads bound line).map Read.kind).Sublist kinds := by
  have hone : ∀ kind, ((readOf kind (keyOf? bound line kind)).map Read.kind).Sublist [kind] := by
    intro kind
    cases keyOf? bound line kind <;> simp [readOf]
  rw [lineReads_eq, List.map_flatMap]
  induction kinds with
  | nil => exact .refl _
  | cons kind kinds ih => exact (hone kind).append ih

/-! ## Path variables -/

theorem muxVarsCall?_eq_some_iff {s rest : List Char} : muxVarsCall? s = some rest ↔
    ∃ gap word gap', Blank gap ∧ IsWord word ∧ Blank gap' ∧
      s = muxVars ++ (gap ++ (word ++ (gap' ++ ')' :: rest))) := by
  have hclose : isBlank ')' = false := by decide
  constructor
  · intro h
    simp only [muxVarsCall?, Option.bind_eq_bind, Option.bind_eq_some_iff, after?_eq_some_iff, word?_eq_some_iff] at h
    obtain ⟨behind, rfl, behind', ⟨word, hword, hbehind, -⟩, h⟩ := h
    obtain ⟨gap, hgap, hsplit⟩ := eq_blank_append_trimStart behind
    obtain ⟨gap', hgap', hsplit'⟩ := eq_blank_append_trimStart behind'
    split at h
    · rename_i more hmore
      obtain rfl := Option.some.inj h
      rw [hmore] at hsplit'
      exact ⟨gap, word, gap', hgap, hword, hgap', by rw [hsplit, hbehind, hsplit']⟩
    · cases h
  · rintro ⟨gap, word, gap', hgap, hword, hgap', rfl⟩
    have hsolid : trimStart (word ++ (gap' ++ ')' :: rest)) = word ++ (gap' ++ ')' :: rest) := by
      obtain ⟨first, more, rfl⟩ := List.exists_cons_of_ne_nil hword.1
      exact trimStart_cons (isBlank_of_isWord (hword.2 first (by simp))) _
    have hstop : ∀ c, (gap' ++ ')' :: rest).head? = some c → isWord c = false := by
      intro c hc
      cases gap' with
      | nil =>
        obtain rfl := Option.some.inj hc
        decide
      | cons first gap' =>
        obtain rfl := Option.some.inj hc
        exact isWord_of_isBlank (hgap' first (by simp))
    have hread : word? (word ++ (gap' ++ ')' :: rest)) = some (gap' ++ ')' :: rest) :=
      word?_eq_some_iff.mpr ⟨word, hword, rfl, hstop⟩
    rw [muxVarsCall?, after?_append]
    simp only [Option.bind_eq_bind, Option.bind_some, hgap.trimStart_append, hsolid, hread, hgap'.trimStart_append,
      trimStart_cons hclose]

theorem quotedIndex?_eq_some_iff {s key rest : List Char} : quotedIndex? s = some (key, rest) ↔
    ∃ text, KeyText ']' key text ∧ s = '[' :: (text ++ rest) := by
  have hclose : isBlank ']' = false := by decide
  unfold quotedIndex?
  split
  · rw [quotedKey?_eq_some_iff hclose]
    simp
  · rename_i hno
    constructor
    · intro h
      cases h
    · rintro ⟨text, -, rfl⟩
      exact absurd rfl (hno _)

/-- What is read with an index is a variable at the start of a word, or the call itself. -/
theorem indexed?_eq_some {before : Option Char} {s key rest : List Char} {name? : Option (List Char)}
    (h : indexed? before s = some ((name?, key), rest)) :
    (name? = none ∧ ∃ gap word gap' text, Blank gap ∧ IsWord word ∧ Blank gap' ∧ KeyText ']' key text ∧
      s = muxVars ++ (gap ++ (word ++ (gap' ++ ')' :: '[' :: (text ++ rest))))) ∨
    ∃ name text, name? = some name ∧ (∀ d, before = some d → isWord d = false) ∧ isIdent name = true ∧
      KeyText ']' key text ∧ s = name ++ '[' :: (text ++ rest) := by
  unfold indexed? at h
  split at h
  · rename_i found behind hcall
    obtain ⟨hpair, rfl⟩ := Prod.mk.inj (Option.some.inj h)
    obtain ⟨rfl, rfl⟩ := Prod.mk.inj hpair
    obtain ⟨more, hmore, hindex⟩ := Option.bind_eq_some_iff.mp hcall
    obtain ⟨gap, word, gap', hgap, hword, hgap', rfl⟩ := muxVarsCall?_eq_some_iff.mp hmore
    obtain ⟨text, htext, rfl⟩ := quotedIndex?_eq_some_iff.mp hindex
    exact .inl ⟨rfl, gap, word, gap', text, hgap, hword, hgap', htext, rfl⟩
  · have hparts : atBoundary before s = true ∧ ∃ name more, ident? s = some (name, more) ∧
        quotedIndex? more = some (key, rest) ∧ some name = name? := by
      simpa [Option.bind_eq_some_iff] using h
    obtain ⟨hboundary, name, more, hident, hindex, rfl⟩ := hparts
    obtain ⟨hname, rfl, -⟩ := ident?_eq_some_iff.mp hident
    obtain ⟨text, htext, rfl⟩ := quotedIndex?_eq_some_iff.mp hindex
    exact .inr ⟨name, text, rfl, (atBoundary_ident hname _).mp hboundary, hname, htext, rfl⟩

theorem indexed?_name {before : Option Char} {name key text : List Char}
    (hbefore : ∀ d, before = some d → isWord d = false) (hname : isIdent name = true) (htext : KeyText ']' key text)
    (rest : List Char) :
    indexed? before (name ++ '[' :: (text ++ rest)) = some ((some name, key), rest) := by
  have hopen : isWord '[' = false := by decide
  have hident : ident? (name ++ '[' :: (text ++ rest)) = some (name, '[' :: (text ++ rest)) :=
    ident?_eq_some_iff.mpr ⟨hname, rfl, fun c hc => by rwa [← Option.some.inj hc]⟩
  have hcall : muxVarsCall? (name ++ '[' :: (text ++ rest)) = none := by
    refine Option.eq_none_iff_forall_ne_some.mpr fun behind hbehind => ?_
    obtain ⟨gap, word, gap', -, -, -, hsplit⟩ := muxVarsCall?_eq_some_iff.mp hbehind
    rw [hsplit] at hident
    cases (show ident? (muxVars ++ _) = some (['m', 'u', 'x'], _) from rfl).symm.trans hident
  have hindex : quotedIndex? ('[' :: (text ++ rest)) = some (key, rest) :=
    quotedIndex?_eq_some_iff.mpr ⟨text, htext, rfl⟩
  rw [indexed?, hcall]
  simp [hident, hindex, (atBoundary_ident hname _).mpr hbefore]

/-- Before the first bracket of a line only the word in front of it can be indexed. -/
theorem IndexedAt.first {line front name key : List Char} (h : IndexedAt line front name key) (hopen : '[' ∉ front)
    {front' : List Char} {found : (Option (List Char) × List Char) × List Char}
    (hfound : FoundAt indexed? none line front' found) : front.length ≤ front'.length := by
  obtain ⟨hfront, hname, text, back, htext, hline⟩ := h
  obtain ⟨back', hline', hread⟩ := hfound
  by_contra hshort
  have hopens : isWord '[' = false := by decide
  obtain ⟨mid, hmidne, hmid, hmidback⟩ := exists_between (hline'.symm.trans hline) (Nat.lt_of_not_le hshort)
  -- what stands before the bracket ends with the name, and the name is a word of its own
  have hbefore : ∀ {a b : List Char}, '[' ∉ a → back' = a ++ '[' :: b → a = mid ++ name := by
    intro a b ha hab
    have hnone : '[' ∉ mid ++ name := by
      simp only [hmid, List.mem_append, not_or] at hopen ⊢
      exact ⟨hopen.2, not_mem_of_isIdent hname hopens⟩
    have hcut := cut?_append ha b
    rw [← hab, hmidback, ← List.append_assoc, cut?_append hnone] at hcut
    exact (Prod.mk.inj (Option.some.inj hcut)).1.symm
  obtain ⟨⟨name?, key'⟩, rest⟩ := found
  rcases indexed?_eq_some hread with ⟨-, gap, word, gap', text', hgap, hword, hgap', -, hback⟩ |
    ⟨name', text', -, -, hname', -, hback⟩
  · have hblank : isBlank '[' = false := by decide
    have hcall : muxVars ++ (gap ++ (word ++ (gap' ++ [')']))) = mid ++ name := by
      apply hbefore (b := text' ++ rest)
      · simp [muxVars, hgap.not_mem hblank, hgap'.not_mem hblank, hword.not_mem hopens]
      · rw [hback]
        simp
    obtain ⟨init, c, rfl⟩ := (List.eq_nil_or_concat' name).resolve_left (isIdent_ne_nil hname)
    have hlast := congrArg List.getLast? hcall
    have hc : ')' = c := by simpa [List.getLast?_append] using hlast
    have hclose : isWord ')' = false := by decide
    exact not_mem_of_isIdent hname hclose (by rw [hc]; simp)
  · have hsame : name' = mid ++ name := hbefore (not_mem_of_isIdent hname' hopens) hback
    obtain ⟨init, c, rfl⟩ := (List.eq_nil_or_concat' mid).resolve_left hmidne
    have hc : isWord c = false := hfront c (by rw [hmid, ← List.append_assoc, List.getLast?_concat])
    have hmem : isWord c = true := Routes.isWord_of_isIdent hname' c (by simp [hsame])
    rw [hc] at hmem
    cases hmem

theorem indexed?_nil (before : Option Char) : indexed? before [] = none := by
  simp [indexed?, muxVarsCall?, muxVars, after?, ident?]

/-- The first index of a line decides which path variable is read, if it indexes one that is bound. -/
theorem pathKey?_of_indexedAt {vars : List (List Char)} {line front name key : List Char}
    (h : IndexedAt line front name key) (hopen : '[' ∉ front) (hvars : name ∈ vars) :
    pathKey? vars line = some key := by
  have hhead : (searchAll indexed? none 0 line).head? = some (some name, key) := by
    obtain ⟨hfront, hname, text, back, htext, hline⟩ := id h
    have hread : indexed? (front.getLast?.or none) (name ++ '[' :: (text ++ back)) = some ((some name, key), back) := by
      rw [Option.or_none]
      exact indexed?_name hfront hname htext back
    have hsearch : search indexed? none line = some ((some name, key), back) :=
      search_eq_some_iff.mpr ⟨front, ⟨_, hline, hread⟩, fun front' found hfound => h.first hopen hfound⟩
    rw [head?_searchAll indexed?_nil, hsearch]
    rfl
  obtain ⟨more, hmore⟩ := List.head?_eq_some_iff.mp hhead
  rw [pathKey?, hmore]
  simp [hvars]

/-- Every path variable that is read is the key of an index to a bound variable, or to the call. -/
theorem indexed_of_pathKey? {vars : List (List Char)} {line key : List Char} (h : pathKey? vars line = some key) :
    (∃ front, ∃ name ∈ vars, IndexedAt line front name key) ∨ CallIndexed line key := by
  rw [pathKey?] at h
  obtain ⟨⟨name?, found⟩, hmem, hkey⟩ := List.exists_of_findSome?_eq_some h
  obtain ⟨front, rest, back, hline, hread⟩ := foundAt_of_mem_searchAll hmem
  rw [Option.or_none] at hread
  rcases indexed?_eq_some hread with ⟨rfl, gap, word, gap', text, hgap, hword, hgap', htext, rfl⟩ |
    ⟨name, text, rfl, hfront, hname, htext, rfl⟩
  · obtain rfl := Option.some.inj hkey
    exact .inr ⟨front, gap, word, gap', text, rest, hgap, hword, hgap', htext, hline⟩
  · obtain ⟨hbound, hsome⟩ := Option.ite_none_right_eq_some.mp hkey
    obtain rfl := Option.some.inj hsome
    exact .inl ⟨front, name, List.contains_iff_mem.mp hbound, hfront, hname, text, rest, htext, hline⟩

/-! ## Query values -/

theorem getCall?_eq_some_iff {before : Option Char} {s name key rest : List Char} :
    getCall? before s = some ((name, key), rest) ↔ (∀ d, before = some d → isWord d = false) ∧ isIdent name = true ∧
      ∃ text, KeyText ')' key text ∧ s = name ++ (dotGet ++ (text ++ rest)) := by
  have hclose : isBlank ')' = false := by decide
  have hdot : isWord '.' = false := by decide
  have hparts : getCall? before s = some ((name, key), rest) ↔ atBoundary before s = true ∧ ∃ more behind,
      ident? s = some (name, more) ∧ after? dotGet more = some behind ∧ quotedKey? ')' behind = some (key, rest) := by
    simp [getCall?, Option.bind_eq_some_iff]
  rw [hparts]
  constructor
  · rintro ⟨hboundary, more, behind, hident, hafter, hkey⟩
    obtain ⟨hname, rfl, -⟩ := ident?_eq_some_iff.mp hident
    obtain rfl := after?_eq_some_iff.mp hafter
    obtain ⟨text, htext, rfl⟩ := (quotedKey?_eq_some_iff hclose).mp hkey
    exact ⟨(atBoundary_ident hname _).mp hboundary, hname, text, htext, rfl⟩
  · rintro ⟨hbefore, hname, text, htext, rfl⟩
    refine ⟨(atBoundary_ident hname _).mpr hbefore, _, _, ident?_eq_some_iff.mpr ⟨hname, rfl, fun c hc => ?_⟩,
      after?_append _ _, (quotedKey?_eq_some_iff hclose).mpr ⟨text, htext, rfl⟩⟩
    rwa [← Option.some.inj hc]

theorem getCall?_nil (before : Option Char) : getCall? before [] = none := by
  simp [getCall?, ident?]

/-- No string literal of the text has an opening parenthesis. `within?` is the mark that ends the literal in which the
text starts, if it starts in one; a parenthesis may stand as a rune. -/
def parenFree : Option Char → List Char → Bool
  | _, [] => true
  | none, '\'' :: '(' :: '\'' :: cs => parenFree none cs
  | none, c :: cs => parenFree (if c == '"' || c == '\'' || c == '\x60' then some c else none) cs
  | some mark, '\\' :: c :: cs =>
    if mark == '\x60' then parenFree (some mark) (c :: cs) else c != '(' && parenFree (some mark) cs
  | some mark, c :: cs => if c == mark then parenFree none cs else c != '(' && parenFree (some mark) cs

theorem behind_cons {c d : Char} {s front back : List Char} (h : c :: s = front ++ d :: back) :
    c = d ∧ s = back ∨ ∃ front', s = front' ++ d :: back := by
  cases front with
  | nil => exact .inl (List.cons.inj h)
  | cons first front => exact .inr ⟨front, (List.cons.inj h).2⟩

/-- A parenthesis that opens does so outside of literals. -/
theorem parenFree_behind {within? : Option Char} {s front back : List Char} (h : parenFree within? s = true)
    (hs : s = front ++ '(' :: back) (hback : back.head? ≠ some '\'') : parenFree none back = true := by
  fun_induction parenFree within? s generalizing front with
  | case1 => simp at hs
  | case2 cs ih =>
    -- the parenthesis of a rune has the end of the rune behind it
    obtain ⟨hmark, -⟩ | ⟨front, hs⟩ := behind_cons hs
    · cases hmark
    · obtain ⟨-, rfl⟩ | ⟨front, hs⟩ := behind_cons hs
      · exact absurd rfl hback
      · obtain ⟨hmark, -⟩ | ⟨front, hs⟩ := behind_cons hs
        · cases hmark
        · exact ih h hs
  | case3 c cs hrune ih =>
    obtain ⟨rfl, rfl⟩ | ⟨front, hs⟩ := behind_cons hs
    · exact h
    · exact ih h hs
  | case4 mark c cs hraw ih =>
    obtain ⟨hmark, -⟩ | ⟨front, hs⟩ := behind_cons hs
    · cases hmark
    · exact ih h hs
  | case5 mark c cs hraw ih =>
    rw [Bool.and_eq_true, bne_iff_ne] at h
    obtain ⟨hmark, -⟩ | ⟨front, hs⟩ := behind_cons hs
    · cases hmark
    · obtain ⟨hmark, -⟩ | ⟨front, hs⟩ := behind_cons hs
      · exact absurd hmark h.1
      · exact ih h.2 hs
  | case6 mark c cs hescape hend ih =>
    obtain ⟨-, rfl⟩ | ⟨front, hs⟩ := behind_cons hs
    · exact h
    · exact ih h hs
  | case7 mark c cs hescape hend ih =>
    rw [Bool.and_eq_true, bne_iff_ne] at h
    obtain ⟨hmark, -⟩ | ⟨front, hs⟩ := behind_cons hs
    · exact absurd hmark h.1
    · exact ih h.2 hs

theorem parenFree_quote {gap s : List Char} (hgap : Blank gap) (h : parenFree none (gap ++ '"' :: s) = true) :
    parenFree (some '"') s = true := by
  induction gap with
  | nil => exact h
  | cons c gap ih =>
    have hcode : (c == '"' || c == '\'' || c == '\x60') = false :=
      eq_false_of_isBlank (p := fun c => c == '"' || c == '\'' || c == '\x60') (by decide) (hgap c (by simp))
    have hrune : ∀ cs, c = '\'' → gap ++ '"' :: s = '(' :: '\'' :: cs → False := by
      rintro cs rfl
      cases hcode
    rw [List.cons_append, parenFree.eq_3 c _ hrune, hcode] at h
    exact ih (fun d hd => hgap d (by simp [hd])) h

/-- A literal has no parenthesis up to the first quote in it. -/
theorem paren_not_mem_literal {key s : List Char} (hquote : '"' ∉ key)
    (h : parenFree (some '"') (key ++ '"' :: s) = true) : '(' ∉ key := by
  generalize hwithin : some '"' = within?, htext : key ++ '"' :: s = text at h
  fun_induction parenFree within? text generalizing key with
  | case1 => simp at htext
  | case2 => cases hwithin
  | case3 => cases hwithin
  | case4 mark c cs hraw ih =>
    obtain rfl := Option.some.inj hwithin
    cases hraw
  | case5 mark c cs hraw ih =>
    rw [Bool.and_eq_true, bne_iff_ne] at h
    cases key with
    | nil => cases htext
    | cons first key =>
      obtain ⟨rfl, hrest⟩ := List.cons.inj htext
      cases key with
      | nil => decide
      | cons second key =>
        obtain ⟨rfl, hbehind⟩ := List.cons.inj hrest
        have hkey : '(' ∉ key := ih (fun hmem => hquote (by simp [hmem])) hwithin hbehind h.2
        simp [hkey, Ne.symm h.1]
  | case6 mark c cs hescape hend ih =>
    obtain rfl := Option.some.inj hwithin
    cases key with
    | nil => simp
    | cons first key =>
      obtain ⟨rfl, -⟩ := List.cons.inj htext
      exact absurd (beq_iff_eq.mp hend) fun heq => hquote (by simp [heq])
  | case7 mark c cs hescape hend ih =>
    rw [Bool.and_eq_true, bne_iff_ne] at h
    cases key with
    | nil => simp
    | cons first key =>
      obtain ⟨rfl, hrest⟩ := List.cons.inj htext
      have hkey : '(' ∉ key := ih (fun hmem => hquote (by simp [hmem])) hwithin hrest h.2
      simp [hkey, Ne.symm h.1]

/-- A quoted key behind a parenthesis has no parenthesis itself. -/
theorem paren_not_mem_key {within? : Option Char} {line gap key : List Char} (h : parenFree within? line = true)
    (hgap : Blank gap) (hquote : '"' ∉ key) (front back : List Char)
    (hline : line = front ++ '(' :: (gap ++ '"' :: (key ++ '"' :: back))) : '(' ∉ key := by
  have hrune : (gap ++ '"' :: (key ++ '"' :: back)).head? ≠ some '\'' := hgap.head?_append_ne (by decide) (by simp)
  exact paren_not_mem_literal hquote (parenFree_quote hgap (parenFree_behind h hline hrune))

/-- A text that starts with some character does not start in a part without such characters. -/
theorem passes_over {p : Char → Bool} {part s front back : List Char} {c : Char} (h : part ++ s = front ++ c :: back)
    (hpart : ∀ d ∈ part, p d = false) (hc : p c = true) : ∃ more, front = part ++ more ∧ s = more ++ c :: back := by
  rcases List.append_eq_append_iff.mp h with ⟨more, hfront, hs⟩ | ⟨more, rfl, hs⟩
  · exact ⟨more, hfront, hs⟩
  · cases more with
    | nil => exact ⟨[], by simp, by simpa using hs.symm⟩
    | cons first more =>
      obtain ⟨rfl, -⟩ := List.cons.inj hs
      rw [hpart c (by simp)] at hc
      cases hc

/-- A call of `Get` that starts within the arguments of another starts behind its parenthesis, if the key of the other
has no parenthesis. -/
theorem getCall_behind_key {key text rest front name back : List Char} (htext : KeyText ')' key text) (hkey : '(' ∉ key)
    (hname : isIdent name = true) (hsplit : text ++ rest = front ++ (name ++ (dotGet ++ back))) :
    ∃ more, front = text ++ more := by
  obtain ⟨-, hquote, gap, gap', hgap, hgap', rfl⟩ := htext
  obtain ⟨c, cs, rfl, hstart, -⟩ := head_of_isIdent hname
  have hblank : ∀ {gap : List Char}, Blank gap → ∀ d ∈ gap, isIdentStart d = false := by
    intro gap hgap d hd
    by_contra hno
    have hword := Routes.isWord_of_isIdentStart (Bool.of_not_eq_false hno)
    rw [isWord_of_isBlank (hgap d hd)] at hword
    cases hword
  have hopen : ∀ d ∈ gap ++ ['"'], isIdentStart d = false := by
    intro d hd
    rcases List.mem_append.mp hd with hd | hd
    · exact hblank hgap d hd
    · rw [List.mem_singleton.mp hd]
      decide
  have hclose : ∀ d ∈ '"' :: (gap' ++ [')']), isIdentStart d = false := by
    intro d hd
    rcases List.mem_cons.mp hd with rfl | hd
    · decide
    · rcases List.mem_append.mp hd with hd | hd
      · exact hblank hgap' d hd
      · rw [List.mem_singleton.mp hd]
        decide
  have hparts : (gap ++ ['"']) ++ (key ++ (('"' :: (gap' ++ [')'])) ++ rest))
      = front ++ c :: (cs ++ (dotGet ++ back)) := by simpa using hsplit
  obtain ⟨behind, rfl, hbehind⟩ := passes_over hparts hopen hstart
  rcases List.append_eq_append_iff.mp hbehind with ⟨more, rfl, hmore⟩ | ⟨inner, hinner, hcall⟩
  · obtain ⟨more, rfl, -⟩ := passes_over hmore hclose hstart
    exact ⟨more, by simp⟩
  · -- the call starts in the key, and its parenthesis stands before the quote that ends the key
    have hmem : '(' ∈ inner := by
      have hnone : '"' ∉ c :: cs ++ dotGet := by
        simp only [List.mem_append, not_or]
        exact ⟨not_mem_of_isIdent hname (by decide), by decide⟩
      have hcall' : (c :: cs ++ dotGet) ++ back = inner ++ '"' :: ((gap' ++ [')']) ++ rest) := by
        simpa using hcall
      rcases List.append_eq_append_iff.mp hcall' with ⟨more, rfl, -⟩ | ⟨more, hmore, hback⟩
      · simp [dotGet]
      · cases more with
        | nil =>
          rw [List.append_nil] at hmore
          simp [← hmore, dotGet]
        | cons first more =>
          obtain ⟨rfl, -⟩ := List.cons.inj hback
          exact absurd (by simp [hmore]) hnone
    exact absurd (by simp [hinner, hmem]) hkey

/-- A call of `Get` that starts within another whose key has no parenthesis starts behind it. -/
theorem getCalls_apart {name key text rest mid name' back' : List Char} (hname : isIdent name = true)
    (htext : KeyText ')' key text) (hkey : '(' ∉ key) (hname' : isIdent name' = true) (hmid : EndsWord mid)
    (hne : mid ≠ []) (hsplit : name ++ (dotGet ++ (text ++ rest)) = mid ++ (name' ++ (dotGet ++ back'))) :
    ∃ more, mid = name ++ (dotGet ++ (text ++ more)) := by
  have hplain : ∀ {name : List Char}, isIdent name = true → '(' ∉ name ++ ['.', 'G', 'e', 't'] := by
    intro name hname
    have hopens : isWord '(' = false := by decide
    simp [not_mem_of_isIdent hname hopens]
  have hcall : (name ++ ['.', 'G', 'e', 't']) ++ '(' :: (text ++ rest) = mid ++ (name' ++ (dotGet ++ back')) := by
    simpa [dotGet] using hsplit
  have hcall' : name' ++ (dotGet ++ back') = (name' ++ ['.', 'G', 'e', 't']) ++ '(' :: back' := by
    simp [dotGet]
  rcases List.append_eq_append_iff.mp hcall with ⟨behind, rfl, hbehind⟩ | ⟨inner, hinner, hback⟩
  · cases behind with
    | nil =>
      obtain ⟨c, cs, rfl, hstart, -⟩ := head_of_isIdent hname'
      obtain ⟨rfl, -⟩ := List.cons.inj hbehind
      cases hstart
    | cons first behind =>
      obtain ⟨rfl, hargs⟩ := List.cons.inj hbehind
      obtain ⟨more, rfl⟩ := getCall_behind_key htext hkey hname' hargs
      exact ⟨more, by simp [dotGet]⟩
  · -- the parentheses are the same, so one name is the end of the other
    have hnone : '(' ∉ inner := fun hmem => hplain hname (by simp [hinner, hmem])
    have hcut := cut?_append hnone (text ++ rest)
    rw [← hback, hcall', cut?_append (hplain hname')] at hcut
    obtain ⟨rfl, -⟩ := Prod.mk.inj (Option.some.inj hcut)
    rw [← List.append_assoc] at hinner
    have hends : name = mid ++ name' := List.append_cancel_right hinner
    obtain ⟨init, c, rfl⟩ := (List.eq_nil_or_concat' mid).resolve_left hne
    have hc : isWord c = true := Routes.isWord_of_isIdent hname c (by simp [hends])
    rw [hmid c List.getLast?_concat] at hc
    cases hc

theorem foundAt_getCall?_iff {line front name key rest : List Char} :
    FoundAt getCall? none line front ((name, key), rest) ↔ EndsWord front ∧ isIdent name = true ∧
      ∃ text, KeyText ')' key text ∧ line = front ++ (name ++ (dotGet ++ (text ++ rest))) := by
  simp only [FoundAt, Option.or_none, getCall?_eq_some_iff]
  constructor
  · rintro ⟨back, rfl, hfront, hname, text, htext, rfl⟩
    exact ⟨hfront, hname, text, htext, rfl⟩
  · rintro ⟨hfront, hname, text, htext, rfl⟩
    exact ⟨_, rfl, hfront, hname, text, htext, rfl⟩

/-- On a line without parentheses in its literals, calls of `Get` do not overlap. -/
theorem getCalls_far {within? : Option Char} {line : List Char} (hfree : parenFree within? line = true)
    {front rest front' : List Char} {found : List Char × List Char} {found' : (List Char × List Char) × List Char}
    (h : FoundAt getCall? none line front (found, rest)) (h' : FoundAt getCall? none line front' found')
    (hlt : front.length < front'.length) : line.length ≤ front'.length + rest.length := by
  obtain ⟨name, key⟩ := found
  obtain ⟨⟨name', key'⟩, rest'⟩ := found'
  obtain ⟨-, hname, text, htext, hline⟩ := foundAt_getCall?_iff.mp h
  obtain ⟨hfront', hname', text', -, hline'⟩ := foundAt_getCall?_iff.mp h'
  have hkey : '(' ∉ key := by
    obtain ⟨-, hquote, gap, gap', hgap, -, rfl⟩ := htext
    refine paren_not_mem_key hfree hgap hquote (front ++ (name ++ ['.', 'G', 'e', 't'])) (gap' ++ ')' :: rest) ?_
    rw [hline]
    simp [dotGet]
  obtain ⟨mid, hne, rfl, hmid⟩ := exists_between (hline.symm.trans hline') hlt
  have hends : EndsWord mid := by
    intro c hc
    exact hfront' c (by rw [List.getLast?_append, hc, Option.some_or])
  obtain ⟨more, rfl⟩ := getCalls_apart hname htext hkey hname' hends hne hmid
  rw [hline]
  simp only [List.length_append]
  omega

theorem inlineQueryKey?_eq_none {line : List Char} (h : ¬ urlQuery ++ dotGet <:+: line) :
    inlineQueryKey? line = none := by
  refine search_eq_none_iff.mpr fun front key hfound => h ?_
  simp only [FoundAt, Option.bind_eq_bind, Option.bind_eq_some_iff, after?_eq_some_iff, word?_eq_some_iff] at hfound
  obtain ⟨back, rfl, behind, ⟨word, -, rfl, -⟩, rest, rfl, -⟩ := hfound
  exact ⟨front ++ word, rest, by simp⟩

/-- A call of `Get` of one of the variables at the start of the text: the variable and the key. -/
def boundCall? (queries : List (List Char)) (before : Option Char) (s : List Char) : Option (List Char × List Char) :=
  ((getCall? before s).map Prod.fst).filter fun found => queries.contains found.1

theorem foundAt_boundCall?_iff {queries : List (List Char)} {line front : List Char} {found : List Char × List Char} :
    FoundAt (boundCall? queries) none line front found ↔ GetAt line front found.1 found.2 ∧ found.1 ∈ queries := by
  simp only [FoundAt, Option.or_none, boundCall?, Option.filter_eq_some_iff, Option.map_eq_some_iff,
    List.contains_iff_mem]
  constructor
  · rintro ⟨back, hline, ⟨⟨⟨name, key⟩, rest⟩, hread, rfl⟩, hmem⟩
    obtain ⟨hfront, hname, text, htext, rfl⟩ := getCall?_eq_some_iff.mp hread
    exact ⟨⟨hfront, hname, text, rest, htext, hline⟩, hmem⟩
  · rintro ⟨⟨hfront, hname, text, rest, htext, hline⟩, hmem⟩
    exact ⟨_, hline, ⟨_, getCall?_eq_some_iff.mpr ⟨hfront, hname, text, htext, rfl⟩, rfl⟩, hmem⟩

/-- The query value that is read is that of the first call of `Get` of a bound variable: none is passed over. -/
theorem queryKey?_eq {within? : Option Char} {queries : List (List Char)} {line : List Char}
    (hinline : ¬ urlQuery ++ dotGet <:+: line) (hfree : parenFree within? line = true) :
    queryKey? queries line = (search (boundCall? queries) none line).map Prod.snd := by
  rw [queryKey?, inlineQueryKey?_eq_none hinline]
  exact congrArg (Option.map Prod.snd)
    (find?_searchAll _ getCall?_nil fun front a rest front' found => getCalls_far hfree)

/-! ## The reads of a body -/

/-- A call of `Get` of a variable that holds query values on the line with the index. -/
def QueryReadAt (body : List (List Char)) (i : Nat) (line front key : List Char) : Prop :=
  ∃ name, GetAt line front name key ∧ QueryName body i name

theorem foundAt_bound_iff {body : List (List Char)} {i : Nat} {line front key : List Char} :
    (∃ name, FoundAt (boundCall? (boundAt body i).queries) none line front (name, key)) ↔
      QueryReadAt body i line front key := by
  simp only [foundAt_boundCall?_iff, mem_queries_iff, QueryReadAt]

theorem queryKey?_bound_eq_none_iff {within? : Option Char} {body : List (List Char)} {i : Nat} {line : List Char}
    (hinline : ¬ urlQuery ++ dotGet <:+: line) (hfree : parenFree within? line = true) :
    queryKey? (boundAt body i).queries line = none ↔ ∀ front key, ¬ QueryReadAt body i line front key := by
  rw [queryKey?_eq hinline hfree, Option.map_eq_none_iff, search_eq_none_iff]
  constructor
  · intro h front key hread
    obtain ⟨name, hfound⟩ := foundAt_bound_iff.mpr hread
    exact h front (name, key) hfound
  · rintro h front ⟨name, key⟩ hfound
    exact h front key (foundAt_bound_iff.mp ⟨name, hfound⟩)

theorem queryKey?_bound_eq_some_iff {within? : Option Char} {body : List (List Char)} {i : Nat} {line key : List Char}
    (hinline : ¬ urlQuery ++ dotGet <:+: line) (hfree : parenFree within? line = true) :
    queryKey? (boundAt body i).queries line = some key ↔ ∃ front, QueryReadAt body i line front key ∧
      ∀ front' key', QueryReadAt body i line front' key' → front.length ≤ front'.length := by
  rw [queryKey?_eq hinline hfree, Option.map_eq_some_iff]
  simp only [search_eq_some_iff]
  constructor
  · rintro ⟨⟨name, key⟩, ⟨front, hfound, hfirst⟩, rfl⟩
    refine ⟨front, foundAt_bound_iff.mp ⟨name, hfound⟩, fun front' key' hread => ?_⟩
    obtain ⟨name', hfound'⟩ := foundAt_bound_iff.mpr hread
    exact hfirst front' (name', key') hfound'
  · rintro ⟨front, hread, hfirst⟩
    obtain ⟨name, hfound⟩ := foundAt_bound_iff.mpr hread
    exact ⟨(name, key), ⟨front, hfound, fun front' found hfound' =>
      hfirst front' found.2 (foundAt_bound_iff.mp ⟨found.1, hfound'⟩)⟩, rfl⟩

theorem filter_readsAt {body : List (List Char)} {i : Nat} {line : List Char} (h : body[i]? = some line)
    (kind : ReadKind) :
    (readsAt body i).filter (fun read => read.kind = kind) = readOf kind (keyOf? (boundAt body i) line kind) := by
  rw [readsAt, h]
  exact filter_lineReads (boundAt body i) line kind

/-- A scan lists the reads line by line, and those of a line by kind. An index to a bound variable that is the first of
its line is the path variable that the line reads, and every path variable is read so or from the call. On lines that
do not read a query value from the request itself and have no parenthesis in a string literal, the query value is
that of the first call of `Get` of a bound variable, if there is one. -/
theorem reads_located (lines : List (List Char)) (start : Nat) :
    let body := bodyLines lines start
    (scanHandler lines start).reads = (List.range body.length).flatMap (readsAt body) ∧
    ∀ i line, body[i]? = some line →
      ((readsAt body i).map Read.kind).Sublist kinds ∧
      (∀ front name key, IndexedAt line front name key → '[' ∉ front → VarsName body i name →
        (readsAt body i).filter (fun read => read.kind = .path) = [⟨String.ofList key, .path⟩]) ∧
      (∀ read ∈ readsAt body i, read.kind = .path →
        (∃ front name, IndexedAt line front name read.name.toList ∧ VarsName body i name) ∨
          CallIndexed line read.name.toList) ∧
      (¬ urlQuery ++ dotGet <:+: line → (∃ within?, parenFree within? line = true) →
        ((readsAt body i).filter (fun read => read.kind = .query) = [] ↔
          ∀ front key, ¬ QueryReadAt body i line front key) ∧
        ∀ key, (readsAt body i).filter (fun read => read.kind = .query) = [⟨String.ofList key, .query⟩] ↔
          ∃ front, QueryReadAt body i line front key ∧
            ∀ front' key', QueryReadAt body i line front' key' → front.length ≤ front'.length) := by
  intro body
  refine ⟨readsFrom_eq {} body, fun i line hline => ⟨?_, ?_, ?_, ?_⟩⟩
  · rw [readsAt, hline]
    exact kinds_lineReads (boundAt body i) line
  · intro front name key hindexed hopen hvars
    rw [filter_readsAt hline, keyOf?, pathKey?_of_indexedAt hindexed hopen (mem_vars_iff.mpr hvars)]
    rfl
  · intro read hread hkind
    have hmem : read ∈ readOf .path (keyOf? (boundAt body i) line .path) := by
      rw [← filter_readsAt hline]
      exact List.mem_filter.mpr ⟨hread, by simpa using hkind⟩
    rcases indexed_of_pathKey? (mem_readOf_iff.mp hmem).1 with ⟨front, name, hvars, hindexed⟩ | hcall
    · exact .inl ⟨front, name, hindexed, mem_vars_iff.mp hvars⟩
    · exact .inr hcall
  · rintro hinline ⟨within?, hfree⟩
    rw [filter_readsAt hline]
    refine ⟨?_, fun key => ?_⟩
    · rw [readOf_eq_nil_iff]
      exact queryKey?_bound_eq_none_iff hinline hfree
    · rw [readOf_eq_singleton_iff]
      exact queryKey?_bound_eq_some_iff hinline hfree

/-- A handler that reads a path variable and two query values on one line. -/
def shownHandler : List (List Char) :=
  ["func H(w http.ResponseWriter, r *http.Request) \x7b", "\tparams := mux.Vars(r)", "\tq := r.URL.Query()",
    "\tshow(params[\"id\"], q.Get(\"page\"), q.Get(\"size\"))", "\x7d"].map String.toList

/-- The variable of the path is read by the name bound before, and so is a value of the query. -/
theorem reads_located_params :
    let body := bodyLines shownHandler 1
    let line := "\tshow(params[\"id\"], q.Get(\"page\"), q.Get(\"size\"))".toList
    body[2]? = some line ∧
    (IndexedAt line "\tshow(".toList "params".toList "id".toList ∧ '[' ∉ "\tshow(".toList ∧
      VarsName body 2 "params".toList ∧
      (readsAt body 2).filter (fun read => read.kind = .path) = [⟨String.ofList "id".toList, .path⟩]) ∧
    (¬ urlQuery ++ dotGet <:+: line ∧ parenFree none line = true ∧
      QueryReadAt body 2 line "\tshow(params[\"id\"], ".toList "page".toList ∧
      (readsAt body 2).filter (fun read => read.kind = .query) ≠ []) := by
  intro body line
  have hline : body[2]? = some line := by decide +kernel
  have hkey {close : Char} {key : List Char} (hne : key ≠ []) (hquote : '"' ∉ key) :
      KeyText close key ([] ++ '"' :: (key ++ '"' :: ([] ++ [close]))) :=
    ⟨hne, hquote, [], [], nofun, nofun, rfl⟩
  have hindexed : IndexedAt line "\tshow(".toList "params".toList "id".toList :=
    ⟨fun c hc => by
      obtain rfl : '(' = c := by simpa using hc
      decide +kernel, by decide +kernel, _, ", q.Get(\"page\"), q.Get(\"size\"))".toList,
      hkey (by decide +kernel) (by decide +kernel), by decide +kernel⟩
  have hvars : VarsName body 2 "params".toList :=
    .inr ⟨"\tparams := mux.Vars(r)".toList, by decide +kernel, varsBinding?_eq_some_iff.mp (by decide +kernel)⟩
  have hquery : QueryName body 2 "q".toList :=
    ⟨"\tq := r.URL.Query()".toList, by decide +kernel, queryBinding?_eq_some_iff.mp (by decide +kernel)⟩
  have hread : QueryReadAt body 2 line "\tshow(params[\"id\"], ".toList "page".toList :=
    ⟨"q".toList, ⟨fun c hc => by
      obtain rfl : ' ' = c := by simpa using hc
      decide +kernel, by decide +kernel, _, ", q.Get(\"size\"))".toList, hkey (by decide +kernel) (by decide +kernel),
      by decide +kernel⟩, hquery⟩
  have hinline : ¬ urlQuery ++ dotGet <:+: line := by decide +kernel
  have hfree : parenFree none line = true := by decide +kernel
  obtain ⟨-, hlines⟩ := reads_located shownHandler 1
  obtain ⟨-, hpath, -, hqueries⟩ := hlines 2 line hline
  refine ⟨hline, ⟨hindexed, by decide +kernel, hvars, hpath _ _ _ hindexed (by decide +kernel) hvars⟩, hinline, hfree,
    hread, fun hnone => ?_⟩
  exact (hqueries hinline ⟨none, hfree⟩).1.mp hnone _ _ hread

end RouteDoc.Go
