import Mathlib.Data.List.Infix
import RouteDoc.Source.Comment

/-!
Comments are taken out of a source text as its lexical elements say. A text is a list of `Element`s that
fit together (`Lexed`): characters of code, quoted literals, raw strings, line comments and block
comments. The elements say of every character whether it is kept (`Element.marked`), and so what each
line shows (`shown`). Stripping the text gives exactly these lines (`stripComments_lexed`).

The elements know nothing of lines, and stripping goes line by line. What carries the proof is `Agrees`:
from some place on, the scanner in a given mode keeps what the marks keep, whatever was kept of the line
before. It holds of the empty rest, and every element hands it to the text before it, character by
character; only the ends of lines change the mode without being read.
-/

namespace RouteDoc.Source

open RouteDoc.Text

/-! ## Lexical elements -/

/-- A character of a quoted literal, which may stand behind a backslash. -/
structure Letter where
  escaped : Bool
  char : Char
  deriving Repr, DecidableEq

def Letter.text (letter : Letter) : List Char :=
  if letter.escaped then ['\\', letter.char] else [letter.char]

/-- The letter does not end the literal, nor the line. -/
def Letter.Inside (quote : Char) (letter : Letter) : Prop :=
  letter.char ≠ '\n' ∧ (letter.escaped = false → letter.char ≠ quote ∧ letter.char ≠ '\\')

/-- A lexical element of a source text. -/
inductive Element where
  | code (c : Char)
  /-- An interpreted string or a rune. -/
  | quoted (quote : Char) (letters : List Letter)
  | raw (body : List Char)
  | lineComment (body : List Char)
  | blockComment (body : List Char)
  deriving Repr, DecidableEq

namespace Element

def text : Element → List Char
  | code c => [c]
  | quoted quote letters => quote :: letters.flatMap Letter.text ++ [quote]
  | raw body => '\x60' :: body ++ ['\x60']
  | lineComment body => '/' :: '/' :: body
  | blockComment body => '/' :: '*' :: body ++ ['*', '/']

/-- The element ends where its text ends when the text `next` follows it. -/
def Fits (next : List Char) : Element → Prop
  | code c => c ≠ '"' ∧ c ≠ '\'' ∧ c ≠ '\x60' ∧
      (c = '/' → next.head? ≠ some '/' ∧ next.head? ≠ some '*')
  | quoted quote letters => (quote = '"' ∨ quote = '\'') ∧ ∀ letter ∈ letters, letter.Inside quote
  | raw body => '\x60' ∉ body
  | lineComment body => '\n' ∉ body ∧ (next = [] ∨ next.head? = some '\n')
  | blockComment body => ¬ ['*', '/'] <:+: body

end Element

def sourceText (elements : List Element) : List Char :=
  elements.flatMap Element.text

/-- Every element fits what follows it. -/
def Lexed : List Element → Prop
  | [] => True
  | element :: elements => element.Fits (sourceText elements) ∧ Lexed elements

instance (quote : Char) (letter : Letter) : Decidable (letter.Inside quote) :=
  inferInstanceAs (Decidable (_ ∧ _))

instance (next : List Char) : (element : Element) → Decidable (element.Fits next)
  | .code _ => inferInstanceAs (Decidable (_ ∧ _))
  | .quoted _ _ => inferInstanceAs (Decidable (_ ∧ _))
  | .raw _ => inferInstanceAs (Decidable (¬ _))
  | .lineComment _ => inferInstanceAs (Decidable (_ ∧ _))
  | .blockComment _ => inferInstanceAs (Decidable (¬ _))

instance Lexed.decidable : (elements : List Element) → Decidable (Lexed elements)
  | [] => isTrue True.intro
  | _ :: elements =>
    have := Lexed.decidable elements
    inferInstanceAs (Decidable (_ ∧ _))

/-! ## What the elements keep -/

/-- What becomes of a character. -/
inductive Mark where
  | kept
  | dropped
  /-- The last character of a block comment. -/
  | closing
  deriving Repr, DecidableEq

/-- The characters of an element with their marks: those of comments go, all others stay. -/
def Element.marked : Element → List (Char × Mark)
  | lineComment body => ('/' :: '/' :: body).map (·, .dropped)
  | blockComment body => ('/' :: '*' :: body ++ ['*']).map (·, .dropped) ++ [('/', .closing)]
  | element => element.text.map (·, .kept)

def markedText (elements : List Element) : List (Char × Mark) :=
  elements.flatMap Element.marked

/-- What a line shows: the kept characters, and a blank where a block comment closes behind one of them.
`kept` says whether there was one already. -/
def shown : Bool → List (Char × Mark) → List Char
  | _, [] => []
  | _, (c, .kept) :: line => c :: shown true line
  | kept, (_, .dropped) :: line => shown kept line
  | kept, (_, .closing) :: line => if kept then ' ' :: shown kept line else shown kept line

/-- The characters of a text between the line feeds. -/
def markedPieces (marked : List (Char × Mark)) : List (List (Char × Mark)) :=
  marked.splitOnP (·.1 == '\n')

def dropMarkedReturn : List (Char × Mark) → List (Char × Mark)
  | [] => []
  | [('\r', _)] => []
  | x :: line => x :: dropMarkedReturn line

/-- The lines whose texts, up to the line feeds, are the given pieces. -/
def markedLinesOf : List (List (Char × Mark)) → List (List (Char × Mark))
  | [] => []
  | [last] => if last.isEmpty then [] else [last]
  | line :: rest => dropMarkedReturn line :: markedLinesOf rest

/-- The lines of the text that the elements are written as, with the marks. -/
def markedLines (elements : List Element) : List (List (Char × Mark)) :=
  markedLinesOf (markedPieces (markedText elements))

/-! ## Lines -/

theorem split_eq_splitOnP (sep : Char) (s : List Char) : split sep s = s.splitOnP (· == sep) := by
  induction s with
  | nil => simp [split]
  | cons c s ih =>
    have hne := List.splitOnP_ne_nil (· == sep) s
    obtain ⟨piece, pieces, hpieces⟩ := List.exists_cons_of_ne_nil hne
    rw [List.splitOnP_cons_eq_if_modifyHead, split, ih, hpieces]
    rfl

theorem splitOnP_append {α : Type} {p : α → Bool} {w : List α} (h : ∀ x ∈ w, p x = false)
    (s : List α) : (w ++ s).splitOnP p = (s.splitOnP p).modifyHead (w ++ ·) := by
  obtain ⟨piece, pieces, hpieces⟩ := List.exists_cons_of_ne_nil (List.splitOnP_ne_nil p s)
  induction w with
  | nil => simp [hpieces]
  | cons x w ih =>
    have hx : p x = false := h x (by simp)
    rw [List.cons_append, List.splitOnP_cons_eq_if_modifyHead, hx,
      ih fun y hy => h y (by simp [hy])]
    simp [hpieces]

theorem splitOnP_map {α β : Type} (f : β → α) (p : α → Bool) (l : List β) :
    (l.map f).splitOnP p = (l.splitOnP fun x => p (f x)).map (List.map f) := by
  induction l with
  | nil => simp
  | cons x l ih =>
    obtain ⟨piece, pieces, hpieces⟩ :=
      List.exists_cons_of_ne_nil (List.splitOnP_ne_nil (fun x => p (f x)) l)
    rw [List.map_cons, List.splitOnP_cons_eq_if_modifyHead, List.splitOnP_cons_eq_if_modifyHead, ih,
      hpieces]
    cases p (f x) <;> simp

theorem map_fst_marked (element : Element) : element.marked.map Prod.fst = element.text := by
  cases element <;> simp [Element.marked, Element.text, Function.comp_def]

theorem map_fst_markedText (elements : List Element) :
    (markedText elements).map Prod.fst = sourceText elements := by
  induction elements with
  | nil => rfl
  | cons element elements ih =>
    simp only [markedText, sourceText, List.flatMap_cons, List.map_append] at ih ⊢
    rw [map_fst_marked, ih]

theorem map_fst_dropMarkedReturn (line : List (Char × Mark)) :
    (dropMarkedReturn line).map Prod.fst = dropReturn (line.map Prod.fst) := by
  fun_induction dropMarkedReturn line with
  | case1 => rfl
  | case2 mark => rfl
  | case3 x line hreturn ih =>
    rw [List.map_cons, List.map_cons, dropReturn, ih]
    intro hx hline
    exact hreturn x.2 (by rw [← hx]) (List.map_eq_nil_iff.mp hline)

theorem map_fst_markedLinesOf (pieces : List (List (Char × Mark))) :
    (markedLinesOf pieces).map (·.map Prod.fst) = linesOfPieces (pieces.map (·.map Prod.fst)) := by
  fun_induction markedLinesOf pieces with
  | case1 => rfl
  | case2 last hempty => simp [linesOfPieces, hempty]
  | case3 last hempty => simp [linesOfPieces, hempty]
  | case4 line rest hne ih =>
    rw [List.map_cons, List.map_cons, map_fst_dropMarkedReturn, ih, linesOfPieces]
    simpa using hne

/-! ## The scanner, step by step -/

attribute [local simp] keepFrom

theorem keepFrom_code {c : Char} {cs : List Char} (kept : Bool)
    (h : c = '/' → cs.head? ≠ some '/' ∧ cs.head? ≠ some '*') :
    keepFrom .code kept (c :: cs) = (c :: (keepFrom (Mode.behindCode c) true cs).1,
      (keepFrom (Mode.behindCode c) true cs).2) := by
  rw [keepFrom]
  · rintro rest rfl rfl
    exact (h rfl).1 rfl
  · rintro rest rfl rfl
    exact (h rfl).2 rfl

theorem keepFrom_comment {c : Char} {cs : List Char} (kept : Bool)
    (h : c = '*' → cs.head? ≠ some '/') :
    keepFrom .comment kept (c :: cs) = keepFrom .comment kept cs := by
  rw [keepFrom]
  rintro rest rfl rfl
  exact h rfl rfl

theorem keepFrom_raw (kept : Bool) (c : Char) (cs : List Char) :
    keepFrom .raw kept (c :: cs)
      = (c :: (keepFrom (if c = '\x60' then .code else .raw) true cs).1,
        (keepFrom (if c = '\x60' then .code else .raw) true cs).2) := by
  rw [keepFrom]

theorem keepFrom_quoted {c : Char} (quote : Char) (kept : Bool) (cs : List Char) (h : c ≠ '\\') :
    keepFrom (.quoted quote) kept (c :: cs)
      = (c :: (keepFrom (if c = quote then .code else .quoted quote) true cs).1,
        (keepFrom (if c = quote then .code else .quoted quote) true cs).2) := by
  rw [keepFrom]
  intro c' rest heq
  exact absurd heq h

theorem keepFrom_backslash (quote : Char) (kept : Bool) :
    keepFrom (.quoted quote) kept ['\\'] = (['\\'], .code) := by
  have hcarried : (if '\\' = quote then Mode.code else .quoted quote).carried = .code := by
    split <;> rfl
  simp only [keepFrom, hcarried]

/-- A quoted literal is kept up to its end. -/
theorem keepFrom_letters {quote : Char} {letters : List Letter} (hquote : quote ≠ '\\')
    (h : ∀ letter ∈ letters, letter.escaped = false → letter.char ≠ quote ∧ letter.char ≠ '\\') (kept : Bool)
    (cs : List Char) :
    keepFrom (.quoted quote) kept (letters.flatMap Letter.text ++ quote :: cs)
      = (letters.flatMap Letter.text ++ quote :: (keepFrom .code true cs).1,
        (keepFrom .code true cs).2) := by
  induction letters generalizing kept with
  | nil =>
    rw [List.flatMap_nil, List.nil_append, keepFrom_quoted quote kept cs hquote, if_pos rfl]
    rfl
  | cons letter letters ih =>
    have hrest := ih (fun other hother => h other (by simp [hother])) true
    have hplain := h letter (by simp)
    rw [List.flatMap_cons, List.append_assoc]
    obtain ⟨escaped, c⟩ := letter
    cases escaped with
    | true => simp [Letter.text, hrest]
    | false =>
      obtain ⟨hend, hescape⟩ := hplain rfl
      simp only [Letter.text, Bool.false_eq_true, if_false, List.cons_append, List.nil_append]
      rw [keepFrom_quoted quote kept _ hescape, if_neg hend, hrest]

/-! ## The scanner follows the marks -/

theorem shown_dropped (kept : Bool) (w : List Char) (line : List (Char × Mark)) :
    shown kept (w.map (·, .dropped) ++ line) = shown kept line := by
  induction w with
  | nil => rfl
  | cons c w ih => exact ih

theorem shown_kept (w : List Char) (line : List (Char × Mark)) :
    shown true (w.map (·, .kept) ++ line) = w ++ shown true line := by
  induction w with
  | nil => rfl
  | cons c w ih => exact congrArg (c :: ·) ih

/-- What is kept of the pieces of a text. `kept` is about the first of them. -/
def keepPieces : Mode → Bool → List (List Char) → List (List Char)
  | _, _, [] => []
  | mode, kept, piece :: pieces =>
    (keepFrom mode kept piece).1 :: keepPieces (keepFrom mode kept piece).2 false pieces

def shownPieces : Bool → List (List (Char × Mark)) → List (List Char)
  | _, [] => []
  | kept, piece :: pieces => shown kept piece :: shownPieces false pieces

/-- The scanner in the given mode keeps of a text what its marks show. -/
def Agrees (mode : Mode) (marked : List (Char × Mark)) : Prop :=
  ∀ kept, keepPieces mode kept ((marked.map Prod.fst).splitOnP (· == '\n'))
    = shownPieces kept (markedPieces marked)

def restOfLine (marked : List (Char × Mark)) : List Char :=
  (marked.map Prod.fst).takeWhile (· != '\n')

theorem splitOnP_eq_cons {α : Type} (p : α → Bool) (s : List α) :
    ∃ pieces, s.splitOnP p = s.takeWhile (!p ·) :: pieces := by
  induction s with
  | nil => exact ⟨[], by simp⟩
  | cons x s ih =>
    obtain ⟨pieces, hpieces⟩ := ih
    rw [List.splitOnP_cons_eq_if_modifyHead, hpieces]
    cases hx : p x with
    | true => exact ⟨s.takeWhile (!p ·) :: pieces, by simp [hx]⟩
    | false => exact ⟨pieces, by simp [hx]⟩

theorem agrees_nil : Agrees .code [] := by
  intro kept
  simp [markedPieces, keepPieces, shownPieces, shown, Mode.carried]

namespace Agrees

variable {mode mode' : Mode} {marked : List (Char × Mark)}

theorem lineEnd (mode : Mode) (mark : Mark) (h : Agrees mode.carried marked) :
    Agrees mode (('\n', mark) :: marked) := by
  intro kept
  have hnext := h false
  rw [markedPieces] at hnext ⊢
  rw [List.map_cons, List.splitOnP_cons_eq_if_modifyHead, List.splitOnP_cons_eq_if_modifyHead]
  simp [keepPieces, shownPieces, shown, hnext]

theorem step {w : List (Char × Mark)} (h : Agrees mode' marked) (hw : ∀ x ∈ w, x.1 ≠ '\n')
    (hstep : ∀ kept, ∃ out kept', (∀ line, shown kept (w ++ line) = out ++ shown kept' line) ∧
      keepFrom mode kept (w.map Prod.fst ++ restOfLine marked)
        = (out ++ (keepFrom mode' kept' (restOfLine marked)).1,
          (keepFrom mode' kept' (restOfLine marked)).2)) :
    Agrees mode (w ++ marked) := by
  intro kept
  obtain ⟨out, kept', hshown, hkeep⟩ := hstep kept
  have hrest := h kept'
  obtain ⟨pieces, hpieces⟩ := splitOnP_eq_cons (· == '\n') (marked.map Prod.fst)
  obtain ⟨lines, hlines⟩ := splitOnP_eq_cons (fun x : Char × Mark => x.1 == '\n') marked
  -- the text and its marks are cut at the same places, so both lose `w` from their first piece
  have hw' : ∀ x ∈ w.map Prod.fst, (x == '\n') = false := by simpa using hw
  rw [markedPieces] at hrest ⊢
  rw [List.map_append, splitOnP_append hw', splitOnP_append (by simpa using hw)]
  rw [hpieces, hlines] at hrest ⊢
  change _ :: keepPieces (keepFrom mode' kept' (restOfLine marked)).2 _ _ = _ at hrest
  change (keepFrom mode kept (w.map Prod.fst ++ restOfLine marked)).1
    :: keepPieces (keepFrom mode kept (w.map Prod.fst ++ restOfLine marked)).2 _ _ = _
  obtain ⟨hfirst, hothers⟩ := List.cons.inj hrest
  rw [hkeep, hothers, List.modifyHead_cons, shownPieces, hshown, ← hfirst]
  rfl

theorem kept {c : Char} (h : Agrees mode' marked) (hc : c ≠ '\n')
    (hkeep : ∀ kept, keepFrom mode kept (c :: restOfLine marked)
      = (c :: (keepFrom mode' true (restOfLine marked)).1,
        (keepFrom mode' true (restOfLine marked)).2)) :
    Agrees mode ((c, .kept) :: marked) :=
  step (w := [(c, .kept)]) h (by simpa using hc) fun kept =>
    ⟨[c], true, fun _ => rfl, hkeep kept⟩

theorem dropped {w : List Char} (h : Agrees mode' marked) (hw : '\n' ∉ w)
    (hkeep : ∀ kept, keepFrom mode kept (w ++ restOfLine marked)
      = keepFrom mode' kept (restOfLine marked)) :
    Agrees mode (w.map (·, .dropped) ++ marked) := by
  apply step h
  · intro x hx
    obtain ⟨c, hc, rfl⟩ := List.mem_map.mp hx
    exact fun heq => hw (heq ▸ hc)
  · intro kept
    refine ⟨[], kept, shown_dropped kept w, ?_⟩
    simpa [Function.comp_def] using hkeep kept

end Agrees

theorem head?_restOfLine {marked : List (Char × Mark)} {c : Char}
    (h : (marked.map Prod.fst).head? ≠ some c) : (restOfLine marked).head? ≠ some c := by
  cases marked with
  | nil => simp [restOfLine]
  | cons x marked =>
    simp only [restOfLine, List.map_cons, List.takeWhile_cons]
    split
    · simpa using h
    · simp

theorem agrees_raw {body : List Char} {marked : List (Char × Mark)} (h : Agrees .code marked)
    (hbody : '\x60' ∉ body) :
    Agrees .raw ((body ++ ['\x60']).map (·, .kept) ++ marked) := by
  induction body with
  | nil => exact h.kept (by decide) fun kept => keepFrom_raw kept _ _
  | cons c body ih =>
    have hrest := ih fun hmem => hbody (by simp [hmem])
    by_cases hc : c = '\n'
    · subst hc
      exact Agrees.lineEnd .raw .kept hrest
    · have hmode : (if c = '\x60' then Mode.code else .raw) = .raw :=
        if_neg fun heq => hbody (by simp [heq])
      refine hrest.kept hc fun kept => ?_
      rw [keepFrom_raw, hmode]

theorem agrees_comment {body : List Char} {marked : List (Char × Mark)} (h : Agrees .code marked)
    (hbody : ¬ ['*', '/'] <:+: body) :
    Agrees .comment (body.map (·, .dropped) ++ ('*', .dropped) :: ('/', .closing) :: marked) := by
  induction body with
  | nil =>
    refine Agrees.step (w := [('*', .dropped), ('/', .closing)]) h (by simp) fun kept => ?_
    cases kept with
    | true => exact ⟨[' '], true, fun _ => rfl, by simp⟩
    | false => exact ⟨[], false, fun _ => rfl, by simp⟩
  | cons c body ih =>
    have hrest := ih fun hin => hbody (hin.trans (List.suffix_cons c body).isInfix)
    by_cases hc : c = '\n'
    · subst hc
      exact Agrees.lineEnd .comment .dropped hrest
    · refine Agrees.dropped (w := [c]) hrest (by simpa using Ne.symm hc) fun kept => ?_
      -- a slash behind a star would have closed the comment before
      refine keepFrom_comment kept fun hstar => head?_restOfLine ?_
      cases body with
      | nil => simp
      | cons d body =>
        intro hslash
        have hd : d = '/' := by simpa using hslash
        exact hbody ⟨[], body, by simp [hstar, hd]⟩

theorem lineFeed_not_mem_quoted {quote : Char} {letters : List Letter}
    (hquote : quote = '"' ∨ quote = '\'') (h : ∀ letter ∈ letters, letter.Inside quote) :
    '\n' ∉ (Element.quoted quote letters).text := by
  have hends : quote ≠ '\n' := by rcases hquote with rfl | rfl <;> decide
  intro hmem
  simp only [Element.text, List.cons_append, List.mem_cons, List.mem_append, List.mem_flatMap,
    List.not_mem_nil, or_false] at hmem
  rcases hmem with heq | ⟨letter, hletter, hin⟩ | heq
  · exact hends heq.symm
  · have hchar := (h letter hletter).1
    unfold Letter.text at hin
    split at hin
    · simp [Ne.symm hchar] at hin
    · simp [Ne.symm hchar] at hin
  · exact hends heq.symm

/-- Every element hands the agreement to the text that it stands in front of. -/
theorem agrees_element {element : Element} {marked : List (Char × Mark)} (h : Agrees .code marked)
    (hfits : element.Fits (marked.map Prod.fst)) : Agrees .code (element.marked ++ marked) := by
  cases element with
  | code c =>
    obtain ⟨hdouble, hsingle, hback, hslash⟩ := hfits
    by_cases hc : c = '\n'
    · subst hc
      exact Agrees.lineEnd .code .kept h
    · have hmode : Mode.behindCode c = .code := by simp [Mode.behindCode, hdouble, hsingle, hback]
      refine h.kept hc fun kept => ?_
      rw [keepFrom_code kept, hmode]
      intro heq
      exact ⟨head?_restOfLine (hslash heq).1, head?_restOfLine (hslash heq).2⟩
  | quoted quote letters =>
    obtain ⟨hquote, hletters⟩ := hfits
    have hescape : quote ≠ '\\' := by rcases hquote with rfl | rfl <;> decide
    have hslash : quote ≠ '/' := by rcases hquote with rfl | rfl <;> decide
    have hmode : Mode.behindCode quote = .quoted quote := by
      rcases hquote with rfl | rfl <;> decide
    apply h.step
    · intro x hx heq
      have hmem : x.1 ∈ (Element.quoted quote letters).text := by
        rw [← map_fst_marked]
        exact List.mem_map_of_mem hx
      exact lineFeed_not_mem_quoted hquote hletters (heq ▸ hmem)
    · intro kept
      refine ⟨(Element.quoted quote letters).text, true, fun line => ?_, ?_⟩
      · exact congrArg (quote :: ·) (shown_kept (letters.flatMap Letter.text ++ [quote]) line)
      · have hend := keepFrom_letters hescape (fun letter hletter => (hletters letter hletter).2) true (restOfLine marked)
        rw [map_fst_marked]
        simp only [Element.text, List.cons_append, List.append_assoc, List.nil_append]
        rw [keepFrom_code kept fun heq => absurd heq hslash, hmode, hend]
  | raw body =>
    refine (agrees_raw h hfits).kept (by decide) fun kept => ?_
    exact keepFrom_code kept (fun heq => absurd heq (by decide))
  | lineComment body =>
    obtain ⟨hbody, hnext⟩ := hfits
    -- the comment takes all of its line, so that nothing is left for the scanner to keep
    have hend : restOfLine marked = [] := by
      rcases hnext with hnil | hhead
      · simp [restOfLine, hnil]
      · obtain ⟨rest, hrest⟩ := List.head?_eq_some_iff.mp hhead
        simp [restOfLine, hrest]
    apply Agrees.dropped h (by simpa using hbody)
    intro kept
    rw [hend, List.append_nil]
    simp [Mode.carried]
  | blockComment body =>
    have hinner := agrees_comment h hfits
    have hopen : Agrees .code (['/', '*'].map (·, .dropped) ++ _) :=
      Agrees.dropped hinner (by decide) fun kept => by simp
    simpa [Element.marked] using hopen

theorem agrees_markedText {elements : List Element} (h : Lexed elements) :
    Agrees .code (markedText elements) := by
  induction elements with
  | nil => exact agrees_nil
  | cons element elements ih =>
    obtain ⟨hfits, hrest⟩ := h
    rw [← map_fst_markedText] at hfits
    exact agrees_element (ih hrest) hfits

/-! ## Ends of lines -/

theorem trimEnd_append {s tail : List Char} (h : ∀ c ∈ tail, isBlank c = true) :
    trimEnd (s ++ tail) = trimEnd s := by
  unfold trimEnd
  rw [List.reverse_append, List.dropWhile_append_of_pos]
  simpa using h

theorem dropReturn_or (line : List Char) :
    dropReturn line = line ∨ dropReturn line ++ ['\r'] = line := by
  fun_induction dropReturn line with
  | case1 => exact .inl rfl
  | case2 => exact .inr rfl
  | case3 c cs _ ih =>
    rcases ih with hsame | hreturn
    · exact .inl (by rw [hsame])
    · exact .inr (by rw [List.cons_append, hreturn])

theorem dropMarkedReturn_or (line : List (Char × Mark)) :
    dropMarkedReturn line = line ∨ ∃ mark, dropMarkedReturn line ++ [('\r', mark)] = line := by
  fun_induction dropMarkedReturn line with
  | case1 => exact .inl rfl
  | case2 mark => exact .inr ⟨mark, rfl⟩
  | case3 x line _ ih =>
    rcases ih with hsame | ⟨mark, hreturn⟩
    · exact .inl (by rw [hsame])
    · exact .inr ⟨mark, by rw [List.cons_append, hreturn]⟩

theorem head?_ne_of_ne_cons {d : Char} {cs : List Char} (h : ∀ rest, cs = d :: rest → False) :
    cs.head? ≠ some d := by
  intro hhead
  obtain ⟨rest, hcs⟩ := List.head?_eq_some_iff.mp hhead
  exact h rest hcs

theorem head?_concat_ne {c d : Char} {cs : List Char} (hd : c ≠ d) (h : cs.head? ≠ some d) :
    (cs ++ [c]).head? ≠ some d := by
  cases cs with
  | nil => simpa using hd
  | cons first cs => simpa using h

theorem ne_of_isBlank {c mark : Char} (hc : isBlank c = true) (hmark : isBlank mark = false) : c ≠ mark := by
  rintro rfl
  rw [hc] at hmark
  cases hmark

/-- A blank at the end of a line is kept or not, and changes nothing else. -/
theorem keepFrom_blank {blank : Char} (hblank : isBlank blank = true) (mode : Mode) (kept : Bool)
    (line : List Char) :
    ∃ tail, (∀ c ∈ tail, c = blank) ∧ keepFrom mode kept (line ++ [blank])
      = ((keepFrom mode kept line).1 ++ tail, (keepFrom mode kept line).2) := by
  have hslash : blank ≠ '/' := ne_of_isBlank hblank (by decide)
  have hstar : blank ≠ '*' := ne_of_isBlank hblank (by decide)
  have hback : blank ≠ '\x60' := ne_of_isBlank hblank (by decide)
  have hescapes : blank ≠ '\\' := ne_of_isBlank hblank (by decide)
  induction mode, kept, line using keepFrom.induct with
  | case1 mode kept =>
    cases mode with
    | code =>
      have hdouble : blank ≠ '"' := ne_of_isBlank hblank (by decide)
      have hsingle : blank ≠ '\'' := ne_of_isBlank hblank (by decide)
      have hmode : Mode.behindCode blank = .code := by simp [Mode.behindCode, hdouble, hsingle, hback]
      refine ⟨[blank], by simp, ?_⟩
      rw [List.nil_append, keepFrom_code kept fun heq => absurd heq hslash, hmode]
      simp
    | comment =>
      refine ⟨[], by simp, ?_⟩
      rw [List.nil_append, keepFrom_comment kept fun heq => absurd heq hstar, List.append_nil]
    | raw =>
      refine ⟨[blank], by simp, ?_⟩
      rw [List.nil_append, keepFrom_raw, if_neg hback]
      simp
    | quoted quote =>
      refine ⟨[blank], by simp, ?_⟩
      rw [List.nil_append, keepFrom_quoted quote kept [] hescapes]
      split <;> simp [Mode.carried]
  | case2 kept rest => exact ⟨[], by simp, by simp⟩
  | case3 kept cs ih => simpa [keepFrom] using ih
  | case4 kept c cs hline hblock out last _ ih =>
    obtain ⟨tail, htail, hkeep⟩ := ih
    have hopen : c = '/' → cs.head? ≠ some '/' ∧ cs.head? ≠ some '*' := fun hc =>
      ⟨head?_ne_of_ne_cons fun rest => hline rest hc, head?_ne_of_ne_cons fun rest => hblock rest hc⟩
    -- a blank opens no comment, so the scanner looks ahead to the same end
    have hopen' : c = '/' → (cs ++ [blank]).head? ≠ some '/' ∧ (cs ++ [blank]).head? ≠ some '*' :=
      fun hc => ⟨head?_concat_ne hslash (hopen hc).1, head?_concat_ne hstar (hopen hc).2⟩
    refine ⟨tail, htail, ?_⟩
    rw [List.cons_append, keepFrom_code kept hopen, keepFrom_code kept hopen', hkeep]
    rfl
  | case5 kept cs out last _ ih =>
    obtain ⟨tail, htail, hkeep⟩ := ih
    refine ⟨tail, htail, ?_⟩
    cases kept <;> simp [hkeep]
  | case6 kept c cs hclose ih =>
    have hopen : c = '*' → cs.head? ≠ some '/' := fun hc =>
      head?_ne_of_ne_cons fun rest => hclose rest hc
    have hopen' : c = '*' → (cs ++ [blank]).head? ≠ some '/' := fun hc =>
      head?_concat_ne hslash (hopen hc)
    rw [List.cons_append, keepFrom_comment kept hopen, keepFrom_comment kept hopen']
    exact ih
  | case7 kept c cs out last _ ih =>
    obtain ⟨tail, htail, hkeep⟩ := ih
    refine ⟨tail, htail, ?_⟩
    rw [List.cons_append, keepFrom_raw, keepFrom_raw, hkeep]
    rfl
  | case8 quote kept c cs out last _ ih =>
    obtain ⟨tail, htail, hkeep⟩ := ih
    exact ⟨tail, htail, by simp [hkeep]⟩
  | case9 quote kept c cs hescape out last _ ih =>
    obtain ⟨tail, htail, hkeep⟩ := ih
    by_cases hc : c = '\\'
    · -- the blank is what the backslash escapes
      cases cs with
      | nil =>
        subst hc
        refine ⟨[blank], by simp, ?_⟩
        rw [keepFrom_backslash]
        rfl
      | cons d cs => exact absurd rfl (hescape d cs hc)
    · refine ⟨tail, htail, ?_⟩
      rw [List.cons_append, keepFrom_quoted quote kept _ hc, keepFrom_quoted quote kept _ hc, hkeep]
      rfl

theorem keepFrom_dropReturn (mode : Mode) (kept : Bool) (line : List Char) :
    trimEnd (keepFrom mode kept (dropReturn line)).1 = trimEnd (keepFrom mode kept line).1 ∧
      (keepFrom mode kept (dropReturn line)).2 = (keepFrom mode kept line).2 := by
  rcases dropReturn_or line with hsame | hreturn
  · rw [hsame]
    exact ⟨rfl, rfl⟩
  · have hblank : isBlank '\r' = true := by decide
    obtain ⟨tail, htail, hkeep⟩ := keepFrom_blank hblank mode kept (dropReturn line)
    rw [hreturn] at hkeep
    rw [hkeep]
    exact ⟨(trimEnd_append fun c hc => htail c hc ▸ hblank).symm, rfl⟩

theorem shown_return (kept : Bool) (line : List (Char × Mark)) (mark : Mark) :
    ∃ tail, (∀ c ∈ tail, isBlank c = true) ∧
      shown kept (line ++ [('\r', mark)]) = shown kept line ++ tail := by
  fun_induction shown kept line with
  | case1 kept =>
    refine ⟨shown kept [('\r', mark)], ?_, rfl⟩
    cases mark <;> cases kept <;> simp [shown] <;> decide
  | case2 kept c line ih =>
    obtain ⟨tail, htail, hshown⟩ := ih
    exact ⟨tail, htail, congrArg (c :: ·) hshown⟩
  | case3 kept c line ih => exact ih
  | case4 c line ih =>
    obtain ⟨tail, htail, hshown⟩ := ih
    exact ⟨tail, htail, congrArg (' ' :: ·) hshown⟩
  | case5 kept c line hkept ih => simpa [shown, hkept] using ih

theorem shown_dropMarkedReturn (line : List (Char × Mark)) :
    trimEnd (shown false (dropMarkedReturn line)) = trimEnd (shown false line) := by
  rcases dropMarkedReturn_or line with hsame | ⟨mark, hreturn⟩
  · rw [hsame]
  · obtain ⟨tail, htail, hshown⟩ := shown_return false (dropMarkedReturn line) mark
    rw [hreturn] at hshown
    rw [hshown, trimEnd_append htail]

/-- Where the scanner follows the marks on the pieces of a text, it does so on its lines. -/
theorem stripFrom_linesOfPieces {mode : Mode} {pieces : List (List (Char × Mark))}
    (h : keepPieces mode false (pieces.map (·.map Prod.fst)) = shownPieces false pieces) :
    stripFrom mode (linesOfPieces (pieces.map (·.map Prod.fst)))
      = (markedLinesOf pieces).map fun line => trimEnd (shown false line) := by
  fun_induction markedLinesOf pieces generalizing mode with
  | case1 => rfl
  | case2 last hempty => simp [linesOfPieces, hempty, stripFrom]
  | case3 last hempty =>
    obtain ⟨hline, -⟩ := List.cons.inj h
    simp [linesOfPieces, hempty, stripFrom, hline]
  | case4 line rest hne ih =>
    obtain ⟨hline, hrest⟩ := List.cons.inj h
    obtain ⟨htrim, hmode⟩ := keepFrom_dropReturn mode false (line.map Prod.fst)
    rw [List.map_cons, linesOfPieces, List.map_cons, stripFrom]
    · simp only [htrim, hmode, hline, shown_dropMarkedReturn]
      rw [ih hrest]
    · simpa using hne

/-- Stripping a source text gives one entry for each of its lines: the line without the characters of
comments, where a blank stands for a block comment that closes behind kept text, with all other
characters in order and without blanks at its end. -/
theorem stripComments_lexed (elements : List Element) (h : Lexed elements) :
    (stripComments (sourceText elements)).length = (lines (sourceText elements)).length ∧
      (markedLines elements).map (·.map Prod.fst) = lines (sourceText elements) ∧
      stripComments (sourceText elements)
        = (markedLines elements).map fun line => trimEnd (shown false line) := by
  have hpieces : split '\n' (sourceText elements)
      = (markedPieces (markedText elements)).map (·.map Prod.fst) := by
    rw [split_eq_splitOnP, ← map_fst_markedText]
    exact splitOnP_map Prod.fst (· == '\n') (markedText elements)
  have hlines : (markedLines elements).map (·.map Prod.fst) = lines (sourceText elements) := by
    rw [lines, hpieces]
    exact map_fst_markedLinesOf _
  have hagrees := agrees_markedText h false
  rw [map_fst_markedText, ← split_eq_splitOnP, hpieces] at hagrees
  have hstrip : stripComments (sourceText elements)
      = (markedLines elements).map fun line => trimEnd (shown false line) := by
    rw [stripComments, lines, hpieces]
    exact stripFrom_linesOfPieces hagrees
  refine ⟨?_, hlines, hstrip⟩
  rw [hstrip, ← hlines, List.length_map, List.length_map]

/-- Comment marks in literals and quotes in comments, with a raw string and a block comment that go on
over the end of a line. -/
def crossedElements : List Element :=
  [.code 'a', .quoted '"' [⟨false, '/'⟩, ⟨false, '/'⟩, ⟨true, '"'⟩], .blockComment ['/', '"'],
    .code 'b', .lineComment ['\x60', '\r'], .code '\n', .code 'c', .code '/',
    .raw ['/', '*', '\n', '\''], .blockComment ['\n', '*'], .quoted '\'' [⟨true, '\''⟩]]

theorem stripComments_lexed_crossed :
    Lexed crossedElements ∧
      lines (sourceText crossedElements)
        = ["a\"//\\\"\"/*/\"*/b//`".toList, "c/`/*".toList, "'`/*".toList, "**/'\\''".toList] ∧
      stripComments (sourceText crossedElements)
        = ["a\"//\\\"\" b".toList, "c/`/*".toList, "'`".toList, "'\\''".toList] := by
  have hlexed : Lexed crossedElements := by decide +kernel
  refine ⟨hlexed, by decide +kernel, ?_⟩
  rw [(stripComments_lexed crossedElements hlexed).2.2]
  decide +kernel

end RouteDoc.Source
