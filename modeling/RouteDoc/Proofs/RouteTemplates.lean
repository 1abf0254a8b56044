import RouteDoc.Document.Template
import RouteDoc.Proofs.StatementJoining
import RouteDoc.Proofs.TextSearch

/-!
Route templates and the paths that a document lists them under.

A template is written in pieces: text without braces, and variables with or without a pattern (`Piece`). A pattern may
hold anything in which the braces are balanced, colons and slashes too. The reader keeps a count of the braces that are
open; over a text that never closes more than it opens it only adds to what it has read (`dropPatternsFrom_nested`), so
the brace that ends a variable is the one that it is written with, and what is left is the same template with the bare
names (`dropPatterns_written`).

Text without an opening brace in front of a template stays as it is, whatever follows (`dropPatterns_append`). So taking
away a base path and dropping the patterns may be done in either order, for broken templates as well
(`documentPath_cases`).
-/

namespace RouteDoc

/-! ## Trimmed texts -/

namespace Text

theorem trim_subset (s : List Char) : trim s ⊆ s := by
  obtain ⟨lead, tail, -, -, hs⟩ := eq_append_trim s
  intro c hc
  rw [hs]
  simp [hc]

theorem trim_trim (s : List Char) : trim (trim s) = trim s := by
  obtain ⟨lead, tail, hlead, htail, hs⟩ := eq_append_trim s
  have hbetween := trim_between hlead htail (trim s)
  rw [← hs] at hbetween
  exact hbetween.symm

end Text

namespace Template

open RouteDoc.Text

/-! ## Templates as they are written -/

/-- The braces of the text are balanced: nothing is closed that is not open, and nothing is left open. -/
structure Balanced (text : List Char) : Prop where
  opened : ∀ front ∈ text.inits, front.count '}' ≤ front.count '{'
  closed : text.count '{' = text.count '}'

instance (text : List Char) : Decidable (Balanced text) :=
  decidable_of_iff ((∀ front ∈ text.inits, front.count '}' ≤ front.count '{') ∧ text.count '{' = text.count '}')
    ⟨fun h => ⟨h.1, h.2⟩, fun h => ⟨h.opened, h.closed⟩⟩

/-- A variable of a template: its name, and the pattern behind a colon if it has one. -/
structure Placeholder where
  name : List Char
  pattern? : Option (List Char)
  plain : ∀ c ∈ name, c ≠ ':' ∧ c ≠ '{' ∧ c ≠ '}'
  balanced : ∀ pattern ∈ pattern?, Balanced pattern

def Placeholder.tail (placeholder : Placeholder) : List Char :=
  match placeholder.pattern? with
  | some pattern => ':' :: pattern
  | none => []

def Placeholder.written (placeholder : Placeholder) : List Char :=
  '{' :: placeholder.name ++ placeholder.tail ++ ['}']

/-- The variable without its pattern and the blanks around its name. -/
def Placeholder.bare (placeholder : Placeholder) : Placeholder where
  name := trim placeholder.name
  pattern? := none
  plain c hc := placeholder.plain c (trim_subset placeholder.name hc)
  balanced := nofun

inductive Piece where
  | literal (text : List Char) (plain : ∀ c ∈ text, c ≠ '{' ∧ c ≠ '}')
  | named (placeholder : Placeholder)

def Piece.written : Piece → List Char
  | literal text _ => text
  | named placeholder => placeholder.written

/-- The piece with the bare name, if it is a variable. -/
def Piece.bare : Piece → Piece
  | literal text plain => literal text plain
  | named placeholder => named placeholder.bare

def written (pieces : List Piece) : List Char :=
  pieces.flatMap Piece.written

/-! ## Reading -/

theorem dropPatterns_append {text : List Char} (h : '{' ∉ text) (s : List Char) :
    dropPatterns (text ++ s) = text ++ dropPatterns s := by
  induction text with
  | nil => rfl
  | cons c text ih =>
    have hc : c ≠ '{' := fun heq => h (by simp [heq])
    have hrest := ih fun hmem => h (by simp [hmem])
    unfold dropPatterns at hrest ⊢
    rw [List.cons_append, dropPatternsFrom, if_neg hc, hrest]
    rfl

/-- Inside of braces a text that never closes more of them than are open, the outermost apart, is only read. -/
theorem dropPatternsFrom_nested {inner : List Char} {depth left : Nat}
    (hopened : ∀ front, front <+: inner → front.count '}' ≤ depth + front.count '{')
    (hleft : depth + inner.count '{' = left + inner.count '}') (read s : List Char) :
    dropPatternsFrom (depth + 1) read (inner ++ s) = dropPatternsFrom (left + 1) (read ++ inner) s := by
  induction inner generalizing depth read with
  | nil =>
    obtain rfl : depth = left := by simpa using hleft
    simp
  | cons c inner ih =>
    have hlater (front : List Char) (hfront : front <+: inner) :=
      hopened (c :: front) (List.cons_prefix_cons.mpr ⟨rfl, hfront⟩)
    rw [List.append_cons read c inner, List.cons_append, dropPatternsFrom]
    by_cases hopen : c = '{'
    · subst hopen
      have hopened' (front : List Char) (hfront : front <+: inner) :
          front.count '}' ≤ depth + 1 + front.count '{' := by
        have hcount := hlater front hfront
        simp at hcount
        omega
      have hleft' : depth + 1 + inner.count '{' = left + inner.count '}' := by
        simp at hleft
        omega
      rw [if_pos rfl]
      exact ih hopened' hleft' (read ++ ['{'])
    · rw [if_neg hopen]
      by_cases hclose : c = '}'
      · subst hclose
        -- a brace is open besides the outermost, so this one does not end the variable
        have hfirst := hopened ['}'] (by simp)
        obtain ⟨outer, rfl⟩ : ∃ outer, depth = outer + 1 := ⟨depth - 1, by simp at hfirst; omega⟩
        have hopened' (front : List Char) (hfront : front <+: inner) :
            front.count '}' ≤ outer + front.count '{' := by
          have hcount := hlater front hfront
          simp at hcount
          omega
        have hleft' : outer + inner.count '{' = left + inner.count '}' := by
          simp at hleft
          omega
        rw [if_pos rfl, if_neg (Nat.succ_ne_zero outer)]
        exact ih hopened' hleft' (read ++ ['}'])
      · have hopened' (front : List Char) (hfront : front <+: inner) : front.count '}' ≤ depth + front.count '{' := by
          simpa [hopen, hclose] using hlater front hfront
        have hleft' : depth + inner.count '{' = left + inner.count '}' := by
          simpa [hopen, hclose] using hleft
        rw [if_neg hclose]
        exact ih hopened' hleft' (read ++ [c])

theorem dropPatternsFrom_balanced {inner : List Char} (h : Balanced inner) (read s : List Char) :
    dropPatternsFrom 1 read (inner ++ s) = dropPatternsFrom 1 (read ++ inner) s := by
  have hopened (front : List Char) (hfront : front <+: inner) : front.count '}' ≤ 0 + front.count '{' := by
    rw [Nat.zero_add]
    exact h.opened front ((List.mem_inits front inner).mpr hfront)
  have hleft : 0 + inner.count '{' = 0 + inner.count '}' := by rw [h.closed]
  exact dropPatternsFrom_nested hopened hleft read s

theorem balanced_of_plain {text : List Char} (h : ∀ c ∈ text, c ≠ '{' ∧ c ≠ '}') : Balanced text := by
  have hnone (front : List Char) (hfront : front ∈ text.inits) : front.count '{' = 0 ∧ front.count '}' = 0 := by
    have hsubset := ((List.mem_inits front text).mp hfront).subset
    exact ⟨List.count_eq_zero.mpr fun hmem => (h _ (hsubset hmem)).1 rfl,
      List.count_eq_zero.mpr fun hmem => (h _ (hsubset hmem)).2 rfl⟩
  constructor
  · intro front hfront
    rw [(hnone front hfront).1, (hnone front hfront).2]
  · have hwhole := hnone text (by simp)
    rw [hwhole.1, hwhole.2]

namespace Placeholder

variable (placeholder : Placeholder)

theorem variableName_append_tail : variableName (placeholder.name ++ placeholder.tail) = trim placeholder.name := by
  have hname : ∀ c ∈ placeholder.name, (c != ':') = true := fun c hc => bne_iff_ne.mpr (placeholder.plain c hc).1
  have htail : placeholder.tail.takeWhile (· != ':') = [] := by
    unfold tail
    split <;> rfl
  rw [variableName, List.takeWhile_append_of_pos hname, htail, List.append_nil]

/-- The reader takes a variable up to the brace that it is written with. -/
theorem dropPatternsFrom_tail (s : List Char) :
    dropPatternsFrom 1 placeholder.name (placeholder.tail ++ s) = dropPatternsFrom 1 (placeholder.name ++ placeholder.tail) s := by
  unfold tail
  split
  · rename_i pattern hpattern
    have hcolon : dropPatternsFrom 1 placeholder.name (':' :: pattern ++ s)
        = dropPatternsFrom 1 (placeholder.name ++ [':']) (pattern ++ s) := rfl
    rw [hcolon, dropPatternsFrom_balanced (placeholder.balanced pattern hpattern), List.append_assoc]
    rfl
  · rw [List.append_nil]
    rfl

theorem dropPatterns_placeholder (s : List Char) :
    dropPatterns (placeholder.written ++ s) = placeholder.bare.written ++ dropPatterns s := by
  have hname : Balanced placeholder.name := balanced_of_plain fun c hc => (placeholder.plain c hc).2
  calc dropPatterns (placeholder.written ++ s)
      = dropPatternsFrom 1 [] (placeholder.name ++ (placeholder.tail ++ '}' :: s)) := by
        simp [dropPatterns, written, dropPatternsFrom]
    _ = dropPatternsFrom 1 (placeholder.name ++ placeholder.tail) ('}' :: s) := by
        rw [dropPatternsFrom_balanced hname, List.nil_append, placeholder.dropPatternsFrom_tail]
    _ = '{' :: variableName (placeholder.name ++ placeholder.tail) ++ '}' :: dropPatterns s := rfl
    _ = placeholder.bare.written ++ dropPatterns s := by
        rw [placeholder.variableName_append_tail]
        simp [written, bare, tail]

theorem bare_bare : placeholder.bare.bare = placeholder.bare := by
  simp [bare, trim_trim]

end Placeholder

theorem Piece.bare_bare (piece : Piece) : piece.bare.bare = piece.bare := by
  cases piece with
  | literal text plain => rfl
  | named placeholder => exact congrArg Piece.named placeholder.bare_bare

theorem dropPatterns_piece (piece : Piece) (s : List Char) :
    dropPatterns (piece.written ++ s) = piece.bare.written ++ dropPatterns s := by
  cases piece with
  | literal text plain => exact dropPatterns_append (fun hmem => (plain _ hmem).1 rfl) s
  | named placeholder => exact placeholder.dropPatterns_placeholder s

theorem dropPatterns_pieces (pieces : List Piece) :
    dropPatterns (written pieces) = written (pieces.map Piece.bare) := by
  induction pieces with
  | nil => rfl
  | cons piece pieces ih =>
    unfold written at ih ⊢
    rw [List.flatMap_cons, dropPatterns_piece, ih, List.map_cons, List.flatMap_cons]

/-- **The patterns of variables are dropped, and nothing else.** A template that is made up of texts without braces and
of variables comes out with the same texts and with the trimmed names of the variables, whatever their patterns hold.
Done once more this changes nothing. -/
theorem dropPatterns_written (pieces : List Piece) :
    dropPatterns (written pieces) = written (pieces.map Piece.bare) ∧
      dropPatterns (dropPatterns (written pieces)) = dropPatterns (written pieces) := by
  refine ⟨dropPatterns_pieces pieces, ?_⟩
  rw [dropPatterns_pieces, dropPatterns_pieces, List.map_map]
  exact congrArg written (List.map_congr_left fun piece _ => piece.bare_bare)

/-- A variable with a quantifier, a colon and a slash in its pattern. -/
def codePlaceholder : Placeholder where
  name := " code ".toList
  pattern? := some "[a-z]\x7b3\x7d:a/b".toList
  plain := List.forall_iff_forall_mem.mp (by decide)
  balanced pattern hpattern := by
    obtain rfl := Option.some.inj hpattern
    decide

/-- The pattern goes with all that it holds, and a variable right behind it stays. -/
theorem dropPatterns_written_code :
    dropPatterns "/codes/\x7b code :[a-z]\x7b3\x7d:a/b\x7d\x7bcode\x7d".toList
      = "/codes/\x7bcode\x7d\x7bcode\x7d".toList := by
  have hpieces := dropPatterns_written [.literal "/codes/".toList (List.forall_iff_forall_mem.mp (by decide)),
    .named codePlaceholder, .named codePlaceholder.bare]
  exact hpieces.1

/-! ## Base paths -/

theorem dropEndSlashes_append {stem : List Char} (h : stem.getLast? ≠ some '/') (slashes : Nat) :
    dropEndSlashes (stem ++ List.replicate slashes '/') = stem := by
  have hslashes : ∀ c ∈ List.replicate slashes '/', (c == '/') = true := fun c hc =>
    beq_iff_eq.mpr (List.eq_of_mem_replicate hc)
  have hstem : stem.reverse.dropWhile (· == '/') = stem.reverse := by
    cases hreverse : stem.reverse with
    | nil => rfl
    | cons c rest =>
      rw [← List.head?_reverse, hreverse, List.head?_cons] at h
      exact List.dropWhile_cons_of_neg fun hc => h (congrArg some (beq_iff_eq.mp hc))
  rw [dropEndSlashes, List.reverse_append, List.reverse_replicate, List.dropWhile_append_of_pos hslashes, hstem,
    List.reverse_reverse]

section

variable {base stem : List Char} (hbase : dropEndSlashes base = stem)

include hbase

/-- A base path that ends at a segment of the template is taken away. -/
theorem dropBase_append (hne : stem ≠ []) {rest : List Char} (hrest : rest = [] ∨ rest.head? = some '/') :
    dropBase base (stem ++ rest) = rest := by
  have hstem : stem.isEmpty = false := List.isEmpty_eq_false_iff.mpr hne
  have hends : (rest.isEmpty || decide (rest.head? = some '/')) = true := by
    rcases hrest with rfl | hhead
    · rfl
    · simp [hhead]
  rw [dropBase, hbase]
  simp only [after?_append, hstem, hends, Bool.not_false, Bool.and_self, if_true]

/-- Any other base path is not, also where the template goes on within the last segment. -/
theorem dropBase_of_not_segment {template : List Char}
    (h : stem = [] ∨ template ≠ stem ∧ ∀ rest, template ≠ stem ++ '/' :: rest) :
    dropBase base template = template := by
  rw [dropBase, hbase]
  cases hafter : after? stem template with
  | none => rfl
  | some rest =>
    have htemplate := after?_eq_some_iff.mp hafter
    rcases h with rfl | ⟨hwhole, hsegment⟩
    · rfl
    · have hrest : (rest.isEmpty || decide (rest.head? = some '/')) = false := by
        cases rest with
        | nil => exact absurd (by simpa using htemplate) hwhole
        | cons c rest =>
          have hc : c ≠ '/' := fun heq => hsegment rest (heq ▸ htemplate)
          simp [hc]
      simp only [hrest, Bool.and_false, Bool.false_eq_true, if_false]

end

theorem head?_documentPath (base template : List Char) : (documentPath base template).head? = some '/' := by
  simp only [documentPath]
  split
  · assumption
  · rfl

/-- **The path of a route in a document.** The base path is `stem` with any number of slashes behind it. The path starts
with a slash. If the template goes on with a new segment behind the stem, the stem in front of the path gives back the
template without its patterns; if the template is the stem, the path is a slash. In all other cases nothing is taken
away, and a slash is put in front if there is none. The template need not be well formed. -/
theorem documentPath_cases (stem template : List Char) (slashes : Nat) (hstem : stem.getLast? ≠ some '/')
    (hplain : '{' ∉ stem) :
    (documentPath (stem ++ List.replicate slashes '/') template).head? = some '/' ∧
    (∀ rest, stem ≠ [] → template = stem ++ '/' :: rest →
      stem ++ documentPath (stem ++ List.replicate slashes '/') template = dropPatterns template) ∧
    (stem ≠ [] → template = stem → documentPath (stem ++ List.replicate slashes '/') template = ['/']) ∧
    (stem = [] ∨ template ≠ stem ∧ (∀ rest, template ≠ stem ++ '/' :: rest) →
      documentPath (stem ++ List.replicate slashes '/') template
        = if (dropPatterns template).head? = some '/' then dropPatterns template else '/' :: dropPatterns template) := by
  have hbase := dropEndSlashes_append hstem slashes
  refine ⟨head?_documentPath _ _, ?_, ?_, ?_⟩
  · rintro rest hne rfl
    have hslash : dropPatterns ('/' :: rest) = '/' :: dropPatterns rest := rfl
    rw [documentPath, dropBase_append hbase hne (.inr rfl), hslash, dropPatterns_append hplain, hslash]
    rfl
  · rintro hne rfl
    have hdrop := dropBase_append hbase hne (.inl rfl)
    rw [List.append_nil] at hdrop
    rw [documentPath, hdrop]
    rfl
  · intro hother
    rw [documentPath, dropBase_of_not_segment hbase hother]

/-- The base path `/v1/` of a route below it, of itself, and of a broken template that only shares its characters. -/
theorem documentPath_cases_version :
    "/v1".toList ++ documentPath "/v1/".toList "/v1/clients/\x7bid:[0-9]+\x7d".toList
        = "/v1/clients/\x7bid\x7d".toList ∧
      documentPath "/v1/".toList "/v1".toList = ['/'] ∧
      documentPath "/v1/".toList "/v10\x7d/\x7bid".toList = "/v10\x7d/".toList := by
  have hbase : "/v1/".toList = "/v1".toList ++ List.replicate 1 '/' := by decide
  have hcases (template : List Char) := documentPath_cases "/v1".toList template 1 (by decide) (by decide)
  rw [hbase]
  refine ⟨?_, ?_, ?_⟩
  · rw [(hcases _).2.1 "clients/\x7bid:[0-9]+\x7d".toList (by decide) (by decide)]
    decide
  · exact (hcases _).2.2.1 (by decide) rfl
  · have hother : ∀ rest, "/v10\x7d/\x7bid".toList ≠ "/v1".toList ++ '/' :: rest := by
      intro rest heq
      have hchar := congrArg (fun s : List Char => s[3]?) heq
      exact absurd hchar (by simp)
    rw [(hcases _).2.2.2 (.inr ⟨by decide, hother⟩)]
    decide

end Template

end RouteDoc
