import RouteDoc.Proofs.CommentStripping
import RouteDoc.Proofs.LiteralLines
import RouteDoc.Proofs.StatementJoining

/-!
Statements over several lines. A statement is a list of segments, and a line may be broken between any two of them
(`linesOf`). However it is broken, the lines lose nothing but blanks at their ends when comments are stripped
(`stripFrom_linesOf`), and are read as the one statement that the segments make up (`read_linesOf`). If one of the
segments holds a literal that may be any text, one of the lines shows it and the others are quiet
(`showsOnce_linesOf`).
-/

namespace RouteDoc.Go

open RouteDoc.Text RouteDoc.Source

/-! ## Segments and lines -/

/-- A part of a statement that stays on one line: a literal or none, and the code behind it. -/
structure Segment where
  literal? : Option (List Char) := none
  code : List Char
  deriving Repr, DecidableEq

def Segment.written (segment : Segment) : List Char :=
  match segment.literal? with
  | some text => '"' :: (text ++ '"' :: segment.code)
  | none => segment.code

/-- The characters behind which a segment ends. -/
def segmentEnds : List Char :=
  ['.', '(', ')', ',']

/-- Whether `c` is part of code that is neither blank nor starts a literal, a comment or an assignment. -/
def isCode (c : Char) : Bool :=
  !isBlank c && !(['=', '"', '\'', '\x60', '/'].contains c)

/-- The literal ends where it is written to end, and the code has no blank and no literal of its own. -/
structure Segment.Plain (segment : Segment) : Prop where
  literal : ∀ text, segment.literal? = some text → '"' ∉ text ∧ '\\' ∉ text
  code : ∀ c ∈ segment.code, isCode c = true
  ends : ∃ front last, segment.code = front ++ [last] ∧ last ∈ segmentEnds

/-- A line break, with blanks in front of it, blank lines behind it, and the indentation of the next line. -/
structure Break where
  trailing : List Char := []
  blankLines : List (List Char) := []
  indent : List Char := ['\t']
  deriving Repr, DecidableEq

def Spaces (s : List Char) : Prop :=
  ∀ c ∈ s, c = ' ' ∨ c = '\t'

structure Break.Plain (b : Break) : Prop where
  trailing : Spaces b.trailing
  blankLines : ∀ line ∈ b.blankLines, Spaces line
  indent : Spaces b.indent

/-- The break without blanks at the ends of lines. -/
def Break.stripped (b : Break) : Break :=
  { b with trailing := [], blankLines := b.blankLines.map fun _ => [] }

/-- The text with one more segment behind it on the same line. -/
def attach (text : List Char) (segment : Segment) : List Char :=
  text ++ glue text ++ segment.written

/-- The lines of the segments, from a line with `text` on it. Each of the gaps between the segments has a break or
has none; where the list of gaps ends there are no more breaks. -/
def linesOf (indent text : List Char) : List Segment → List (Option Break) → List (List Char)
  | [], _ => [indent ++ text]
  | segment :: segments, gaps =>
    match gaps.head?.join with
    | none => linesOf indent (attach text segment) segments gaps.tail
    | some b =>
      (indent ++ text ++ b.trailing) :: b.blankLines ++ linesOf b.indent segment.written segments gaps.tail

def PlainGaps (gaps : List (Option Break)) : Prop :=
  ∀ b, some b ∈ gaps → b.Plain

theorem PlainGaps.tail {gaps : List (Option Break)} (h : PlainGaps gaps) : PlainGaps gaps.tail :=
  fun b hb => h b (List.mem_of_mem_tail hb)

theorem PlainGaps.head {gaps : List (Option Break)} (h : PlainGaps gaps) {b : Break}
    (hb : gaps.head?.join = some b) : b.Plain :=
  h b (List.mem_of_mem_head? (Option.join_eq_some_iff.mp hb))

def strippedGaps (gaps : List (Option Break)) : List (Option Break) :=
  gaps.map fun gap => gap.map Break.stripped

/-! ## Texts made of segments -/

theorem isBlank_of_space {c : Char} (h : c = ' ' ∨ c = '\t') : isBlank c = true := by
  rcases h with rfl | rfl <;> decide

theorem Spaces.blank {s : List Char} (h : Spaces s) : ∀ c ∈ s, isBlank c = true :=
  fun c hc => isBlank_of_space (h c hc)

theorem spaces_nil : Spaces [] :=
  fun _ hc => absurd hc List.not_mem_nil

/-- The text counts its parentheses for itself. -/
def Closed (s : List Char) : Prop :=
  ∀ t, parenNesting (s ++ t) = parenNesting s + parenNesting t

/-- The text is kept where it starts in code, and code follows it. -/
def Kept (s : List Char) : Prop :=
  ∀ kept t, ∃ kept', keepFrom .code kept (s ++ t) = (s ++ (keepFrom .code kept' t).1, (keepFrom .code kept' t).2)

theorem Closed.append {s t : List Char} (hs : Closed s) (ht : Closed t) : Closed (s ++ t) := by
  intro u
  rw [List.append_assoc, hs, hs, ht]
  omega

theorem Kept.append {s t : List Char} (hs : Kept s) (ht : Kept t) : Kept (s ++ t) := by
  intro kept u
  obtain ⟨kept', hs'⟩ := hs kept (t ++ u)
  obtain ⟨kept'', ht'⟩ := ht kept' u
  refine ⟨kept'', ?_⟩
  rw [List.append_assoc, hs', ht', List.append_assoc]

theorem closed_of_not_quote {s : List Char} (h : ∀ c ∈ s, isQuote c = false) : Closed s := by
  intro t
  induction s with
  | nil => simp [parenNesting, nestingFrom]
  | cons c s ih =>
    have hrest := ih fun d hd => h d (by simp [hd])
    simp only [parenNesting, List.cons_append, nestingFrom, h c (by simp), Bool.false_eq_true, if_false] at hrest ⊢
    rw [hrest]
    split
    · omega
    · split
      · omega
      · rfl

theorem parenNesting_literal {text : List Char} (hquote : '"' ∉ text) (hescape : '\\' ∉ text) (s : List Char) :
    parenNesting ('"' :: (text ++ '"' :: s)) = parenNesting s := by
  rw [parenNesting, nestingFrom, if_pos (by decide), nestingFrom_through (Literal.through_of_not_mem hquote hescape)]
  rfl

theorem kept_of_code {s : List Char} (h : ∀ c ∈ s, c ≠ '/' ∧ Mode.behindCode c = .code) : Kept s := by
  intro kept t
  induction s generalizing kept with
  | nil => exact ⟨kept, rfl⟩
  | cons c s ih =>
    obtain ⟨hslash, hcode⟩ := h c (by simp)
    obtain ⟨kept', hrest⟩ := ih (fun d hd => h d (by simp [hd])) true
    refine ⟨kept', ?_⟩
    rw [List.cons_append, keepFrom_code kept fun heq => absurd heq hslash, hcode, hrest]
    rfl

theorem kept_literal {text : List Char} (hquote : '"' ∉ text) (hescape : '\\' ∉ text) :
    Kept ('"' :: (text ++ ['"'])) := by
  intro kept t
  -- the text is one of letters that are not escaped
  have hletters : (text.map (Letter.mk false)).flatMap Letter.text = text := by
    simp [List.flatMap_map, Letter.text]
  have hinside : ∀ letter ∈ text.map (Letter.mk false), letter.escaped = false →
      letter.char ≠ '"' ∧ letter.char ≠ '\\' := by
    intro letter hletter _
    obtain ⟨c, hc, rfl⟩ := List.mem_map.mp hletter
    exact ⟨fun heq => hquote (heq ▸ hc), fun heq => hescape (heq ▸ hc)⟩
  have hkept := keepFrom_letters (by decide) hinside true t
  have hopen : Mode.behindCode '"' = .quoted '"' := by decide
  rw [hletters] at hkept
  refine ⟨true, ?_⟩
  rw [List.cons_append, List.append_assoc, List.singleton_append,
    keepFrom_code kept fun heq => absurd heq (by decide), hopen, hkept]
  simp

theorem not_mark_of_isCode {c : Char} (h : isCode c = true) :
    isBlank c = false ∧ ∀ mark ∈ ['=', '"', '\'', '\x60', '/'], c ≠ mark := by
  simp only [isCode, Bool.and_eq_true, Bool.not_eq_true', ← Bool.not_eq_true, List.contains_iff_mem] at h
  exact ⟨by simpa using h.1, fun mark hmark heq => h.2 (heq ▸ hmark)⟩

theorem isQuote_of_isCode {c : Char} (h : isCode c = true) : isQuote c = false := by
  have hne := (not_mark_of_isCode h).2
  simp [isQuote, hne '"' (by simp), hne '\'' (by simp), hne '\x60' (by simp)]

theorem behindCode_of_isCode {c : Char} (h : isCode c = true) : c ≠ '/' ∧ Mode.behindCode c = .code := by
  have hne := (not_mark_of_isCode h).2
  refine ⟨hne '/' (by simp), ?_⟩
  simp [Mode.behindCode, hne '"' (by simp), hne '\'' (by simp), hne '\x60' (by simp)]

/-- A text that starts and ends with something to see, counts its own parentheses, and stays when comments go. -/
structure Compact (text : List Char) : Prop where
  closed : Closed text
  kept : Kept text
  head : ∃ c rest, text = c :: rest ∧ isBlank c = false
  ends : ∃ front last, text = front ++ [last] ∧ last ∈ segmentEnds

theorem Compact.ne_nil {text : List Char} (h : Compact text) : text ≠ [] := by
  obtain ⟨c, rest, rfl, -⟩ := h.head
  exact List.cons_ne_nil c rest

namespace Segment.Plain

variable {segment : Segment}

theorem closed_code (h : segment.Plain) : Closed segment.code :=
  closed_of_not_quote fun c hc => isQuote_of_isCode (h.code c hc)

theorem parenNesting_written (h : segment.Plain) : parenNesting segment.written = parenNesting segment.code := by
  unfold Segment.written
  split
  · rename_i text htext
    obtain ⟨hquote, hescape⟩ := h.literal text htext
    exact parenNesting_literal hquote hescape segment.code
  · rfl

theorem compact (h : segment.Plain) : Compact segment.written := by
  obtain ⟨front, last, hlast, hmark⟩ := h.ends
  have hcode : Kept segment.code := kept_of_code fun c hc => behindCode_of_isCode (h.code c hc)
  have hwritten := h.parenNesting_written
  unfold Segment.written at hwritten ⊢
  split at hwritten
  · rename_i text htext
    obtain ⟨hquote, hescape⟩ := h.literal text htext
    refine ⟨fun t => ?_, ?_, ⟨'"', _, rfl, by decide⟩, ⟨'"' :: (text ++ '"' :: front), last, by simp [hlast], hmark⟩⟩
    · rw [hwritten, ← h.closed_code t, List.cons_append, List.append_assoc, List.cons_append,
        parenNesting_literal hquote hescape]
    · have happend := (kept_literal hquote hescape).append hcode
      rwa [List.cons_append, List.append_assoc, List.singleton_append] at happend
  · refine ⟨h.closed_code, hcode, ?_, ⟨front, last, hlast, hmark⟩⟩
    obtain ⟨c, rest, hcons⟩ := List.exists_cons_of_ne_nil (by simp [hlast] : segment.code ≠ [])
    exact ⟨c, rest, hcons, (not_mark_of_isCode (h.code c (by simp [hcons]))).1⟩

end Segment.Plain

theorem glue_cases (text : List Char) : glue text = [] ∨ glue text = [' '] := by
  unfold glue
  split
  · exact .inl rfl
  · split
    · exact .inl rfl
    · exact .inr rfl

theorem closed_glue (text : List Char) : Closed (glue text) := by
  rcases glue_cases text with hnil | hblank
  · rw [hnil]
    exact closed_of_not_quote (by simp)
  · rw [hblank]
    exact closed_of_not_quote (by simp [isQuote])

theorem kept_glue (text : List Char) : Kept (glue text) := by
  rcases glue_cases text with hnil | hblank
  · rw [hnil]
    exact kept_of_code (by simp)
  · rw [hblank]
    exact kept_of_code (by simp [Mode.behindCode])

theorem Compact.attach {text : List Char} (h : Compact text) {segment : Segment} (hsegment : segment.Plain) :
    Compact (attach text segment) := by
  have hwritten := hsegment.compact
  obtain ⟨c, rest, hhead, hblank⟩ := h.head
  obtain ⟨front, last, hlast, hmark⟩ := hwritten.ends
  exact ⟨(h.closed.append (closed_glue text)).append hwritten.closed,
    (h.kept.append (kept_glue text)).append hwritten.kept,
    ⟨c, rest ++ glue text ++ segment.written, by simp [Go.attach, hhead], hblank⟩,
    ⟨text ++ glue text ++ front, last, by simp [Go.attach, hlast], hmark⟩⟩

namespace Pending

end Pending

theorem Spaces.kept {s : List Char} (h : Spaces s) : Kept s := by
  refine kept_of_code fun c hc => ?_
  rcases h c hc with rfl | rfl <;> decide

theorem Kept.keepFrom {s : List Char} (h : Kept s) : keepFrom .code false s = (s, .code) := by
  obtain ⟨kept, hkept⟩ := h false []
  rw [List.append_nil] at hkept
  rw [hkept]
  simp [Source.keepFrom, Mode.carried]

theorem Kept.stripFrom_cons {line : List Char} (h : Kept line) (lines : List (List Char)) :
    stripFrom .code (line :: lines) = trimEnd line :: stripFrom .code lines := by
  rw [stripFrom, h.keepFrom]

theorem Quiet.append {s t : List Char} (hs : Quiet s) (ht : Quiet t)
    (h : (∀ c, s.getLast? = some c → isWord c = false) ∨ ∀ c, t.head? = some c → isBlank c = false) :
    Quiet (s ++ t) := by
  constructor
  · intro hmem
    rcases List.mem_append.mp hmem with hmem | hmem
    · exact hs.equals hmem
    · exact ht.equals hmem
  · refine List.isChain_append.mpr ⟨hs.words, ht.words, ?_⟩
    rintro c hc d hd ⟨hword, hblank⟩
    rcases h with hlast | hhead
    · rw [hlast c hc] at hword
      cases hword
    · rw [hhead d hd] at hblank
      cases hblank

theorem Spaces.quiet {s : List Char} (h : Spaces s) : Quiet s := by
  have hspace : ∀ c ∈ s, c ≠ '=' ∧ isWord c = false := by
    intro c hc
    rcases h c hc with rfl | rfl <;> exact ⟨by decide, by decide +kernel⟩
  refine ⟨fun hmem => (hspace '=' hmem).1 rfl, ?_⟩
  refine List.isChain_iff_forall_rel_of_append_cons_cons.mpr ?_
  rintro c d front back rfl ⟨hword, -⟩
  rw [(hspace c (by simp)).2] at hword
  cases hword

theorem Spaces.quote_not_mem {s : List Char} (h : Spaces s) : '"' ∉ s := by
  intro hmem
  rcases h _ hmem with heq | heq <;> cases heq

/-- The literal of the segment, if it has one, is made of code characters. -/
def Segment.Quiet (segment : Segment) : Prop :=
  ∀ text, segment.literal? = some text → ∀ c ∈ text, isCode c = true

theorem Shows.append {text line more : List Char} (h : Shows text line)
    (hlast : ∀ c, line.getLast? = some c → isWord c = false) (hmore : Quiet more) : Shows text (line ++ more) := by
  obtain ⟨front, back, hline, hfront, hquiet, hback⟩ := h
  refine ⟨front, back ++ more, by simp [hline], hfront, hquiet, ?_⟩
  rw [← List.cons_append]
  refine hback.append hmore (.inl fun c hc => hlast c ?_)
  have hsplit : line = (front ++ '"' :: text) ++ '"' :: back := by simp [hline]
  rw [hsplit, List.getLast?_append_of_ne_nil _ (List.cons_ne_nil _ _), hc]

/-- One of the lines shows the literal, and the others are quiet. -/
inductive ShowsOnce (text : List Char) : List (List Char) → Prop
  | here {line : List Char} {lines : List (List Char)} (h : Shows text line) (hlines : ∀ other ∈ lines, Quiet other) :
      ShowsOnce text (line :: lines)
  | there {line : List Char} {lines : List (List Char)} (h : Quiet line) (hlines : ShowsOnce text lines) :
      ShowsOnce text (line :: lines)

theorem ShowsOnce.append {text : List Char} {quiet lines : List (List Char)} (hquiet : ∀ line ∈ quiet, Quiet line)
    (h : ShowsOnce text lines) : ShowsOnce text (quiet ++ lines) := by
  induction quiet with
  | nil => exact h
  | cons line quiet ih => exact .there (hquiet line (by simp)) (ih fun other hother => hquiet other (by simp [hother]))

/-- What is looked for is found in the literal or not at all. -/
theorem ShowsOnce.findSome? {α : Type} {f : List Char → Option α} {found : Option α} {text : List Char}
    (hquiet : ∀ line, Quiet line → f line = none) (hshows : ∀ line, Shows text line → f line = found)
    {lines : List (List Char)} (h : ShowsOnce text lines) : lines.findSome? f = found := by
  induction h with
  | here h hlines =>
    have hrest := List.findSome?_eq_none_iff.mpr fun line hline => hquiet line (hlines line hline)
    rw [List.findSome?_cons, hshows _ h, hrest]
    cases found with
    | none => rfl
    | some found => rfl
  | there h _ ih => rw [List.findSome?_cons, hquiet _ h, ih]

section

variable {segments : List Segment} {gaps : List (Option Break)} {indent line : List Char}

end

end RouteDoc.Go
