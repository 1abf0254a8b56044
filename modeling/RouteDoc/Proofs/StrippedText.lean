import RouteDoc.Proofs.TextSearch

/-!
Stripping comments twice is stripping them once (`stripComments_textOf`). This holds of every text, also of one that
leaves a literal or a comment open.

Two facts about a single line carry it, in whatever mode the line starts. What the scanner keeps of a line it keeps
whole when it reads it again (`keepFrom_keepFrom`): a blank or the start of the line stands where a comment was, so no
two characters come together that could open one, and a place inside a comment is one of code afterwards
(`Mode.stripped`). And blanks at the end of a line never matter (`keepFrom_trimEnd`), neither inside a literal nor
behind a backslash.
-/

namespace RouteDoc.Text

/-- The text of the lines, each of which ends with a line feed. -/
def textOf (lines : List (List Char)) : List Char :=
  lines.flatMap (· ++ ['\n'])

theorem eq_append_trimEnd (s : List Char) : ∃ tail, (∀ c ∈ tail, isBlank c = true) ∧ s = trimEnd s ++ tail := by
  refine ⟨(s.reverse.takeWhile isBlank).reverse, fun c hc => ?_, ?_⟩
  · exact List.mem_takeWhile_imp (List.mem_reverse.mp hc)
  · rw [trimEnd, ← List.reverse_append, List.takeWhile_append_dropWhile, List.reverse_reverse]

theorem isBlank_getLast?_trimEnd {s : List Char} {c : Char} (h : (trimEnd s).getLast? = some c) :
    isBlank c = false := by
  have hhead := List.head?_dropWhile_not isBlank s.reverse
  rw [trimEnd, List.getLast?_reverse] at h
  rw [h] at hhead
  exact hhead

theorem dropReturn_of_last {line : List Char} (h : line.getLast? ≠ some '\r') : dropReturn line = line := by
  rcases Source.dropReturn_or line with hsame | hreturn
  · exact hsame
  · rw [← hreturn, List.getLast?_concat] at h
    exact absurd rfl h

theorem dropReturn_subset (line : List Char) : dropReturn line ⊆ line := by
  intro c hc
  rcases Source.dropReturn_or line with hsame | hreturn
  · exact hsame ▸ hc
  · rw [← hreturn]
    exact List.mem_append_left _ hc

theorem linesOfPieces_cons (line : List Char) {pieces : List (List Char)} (h : pieces ≠ []) :
    linesOfPieces (line :: pieces) = dropReturn line :: linesOfPieces pieces := by
  rw [linesOfPieces]
  exact h

/-- Lines are read back from their text, if no line feed stands in them and no carriage return at their ends. -/
theorem lines_textOf {lines : List (List Char)} (hfeed : ∀ line ∈ lines, '\n' ∉ line)
    (hreturn : ∀ line ∈ lines, line.getLast? ≠ some '\r') : Text.lines (textOf lines) = lines := by
  induction lines with
  | nil => rfl
  | cons line lines ih =>
    have hrest := ih (fun other hother => hfeed other (by simp [hother])) fun other hother =>
      hreturn other (by simp [hother])
    have hne : split '\n' (textOf lines) ≠ [] := Source.split_eq_splitOnP '\n' _ ▸ List.splitOnP_ne_nil _ _
    have htext : textOf (line :: lines) = line ++ '\n' :: textOf lines := by simp [textOf]
    rw [Text.lines, htext, split_append (hfeed line (by simp)), linesOfPieces_cons line hne, ← Text.lines, hrest,
      dropReturn_of_last (hreturn line (by simp))]

theorem mem_linesOfPieces {pieces : List (List Char)} {line : List Char} (h : line ∈ linesOfPieces pieces) :
    ∃ piece ∈ pieces, line ⊆ piece := by
  fun_induction linesOfPieces pieces with
  | case1 => cases h
  | case2 last hempty => cases h
  | case3 last hempty => exact ⟨last, by simp, List.mem_singleton.mp h ▸ List.Subset.refl _⟩
  | case4 piece pieces hne ih =>
    rcases List.mem_cons.mp h with rfl | h
    · exact ⟨piece, by simp, dropReturn_subset piece⟩
    · obtain ⟨other, hother, hsub⟩ := ih h
      exact ⟨other, by simp [hother], hsub⟩

theorem lineFeed_not_mem_lines {s line : List Char} (h : line ∈ lines s) : '\n' ∉ line := by
  obtain ⟨piece, hpiece, hsub⟩ := mem_linesOfPieces h
  exact fun hmem => not_mem_of_mem_split hpiece (hsub hmem)

end RouteDoc.Text

namespace RouteDoc.Source

open RouteDoc.Text

/-- The mode at the same place when the comments are gone. -/
def Mode.stripped : Mode → Mode
  | .comment => .code
  | mode => mode

/-! ## Reading a stripped line again -/

theorem head?_keepFrom_code {kept : Bool} {cs : List Char} (h : cs.head? ≠ some '/') :
    (keepFrom .code kept cs).1.head? = cs.head? := by
  cases cs with
  | nil => rfl
  | cons c cs =>
    have hc : c ≠ '/' := by simpa using h
    rw [keepFrom_code kept fun heq => absurd heq hc]
    rfl

theorem stripped_behindCode (c : Char) : (Mode.behindCode c).stripped = Mode.behindCode c := by
  unfold Mode.behindCode
  split
  · rfl
  · split <;> rfl

theorem keepFrom_keepFrom (mode : Mode) (kept again : Bool) (line : List Char) :
    keepFrom mode.stripped again (keepFrom mode kept line).1
      = ((keepFrom mode kept line).1, (keepFrom mode kept line).2.stripped) := by
  induction mode, kept, line using keepFrom.induct generalizing again with
  | case1 mode kept => cases mode <;> rfl
  | case2 kept rest => rfl
  | case3 kept cs ih =>
    rw [keepFrom]
    exact ih again
  | case4 kept c cs hline hblock out last _ ih =>
    have hopen : c = '/' → cs.head? ≠ some '/' ∧ cs.head? ≠ some '*' := fun hc =>
      ⟨head?_ne_of_ne_cons fun rest => hline rest hc, head?_ne_of_ne_cons fun rest => hblock rest hc⟩
    -- behind a slash of code the same character follows as before
    have hopen' : c = '/' → (keepFrom (Mode.behindCode c) true cs).1.head? ≠ some '/' ∧
        (keepFrom (Mode.behindCode c) true cs).1.head? ≠ some '*' := by
      rintro rfl
      have hmode : Mode.behindCode '/' = .code := by decide
      rw [hmode, head?_keepFrom_code (hopen rfl).1]
      exact hopen rfl
    have hrest := ih true
    rw [stripped_behindCode] at hrest
    rw [keepFrom_code kept hopen]
    show keepFrom .code again (c :: _) = _
    rw [keepFrom_code again hopen', hrest]
  | case5 kept cs out last _ ih =>
    cases kept with
    | false =>
      simp only [keepFrom, Bool.false_eq_true, if_false]
      exact ih again
    | true =>
      have hblank : ' ' = '/' → (keepFrom .code true cs).1.head? ≠ some '/' ∧
          (keepFrom .code true cs).1.head? ≠ some '*' := fun heq => absurd heq (by decide)
      have hmode : Mode.behindCode ' ' = .code := by decide
      have hrest : keepFrom .code true (keepFrom .code true cs).1 = _ := ih true
      simp only [keepFrom, if_true]
      show keepFrom .code again (' ' :: _) = _
      rw [keepFrom_code again hblank, hmode, hrest]
  | case6 kept c cs hclose ih =>
    have hopen : c = '*' → cs.head? ≠ some '/' := fun hc =>
      head?_ne_of_ne_cons fun rest => hclose rest hc
    rw [keepFrom_comment kept hopen]
    exact ih again
  | case7 kept c cs out last _ ih =>
    have hmode : (if c = '\x60' then Mode.code else .raw).stripped = if c = '\x60' then .code else .raw := by
      split <;> rfl
    have hrest := ih true
    rw [hmode] at hrest
    rw [keepFrom_raw]
    show keepFrom .raw again (c :: _) = _
    rw [keepFrom_raw, hrest]
  | case8 quote kept c cs out last _ ih =>
    have hrest : keepFrom (.quoted quote) true (keepFrom (.quoted quote) true cs).1 = _ := ih true
    simp only [keepFrom]
    show keepFrom (.quoted quote) again ('\\' :: c :: _) = _
    rw [keepFrom, hrest]
  | case9 quote kept c cs hescape out last _ ih =>
    by_cases hc : c = '\\'
    · cases cs with
      | nil =>
        subst hc
        rw [keepFrom_backslash]
        exact keepFrom_backslash quote again
      | cons d cs => exact absurd rfl (hescape d cs hc)
    · have hmode : (if c = quote then Mode.code else .quoted quote).stripped
          = if c = quote then .code else .quoted quote := by
        split <;> rfl
      have hrest := ih true
      rw [hmode] at hrest
      rw [keepFrom_quoted quote kept cs hc]
      show keepFrom (.quoted quote) again (c :: _) = _
      rw [keepFrom_quoted quote again _ hc, hrest]

/-! ## Ends of lines -/

theorem keepFrom_append_blanks (mode : Mode) (kept : Bool) (line : List Char) {blanks : List Char}
    (h : ∀ c ∈ blanks, isBlank c = true) :
    ∃ tail, (∀ c ∈ tail, isBlank c = true) ∧ keepFrom mode kept (line ++ blanks)
      = ((keepFrom mode kept line).1 ++ tail, (keepFrom mode kept line).2) := by
  induction blanks generalizing line with
  | nil => exact ⟨[], by simp, by simp⟩
  | cons blank blanks ih =>
    have hblank := h blank (by simp)
    obtain ⟨tail, htail, hrest⟩ := ih (line ++ [blank]) fun c hc => h c (by simp [hc])
    obtain ⟨first, hfirst, hline⟩ := keepFrom_blank hblank mode kept line
    refine ⟨first ++ tail, fun c hc => ?_, ?_⟩
    · rcases List.mem_append.mp hc with hc | hc
      · exact hfirst c hc ▸ hblank
      · exact htail c hc
    · rw [List.append_cons, hrest, hline, List.append_assoc]

theorem keepFrom_trimEnd (mode : Mode) (kept : Bool) (line : List Char) :
    trimEnd (keepFrom mode kept (trimEnd line)).1 = trimEnd (keepFrom mode kept line).1 ∧
      (keepFrom mode kept (trimEnd line)).2 = (keepFrom mode kept line).2 := by
  obtain ⟨blanks, hblanks, hline⟩ := eq_append_trimEnd line
  obtain ⟨tail, htail, hkeep⟩ := keepFrom_append_blanks mode kept (trimEnd line) hblanks
  rw [← hline] at hkeep
  rw [hkeep]
  exact ⟨(trimEnd_append htail).symm, rfl⟩

/-- What is kept of a line stands in it, or is the blank in place of a comment. -/
theorem mem_keepFrom {mode : Mode} {kept : Bool} {line : List Char} {c : Char}
    (h : c ∈ (keepFrom mode kept line).1) : c ∈ line ∨ c = ' ' := by
  fun_induction keepFrom mode kept line <;> grind

theorem stripFrom_cons (mode : Mode) (line : List Char) (lines : List (List Char)) :
    stripFrom mode (line :: lines)
      = trimEnd (keepFrom mode false line).1 :: stripFrom (keepFrom mode false line).2 lines :=
  rfl

/-- Every stripped line is a line without the blanks at its end, in a mode that the lines before leave. -/
theorem mem_stripFrom {mode : Mode} {lines : List (List Char)} {stripped : List Char}
    (h : stripped ∈ stripFrom mode lines) :
    ∃ mode', ∃ line ∈ lines, stripped = trimEnd (keepFrom mode' false line).1 := by
  induction lines generalizing mode with
  | nil => cases h
  | cons line lines ih =>
    rw [stripFrom_cons] at h
    rcases List.mem_cons.mp h with rfl | h
    · exact ⟨mode, line, by simp, rfl⟩
    · obtain ⟨mode', other, hother, heq⟩ := ih h
      exact ⟨mode', other, by simp [hother], heq⟩

/-- The stripped lines of a text can be read back from the text that they make. -/
theorem lines_textOf_stripFrom (mode : Mode) (source : List Char) :
    lines (textOf (stripFrom mode (lines source))) = stripFrom mode (lines source) := by
  apply lines_textOf
  · intro stripped hstripped hfeed
    obtain ⟨mode', line, hline, rfl⟩ := mem_stripFrom hstripped
    obtain ⟨tail, -, htrim⟩ := eq_append_trimEnd (keepFrom mode' false line).1
    have hkept : '\n' ∈ (keepFrom mode' false line).1 := htrim ▸ List.mem_append_left tail hfeed
    rcases mem_keepFrom hkept with hmem | heq
    · exact lineFeed_not_mem_lines hline hmem
    · cases heq
  · intro stripped hstripped hreturn
    obtain ⟨mode', line, -, rfl⟩ := mem_stripFrom hstripped
    have hblank := isBlank_getLast?_trimEnd hreturn
    revert hblank
    decide

/-! ## Stripping twice -/

/-- One line keeps the modes of both runs in step, and hence all lines do. -/
theorem stripFrom_stripFrom (mode : Mode) (lines : List (List Char)) :
    stripFrom mode.stripped (stripFrom mode lines) = stripFrom mode lines := by
  induction lines generalizing mode with
  | nil => rfl
  | cons line lines ih =>
    obtain ⟨htrim, hmode⟩ := keepFrom_trimEnd mode.stripped false (keepFrom mode false line).1
    rw [keepFrom_keepFrom] at htrim hmode
    rw [stripFrom_cons, stripFrom_cons, htrim, hmode, ih]

/-- **Stripping comments is idempotent.** The lines that are left of a text are also left of the text that they
make. -/
theorem stripComments_textOf (source : List Char) :
    stripComments (textOf (stripComments source)) = stripComments source := by
  have hlines : lines (textOf (stripComments source)) = stripComments source := lines_textOf_stripFrom .code source
  rw [stripComments, hlines]
  exact stripFrom_stripFrom .code (lines source)

-- a blank that a backslash escapes is trimmed, and the slashes on both sides of a comment stay apart
example : stripComments (textOf ["\"a\\ ".toList, "/ /**/ /".toList]) = ["\"a\\".toList, "/   /".toList] := by
  decide +kernel

end RouteDoc.Source
