import Mathlib.Data.List.TakeWhile
import RouteDoc.Routes.Mux

/-!
Statements are joined from lines, and a statement goes on while its parentheses are open. Lines that end
their last statement may be followed by anything: the statements of both parts are those of each
(`Go.leavesNothing_iff`), and so are the routes found in them (`Routes.scanStatements_append`).

Whether a statement has ended is told from a count that starts outside of literals on every line
(`lineDepth`). A raw string goes on over the end of a line, so this is not the number of parentheses that
the text leaves open (`Place.behind`). The count is never above that number as long as no line that starts
inside a raw string has a parenthesis (`lineDepth_le`). Where such a line closes a call, the count stays
above zero, and whatever follows is taken for a part of the call (`statements_append_iff`).
-/

namespace RouteDoc

theorem Text.eq_append_trim (s : List Char) :
    ∃ lead tail, (∀ c ∈ lead, isBlank c = true) ∧ (∀ c ∈ tail, isBlank c = true) ∧
      s = lead ++ trim s ++ tail := by
  refine ⟨s.takeWhile isBlank, ((trimStart s).reverse.takeWhile isBlank).reverse, ?_, ?_, ?_⟩
  · exact fun c hc => List.mem_takeWhile_imp hc
  · exact fun c hc => List.mem_takeWhile_imp (List.mem_reverse.mp hc)
  · have hend : trim s ++ ((trimStart s).reverse.takeWhile isBlank).reverse = trimStart s := by
      rw [trim, trimEnd, ← List.reverse_append, List.takeWhile_append_dropWhile,
        List.reverse_reverse]
    rw [List.append_assoc, hend, trimStart, List.takeWhile_append_dropWhile]

namespace Go

open RouteDoc.Text

/-! ## Lines that leave nothing open -/

/-- What has been read of a statement that goes on: its text, and the count of its parentheses. -/
structure Pending where
  text : List Char := []
  depth : Int := 0
  deriving Repr, DecidableEq

namespace Pending

/-- One line more: what is pending behind it, and the statement that it ends. -/
def add (pending : Pending) (line : List Char) : Pending × List (List Char) :=
  let text := trim line
  if text.isEmpty then (pending, [])
  else
    let joined := pending.text ++ glue pending.text ++ text
    let depth := pending.depth + parenNesting text
    if endsStatement depth text then ({}, [joined]) else (⟨joined, depth⟩, [])

/-- What is pending behind the lines, and the statements that they end. -/
def read : Pending → List (List Char) → Pending × List (List Char)
  | pending, [] => (pending, [])
  | pending, line :: lines =>
    (((pending.add line).1.read lines).1, (pending.add line).2 ++ ((pending.add line).1.read lines).2)

/-- The statement that the end of the file leaves. -/
def rest (pending : Pending) : List (List Char) :=
  if pending.text.isEmpty then [] else [pending.text]

/-- What is not begun has no open parentheses. -/
def Fair (pending : Pending) : Prop :=
  pending.text = [] → pending.depth = 0

/-- What a line can do: nothing, end the statement, or leave it pending with more text. -/
theorem add_cases (pending : Pending) (line : List Char) :
    (trim line = [] ∧ pending.add line = (pending, [])) ∨
      (trim line ≠ [] ∧
        endsStatement (pending.depth + parenNesting (trim line)) (trim line) = true ∧
        pending.add line = ({}, [pending.text ++ glue pending.text ++ trim line])) ∨
      (trim line ≠ [] ∧
        endsStatement (pending.depth + parenNesting (trim line)) (trim line) = false ∧
        pending.add line = (⟨pending.text ++ glue pending.text ++ trim line,
          pending.depth + parenNesting (trim line)⟩, [])) := by
  unfold add
  by_cases hblank : trim line = []
  · exact .inl ⟨hblank, by simp [hblank]⟩
  · cases hends : endsStatement (pending.depth + parenNesting (trim line)) (trim line) with
    | true => exact .inr (.inl ⟨hblank, rfl, by simp [hblank, hends]⟩)
    | false => exact .inr (.inr ⟨hblank, rfl, by simp [hblank, hends]⟩)

theorem statementsFrom_cons (pending : Pending) (line : List Char) (lines : List (List Char)) :
    statementsFrom pending.text pending.depth (line :: lines) =
      (pending.add line).2 ++
        statementsFrom (pending.add line).1.text (pending.add line).1.depth lines := by
  rcases add_cases pending line with ⟨hblank, hadd⟩ | ⟨hblank, hends, hadd⟩ | ⟨hblank, hends, hadd⟩
  · simp [hadd, statementsFrom, hblank]
  · simp [hadd, statementsFrom, hblank, hends]
  · simp [hadd, statementsFrom, hblank, hends]

theorem statementsFrom_append (pending : Pending) (front back : List (List Char)) :
    statementsFrom pending.text pending.depth (front ++ back) =
      (pending.read front).2 ++
        statementsFrom (pending.read front).1.text (pending.read front).1.depth back := by
  induction front generalizing pending with
  | nil => rfl
  | cons line front ih =>
    rw [List.cons_append, statementsFrom_cons, ih, read, List.append_assoc]

theorem statementsFrom_eq (pending : Pending) (lines : List (List Char)) :
    statementsFrom pending.text pending.depth lines
      = (pending.read lines).2 ++ (pending.read lines).1.rest := by
  have happend := statementsFrom_append pending lines []
  rwa [List.append_nil] at happend

theorem fair_add {pending : Pending} (h : pending.Fair) (line : List Char) :
    (pending.add line).1.Fair := by
  rcases add_cases pending line with ⟨-, hadd⟩ | ⟨-, -, hadd⟩ | ⟨hblank, -, hadd⟩
  · rw [hadd]
    exact h
  · rw [hadd]
    exact fun _ => rfl
  · rw [hadd]
    intro hempty
    exact absurd (List.append_eq_nil_iff.mp hempty).2 hblank

theorem fair_read {pending : Pending} (h : pending.Fair) (lines : List (List Char)) :
    (pending.read lines).1.Fair := by
  induction lines generalizing pending with
  | nil => exact h
  | cons line lines ih => exact ih (fair_add h line)

theorem statementsFrom_blank {lines : List (List Char)} (h : ∀ line ∈ lines, trim line = [])
    (current : List Char) (depth : Int) :
    statementsFrom current depth lines = if current.isEmpty then [] else [current] := by
  induction lines with
  | nil => rfl
  | cons line lines ih =>
    rw [statementsFrom]
    simp [h line (by simp), ih fun other hother => h other (by simp [hother])]

/-- What is pending goes on in the first statement of the lines that follow. -/
theorem statementsFrom_pending (pending : Pending) {lines : List (List Char)}
    (hlines : ∃ line ∈ lines, trim line ≠ []) :
    ∃ more rest, more ≠ [] ∧
      statementsFrom pending.text pending.depth lines = (pending.text ++ more) :: rest := by
  induction lines generalizing pending with
  | nil =>
    obtain ⟨line, hline, -⟩ := hlines
    cases hline
  | cons line lines ih =>
    rw [statementsFrom_cons]
    rcases add_cases pending line with ⟨hblank, hadd⟩ | ⟨hblank, -, hadd⟩ | ⟨hblank, -, hadd⟩
    · obtain ⟨other, hother, hne⟩ := hlines
      rcases List.mem_cons.mp hother with rfl | hother
      · exact absurd hblank hne
      · rw [hadd]
        exact ih pending ⟨other, hother, hne⟩
    · rw [hadd]
      refine ⟨glue pending.text ++ trim line, statementsFrom [] 0 lines, by simp [hblank], ?_⟩
      simp
    · rw [hadd]
      by_cases hrest : ∃ other ∈ lines, trim other ≠ []
      · obtain ⟨more, rest, -, hmore⟩ := ih (pending.add line).1 hrest
        rw [hadd] at hmore
        refine ⟨glue pending.text ++ trim line ++ more, rest, by simp [hblank], ?_⟩
        rw [List.nil_append, hmore]
        simp
      · refine ⟨glue pending.text ++ trim line, [], by simp [hblank], ?_⟩
        rw [statementsFrom_blank (by simpa using hrest)]
        simp [hblank]

end Pending

theorem statements_append_of_nothing {front : List (List Char)}
    (h : (Pending.read {} front).1.text = []) (back : List (List Char)) :
    statements (front ++ back) = statements front ++ statements back := by
  have hstart : Pending.Fair {} := fun _ => rfl
  have hdepth : (Pending.read {} front).1.depth = 0 := Pending.fair_read hstart front h
  have hfront : statements front = _ := Pending.statementsFrom_eq {} front
  have happend : statements (front ++ back) = _ := Pending.statementsFrom_append {} front back
  rw [happend, hfront, h, hdepth, Pending.rest, h]
  simp [statements]

/-- The statements of what follows the lines are read as if it stood alone exactly if nothing is
pending, unless it is all blank. -/
theorem leavesNothing_iff (front : List (List Char)) {back : List (List Char)}
    (hback : ∃ line ∈ back, trim line ≠ []) :
    statements (front ++ back) = statements front ++ statements back ↔
      (Pending.read {} front).1.text = [] := by
  have hfront : statements front = _ := Pending.statementsFrom_eq {} front
  have happend : statements (front ++ back) = _ := Pending.statementsFrom_append {} front back
  constructor
  · intro hsplit
    by_contra hpending
    -- the first statement behind the lines would be shorter if it stood alone
    obtain ⟨more, rest, hmore, hjoined⟩ :=
      Pending.statementsFrom_pending (Pending.read {} front).1 hback
    rw [happend, hfront, List.append_assoc, hjoined, Pending.rest] at hsplit
    have hfirst := List.append_cancel_left hsplit
    simp [hpending, hmore] at hfirst
  · exact fun hnothing => statements_append_of_nothing hnothing back

/-! ## The count of parentheses -/

/-- The count of open parentheses behind the lines, in which every line starts outside of literals. It
starts anew behind a statement. -/
def lineDepth (depth : Int) : List (List Char) → Int
  | [] => depth
  | line :: lines =>
    if (trim line).isEmpty then lineDepth depth lines
    else
      let next := depth + parenNesting (trim line)
      lineDepth (if endsStatement next (trim line) then 0 else next) lines

/-- The last of the lines that is not blank, or `last` if all are. -/
def lastText (last : List Char) : List (List Char) → List Char
  | [] => last
  | line :: lines => lastText (if (trim line).isEmpty then last else trim line) lines

theorem endsStatement_iff (depth : Int) (line : List Char) :
    endsStatement depth line = true ↔ depth ≤ 0 ∧ line.getLast? ≠ some '.' := by
  simp [endsStatement]

/-- Nothing is pending exactly if the count and the last line end the statement. One line keeps it so,
and hence all lines do. -/
theorem read_text_iff {pending : Pending} {last : List Char}
    (h : pending.text = [] ↔ endsStatement pending.depth last = true) (lines : List (List Char)) :
    (pending.read lines).1.text = [] ↔
      endsStatement (lineDepth pending.depth lines) (lastText last lines) = true := by
  induction lines generalizing pending last with
  | nil => exact h
  | cons line lines ih =>
    rcases Pending.add_cases pending line with
      ⟨hblank, hadd⟩ | ⟨hblank, hends, hadd⟩ | ⟨hblank, hends, hadd⟩
    · have hrest := ih h
      simpa [Pending.read, hadd, lineDepth, lastText, hblank] using hrest
    · -- the statement ends, and the line is one that statements end with
      have hline := ((endsStatement_iff _ _).mp hends).2
      have hstart : ({} : Pending).text = [] ↔
          endsStatement ({} : Pending).depth (trim line) = true :=
        iff_of_true rfl ((endsStatement_iff _ _).mpr ⟨Int.le_refl 0, hline⟩)
      have hrest := ih hstart
      simpa [Pending.read, hadd, lineDepth, lastText, hblank, hends] using hrest
    · have hmore : (⟨pending.text ++ glue pending.text ++ trim line,
          pending.depth + parenNesting (trim line)⟩ : Pending).text = [] ↔
          endsStatement (pending.depth + parenNesting (trim line)) (trim line) = true := by
        simp [hblank, hends]
      have hrest := ih hmore
      simpa [Pending.read, hadd, lineDepth, lastText, hblank, hends] using hrest

/-- Nothing is pending exactly if the count leaves no parenthesis open and the last line does not end in a
dot. -/
theorem nothing_pending_iff (lines : List (List Char)) :
    (Pending.read {} lines).1.text = [] ↔
      lineDepth 0 lines ≤ 0 ∧ (lastText [] lines).getLast? ≠ some '.' := by
  have hstart : ({} : Pending).text = [] ↔ endsStatement ({} : Pending).depth [] = true := by decide
  rw [read_text_iff hstart, endsStatement_iff]

/-! ## The parentheses of the text -/

/-- A place in a source text: the literal around it, and how many parentheses are open there. -/
structure Place where
  literal? : Option Literal := none
  opened : Nat := 0
  deriving Repr, DecidableEq

namespace Place

def next (place : Place) (c : Char) : Place :=
  match place.literal? with
  | some literal => { place with literal? := literal.next c }
  | none =>
    if isQuote c then { place with literal? := some ⟨c, false⟩ }
    else if c = '(' then { place with opened := place.opened + 1 }
    else if c = ')' then { place with opened := place.opened - 1 }
    else place

/-- The place at the start of the next line: of all literals a raw string goes on. -/
def nextLine (place : Place) (line : List Char) : Place :=
  let last := line.foldl next place
  { last with literal? := last.literal?.filter fun literal => literal.quote == '\x60' }

def behind (place : Place) (lines : List (List Char)) : Place :=
  lines.foldl nextLine place

/-- No line that starts inside a raw string has a parenthesis. -/
def Quiet : Place → List (List Char) → Prop
  | _, [] => True
  | place, line :: lines =>
    (place.literal?.isSome → '(' ∉ line ∧ ')' ∉ line) ∧ Quiet (place.nextLine line) lines

/-- The count of a text's parentheses is at most the number that the text leaves open: unlike that number,
the count may fall below zero. -/
theorem add_nesting_le (place : Place) (s : List Char) :
    (place.opened : Int) + nestingFrom '(' ')' place.literal? s ≤ (s.foldl next place).opened := by
  induction s generalizing place with
  | nil => simp [nestingFrom]
  | cons c s ih =>
    have hrest := ih (place.next c)
    rw [List.foldl_cons]
    obtain ⟨literal?, opened⟩ := place
    cases literal? with
    | some literal => simpa [nestingFrom, next] using hrest
    | none =>
      by_cases hquote : isQuote c = true
      · simpa [nestingFrom, next, hquote] using hrest
      · by_cases hopen : c = '('
        · subst hopen
          simp [nestingFrom, next, hquote] at hrest ⊢
          omega
        · by_cases hclose : c = ')'
          · subst hclose
            simp [nestingFrom, next, hquote] at hrest ⊢
            omega
          · simpa [nestingFrom, next, hquote, hopen, hclose] using hrest

theorem opened_foldl_next (place : Place) {s : List Char} (hopen : '(' ∉ s) (hclose : ')' ∉ s) :
    (s.foldl next place).opened = place.opened := by
  induction s generalizing place with
  | nil => rfl
  | cons c s ih =>
    rw [List.foldl_cons, ih _ (fun h => hopen (by simp [h])) (fun h => hclose (by simp [h]))]
    have hc : c ≠ '(' ∧ c ≠ ')' :=
      ⟨fun h => hopen (by simp [h]), fun h => hclose (by simp [h])⟩
    unfold next
    split
    · rfl
    · split
      · rfl
      · simp [hc.1, hc.2]

end Place

/-! ## Counting a line -/

section

variable {opener closer : Char}

theorem nestingFrom_of_not_mem (literal? : Option Literal) {s : List Char} (hopen : opener ∉ s)
    (hclose : closer ∉ s) : nestingFrom opener closer literal? s = 0 := by
  induction s generalizing literal? with
  | nil => rfl
  | cons c s ih =>
    have hrest := fun literal? =>
      ih literal? (fun h => hopen (by simp [h])) (fun h => hclose (by simp [h]))
    have hc : c ≠ opener ∧ c ≠ closer :=
      ⟨fun h => hopen (by simp [h]), fun h => hclose (by simp [h])⟩
    unfold nestingFrom
    split
    · exact hrest _
    · simp [hc.1, hc.2, hrest]

theorem nestingFrom_code_append {s : List Char} (hquote : ∀ c ∈ s, isQuote c = false) (hopen : opener ∉ s)
    (hclose : closer ∉ s) (t : List Char) :
    nestingFrom opener closer none (s ++ t) = nestingFrom opener closer none t := by
  induction s with
  | nil => rfl
  | cons c s ih =>
    have hc : c ≠ opener ∧ c ≠ closer :=
      ⟨fun h => hopen (by simp [h]), fun h => hclose (by simp [h])⟩
    have hrest := ih (fun d hd => hquote d (by simp [hd])) (fun h => hopen (by simp [h]))
      (fun h => hclose (by simp [h]))
    rw [List.cons_append, nestingFrom]
    simp only [hquote c List.mem_cons_self, Bool.false_eq_true, if_false, hc.1, hc.2]
    exact hrest

theorem nestingFrom_append_of_not_mem (literal? : Option Literal) (s : List Char) {tail : List Char}
    (hopen : opener ∉ tail) (hclose : closer ∉ tail) :
    nestingFrom opener closer literal? (s ++ tail) = nestingFrom opener closer literal? s := by
  induction s generalizing literal? with
  | nil =>
    rw [List.nil_append, nestingFrom_of_not_mem literal? hopen hclose]
    rfl
  | cons c s ih => simp only [List.cons_append, nestingFrom, ih]

end

theorem isBlank_mark : ∀ c ∈ ['(', ')', '"', '\'', '\x60'], isBlank c = false := by
  have hall : ['(', ')', '"', '\'', '\x60'].all (fun c => !isBlank c) = true := by decide
  intro c hc
  simpa using List.all_eq_true.mp hall c hc

theorem not_mem_of_blank {s : List Char} (h : ∀ c ∈ s, isBlank c = true) {mark : Char}
    (hmark : mark ∈ ['(', ')', '"', '\'', '\x60']) : mark ∉ s := by
  intro hmem
  have hblank := h mark hmem
  rw [isBlank_mark mark hmark] at hblank
  cases hblank

theorem parenNesting_blanks {lead : List Char} (h : ∀ c ∈ lead, isBlank c = true) (s : List Char) :
    parenNesting (lead ++ s) = parenNesting s := by
  apply nestingFrom_code_append
  · intro c hc
    have hne : ∀ mark ∈ ['(', ')', '"', '\'', '\x60'], c ≠ mark := by
      intro mark hmark heq
      exact not_mem_of_blank h hmark (heq ▸ hc)
    simp [isQuote, hne '"' (by simp), hne '\'' (by simp), hne '\x60' (by simp)]
  · exact not_mem_of_blank h (by simp)
  · exact not_mem_of_blank h (by simp)

theorem parenNesting_trim (line : List Char) : parenNesting (trim line) = parenNesting line := by
  obtain ⟨lead, tail, hlead, htail, hline⟩ := eq_append_trim line
  have hopen : '(' ∉ tail := not_mem_of_blank htail (by simp)
  have hclose : ')' ∉ tail := not_mem_of_blank htail (by simp)
  calc parenNesting (trim line)
      = parenNesting (trim line ++ tail) :=
        (nestingFrom_append_of_not_mem none (trim line) hopen hclose).symm
    _ = parenNesting (lead ++ (trim line ++ tail)) := (parenNesting_blanks hlead _).symm
    _ = parenNesting line := by rw [← List.append_assoc, ← hline]

/-- A quiet line adds no more to the count than the text opens. -/
theorem add_parenNesting_le {place : Place} {line : List Char}
    (h : place.literal?.isSome → '(' ∉ line ∧ ')' ∉ line) :
    (place.opened : Int) + parenNesting (trim line) ≤ (place.nextLine line).opened := by
  rw [parenNesting_trim]
  cases hliteral : place.literal? with
  | none =>
    have hline := place.add_nesting_le line
    rw [hliteral] at hline
    exact hline
  | some literal =>
    obtain ⟨hopen, hclose⟩ := h (by simp [hliteral])
    have hsame : (place.nextLine line).opened = place.opened :=
      place.opened_foldl_next hopen hclose
    rw [parenNesting, nestingFrom_of_not_mem none hopen hclose, hsame]
    omega

/-- As long as the lines are quiet, the count is never above what the text leaves open. -/
theorem lineDepth_le {depth : Int} {place : Place} {lines : List (List Char)}
    (hquiet : place.Quiet lines) (h : depth ≤ place.opened) :
    lineDepth depth lines ≤ (place.behind lines).opened := by
  induction lines generalizing depth place with
  | nil => exact h
  | cons line lines ih =>
    obtain ⟨hline, hrest⟩ := hquiet
    have hnext := add_parenNesting_le hline
    unfold lineDepth
    split
    · rename_i hblank
      apply ih hrest
      have hzero : parenNesting (trim line) = 0 := by
        rw [List.isEmpty_iff.mp hblank]
        rfl
      omega
    · apply ih hrest
      split
      · omega
      · omega

end Go

namespace Routes

open RouteDoc.Go

/-! ## Scanning statements -/

/-- The subrouters that are known behind a statement. -/
def subroutersBehind (ctx : FileContext) (known : Prefixes) (statement : List Char) : Prefixes :=
  match routerCall? ctx statement with
  | some (some target, receiver, chain) =>
    if makesSubrouter chain then
      Assoc.put target ((Assoc.get? receiver known).getD [] ++ pathPrefixes chain) known
    else known
  | _ => known

/-- The statements of two parts are scanned one part after the other; the second one knows the subrouters
of the first. -/
theorem scanStatements_append (disk : Disk) (packages : Packages) (ctx : FileContext) (known : Prefixes)
    (front back : List (List Char)) :
    scanStatements disk packages ctx known (front ++ back) = (do
      let entries ← scanStatements disk packages ctx known front
      let rest ← scanStatements disk packages ctx (front.foldl (subroutersBehind ctx) known) back
      return entries ++ rest) := by
  induction front generalizing known with
  | nil => simp [scanStatements]
  | cons statement front ih =>
    rw [List.cons_append, List.foldl_cons, scanStatements, scanStatements]
    cases hcall : routerCall? ctx statement with
    | none =>
      have hknown : subroutersBehind ctx known statement = known := by
        simp [subroutersBehind, hcall]
      rw [hknown]
      exact ih known
    | some call =>
      obtain ⟨target?, receiver, chain⟩ := call
      by_cases hmakes : makesSubrouter chain = true
      · cases target? with
        | none => simpa [subroutersBehind, hcall, hmakes] using ih known
        | some target => simpa [subroutersBehind, hcall, hmakes] using ih _
      · have hknown : subroutersBehind ctx known statement = known := by
          cases target? <;> simp [subroutersBehind, hcall, hmakes]
        simp only [hmakes, hknown, ih, Bool.false_eq_true, if_false, bind_assoc, pure_bind,
          List.append_assoc]

/-- **Lines with closed parentheses, and what follows them.** Let every parenthesis be closed that the
lines open outside of literals, and let the last line not end in a dot. If no line that starts inside a raw
string has a parenthesis, the statements of what follows are read as if it stood alone, and the routes of
both parts are found one after the other. In general this is so exactly if the count that starts outside
of literals on every line leaves nothing open. -/
theorem statements_append_iff (front back : List (List Char))
    (hclosed : (Place.behind {} front).opened = 0)
    (hlast : (lastText [] front).getLast? ≠ some '.') :
    (Place.Quiet {} front → statements (front ++ back) = statements front ++ statements back ∧
      ∀ disk packages ctx known,
        scanStatements disk packages ctx known (statements (front ++ back)) = (do
          let entries ← scanStatements disk packages ctx known (statements front)
          let rest ← scanStatements disk packages ctx
            ((statements front).foldl (subroutersBehind ctx) known) (statements back)
          return entries ++ rest)) ∧
    ((∃ line ∈ back, Text.trim line ≠ []) →
      (statements (front ++ back) = statements front ++ statements back ↔ lineDepth 0 front ≤ 0)) := by
  constructor
  · intro hquiet
    have hdepth : lineDepth 0 front ≤ 0 := by
      have hle := lineDepth_le hquiet (Int.le_refl 0)
      rw [hclosed] at hle
      exact hle
    have hsplit := statements_append_of_nothing ((nothing_pending_iff front).mpr ⟨hdepth, hlast⟩) back
    refine ⟨hsplit, fun disk packages ctx known => ?_⟩
    rw [hsplit]
    exact scanStatements_append disk packages ctx known _ _
  · intro hback
    rw [leavesNothing_iff front hback, nothing_pending_iff]
    exact ⟨fun h => h.1, fun h => ⟨h, hlast⟩⟩

/-- A raw string in an assignment, and then a call that is closed on a line of its own. -/
def assignedQuery : List (List Char) :=
  ["\tq := `SELECT (".toList, "\tFROM t".toList, "\t`".toList, "\tdb.Exec(".toList, "\t\tq)".toList]

/-- A call with the raw string as its argument, closed on the line on which the raw string ends. -/
def calledQuery : List (List Char) :=
  ["\tdb.Exec(`SELECT 1".toList, "\tFROM t`)".toList]

/-- The registration behind the assignment stands alone; the one behind the call is a part of it. -/
theorem statements_append_iff_query :
    let back := ["\tr.HandleFunc(\"/a\", A)".toList]
    statements (assignedQuery ++ back) = statements assignedQuery ++ statements back ∧
      (Place.behind {} calledQuery).opened = 0 ∧
      statements (calledQuery ++ back) ≠ statements calledQuery ++ statements back := by
  intro back
  have hback : ∃ line ∈ back, Text.trim line ≠ [] := ⟨_, List.mem_singleton_self _, by decide⟩
  have hquiet : Place.Quiet {} assignedQuery := by
    simp only [assignedQuery, Place.Quiet]
    decide +kernel
  have hclosed : (Place.behind {} calledQuery).opened = 0 := by decide +kernel
  have hcalled := (statements_append_iff calledQuery back hclosed (by decide +kernel)).2 hback
  refine ⟨?_, hclosed, ?_⟩
  · exact ((statements_append_iff assignedQuery back (by decide +kernel) (by decide +kernel)).1
      hquiet).1
  · rw [Ne, hcalled]
    decide +kernel

end Routes

end RouteDoc
