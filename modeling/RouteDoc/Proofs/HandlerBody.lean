import Mathlib.Data.List.Basic
import RouteDoc.Go.Reads

/-!
What is scanned for a handler. Its body is taken to start behind the declaration line and to end at the
next line that is a closing brace alone. For a function that closes so, these are the lines of its body
and nothing else is read. A function on one line has no such line of its own: the scan goes on through
what follows. `scan_within_iff` says exactly when it then meets the declaration of another function,
namely where no other closing brace stands in between.
-/

namespace RouteDoc.Go

/-- A part of a file at the top level. -/
inductive TopLevel where
  /-- A function that is declared and closed on one line. -/
  | oneLine (line : List Char)
  /-- A function with its closing brace alone on a line. -/
  | block (head : List Char) (body : List (List Char))
  /-- A line of anything else. -/
  | other (line : List Char)
  deriving Repr, DecidableEq

namespace TopLevel

def lines : TopLevel → List (List Char)
  | oneLine line => [line]
  | block head body => head :: (body ++ [['}']])
  | other line => [line]

def head : TopLevel → List Char
  | oneLine line => line
  | block head _ => head
  | other line => line

def isFunction : TopLevel → Bool
  | other _ => false
  | _ => true

def isBlock : TopLevel → Bool
  | block _ _ => true
  | _ => false

/-- The part is laid out as formatting leaves it: a function starts with its keyword, and no line of a
body is a closing brace alone. -/
def LaidOut : TopLevel → Prop
  | oneLine line => "func ".toList.isPrefixOf line = true ∧ line.getLast? = some '}'
  | block head body => "func ".toList.isPrefixOf head = true ∧ ['}'] ∉ body
  | other _ => True

instance : (part : TopLevel) → Decidable part.LaidOut
  | oneLine line =>
    inferInstanceAs (Decidable ("func ".toList.isPrefixOf line = true ∧ line.getLast? = some '}'))
  | block head body =>
    inferInstanceAs (Decidable ("func ".toList.isPrefixOf head = true ∧ ['}'] ∉ body))
  | other _ => inferInstanceAs (Decidable True)

end TopLevel

def fileLines (parts : List TopLevel) : List (List Char) :=
  parts.flatMap TopLevel.lines

/-- The line on which the part behind the given ones starts, counted from one. -/
def lineBehind (before : List TopLevel) : Nat :=
  (fileLines before).length + 1

def DeclaredAt (parts : List TopLevel) (index : Nat) : Prop :=
  ∃ before function after, parts = before ++ function :: after ∧ function.isFunction = true ∧
    index = (fileLines before).length

/-- No function is declared on the lines from one index up to the other. -/
def Undeclared (parts : List TopLevel) (start stop : Nat) : Prop :=
  ∀ index, start ≤ index → index < stop → ¬ DeclaredAt parts index

/-- Before every function stands a line that is a closing brace alone. -/
def ClosedBefore (parts : List TopLevel) : Prop :=
  ∀ gap next rest, parts = gap ++ next :: rest → next.isFunction = true → ['}'] ∈ fileLines gap

/-- The lines up to the first that is a closing brace alone. -/
def untilClosed (lines : List (List Char)) : List (List Char) :=
  lines.takeWhile (· ≠ ['}'])

/-- The lines that count as the body of a function with the given parts behind it. -/
def TopLevel.scanned (function : TopLevel) (after : List TopLevel) : List (List Char) :=
  match function with
  | block _ body => body
  | _ => untilClosed (fileLines after)

/-! ## Lines up to a closing brace -/

theorem untilClosed_append {lines : List (List Char)} (h : ['}'] ∉ lines) (rest : List (List Char)) :
    untilClosed (lines ++ rest) = lines ++ untilClosed rest := by
  apply List.takeWhile_append_of_pos
  intro line hline
  have hne : line ≠ ['}'] := fun heq => h (heq ▸ hline)
  exact decide_eq_true hne

@[simp] theorem untilClosed_closing (rest : List (List Char)) : untilClosed (['}'] :: rest) = [] := by
  simp [untilClosed]

theorem untilClosed_cons {line : List Char} (h : line ≠ ['}']) (rest : List (List Char)) :
    untilClosed (line :: rest) = line :: untilClosed rest := by
  simp [untilClosed, h]

/-- A line is reached exactly if no closing brace stands before it. -/
theorem length_lt_untilClosed_iff {line : List Char} (hline : line ≠ ['}'])
    (before rest : List (List Char)) :
    before.length < (untilClosed (before ++ line :: rest)).length ↔ ['}'] ∉ before := by
  constructor
  · intro hlt hmem
    obtain ⟨inner, behind, rfl, hinner⟩ := List.eq_append_cons_of_mem hmem
    rw [List.append_assoc, untilClosed_append hinner, List.cons_append, untilClosed_closing] at hlt
    simp only [List.length_append, List.length_cons, List.append_nil] at hlt
    omega
  · intro hmem
    rw [untilClosed_append hmem, untilClosed_cons hline]
    simp only [List.length_append, List.length_cons]
    omega

theorem findIdx?_closing (lines : List (List Char)) :
    (lines.findIdx? (· = ['}'])).getD lines.length = (untilClosed lines).length := by
  induction lines with
  | nil => rfl
  | cons line lines ih =>
    rw [List.findIdx?_cons]
    by_cases hline : line = ['}']
    · simp [hline]
    · rw [untilClosed_cons hline]
      simp only [List.length_cons, ← ih]
      cases lines.findIdx? (· = ['}']) <;> simp [hline]

theorem bodyEnd_append (before after : List (List Char)) :
    bodyEnd (before ++ after) before.length = before.length + (untilClosed after).length := by
  rw [bodyEnd, List.drop_left, ← findIdx?_closing]
  cases after.findIdx? (· = ['}']) with
  | none => simp
  | some n => rfl

theorem bodyLines_append (before after : List (List Char)) :
    bodyLines (before ++ after) before.length = untilClosed after := by
  rw [bodyLines, bodyEnd_append, List.take_length_add_append, List.drop_left]
  calc after.take (untilClosed after).length
      = (untilClosed after ++ after.dropWhile (· ≠ ['}'])).take (untilClosed after).length := by
        rw [untilClosed, List.takeWhile_append_dropWhile]
    _ = untilClosed after := List.take_left

/-! ## Parts and their lines -/

theorem fileLines_append (before after : List TopLevel) :
    fileLines (before ++ after) = fileLines before ++ fileLines after :=
  List.flatMap_append

theorem fileLines_cons (part : TopLevel) (after : List TopLevel) :
    fileLines (part :: after) = part.lines ++ fileLines after :=
  List.flatMap_cons

theorem TopLevel.lines_eq_cons (part : TopLevel) : ∃ rest, part.lines = part.head :: rest := by
  cases part with
  | oneLine line => exact ⟨[], rfl⟩
  | block head body => exact ⟨body ++ [['}']], rfl⟩
  | other line => exact ⟨[], rfl⟩

theorem TopLevel.head_ne_closing {function : TopLevel} (hlaid : function.LaidOut)
    (hfunction : function.isFunction = true) : function.head ≠ ['}'] := by
  have hkeyword : "func ".toList.isPrefixOf function.head = true := by
    cases function with
    | oneLine line => exact hlaid.1
    | block head body => exact hlaid.1
    | other line => cases hfunction
  intro hhead
  rw [hhead] at hkeyword
  exact absurd hkeyword (by decide)

/-- A function behind the given parts is reached exactly if nothing in them closes. -/
theorem reaches_iff (gap rest : List TopLevel) {next : TopLevel} (hlaid : next.LaidOut)
    (hnext : next.isFunction = true) :
    (fileLines gap).length < (untilClosed (fileLines (gap ++ next :: rest))).length ↔
      ['}'] ∉ fileLines gap := by
  obtain ⟨tail, htail⟩ := next.lines_eq_cons
  rw [fileLines_append, fileLines_cons, htail]
  exact length_lt_untilClosed_iff (TopLevel.head_ne_closing hlaid hnext) _ _

/-- The declarations behind a part's first line are those of the parts behind it. -/
theorem declaredAt_behind_iff (before after : List TopLevel) (part : TopLevel) (index : Nat) :
    lineBehind before ≤ index ∧ DeclaredAt (before ++ part :: after) index ↔
      ∃ gap next rest, after = gap ++ next :: rest ∧ next.isFunction = true ∧
        index = (fileLines before).length + part.lines.length + (fileLines gap).length := by
  constructor
  · rintro ⟨hle, front, next, rest, hparts, hnext, rfl⟩
    rw [lineBehind] at hle
    rcases List.append_eq_append_iff.mp hparts with ⟨gap, rfl, htail⟩ | ⟨gap, rfl, -⟩
    · cases gap with
      | nil =>
        -- the part itself: its declaration is the line before the first one counted
        rw [List.append_nil] at hle
        omega
      | cons first gap =>
        rw [List.cons_append, List.cons.injEq] at htail
        obtain ⟨rfl, hafter⟩ := htail
        refine ⟨gap, next, rest, hafter, hnext, ?_⟩
        rw [fileLines_append, fileLines_cons]
        simp only [List.length_append]
        omega
    · rw [fileLines_append, List.length_append] at hle
      omega
  · rintro ⟨gap, next, rest, rfl, hnext, rfl⟩
    obtain ⟨tail, htail⟩ := part.lines_eq_cons
    refine ⟨?_, before ++ part :: gap, next, rest, by simp, hnext, ?_⟩
    · rw [lineBehind, htail, List.length_cons]
      omega
    · rw [fileLines_append, fileLines_cons]
      simp only [List.length_append]
      omega

/-! ## The scan of a function -/

theorem fileLines_cut (before after : List TopLevel) (function : TopLevel)
    (hlaid : function.LaidOut) (hfunction : function.isFunction = true) :
    ∃ tail, fileLines (before ++ function :: after) = (fileLines before ++ [function.head]) ++ tail ∧
      untilClosed tail = function.scanned after := by
  cases function with
  | oneLine line =>
    refine ⟨fileLines after, ?_, rfl⟩
    rw [fileLines_append, fileLines_cons]
    simp [TopLevel.lines, TopLevel.head]
  | block head body =>
    refine ⟨body ++ ['}'] :: fileLines after, ?_, ?_⟩
    · rw [fileLines_append, fileLines_cons]
      simp [TopLevel.lines, TopLevel.head]
    · rw [untilClosed_append hlaid.2, untilClosed_closing, List.append_nil]
      rfl
  | other line => cases hfunction

theorem lineBehind_eq_length (before : List TopLevel) (head : List Char) :
    lineBehind before = (fileLines before ++ [head]).length := by
  simp [lineBehind]

theorem bodyLines_function (before after : List TopLevel) (function : TopLevel)
    (hlaid : function.LaidOut) (hfunction : function.isFunction = true) :
    bodyLines (fileLines (before ++ function :: after)) (lineBehind before) = function.scanned after := by
  obtain ⟨tail, hcut, htail⟩ := fileLines_cut before after function hlaid hfunction
  rw [hcut, lineBehind_eq_length before function.head, bodyLines_append, htail]

theorem scanHandler_function (before after : List TopLevel) (function : TopLevel)
    (hlaid : function.LaidOut) (hfunction : function.isFunction = true) :
    scanHandler (fileLines (before ++ function :: after)) (lineBehind before) =
      { name? := (functionName? function.head).map String.ofList
        reads := readsFrom {} (function.scanned after)
        stop := lineBehind before + (function.scanned after).length } := by
  obtain ⟨tail, hcut, htail⟩ := fileLines_cut before after function hlaid hfunction
  have hstop : bodyEnd (fileLines (before ++ function :: after)) (lineBehind before) =
      lineBehind before + (function.scanned after).length := by
    rw [hcut, lineBehind_eq_length before function.head, bodyEnd_append, htail]
  have hhead : (fileLines (before ++ function :: after))[(fileLines before).length]? =
      some function.head := by
    rw [hcut]
    simp
  calc scanHandler (fileLines (before ++ function :: after)) (lineBehind before)
      = { name? := (((fileLines (before ++ function :: after))[(fileLines before).length]?).bind
            functionName?).map String.ofList
          reads := readsFrom {} (bodyLines (fileLines (before ++ function :: after)) (lineBehind before))
          stop := bodyEnd (fileLines (before ++ function :: after)) (lineBehind before) } := rfl
    _ = _ := by
      rw [hhead, hstop, bodyLines_function before after function hlaid hfunction, Option.bind_some]

/-- The lines of a closed function are its own; behind a function on one line another declaration is met
unless something closes before it. -/
theorem undeclared_scanned_iff (before after : List TopLevel) (function : TopLevel)
    (hlaid : ∀ part ∈ before ++ function :: after, part.LaidOut)
    (hfunction : function.isFunction = true) :
    Undeclared (before ++ function :: after) (lineBehind before)
        (lineBehind before + (function.scanned after).length) ↔
      function.isBlock = true ∨ ClosedBefore after := by
  cases function with
  | block head body =>
    -- the next declaration stands behind the closing line, where the scan has stopped
    refine iff_of_true ?_ (Or.inl rfl)
    intro index hstart hstop hdeclared
    obtain ⟨gap, next, rest, -, -, rfl⟩ :=
      (declaredAt_behind_iff before after _ index).mp ⟨hstart, hdeclared⟩
    simp only [lineBehind, TopLevel.scanned, TopLevel.lines, List.length_cons, List.length_append] at hstop
    omega
  | oneLine line =>
    simp only [TopLevel.isBlock, Bool.false_eq_true, false_or]
    constructor
    · rintro hfree gap next rest rfl hnext
      by_contra hopen
      obtain ⟨hstart, hdeclared⟩ := (declaredAt_behind_iff before _ (.oneLine line) _).mpr
        ⟨gap, next, rest, rfl, hnext, rfl⟩
      refine hfree _ hstart ?_ hdeclared
      have hlt := (reaches_iff gap rest (hlaid next (by simp)) hnext).mpr hopen
      simp only [lineBehind, TopLevel.scanned, TopLevel.lines, List.length_singleton]
      omega
    · intro hclosed index hstart hstop hdeclared
      obtain ⟨gap, next, rest, rfl, hnext, rfl⟩ :=
        (declaredAt_behind_iff before after _ index).mp ⟨hstart, hdeclared⟩
      simp only [lineBehind, TopLevel.scanned, TopLevel.lines, List.length_singleton] at hstop
      have hreached := (reaches_iff gap rest (hlaid next (by simp)) hnext).mp (by omega)
      exact hreached (hclosed gap next rest rfl hnext)
  | other line => cases hfunction

/-- Behind a function on one line the next closed function is read as if it were its body. -/
theorem scanned_next {function : TopLevel} (hopen : function.isBlock = false) {gap : List TopLevel}
    (hgap : ['}'] ∉ fileLines gap) {head : List Char} {body : List (List Char)}
    (hlaid : (TopLevel.block head body).LaidOut) (rest : List TopLevel) :
    function.scanned (gap ++ .block head body :: rest) = fileLines gap ++ head :: body := by
  have hhead : head ≠ ['}'] := TopLevel.head_ne_closing hlaid rfl
  have hscanned : untilClosed (fileLines (gap ++ .block head body :: rest)) =
      fileLines gap ++ head :: body := by
    rw [fileLines_append, untilClosed_append hgap, fileLines_cons, TopLevel.lines, List.cons_append,
      untilClosed_cons hhead, List.append_assoc, untilClosed_append hlaid.2, List.singleton_append,
      untilClosed_closing, List.append_nil]
  cases function with
  | block head' body' => cases hopen
  | oneLine line => exact hscanned
  | other line => exact hscanned

/-- **What is read for a function.** The scan takes the function's name and reads the lines of
`TopLevel.scanned`, the body of a function that is closed on a line of its own. They hold no declaration
of a function exactly if the function is of that kind or something closes before each function behind
it; otherwise the body of the next function is among them. -/
theorem scan_within_iff (before after : List TopLevel) (function : TopLevel)
    (hlaid : ∀ part ∈ before ++ function :: after, part.LaidOut)
    (hfunction : function.isFunction = true) :
    let file := fileLines (before ++ function :: after)
    let line := lineBehind before
    scanHandler file line =
        { name? := (functionName? function.head).map String.ofList
          reads := readsFrom {} (function.scanned after)
          stop := line + (function.scanned after).length } ∧
      scanEndpoint file line =
        ((function.scanned after).filterMap returnedName?).getLast?.map String.ofList ∧
      (Undeclared (before ++ function :: after) line (scanHandler file line).stop ↔
        function.isBlock = true ∨ ClosedBefore after) ∧
      ∀ gap head body rest, function.isBlock = false → after = gap ++ .block head body :: rest →
        ['}'] ∉ fileLines gap → function.scanned after = fileLines gap ++ head :: body := by
  intro file line
  have hown : function.LaidOut := hlaid function (by simp)
  have hscan := scanHandler_function before after function hown hfunction
  refine ⟨hscan, ?_, ?_, ?_⟩
  · show ((bodyLines file line).filterMap returnedName?).getLast?.map String.ofList = _
    rw [bodyLines_function before after function hown hfunction]
  · rw [show scanHandler file line = _ from hscan]
    exact undeclared_scanned_iff before after function hlaid hfunction
  · intro gap head body rest hopen hafter hgap
    rw [hafter]
    exact scanned_next hopen hgap (hlaid _ (by simp [hafter])) rest

/-- A handler on one line in front of one with a body, and another in front of a closed type. -/
def mixedParts : List TopLevel :=
  [.other "package h".toList, .oneLine "func A(w W, r R) \x7b\x7d".toList, .other [],
    .block "func B(w W, r R) \x7b".toList ["\tr.FormValue(\"x\")".toList, "\treturn svc.Save(r)".toList],
    .oneLine "func C(w W, r R) \x7b\x7d".toList, .other "type T struct \x7b".toList, .other ['}'],
    .block "func D() \x7b".toList []]

/-- The read of `B` is attributed to `A` too; the scans of `B` and `C` meet no other function. -/
theorem scan_within_iff_mixed :
    (∀ part ∈ mixedParts, part.LaidOut) ∧
      (scanHandler (fileLines mixedParts) 2).name? = some "A" ∧
      (scanHandler (fileLines mixedParts) 2).reads = [⟨"x", .formValue⟩] ∧
      scanEndpoint (fileLines mixedParts) 2 = some "Save" ∧
      ¬ Undeclared mixedParts 2 (scanHandler (fileLines mixedParts) 2).stop ∧
      Undeclared mixedParts 4 (scanHandler (fileLines mixedParts) 4).stop ∧
      Undeclared mixedParts 8 (scanHandler (fileLines mixedParts) 8).stop := by
  have hlaid : ∀ part ∈ mixedParts, part.LaidOut := by decide +kernel
  obtain ⟨hscan, hendpoint, hiff, hnext⟩ :=
    scan_within_iff (mixedParts.take 1) (mixedParts.drop 2) mixedParts[1] hlaid rfl
  have hB := (scan_within_iff (mixedParts.take 3) (mixedParts.drop 4) mixedParts[3] hlaid rfl).2.2.1
  have hC := (scan_within_iff (mixedParts.take 4) (mixedParts.drop 5) mixedParts[4] hlaid rfl).2.2.1
  have hbody := hnext [.other []] _ _ (mixedParts.drop 4) rfl rfl (by decide)
  rw [hbody] at hscan hendpoint
  refine ⟨hlaid, ?_, ?_, ?_, ?_, hB.mpr (Or.inl rfl), hC.mpr (Or.inr ?_)⟩
  · exact (congrArg HandlerScan.name? hscan).trans (by decide +kernel)
  · exact (congrArg HandlerScan.reads hscan).trans (by decide +kernel)
  · exact hendpoint.trans (by decide +kernel)
  · intro hfree
    rcases hiff.mp hfree with hblock | hclosed
    · cases hblock
    · exact absurd (hclosed [.other []] mixedParts[3] (mixedParts.drop 4) rfl rfl) (by decide)
  · -- the only function behind `C` stands behind the closing brace of the type
    intro gap next rest hparts hfunction
    cases gap with
    | nil =>
      obtain rfl : TopLevel.other "type T struct \x7b".toList = next := (List.cons.inj hparts).1
      cases hfunction
    | cons first gap =>
      cases gap with
      | nil =>
        obtain rfl : TopLevel.other ['}'] = next := (List.cons.inj (List.cons.inj hparts).2).1
        cases hfunction
      | cons second gap =>
        obtain rfl : TopLevel.other ['}'] = second := (List.cons.inj (List.cons.inj hparts).2).1
        simp [fileLines, TopLevel.lines]

end RouteDoc.Go
