import RouteDoc.Proofs.NamedHandlers
import RouteDoc.Proofs.StatementJoining
import RouteDoc.Proofs.TypeScan

/-!
Conversions to a handler are looked through. One look at an expression (`handlerStep`) gives an answer, or the argument
of a conversion to go on with, and this is all that the reader does (`readHandler_eq_answer`). The argument is a part of
the expression, behind the name of the conversion and its parenthesis (`handlerStep_inside`). So the reader comes to an
end on every text, whatever brackets and literals it leaves open (`readWithin_eq`), and an argument in conversions is
read as if it stood alone (`readHandler_converted`).
-/

namespace RouteDoc

/-! ## Parts of a text -/

namespace Text

theorem isInfix_trim (s : List Char) : trim s <:+: s := by
  obtain ⟨lead, tail, -, -, hs⟩ := eq_append_trim s
  exact ⟨lead, tail, hs.symm⟩

theorem length_le_of_mem_split {sep : Char} {s piece : List Char} (h : piece ∈ split sep s) :
    piece.length ≤ s.length := by
  fun_induction split sep s generalizing piece with
  | case1 => rw [List.mem_singleton.mp h]
  | case2 c s hc ih =>
    rcases List.mem_cons.mp h with rfl | h
    · exact Nat.zero_le _
    · exact Nat.le_succ_of_le (ih h)
  | case3 c s hc hnone ih =>
    rw [List.mem_singleton.mp h]
    exact Nat.succ_le_succ (Nat.zero_le _)
  | case4 c s hc first rest hsplit ih =>
    rw [hsplit] at ih
    rcases List.mem_cons.mp h with rfl | h
    · exact Nat.succ_le_succ (ih List.mem_cons_self)
    · exact Nat.le_succ_of_le (ih (List.mem_cons_of_mem first h))

end Text

namespace Go

open RouteDoc.Text

theorem isInfix_of_mem_piecesFrom {literal? : Option Literal} {depth : Nat} {current s piece : List Char}
    (h : piece ∈ piecesFrom literal? depth current s) : piece <:+: current ++ s := by
  fun_induction piecesFrom literal? depth current s with
  | case1 depth current => simp [List.mem_singleton.mp h]
  | case2 depth current c cs literal ih => simpa using ih h
  | case3 depth current c cs hquote ih => simpa using ih h
  | case4 depth current c cs hquote hopen ih => simpa using ih h
  | case5 current c cs hquote hopen hclose =>
    rw [List.mem_singleton.mp h]
    exact (List.prefix_append current _).isInfix
  | case6 current c cs hquote hopen hclose outer ih => simpa using ih h
  | case7 depth current c cs hquote hopen hclose hcomma ih =>
    rcases List.mem_cons.mp h with rfl | h
    · exact (List.prefix_append piece _).isInfix
    · -- behind a comma the piece starts anew
      exact (ih h).trans ⟨current ++ [c], [], by simp⟩
  | case8 depth current c cs hquote hopen hclose hcomma ih => simpa using ih h

theorem isInfix_of_mem_callArguments {s argument : List Char} (h : argument ∈ callArguments s) : argument <:+: s := by
  obtain ⟨piece, hpiece, rfl⟩ := List.mem_map.mp (List.mem_filter.mp h).1
  exact (isInfix_trim piece).trans (isInfix_of_mem_piecesFrom hpiece)

theorem Balanced.inBrackets {inside : Bool} {text : List Char} (h : Balanced inside text) : Balanced true text := by
  induction h with
  | nil => exact .nil
  | plain hc => exact .plain hc
  | comma => exact .comma
  | quoted hquote hletters => exact .quoted hquote hletters
  | raw hbody => exact .raw hbody
  | group hpair hcontent => exact .group hpair hcontent
  | append _ _ ihs iht => exact .append ihs iht

theorem callArguments_single (argument : SpacedArgument) (rest : List Char) :
    callArguments (argument.written ++ ')' :: rest) = [argument.text] := by
  rw [callArguments, piecesFrom_close argument.balanced_written]
  exact SpacedArgument.filter_trim_written [argument]

end Go

namespace Routes

open RouteDoc.Go RouteDoc.Text

theorem length_lastSegment_le (chain : List Char) : (lastSegment chain).length ≤ chain.length := by
  rw [lastSegment]
  cases hlast : (split '.' chain).getLast? with
  | none => exact Nat.le_refl _
  | some last => exact length_le_of_mem_split (List.mem_of_getLast? hlast)

theorem isInfix_bareExpression (expr : List Char) : bareExpression expr <:+: expr :=
  (List.dropWhile_suffix _).isInfix.trans (isInfix_trim expr)

/-! ## One look at an expression -/

/-- What one look at an expression gives: what it is read as, or the argument of a conversion to go on with. -/
inductive HandlerStep where
  | done (handler? : Option HandlerExpr)
  | inside (argument : List Char)
  deriving Repr, DecidableEq

/-- One look at an expression. The argument of a conversion is not looked at. -/
def handlerStep (expr : List Char) : HandlerStep :=
  if startsWith funcKeyword (bareExpression expr) && !isChain (bareExpression expr) then .done none
  else
    match cut? '(' (bareExpression expr) with
    | none => .done (if isChain (bareExpression expr) then some (.func (bareExpression expr)) else none)
    | some (before, rest) =>
      if !isChain (trim before) then .done none
      else if lastSegment (trim before) = conversionName then
        match callArguments rest with
        | [] => .done none
        | argument :: _ => .inside argument
      else if lastSegment (trim before) = serverName then
        .done (serverOf? (callArguments rest))
      else .done (some (.func (trim before)))

def HandlerStep.answer : HandlerStep → Option HandlerExpr
  | done handler? => handler?
  | inside argument => readHandler argument

/-- The reader takes one look, and reads the argument if it finds a conversion. -/
theorem readHandler_eq_answer (expr : List Char) : readHandler expr = (handlerStep expr).answer := by
  unfold handlerStep
  fun_cases readHandler expr with
  | case1 hfunc => rw [if_pos hfunc, HandlerStep.answer]
  | case2 hfunc hcut hchain => rw [if_neg hfunc, hcut, HandlerStep.answer, if_pos hchain]
  | case3 hfunc hcut hchain => rw [if_neg hfunc, hcut, HandlerStep.answer, if_neg hchain]
  | case4 hfunc before rest hcut callee hchain =>
    simp only [if_neg hfunc, hcut]
    rw [if_pos hchain, HandlerStep.answer]
  | case5 hfunc before rest hcut callee hchain hname harguments =>
    simp only [if_neg hfunc, hcut]
    rw [if_neg hchain, if_pos hname, harguments, HandlerStep.answer]
  | case6 hfunc before rest hcut callee hchain hname argument more harguments =>
    simp only [if_neg hfunc, hcut]
    rw [if_neg hchain, if_pos hname, harguments, HandlerStep.answer]
  | case7 hfunc before rest hcut callee hchain hname hserver =>
    simp only [if_neg hfunc, hcut]
    rw [if_neg hchain, if_neg hname, if_pos hserver, HandlerStep.answer]
  | case8 hfunc before rest hcut callee hchain hname hserver =>
    simp only [if_neg hfunc, hcut]
    rw [if_neg hchain, if_neg hname, if_neg hserver, HandlerStep.answer]

theorem readHandler_of_inside {expr argument : List Char} (h : handlerStep expr = .inside argument) :
    readHandler expr = readHandler argument := by
  rw [readHandler_eq_answer, h]
  rfl

/-- Where the argument of a conversion comes from. -/
theorem exists_of_handlerStep_inside {expr argument : List Char} (h : handlerStep expr = .inside argument) :
    ∃ before rest, cut? '(' (bareExpression expr) = some (before, rest) ∧
      lastSegment (trim before) = conversionName ∧ argument ∈ callArguments rest := by
  revert h
  fun_cases handlerStep expr with
  | case5 hfunc before rest hcut hchain hname first more harguments =>
    intro h
    obtain rfl := HandlerStep.inside.inj h
    exact ⟨before, rest, hcut, hname, by simp [harguments]⟩
  | _ =>
    intro h
    cases h

/-- The argument of a conversion is a part of the expression. It is shorter by what the conversion takes. -/
theorem handlerStep_inside {expr argument : List Char} (h : handlerStep expr = .inside argument) :
    argument <:+: expr ∧ argument.length + (conversionName.length + 1) ≤ expr.length := by
  obtain ⟨before, rest, hcut, hname, hmem⟩ := exists_of_handlerStep_inside h
  obtain ⟨-, hbare⟩ := cut?_eq_some hcut
  have hargument := isInfix_of_mem_callArguments hmem
  have hrest : rest <:+: expr := by
    refine List.IsInfix.trans ?_ (isInfix_bareExpression expr)
    exact ⟨before ++ ['('], [], by simp [hbare]⟩
  refine ⟨hargument.trans hrest, ?_⟩
  have hbefore : conversionName.length ≤ before.length := by
    rw [← hname]
    exact Nat.le_trans (length_lastSegment_le _) (length_trim_le before)
  have hlength := length_bareExpression_le expr
  rw [hbare, List.length_append, List.length_cons] at hlength
  have hshort := hargument.length_le
  omega

/-! ## Looking again and again -/

/-- What an expression is read as if the reader goes on with at most `n` arguments, each one in the expression before;
`none` if that is not enough. -/
def readWithin : Nat → List Char → Option (Option HandlerExpr)
  | 0, expr =>
    match handlerStep expr with
    | .done handler? => some handler?
    | .inside _ => none
  | n + 1, expr =>
    match handlerStep expr with
    | .done handler? => some handler?
    | .inside argument => readWithin n argument

/-- The reader comes to its answer within as many arguments as the text has room for conversions. -/
theorem readWithin_eq {n : Nat} {expr : List Char} (h : expr.length < (n + 1) * (conversionName.length + 1)) :
    readWithin n expr = some (readHandler expr) := by
  induction n generalizing expr with
  | zero =>
    rw [readWithin, readHandler_eq_answer]
    cases hstep : handlerStep expr with
    | done handler? => rfl
    | inside argument =>
      have hshort := (handlerStep_inside hstep).2
      omega
  | succ n ih =>
    rw [readWithin, readHandler_eq_answer]
    cases hstep : handlerStep expr with
    | done handler? => rfl
    | inside argument =>
      have hshort := (handlerStep_inside hstep).2
      have hfew : argument.length < (n + 1) * (conversionName.length + 1) := by
        rw [Nat.succ_mul] at h
        omega
      exact ih hfew

/-! ## Arguments in conversions -/

/-- The conversion as it is written in a file that imports its package. -/
def conversion : List Char :=
  ['h', 't', 't', 'p', '.'] ++ conversionName

theorem isChain_conversion : isChain conversion = true := by
  decide

/-- The blanks around an argument. -/
structure Margins where
  before : List Char
  behind : List Char
  before_blank : ∀ c ∈ before, isBlank c = true
  behind_blank : ∀ c ∈ behind, isBlank c = true

/-- A text in as many conversions as there are margins, of which the first are those of the outermost one. -/
def converted (text : List Char) : List Margins → List Char
  | [] => text
  | margins :: inner => callOf conversion (margins.before ++ converted text inner ++ margins.behind)

theorem handlerStep_conversion (argument : SpacedArgument) :
    handlerStep (callOf conversion argument.written) = .inside argument.text := by
  have hbare := bareExpression_callOf isChain_conversion argument.written
  have hfunc : startsWith funcKeyword (callOf conversion argument.written) = false := rfl
  have hcut : cut? '(' (callOf conversion argument.written) = some (conversion, argument.written ++ [')']) := by
    rw [callOf, List.append_assoc, List.cons_append, cut?_append (open_not_mem_of_isChain isChain_conversion)]
  have hname : lastSegment conversion = conversionName := by decide
  simp [handlerStep, hbare, hfunc, hcut, trim_of_isChain isChain_conversion, isChain_conversion, hname,
    callArguments_single argument]

def Margins.around (margins : Margins) (argument : Argument) : SpacedArgument :=
  { argument with
    before := margins.before
    behind := margins.behind
    before_blank := margins.before_blank
    behind_blank := margins.behind_blank }

/-- A conversion is an argument itself. -/
def conversionOf (argument : SpacedArgument) : Argument where
  text := callOf conversion argument.written
  balanced := by
    rw [callOf, List.append_assoc]
    exact .append (.of_plain (isPlain_of_isChain isChain_conversion))
      (.group (by decide) argument.balanced_written.inBrackets)
  nonempty := by simp [callOf]
  trimmed := trim_callOf isChain_conversion _

def convertedArgument (argument : Argument) : List Margins → Argument
  | [] => argument
  | margins :: inner => conversionOf (margins.around (convertedArgument argument inner))

theorem text_convertedArgument (argument : Argument) (margins : List Margins) :
    (convertedArgument argument margins).text = converted argument.text margins := by
  induction margins with
  | nil => rfl
  | cons margins inner ih =>
    rw [converted, ← ih]
    rfl

/-- An argument in conversions is read as if it stood alone. -/
theorem readHandler_converted (argument : Argument) (margins : List Margins) :
    readHandler (converted argument.text margins) = readHandler argument.text := by
  rw [← text_convertedArgument]
  induction margins with
  | nil => rfl
  | cons margins inner ih =>
    have hstep := handlerStep_conversion (margins.around (convertedArgument argument inner))
    exact (readHandler_of_inside hstep).trans ih

def chainArgument (chain : List Char) (h : isChain chain = true) : Argument where
  text := chain
  balanced := .of_plain (isPlain_of_isChain h)
  nonempty := ne_nil_of_isChain h
  trimmed := trim_of_isChain h

/-- **Conversions to a handler are looked through, and looking through them ends.** Whatever the text of an expression,
the argument that the reader goes on with is a part of the expression and shorter than it, and means the same in every
file. So the reader comes to its answer within as many arguments as the text has room for conversions. And in any number
of conversions, whatever blanks stand around the arguments, a chain of identifiers means what it means alone. -/
theorem conversions_looked_through (disk : Disk) (packages : Packages) (ctx : FileContext) (expr : List Char)
    (margins : List Margins) :
    (∀ argument, handlerStep expr = .inside argument →
      argument <:+: expr ∧ argument.length < expr.length ∧
        handlerRef disk packages ctx expr = handlerRef disk packages ctx argument) ∧
    readWithin (expr.length / (conversionName.length + 1)) expr = some (readHandler expr) ∧
    ∀ chain, isChain chain = true →
      handlerRef disk packages ctx (converted chain margins) = handlerRef disk packages ctx chain := by
  refine ⟨fun argument hstep => ?_, ?_, fun chain hchain => ?_⟩
  · obtain ⟨hpart, hshort⟩ := handlerStep_inside hstep
    refine ⟨hpart, by omega, ?_⟩
    rw [handlerRef, handlerRef, readHandler_of_inside hstep]
  · apply readWithin_eq
    rw [Nat.mul_comm]
    exact Nat.lt_mul_div_succ expr.length (Nat.succ_pos _)
  · have hread : readHandler (converted chain margins) = readHandler chain :=
      readHandler_converted (chainArgument chain hchain) margins
    rw [handlerRef, handlerRef, hread]

def tightMargins : Margins :=
  ⟨[], [], blank_nil, blank_nil⟩

def wideMargins : Margins :=
  ⟨[' '], [' '], blank_space, blank_space⟩

/-- A conversion that a wrong bracket closes, in one that nothing closes, with a literal that does not end; and a method
value in two conversions. -/
theorem conversions_looked_through_open :
    handlerStep "&http.HandlerFunc(x.HandlerFunc(h], \"".toList = .inside "x.HandlerFunc(h]".toList ∧
      "x.HandlerFunc(h]".toList.length < "&http.HandlerFunc(x.HandlerFunc(h], \"".toList.length ∧
      handlerRef ⟨.folder [], []⟩ [] plainContext "&http.HandlerFunc(x.HandlerFunc(h], \"".toList
        = handlerRef ⟨.folder [], []⟩ [] plainContext "x.HandlerFunc(h]".toList ∧
      readHandler "&http.HandlerFunc(x.HandlerFunc(h], \"".toList = some (.func ['h']) ∧
      isChain "s.list".toList = true ∧
      handlerRef ⟨.folder [], []⟩ [] plainContext "http.HandlerFunc(http.HandlerFunc( s.list ))".toList
        = handlerRef ⟨.folder [], []⟩ [] plainContext "s.list".toList := by
  have hall := conversions_looked_through ⟨.folder [], []⟩ [] plainContext
    "&http.HandlerFunc(x.HandlerFunc(h], \"".toList [tightMargins, wideMargins]
  have hstep : handlerStep "&http.HandlerFunc(x.HandlerFunc(h], \"".toList = .inside "x.HandlerFunc(h]".toList := by
    decide +kernel
  have hwithin : readWithin 3 "&http.HandlerFunc(x.HandlerFunc(h], \"".toList = some (some (.func ['h'])) := by
    decide +kernel
  have htext : converted "s.list".toList [tightMargins, wideMargins]
      = "http.HandlerFunc(http.HandlerFunc( s.list ))".toList := by decide
  have hchain : isChain "s.list".toList = true := by decide
  obtain ⟨-, hshort, href⟩ := hall.1 _ hstep
  have hconverted := hall.2.2 _ hchain
  rw [htext] at hconverted
  exact ⟨hstep, hshort, href, Option.some.inj (hall.2.1.symm.trans hwithin), hchain, hconverted⟩

end Routes

end RouteDoc
