import RouteDoc.Proofs.CallReading

/-!
The arguments of a call are read as they are written. A text is balanced (`Balanced`) if it is built from characters
that mean nothing to the reader, from closed literals, and from brackets around balanced text and commas. The reader
goes through a balanced text without cutting it (`piecesFrom_balanced`). So if a call is written with balanced
arguments, whatever blanks stand around them, the reader finds these arguments (`callArguments_written`).
-/

namespace RouteDoc.Go

open RouteDoc.Text

def bracketPairs : List (Char × Char) :=
  [('(', ')'), ('[', ']'), ('{', '}')]

/-- Texts in which every literal is closed and every bracket has its partner. Commas stand in brackets only, unless the
text is `inside` of some. -/
inductive Balanced : Bool → List Char → Prop where
  | nil {inside : Bool} : Balanced inside []
  | plain {inside : Bool} {c : Char} (h : isPlain c = true) : Balanced inside [c]
  | comma : Balanced true [',']
  | quoted {inside : Bool} {quote : Char} {letters : List Source.Letter} (hquote : quote = '"' ∨ quote = '\'')
      (h : ∀ letter ∈ letters, letter.escaped = false → letter.char ≠ quote ∧ letter.char ≠ '\\') :
      Balanced inside (quote :: letters.flatMap Source.Letter.text ++ [quote])
  | raw {inside : Bool} {body : List Char} (h : '\x60' ∉ body) : Balanced inside ('\x60' :: body ++ ['\x60'])
  | group {inside : Bool} {opener closer : Char} {content : List Char} (hpair : (opener, closer) ∈ bracketPairs)
      (h : Balanced true content) : Balanced inside (opener :: content ++ [closer])
  | append {inside : Bool} {s t : List Char} (hs : Balanced inside s) (ht : Balanced inside t) :
      Balanced inside (s ++ t)

structure Argument where
  text : List Char
  balanced : Balanced false text
  nonempty : text ≠ []
  trimmed : trim text = text

/-- An argument with the blanks around it. -/
structure SpacedArgument extends Argument where
  before : List Char
  behind : List Char
  before_blank : ∀ c ∈ before, isBlank c = true
  behind_blank : ∀ c ∈ behind, isBlank c = true

def SpacedArgument.written (argument : SpacedArgument) : List Char :=
  argument.before ++ argument.text ++ argument.behind

/-- The text behind the last argument: a comma, if there is one, with the blanks behind it. -/
inductive Trailing where
  | none
  | comma (behind : List Char) (blank : ∀ c ∈ behind, isBlank c = true)

def Trailing.written : Trailing → List Char
  | none => []
  | comma behind _ => ',' :: behind

/-- A call as it is written, with the text that follows it. -/
def writtenCall (callee : List Char) (arguments : List SpacedArgument) (trailing : Trailing) (rest : List Char) :
    List Char :=
  callee ++ '(' :: ([','].intercalate (arguments.map SpacedArgument.written) ++ trailing.written ++ ')' :: rest)

/-! ## Literals -/

theorem Literal.through_append (literal : Literal) (s t : List Char) :
    literal.through (s ++ t) = (literal.through s).bind (·.through t) := by
  induction s generalizing literal with
  | nil => rfl
  | cons c s ih =>
    rw [List.cons_append, through, through, Option.bind_assoc]
    exact Option.bind_congr fun next _ => ih next

theorem Literal.through_letters {quote : Char} {letters : List Source.Letter} (hquote : quote ≠ '\x60')
    (h : ∀ letter ∈ letters, letter.escaped = false → letter.char ≠ quote ∧ letter.char ≠ '\\') :
    Literal.through ⟨quote, false⟩ (letters.flatMap Source.Letter.text) = some ⟨quote, false⟩ := by
  induction letters with
  | nil => rfl
  | cons letter letters ih =>
    have hletter : Literal.through ⟨quote, false⟩ letter.text = some ⟨quote, false⟩ := by
      obtain ⟨escaped, c⟩ := letter
      cases escaped with
      | true => simp [Source.Letter.text, through, next, hquote]
      | false =>
        obtain ⟨hend, hescape⟩ := h ⟨false, c⟩ (by simp) rfl
        simp [Source.Letter.text, through, next, hend, hescape]
    rw [List.flatMap_cons, through_append, hletter]
    exact ih fun other hother => h other (by simp [hother])

theorem Literal.through_raw {body : List Char} (h : '\x60' ∉ body) :
    Literal.through ⟨'\x60', false⟩ body = some ⟨'\x60', false⟩ := by
  induction body with
  | nil => rfl
  | cons c body ih =>
    have hc : c ≠ '\x60' := fun heq => h (by simp [heq])
    have hrest := ih fun hmem => h (by simp [hmem])
    simp [through, next, hc, hrest]

/-! ## Balanced texts -/

theorem Balanced.of_plain {inside : Bool} {text : List Char} (h : ∀ c ∈ text, isPlain c = true) :
    Balanced inside text := by
  induction text with
  | nil => exact .nil
  | cons c text ih =>
    have hrest := ih fun d hd => h d (by simp [hd])
    exact .append (.plain (h c (by simp))) hrest

theorem Balanced.of_blank {inside : Bool} {text : List Char} (h : ∀ c ∈ text, isBlank c = true) :
    Balanced inside text :=
  .of_plain fun c hc => isPlain_of_isBlank (h c hc)

/-- What the reader sees in a pair of brackets. -/
theorem bracketPairs_spec {opener closer : Char} (h : (opener, closer) ∈ bracketPairs) :
    isQuote opener = false ∧ isOpener opener = true ∧
      isQuote closer = false ∧ isOpener closer = false ∧ isCloser closer = true := by
  simp only [bracketPairs, List.mem_cons, Prod.mk.injEq, List.not_mem_nil, or_false] at h
  rcases h with ⟨rfl, rfl⟩ | ⟨rfl, rfl⟩ | ⟨rfl, rfl⟩ <;> decide

/-- The reader goes through a balanced text without cutting it. Commas in it are inside of brackets, so the reader is
at a depth where they do not count. -/
theorem piecesFrom_balanced {inside : Bool} {text : List Char} (h : Balanced inside text) {depth : Nat}
    (hdepth : inside = true → 0 < depth) (current s : List Char) :
    piecesFrom none depth current (text ++ s) = piecesFrom none depth (current ++ text) s := by
  induction h generalizing depth current s with
  | nil => rw [List.nil_append, List.append_nil]
  | @plain inside c hc =>
    apply piecesFrom_plain
    intro d hd
    rwa [List.mem_singleton.mp hd]
  | comma =>
    have hpos := hdepth rfl
    have hne : depth ≠ 0 := by omega
    simp [piecesFrom, isQuote, isOpener, isCloser, hne]
  | @quoted inside quote letters hquote hletters =>
    have hisQuote : isQuote quote = true := by rcases hquote with rfl | rfl <;> decide
    have hraw : quote ≠ '\x60' := by rcases hquote with rfl | rfl <;> decide
    exact piecesFrom_literal hisQuote (Literal.through_letters hraw hletters) depth current s
  | @raw inside body hbody => exact piecesFrom_literal (by decide) (Literal.through_raw hbody) depth current s
  | @group inside opener closer content hpair _ ih =>
    obtain ⟨hquote, hopen, hquote', hopen', hclose⟩ := bracketPairs_spec hpair
    simp only [List.cons_append, List.append_assoc, List.nil_append, piecesFrom, hquote, hopen, Bool.false_eq_true,
      if_false, if_true]
    rw [ih fun _ => Nat.succ_pos depth]
    simp [piecesFrom, hquote', hopen', hclose]
  | append _ _ ihs iht => rw [List.append_assoc, ihs hdepth, iht hdepth, List.append_assoc]

namespace SpacedArgument

variable (argument : SpacedArgument)

theorem balanced_written : Balanced false argument.written :=
  .append (.append (.of_blank argument.before_blank) argument.balanced) (.of_blank argument.behind_blank)

theorem trim_written : trim argument.written = argument.text := by
  rw [written, trim_between argument.before_blank argument.behind_blank, argument.trimmed]

theorem filter_trim_written (arguments : List SpacedArgument) :
    ((arguments.map written).map trim).filter (fun arg => !arg.isEmpty) = arguments.map (·.text) := by
  have htexts : (arguments.map written).map trim = arguments.map (·.text) := by
    rw [List.map_map]
    exact List.map_congr_left fun argument _ => argument.trim_written
  rw [htexts, List.filter_eq_self]
  intro text htext
  obtain ⟨argument, -, rfl⟩ := List.mem_map.mp htext
  simpa using argument.nonempty

end SpacedArgument

/-! ## Calls -/

theorem piecesFrom_comma {text : List Char} (h : Balanced false text) (s : List Char) :
    piecesFrom none 0 [] (text ++ ',' :: s) = text :: piecesFrom none 0 [] s := by
  rw [piecesFrom_balanced h nofun]
  simp [piecesFrom, isQuote, isOpener, isCloser]

theorem piecesFrom_close {text : List Char} (h : Balanced false text) (s : List Char) :
    piecesFrom none 0 [] (text ++ ')' :: s) = [text] := by
  rw [piecesFrom_balanced h nofun]
  simp [piecesFrom, isQuote, isOpener, isCloser]

/-- The piece that a comma behind the last argument leaves. -/
def Trailing.pieces : Trailing → List (List Char)
  | none => []
  | comma behind _ => [behind]

theorem piecesFrom_last {text : List Char} (h : Balanced false text) (trailing : Trailing) (rest : List Char) :
    piecesFrom none 0 [] (text ++ trailing.written ++ ')' :: rest) = text :: trailing.pieces := by
  cases trailing with
  | none =>
    rw [Trailing.written, List.append_nil]
    exact piecesFrom_close h rest
  | comma behind hblank =>
    rw [Trailing.written, List.append_assoc, List.cons_append, piecesFrom_comma h,
      piecesFrom_close (.of_blank hblank)]
    rfl

/-- The pieces of a call are its arguments as they are written, and what a comma behind the last one leaves. -/
theorem piecesFrom_arguments {arguments : List SpacedArgument} (hne : arguments ≠ []) (trailing : Trailing)
    (rest : List Char) :
    piecesFrom none 0 [] ([','].intercalate (arguments.map SpacedArgument.written) ++ trailing.written ++ ')' :: rest)
      = arguments.map SpacedArgument.written ++ trailing.pieces := by
  induction arguments with
  | nil => exact absurd rfl hne
  | cons argument arguments ih =>
    cases arguments with
    | nil => simpa using piecesFrom_last argument.balanced_written trailing rest
    | cons next arguments =>
      have hrest := ih (List.cons_ne_nil next arguments)
      simp only [List.map_cons] at hrest ⊢
      rw [List.intercalate_cons_cons]
      simp only [List.append_assoc, List.cons_append, List.nil_append] at hrest ⊢
      rw [piecesFrom_comma argument.balanced_written, hrest]

theorem Trailing.filter_pieces (trailing : Trailing) :
    (trailing.pieces.map trim).filter (fun arg => !arg.isEmpty) = [] := by
  cases trailing with
  | none => rfl
  | comma behind hblank => simp [pieces, trim_blanks hblank]

/-- **The arguments of a call are read as they are written.** Whatever is called, with whatever blanks around the
arguments, a comma behind the last one or none, and whatever follows the call, the reader finds these arguments behind
the opening parenthesis. -/
theorem callArguments_written (callee : List Char) (arguments : List SpacedArgument) (trailing : Trailing)
    (rest : List Char) :
    callArguments ((writtenCall callee arguments trailing rest).drop (callee.length + 1))
      = arguments.map (·.text) := by
  have hbehind : (writtenCall callee arguments trailing rest).drop (callee.length + 1)
      = [','].intercalate (arguments.map SpacedArgument.written) ++ trailing.written ++ ')' :: rest := by
    simp [writtenCall]
  rw [hbehind, callArguments]
  cases arguments with
  | nil =>
    have hpieces : piecesFrom none 0 [] ([','].intercalate [] ++ trailing.written ++ ')' :: rest)
        = [] :: trailing.pieces := piecesFrom_last .nil trailing rest
    rw [List.map_nil, hpieces, List.map_cons, List.filter_cons_of_neg (by decide), trailing.filter_pieces]
    rfl
  | cons argument arguments =>
    rw [piecesFrom_arguments (List.cons_ne_nil _ _), List.map_append, List.filter_append, trailing.filter_pieces,
      List.append_nil, SpacedArgument.filter_trim_written]

/-- A path in which a comma, an escaped quote and a parenthesis stand. -/
def pathArgument : SpacedArgument where
  text := '"' :: [⟨false, '/'⟩, ⟨false, ','⟩, ⟨true, '"'⟩, ⟨false, ')'⟩].flatMap Source.Letter.text ++ ['"']
  balanced := .quoted (.inl rfl) (by simp)
  nonempty := by decide
  trimmed := by decide
  before := [' ']
  behind := []
  before_blank := List.all_eq_true.mp (by decide)
  behind_blank := List.all_eq_true.mp (by decide)

/-- A call with two arguments, of which the second is a bracket in a rune. -/
def handlerArgument : SpacedArgument where
  text := ['g'] ++ ('(' :: (['x'] ++ ([','] ++ ('\'' :: [⟨false, ']'⟩].flatMap Source.Letter.text ++ ['\'']))) ++ [')'])
  balanced := .append (.plain (by decide)) (.group (by decide)
    (.append (.plain (by decide)) (.append .comma (.quoted (.inr rfl) (by simp)))))
  nonempty := by decide
  trimmed := by decide
  before := ['\n', '\t']
  behind := [' ']
  before_blank := List.all_eq_true.mp (by decide)
  behind_blank := List.all_eq_true.mp (by decide)

def lineComma : Trailing :=
  .comma ['\n'] (List.all_eq_true.mp (by decide))

theorem callArguments_written_handle :
    writtenCall ['f'] [pathArgument, handlerArgument] lineComma [')', '.']
        = "f( \"/,\\\")\",\n\tg(x,']') ,\n)).".toList ∧
      callArguments ("f( \"/,\\\")\",\n\tg(x,']') ,\n)).".toList.drop 2)
        = ["\"/,\\\")\"".toList, "g(x,']')".toList] := by
  have htext : writtenCall ['f'] [pathArgument, handlerArgument] lineComma [')', '.']
      = "f( \"/,\\\")\",\n\tg(x,']') ,\n)).".toList := by decide
  refine ⟨htext, ?_⟩
  rw [← htext]
  exact callArguments_written ['f'] [pathArgument, handlerArgument] lineComma [')', '.']

end RouteDoc.Go
