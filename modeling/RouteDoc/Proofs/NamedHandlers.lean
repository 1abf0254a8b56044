import RouteDoc.Proofs.CallArguments
import RouteDoc.Proofs.RegistrationReading

/-!
Handlers with a name. A handler is named by a chain of identifiers, or by the call of one (`NamedHandler`). A chain is
read as it stands (`readHandler_of_isChain`). A call is read as what it calls, unless that starts with the letters of
`func` (`readHandler_call`): whether a function is anonymous is told from the first letters of the expression, and the
exception for identifiers looks at the whole of it, which a call is not. A route with such a handler is not registered,
in whatever call the handler stands (`named_handler_kept_iff`).
-/

namespace RouteDoc.Routes

open RouteDoc.Go RouteDoc.Text

/-! ## Handlers in a file -/

/-- The handler that an expression means in a file. -/
def handlerRef (disk : Disk) (packages : Packages) (ctx : FileContext) (expr : List Char) :
    Run (Option HandlerRef) :=
  match readHandler expr with
  | some handler => some <$> qualifyHandler disk packages ctx handler
  | none => return none

/-- The route that a chain of calls registers for a handler. -/
def entryOf (base chain : List Char) (handler : HandlerRef) : RouteEntry :=
  { path? := (pathLiteral? chain).map fun path => String.ofList (combinePaths base path)
    methods? := methods? chain
    handler := handler }

/-- A chain of calls registers a route for what its handler argument means. -/
theorem registration_eq (disk : Disk) (packages : Packages) (ctx : FileContext) (base : List Char)
    {chain expr : List Char} (h : handlerArgument? chain = some expr) :
    registration disk packages ctx base chain
      = Option.map (entryOf base chain) <$> handlerRef disk packages ctx expr := by
  rw [registration, h, Option.bind_some, handlerRef]
  cases readHandler expr with
  | none => rfl
  | some handler => rfl

/-! ## Named handlers -/

/-- A handler with a name: a chain of identifiers, alone or called with balanced arguments. The chain is not the word
that starts an anonymous function, and its last identifier not one of those that make a handler of something else. -/
structure NamedHandler where
  chain : List Char
  arguments? : Option (List Char)
  isChain : Go.isChain chain = true
  named : chain ≠ funcKeyword
  noConversion : lastSegment chain ≠ conversionName
  noServer : lastSegment chain ≠ serverName
  balanced : ∀ arguments ∈ arguments?, Balanced true arguments

def callOf (chain arguments : List Char) : List Char :=
  chain ++ '(' :: arguments ++ [')']

def NamedHandler.text (handler : NamedHandler) : List Char :=
  match handler.arguments? with
  | some arguments => callOf handler.chain arguments
  | none => handler.chain

/-- The handler is a call that starts like an anonymous function. -/
structure NamedHandler.Mistaken (handler : NamedHandler) : Prop where
  called : handler.arguments? ≠ none
  word : funcKeyword <+: handler.chain

/-- Whether a text starts with a word is told before a character that is foreign to the word. -/
theorem isPrefix_append_cons_iff {word text : List Char} {c : Char} (h : c ∉ word) (s : List Char) :
    word <+: text ++ c :: s ↔ word <+: text := by
  constructor
  · intro hword
    have hshort : text ++ [c] <+: text ++ c :: s := ⟨s, by simp⟩
    rcases List.prefix_or_prefix_of_prefix hword hshort with hin | hover
    · rcases List.prefix_concat_iff.mp hin with rfl | hin
      · exact absurd (by simp) h
      · exact hin
    · exact absurd (hover.subset (by simp)) h
  · exact fun hword => hword.trans (List.prefix_append text _)

section

variable {chain : List Char} (hchain : isChain chain = true) (arguments : List Char)

include hchain

theorem trim_callOf : trim (callOf chain arguments) = callOf chain arguments := by
  apply trim_of_ends
  · intro c hc
    obtain ⟨first, rest, rfl⟩ := List.exists_cons_of_ne_nil (ne_nil_of_isChain hchain)
    obtain rfl : first = c := by simpa [callOf] using hc
    exact not_blank_of_isChain hchain first (by simp)
  · intro c hc
    rw [callOf, List.getLast?_concat] at hc
    obtain rfl := Option.some.inj hc
    decide

theorem bareExpression_callOf : bareExpression (callOf chain arguments) = callOf chain arguments := by
  rw [bareExpression, trim_callOf hchain, callOf, List.append_assoc, List.cons_append,
    dropWhile_ampersand_of_isChain hchain]

/-- A call is read as what it calls, unless that starts with the letters of `func`. -/
theorem readHandler_call (hconversion : lastSegment chain ≠ conversionName)
    (hserver : lastSegment chain ≠ serverName) :
    readHandler (callOf chain arguments) = if funcKeyword <+: chain then none else some (.func chain) := by
  have hbare := bareExpression_callOf hchain arguments
  have hcut : cut? '(' (callOf chain arguments) = some (chain, arguments ++ [')']) := by
    rw [callOf, List.append_assoc, List.cons_append, cut?_append (open_not_mem_of_isChain hchain)]
  have hwhole : isChain (callOf chain arguments) = false := by
    by_contra hcall
    rw [Bool.not_eq_false] at hcall
    exact open_not_mem_of_isChain hcall (by simp [callOf])
  have hstarts : startsWith funcKeyword (callOf chain arguments) = decide (funcKeyword <+: chain) := by
    rw [startsWith, Bool.eq_iff_iff, Option.isSome_iff_ne_none, Ne, after?_eq_none_iff, not_not, decide_eq_true_eq,
      callOf, List.append_assoc, List.cons_append]
    exact isPrefix_append_cons_iff (by decide) _
  rw [readHandler]
  simp only [hbare, hwhole, hstarts, Bool.not_false, Bool.and_true, decide_eq_true_eq]
  split
  · rfl
  · split
    · rename_i hnone
      rw [hbare, hcut] at hnone
      cases hnone
    · rename_i before rest hsome
      rw [hbare, hcut] at hsome
      obtain ⟨rfl, rfl⟩ := Prod.mk.inj (Option.some.inj hsome)
      simp [trim_of_isChain hchain, hchain, hconversion, hserver]

end

namespace NamedHandler

variable (handler : NamedHandler)

theorem readHandler_text_of_not_mistaken (h : ¬ handler.Mistaken) :
    readHandler handler.text = some (.func handler.chain) := by
  unfold text
  split
  · rename_i arguments harguments
    have hword : ¬ funcKeyword <+: handler.chain := fun hword => h ⟨by simp [harguments], hword⟩
    rw [readHandler_call handler.isChain arguments handler.noConversion handler.noServer, if_neg hword]
  · exact readHandler_of_isChain handler.isChain

theorem readHandler_text_of_mistaken (h : handler.Mistaken) : readHandler handler.text = none := by
  obtain ⟨arguments, harguments⟩ := Option.ne_none_iff_exists'.mp h.called
  simp only [text, harguments]
  rw [readHandler_call handler.isChain arguments handler.noConversion handler.noServer, if_pos h.word]

theorem balanced_text : Balanced false handler.text := by
  have hchain : Balanced false handler.chain := .of_plain (isPlain_of_isChain handler.isChain)
  unfold text
  split
  · rename_i arguments harguments
    rw [callOf, List.append_assoc]
    exact .append hchain (.group (by decide) (handler.balanced arguments harguments))
  · exact hchain

theorem text_ne_nil : handler.text ≠ [] := by
  have hchain := ne_nil_of_isChain handler.isChain
  unfold text
  split <;> simp [callOf, hchain]

theorem trim_text : trim handler.text = handler.text := by
  unfold text
  split
  · exact trim_callOf handler.isChain _
  · exact trim_of_isChain handler.isChain

end NamedHandler

/-! ## Registrations with a place for the handler -/

/-- A chain of calls that registers a handler: the calls in front of the one that takes it, that call with its other
arguments, and what follows. No call in front takes a handler. -/
structure HandlerPlace where
  front : List Char
  call : List Char × Nat
  before : List SpacedArgument
  lead : List Char
  behind : List Char
  after : List SpacedArgument
  trailing : Trailing
  rest : List Char
  closed : front = [] ∨ front.getLast? = some ')'
  absent : ∀ other ∈ handlerCalls.map fun call => callText call.1, ¬ other <:+: front
  call_mem : call ∈ handlerCalls
  before_length : before.length = call.2
  lead_blank : ∀ c ∈ lead, isBlank c = true
  behind_blank : ∀ c ∈ behind, isBlank c = true

namespace HandlerPlace

variable (place : HandlerPlace) (handler : NamedHandler)

def argument : SpacedArgument where
  text := handler.text
  balanced := handler.balanced_text
  nonempty := handler.text_ne_nil
  trimmed := handler.trim_text
  before := place.lead
  behind := place.behind
  before_blank := place.lead_blank
  behind_blank := place.behind_blank

def arguments : List SpacedArgument :=
  place.before ++ place.argument handler :: place.after

def text : List Char :=
  place.front ++ writtenCall ('.' :: place.call.1) (place.arguments handler) place.trailing place.rest

theorem handlerCall?_call {call : List Char × Nat} (h : call ∈ handlerCalls) (s : List Char) :
    handlerCall? ('.' :: call.1 ++ '(' :: s) = some (call.2, s) := by
  simp only [handlerCalls, List.mem_cons, List.not_mem_nil, or_false] at h
  rcases h with rfl | rfl | rfl | rfl <;> simp [handlerCall?, handlerCalls, after?]

theorem search_handlerCall? (s : List Char) :
    search (fun _ => handlerCall?) none (place.front ++ s) = search (fun _ => handlerCall?) none s := by
  rcases place.closed with hnil | hlast
  · rw [hnil, List.nil_append]
  · obtain ⟨inner, hfront⟩ := List.getLast?_eq_some_iff.mp hlast
    have hclear : Clear (handlerCalls.map fun call => callText call.1) inner ')' := by
      refine ⟨by decide, fun word hword hin => place.absent word hword ?_⟩
      rw [hfront]
      exact hin.trans (List.prefix_append inner [')']).isInfix
    rw [hfront, List.append_assoc]
    exact search_pass_clear recognises_handlerCall? hclear none s

theorem callArguments_arguments :
    callArguments ([','].intercalate ((place.arguments handler).map SpacedArgument.written)
        ++ place.trailing.written ++ ')' :: place.rest) = (place.arguments handler).map (·.text) := by
  have hne : place.arguments handler ≠ [] := by simp [arguments]
  rw [callArguments, piecesFrom_arguments hne, List.map_append, List.filter_append, place.trailing.filter_pieces,
    List.append_nil, SpacedArgument.filter_trim_written]

theorem handlerArgument?_text : handlerArgument? (place.text handler) = some handler.text := by
  have hsearch : search (fun _ => handlerCall?) none (place.text handler)
      = some (place.call.2, [','].intercalate ((place.arguments handler).map SpacedArgument.written)
        ++ place.trailing.written ++ ')' :: place.rest) := by
    rw [text, search_handlerCall?]
    exact search_found none (handlerCall?_call place.call_mem _)
  change (search (fun _ => handlerCall?) none (place.text handler)).bind _ = _
  rw [hsearch]
  simp only [Option.bind_some]
  rw [place.callArguments_arguments handler, ← place.before_length]
  simp [arguments, argument]

end HandlerPlace

/-! ## What becomes of named handlers -/

section

variable (handler : NamedHandler) (disk : Disk) (packages : Packages) (ctx : FileContext)

theorem handlerRef_of_not_mistaken (h : ¬ handler.Mistaken) :
    handlerRef disk packages ctx handler.text
      = (fun symbol => some (.func symbol)) <$> qualify disk packages ctx handler.chain := by
  rw [handlerRef, handler.readHandler_text_of_not_mistaken h]
  rfl

theorem handlerRef_of_mistaken (h : handler.Mistaken) :
    handlerRef disk packages ctx handler.text = pure none := by
  rw [handlerRef, handler.readHandler_text_of_mistaken h]

variable (place : HandlerPlace) (base : List Char) (session : Session)

theorem registration_of_not_mistaken (h : ¬ handler.Mistaken) :
    (registration disk packages ctx base (place.text handler) session).1
      = some (entryOf base (place.text handler) (.func (qualify disk packages ctx handler.chain session).1)) := by
  rw [registration_eq disk packages ctx base (place.handlerArgument?_text handler),
    handlerRef_of_not_mistaken handler disk packages ctx h]
  rfl

theorem registration_of_mistaken (h : handler.Mistaken) :
    (registration disk packages ctx base (place.text handler) session).1 = none := by
  rw [registration_eq disk packages ctx base (place.handlerArgument?_text handler),
    handlerRef_of_mistaken handler disk packages ctx h]
  rfl

end

/-- **A named handler is kept unless it is a call that starts like an anonymous function.** In every file a handler with
a name means the function that its chain of identifiers names exactly if it is not such a call, and nothing otherwise.
And whatever call of a chain it stands in, the chain registers a route for that function exactly in the first case; in
the second the route is dropped. -/
theorem named_handler_kept_iff (handler : NamedHandler) (disk : Disk) (packages : Packages) (ctx : FileContext)
    (place : HandlerPlace) (base : List Char) (session : Session) :
    (handlerRef disk packages ctx handler.text
        = (fun symbol => some (.func symbol)) <$> qualify disk packages ctx handler.chain ↔ ¬ handler.Mistaken) ∧
    (handlerRef disk packages ctx handler.text = pure none ↔ handler.Mistaken) ∧
    ((registration disk packages ctx base (place.text handler) session).1
        = some (entryOf base (place.text handler) (.func (qualify disk packages ctx handler.chain session).1))
      ↔ ¬ handler.Mistaken) ∧
    ((registration disk packages ctx base (place.text handler) session).1 = none ↔ handler.Mistaken) := by
  by_cases h : handler.Mistaken
  · have href := handlerRef_of_mistaken handler disk packages ctx h
    have hroute := registration_of_mistaken handler disk packages ctx place base session h
    refine ⟨iff_of_false (fun heq => ?_) (not_not.mpr h), iff_of_true href h, ?_, iff_of_true hroute h⟩
    · -- a run that means something answers with something
      rw [href] at heq
      cases congrArg Prod.fst (congrFun heq session)
    · rw [hroute]
      exact iff_of_false nofun (not_not.mpr h)
  · have href := handlerRef_of_not_mistaken handler disk packages ctx h
    have hroute := registration_of_not_mistaken handler disk packages ctx place base session h
    refine ⟨iff_of_true href h, iff_of_false (fun heq => ?_) h, iff_of_true hroute h, ?_⟩
    · rw [href] at heq
      cases congrArg Prod.fst (congrFun heq session)
    · rw [hroute]
      exact iff_of_false nofun h

def handlerOfDatabase (function : List Char) (h : isChain function = true ∧ function ≠ funcKeyword ∧
    lastSegment function ≠ conversionName ∧
    lastSegment function ≠ serverName) : NamedHandler where
  chain := function
  arguments? := some ['d', 'b']
  isChain := h.1
  named := h.2.1
  noConversion := h.2.2.1
  noServer := h.2.2.2
  balanced arguments harguments := by
    obtain rfl := Option.some.inj harguments
    exact .of_plain (List.all_eq_true.mp (by decide))

theorem blank_nil : ∀ c ∈ ([] : List Char), isBlank c = true := by
  simp

theorem blank_space : ∀ c ∈ [' '], isBlank c = true :=
  List.all_eq_true.mp (by decide)

def pathA : SpacedArgument where
  text := '"' :: [⟨false, '/'⟩, ⟨false, 'a'⟩].flatMap Source.Letter.text ++ ['"']
  balanced := .quoted (.inl rfl) (by simp)
  nonempty := by decide
  trimmed := by decide
  before := []
  behind := []
  before_blank := blank_nil
  behind_blank := blank_nil

/-- The second argument of `HandleFunc`, behind a path. -/
def behindPathA : HandlerPlace where
  front := []
  call := (['H', 'a', 'n', 'd', 'l', 'e', 'F', 'u', 'n', 'c'], 1)
  before := [pathA]
  lead := [' ']
  behind := []
  after := []
  trailing := .none
  rest := []
  closed := .inl rfl
  absent := by decide
  call_mem := by decide
  before_length := rfl
  lead_blank := blank_space
  behind_blank := blank_nil

/-- A file of the package `m` that imports nothing. -/
def plainContext : FileContext :=
  ⟨⟨⟨["", "m", "r.go"]⟩, []⟩, [], "m"⟩

/-- Of two handlers made in the same way, the one from a function whose name starts with `func` is dropped. -/
theorem named_handler_kept_iff_database :
    (registration ⟨.folder [], []⟩ [] plainContext [] ".HandleFunc(\"/a\", makeHandler(db))".toList {}).1
        = some ⟨some "/a", none, .func ⟨"m.makeHandler", none⟩⟩ ∧
      (registration ⟨.folder [], []⟩ [] plainContext [] ".HandleFunc(\"/a\", funcHandler(db))".toList {}).1 = none := by
  have hkept := named_handler_kept_iff (handlerOfDatabase "makeHandler".toList (by decide)) ⟨.folder [], []⟩ []
    plainContext behindPathA [] {}
  have hdropped := named_handler_kept_iff (handlerOfDatabase "funcHandler".toList (by decide)) ⟨.folder [], []⟩ []
    plainContext behindPathA [] {}
  have htexts : behindPathA.text (handlerOfDatabase "makeHandler".toList (by decide))
        = ".HandleFunc(\"/a\", makeHandler(db))".toList ∧
      behindPathA.text (handlerOfDatabase "funcHandler".toList (by decide))
        = ".HandleFunc(\"/a\", funcHandler(db))".toList := by decide
  rw [htexts.1] at hkept
  rw [htexts.2] at hdropped
  refine ⟨?_, hdropped.2.2.2.mpr ⟨nofun, by decide⟩⟩
  rw [hkept.2.2.1.mpr fun h => absurd h.word (by decide)]
  decide +kernel

end RouteDoc.Routes
