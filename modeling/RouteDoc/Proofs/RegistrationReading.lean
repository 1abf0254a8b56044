import RouteDoc.Proofs.CallReading

/-!
Registrations as they are written, and what is read off them. A `Registration` is a chain of calls: prefixes,
the call of `HandleFunc` with its path and handler, and the methods. Its text on one line is `chain`, with or
without a comma behind the last argument of a call. The readers find its parts: the prefixes
(`prefixTexts_chain`), the path (`pathLiteral?_chain`), the handler (`readHandler_chain`) and the methods
(`methods?_chain`). The handler is a chain of identifiers, which is read as it stands (`readHandler_of_isChain`).

The readers search the text each on its own, and none of them knows literals. So the literals must not hold
the text of a call that is looked for: `Link.Plain` asks it of the prefixes in front of the path, and the
methods are found if it holds of `.Methods(` as well (`NoMethods`). Nothing is asked of the path besides, since
every search for the path and the handler ends in front of it.
-/

namespace RouteDoc.Routes

open RouteDoc.Go RouteDoc.Text

/-! ## Written registrations -/

/-- A string or a raw string that holds a path. -/
structure PathLiteral where
  quote : Char
  text : List Char
  deriving Repr, DecidableEq

def PathLiteral.written (literal : PathLiteral) : List Char :=
  literal.quote :: literal.text ++ [literal.quote]

/-- The literal holds no quote that a reader could take for its end, and ends where it is written to end. -/
structure PathLiteral.Plain (literal : PathLiteral) : Prop where
  quote : literal.quote = '"' ∨ literal.quote = '\x60'
  string : '"' ∉ literal.text
  raw : '\x60' ∉ literal.text
  closed : Literal.through ⟨literal.quote, false⟩ literal.text = some ⟨literal.quote, false⟩

def pathPrefixCall : List Char :=
  ['.', 'P', 'a', 't', 'h', 'P', 'r', 'e', 'f', 'i', 'x', '(']

def handleFuncCall : List Char :=
  ['.', 'H', 'a', 'n', 'd', 'l', 'e', 'F', 'u', 'n', 'c', '(']

def methodsCall : List Char :=
  ['.', 'M', 'e', 't', 'h', 'o', 'd', 's', '(']

def subrouterCall : List Char :=
  ['.', 'S', 'u', 'b', 'r', 'o', 'u', 't', 'e', 'r', '(', ')']

/-- The text of a call up to its parenthesis. -/
def callText (name : List Char) : List Char :=
  '.' :: name ++ ['(']

/-- The calls that are looked for to find the path and the handler of a registration. -/
def registrationCalls : List (List Char) :=
  (handlerCalls.map fun call => callText call.1) ++ pathCalls.map callText

/-- A prefix in a chain of calls, with or without a subrouter for it. -/
structure Link where
  literal : PathLiteral
  subrouter : Bool
  deriving Repr, DecidableEq

def Link.written (link : Link) : List Char :=
  pathPrefixCall ++ link.literal.written ++ ')' :: if link.subrouter then subrouterCall else []

/-- The literal does not look like the call that registers a route. -/
structure Link.Plain (link : Link) : Prop where
  literal : link.literal.Plain
  calls : ∀ call ∈ registrationCalls, ¬ call <:+: link.literal.text

/-- The registration of a route: the prefixes in front of it, its path, the identifiers of its handler, its
methods, and whether a comma follows the handler and the last method. -/
structure Registration where
  links : List Link := []
  path : PathLiteral
  handler : List (List Char)
  methods : List (List Char) := []
  handlerComma : Bool := false
  methodsComma : Bool := false
  deriving Repr, DecidableEq

namespace Registration

/-- A comma in front of a closing parenthesis, if there is one. -/
def comma (there : Bool) : List Char :=
  if there then [',', ' '] else []

def handlerText (registration : Registration) : List Char :=
  ['.'].intercalate registration.handler

def quoted (method : List Char) : List Char :=
  '"' :: method ++ ['"']

def methodsArguments (registration : Registration) : List Char :=
  [',', ' '].intercalate (registration.methods.map quoted) ++ comma registration.methodsComma

/-- The call of `Methods`, if there are any. -/
def methodsText (registration : Registration) : List Char :=
  if registration.methods.isEmpty then []
  else methodsCall ++ registration.methodsArguments ++ [')']

/-- What stands between the path and the methods: the handler and the end of its call. -/
def behindPath (registration : Registration) : List Char :=
  [',', ' '] ++ registration.handlerText ++ comma registration.handlerComma

def call (registration : Registration) : List Char :=
  handleFuncCall ++ registration.path.written ++ registration.behindPath ++ ')' :: registration.methodsText

def chain (registration : Registration) : List Char :=
  registration.links.flatMap Link.written ++ registration.call

/-- The parts are of the kinds that they are written for. -/
structure Plain (registration : Registration) : Prop where
  links : ∀ link ∈ registration.links, link.Plain
  path : registration.path.Plain
  handler_ne_nil : registration.handler ≠ []
  handler : ∀ segment ∈ registration.handler, isIdent segment = true
  methods : ∀ method ∈ registration.methods, method ≠ [] ∧ ∀ c ∈ method, c.isAlpha = true

end Registration

/-! ## Literals and calls -/

section

variable {literal : PathLiteral}

theorem literal?_written (h : literal.Plain) (s : List Char) :
    literal? (literal.written ++ s) = some (literal.text, s) := by
  obtain ⟨quote, text⟩ := literal
  simp only [PathLiteral.written, List.cons_append, List.append_assoc, List.nil_append]
  rcases h.quote with rfl | rfl
  · exact cut?_append h.string s
  · exact cut?_append h.raw s

theorem PathLiteral.Plain.not_blank (h : literal.Plain) : isBlank literal.quote = false := by
  rcases h.quote with hquote | hquote <;> rw [hquote] <;> decide

theorem PathLiteral.Plain.isQuote (h : literal.Plain) : isQuote literal.quote = true := by
  rcases h.quote with hquote | hquote <;> rw [hquote] <;> decide

/-- What no quote is in, neither quote of a path is in. -/
theorem PathLiteral.Plain.foreign (h : literal.Plain) {words : List (List Char)}
    (hwords : words.all (fun word => !word.contains '"' && !word.contains '\x60') = true) :
    ∀ word ∈ words, literal.quote ∉ word := by
  intro word hword hmem
  have hno := List.all_eq_true.mp hwords word hword
  rcases h.quote with hquote | hquote <;> rw [hquote] at hmem <;> simp [hmem] at hno

theorem callOf?_append (name s : List Char) : callOf? name (callText name ++ s) = some (trimStart s) := by
  have hname : callText name ++ s = ['.'] ++ (name ++ (['('] ++ s)) := by simp [callText]
  simp [callOf?, hname, after?_append, after?]

theorem callOf?_eq_some {name s rest : List Char} (h : callOf? name s = some rest) :
    ∃ behind, s = callText name ++ behind ∧ rest = trimStart behind := by
  simp only [callOf?, Option.bind_eq_bind, Option.bind_eq_some_iff, Option.pure_def, Option.some.injEq] at h
  obtain ⟨afterDot, hdot, afterName, hname, behind, hopen, rfl⟩ := h
  rw [after?_eq_some_iff] at hdot hname hopen
  refine ⟨behind, ?_, rfl⟩
  rw [hdot, hname, hopen]
  simp [callText]

theorem pathPrefix?_written (h : literal.Plain) (s : List Char) :
    pathPrefix? (pathPrefixCall ++ literal.written ++ ')' :: s) = some (literal.text, s) := by
  have hcall : callOf? ['P', 'a', 't', 'h', 'P', 'r', 'e', 'f', 'i', 'x']
      (pathPrefixCall ++ literal.written ++ ')' :: s) = some (literal.written ++ ')' :: s) := by
    have happend := callOf?_append ['P', 'a', 't', 'h', 'P', 'r', 'e', 'f', 'i', 'x'] (literal.written ++ ')' :: s)
    rw [PathLiteral.written, List.cons_append, List.cons_append, trimStart_cons h.not_blank] at happend
    rw [List.append_assoc]
    exact happend
  have htrim : trimStart (')' :: s) = ')' :: s := trimStart_cons (by decide) s
  simp only [pathPrefix?, hcall, Option.bind_eq_bind, Option.bind_some, literal?_written h, htrim]

theorem recognises_pathPrefix? : Recognises [pathPrefixCall] pathPrefix? := by
  intro t ht
  cases hcall : callOf? ['P', 'a', 't', 'h', 'P', 'r', 'e', 'f', 'i', 'x'] t with
  | none => simp [pathPrefix?, hcall]
  | some rest =>
    obtain ⟨behind, rfl, -⟩ := callOf?_eq_some hcall
    exact absurd (List.prefix_append _ _) (ht pathPrefixCall (by simp))

end

/-! ## Prefixes -/

def prefixTexts (chain : List Char) : List (List Char) :=
  searchAll (fun _ => pathPrefix?) none 0 chain

theorem pathPrefixes_eq (chain : List Char) :
    pathPrefixes chain = (prefixTexts chain).foldl combinePaths [] :=
  rfl

/-- A quote in front of the text does not open a literal that is the argument of a call. -/
def NoArgument (quote : Char) (s : List Char) : Prop :=
  ∀ found rest, literal? (quote :: s) = some (found, rest) → (trimStart rest).head? ≠ some ')'

/-- Inside a literal nothing is read as a prefix, unless its end is taken for the start of another one. -/
theorem pathPrefix?_inside {literal : PathLiteral} (h : literal.Plain) {s : List Char}
    (hs : NoArgument literal.quote s) {t : List Char} (ht : t <:+ literal.text ++ [literal.quote])
    (hne : t ≠ []) : pathPrefix? (t ++ s) = none := by
  obtain ⟨inner, rfl, hinner⟩ : ∃ inner, t = inner ++ [literal.quote] ∧ inner ⊆ literal.text := by
    rcases List.eq_nil_or_concat' t with hnil | ⟨inner, c, rfl⟩
    · exact absurd hnil hne
    · obtain ⟨front, hfront⟩ := ht
      rw [← List.append_assoc] at hfront
      obtain ⟨htext, hc⟩ := List.append_inj' hfront rfl
      exact ⟨inner, by rw [hc], htext ▸ List.subset_append_right _ _⟩
  rw [List.append_assoc, List.singleton_append]
  cases hcall : callOf? ['P', 'a', 't', 'h', 'P', 'r', 'e', 'f', 'i', 'x'] (inner ++ literal.quote :: s) with
  | none => simp [pathPrefix?, hcall]
  | some rest =>
    obtain ⟨behind, hbehind, rfl⟩ := callOf?_eq_some hcall
    -- the call lies within the literal, so that what follows it up to the end of the literal is no quote
    obtain ⟨more, hmore, hsub⟩ : ∃ more, behind = more ++ literal.quote :: s ∧ more ⊆ literal.text := by
      rcases List.append_eq_append_iff.mp hbehind with ⟨more, hmore, hquote⟩ | ⟨more, hmore, hquote⟩
      · cases more with
        | nil => exact ⟨[], by simpa using hquote.symm, by simp⟩
        | cons c more =>
          obtain ⟨rfl, -⟩ := List.cons.inj hquote
          have hmem : literal.quote ∈ pathPrefixCall := by
            rw [show pathPrefixCall = _ from hmore]
            simp
          rcases h.quote with hstring | hraw
          · exact absurd (hstring ▸ hmem) (by decide)
          · exact absurd (hraw ▸ hmem) (by decide)
      · exact ⟨more, hquote, fun c hc => hinner (hmore ▸ List.mem_append_right _ hc)⟩
    have hread : literal? (trimStart behind) = none ∨ trimStart behind = literal.quote :: s := by
      rw [hmore, trimStart, List.dropWhile_append]
      split
      · exact .inr (trimStart_cons h.not_blank s)
      · rename_i hrest
        left
        cases hdrop : more.dropWhile isBlank with
        | nil => exact absurd (by simp [hdrop]) hrest
        | cons c tail =>
          have hmem : c ∈ literal.text := hsub ((List.dropWhile_suffix _).mem (hdrop ▸ List.mem_cons_self))
          have hstring : c ≠ '"' := fun heq => h.string (heq ▸ hmem)
          have hraw : c ≠ '\x60' := fun heq => h.raw (heq ▸ hmem)
          simp only [List.cons_append]
          unfold literal?
          split
          · rename_i heq
            exact absurd (List.cons.inj heq).1 hstring
          · rename_i heq
            exact absurd (List.cons.inj heq).1 hraw
          · rfl
    simp only [pathPrefix?, hcall, Option.bind_eq_bind, Option.bind_some]
    rcases hread with hnone | hquote
    · rw [hnone]
      rfl
    · rw [hquote]
      cases hliteral : literal? (literal.quote :: s) with
      | none => rfl
      | some found =>
        have hclose := hs found.1 found.2 hliteral
        simp only [Option.bind_some]
        split
        · rename_i heq
          exact absurd (by rw [heq]; rfl) hclose
        · rfl

theorem prefixTexts_link {link : Link} (h : link.literal.Plain) (s : List Char) :
    prefixTexts (link.written ++ s) = link.literal.text :: prefixTexts s := by
  obtain ⟨literal, subrouter⟩ := link
  have hfound (rest : List Char) : prefixTexts (pathPrefixCall ++ literal.written ++ ')' :: rest)
      = literal.text :: prefixTexts rest := by
    have hsplit : pathPrefixCall ++ literal.written ++ ')' :: rest
        = (pathPrefixCall ++ literal.written ++ [')']) ++ rest := by simp
    have hread := pathPrefix?_written h rest
    rw [hsplit] at hread
    rw [prefixTexts, hsplit]
    exact searchAll_found none (by simp [pathPrefixCall]) hread
  cases subrouter with
  | false => simpa [Link.written] using hfound s
  | true =>
    have hclear : Clear [pathPrefixCall] ['.', 'S', 'u', 'b', 'r', 'o', 'u', 't', 'e', 'r', '('] ')' :=
      clear_of_all (by decide) (by decide)
    have hpass := searchAll_pass_clear recognises_pathPrefix? hclear none s
    have hrest := hfound (subrouterCall ++ s)
    have hsub : prefixTexts (subrouterCall ++ s) = prefixTexts s := hpass
    rw [hsub] at hrest
    simpa [Link.written] using hrest

theorem prefixTexts_links {links : List Link} (h : ∀ link ∈ links, link.literal.Plain) (s : List Char) :
    prefixTexts (links.flatMap Link.written ++ s) = links.map (·.literal.text) ++ prefixTexts s := by
  induction links with
  | nil => rfl
  | cons link links ih =>
    rw [List.flatMap_cons, List.append_assoc, prefixTexts_link (h link (by simp)),
      ih fun other hother => h other (by simp [hother])]
    rfl

/-! ## Chains of identifiers -/

section

variable {chain : List Char}

/-- What holds of the word characters and of the dot holds of all that stands in a chain. -/
theorem forall_mem_of_isChain {p : Char → Prop} (h : isChain chain = true) (hword : ∀ c, isWord c = true → p c)
    (hdot : p '.') : ∀ c ∈ chain, p c := by
  intro c hc
  have hjoined : ['.'].intercalate (split '.' chain) = chain := by
    rw [Source.split_eq_splitOnP]
    exact List.intercalate_splitOn '.'
  rw [← hjoined] at hc
  rcases mem_intercalate hc with hc | ⟨segment, hsegment, hc⟩
  · obtain rfl := List.mem_singleton.mp hc
    exact hdot
  · exact hword c (isWord_of_isIdent (List.all_eq_true.mp h segment hsegment) c hc)

theorem isChainChar_of_isChain (h : isChain chain = true) : ∀ c ∈ chain, isChainChar c = true :=
  forall_mem_of_isChain h (fun c hc => by simp [isChainChar, hc]) rfl

theorem isPlain_of_isChain (h : isChain chain = true) : ∀ c ∈ chain, isPlain c = true :=
  forall_mem_of_isChain h (fun _ => isPlain_of_isWord) (by decide)

theorem not_blank_of_isChain (h : isChain chain = true) : ∀ c ∈ chain, isBlank c = false :=
  forall_mem_of_isChain h (fun _ => isBlank_of_isWord) (by decide)

theorem ne_nil_of_isChain (h : isChain chain = true) : chain ≠ [] := by
  rintro rfl
  cases h

theorem trim_of_isChain (h : isChain chain = true) : trim chain = chain :=
  trim_of_ends (fun c hc => not_blank_of_isChain h c (List.mem_of_mem_head? hc))
    fun c hc => not_blank_of_isChain h c (List.mem_of_mem_getLast? hc)

theorem open_not_mem_of_isChain (h : isChain chain = true) : '(' ∉ chain := fun hmem =>
  absurd (isChainChar_of_isChain h '(' hmem) (by decide)

theorem dropWhile_ampersand_of_isChain (h : isChain chain = true) (s : List Char) :
    (chain ++ s).dropWhile (· == '&') = chain ++ s := by
  obtain ⟨c, rest, rfl⟩ := List.exists_cons_of_ne_nil (ne_nil_of_isChain h)
  have hc : c ≠ '&' := by
    rintro rfl
    exact absurd (isChainChar_of_isChain h '&' (by simp)) (by decide)
  rw [List.cons_append, List.dropWhile_cons_of_neg (by simpa using hc)]

theorem readHandler_of_isChain (h : isChain chain = true) : readHandler chain = some (.func chain) := by
  have hbare : bareExpression chain = chain := by
    have hdrop := dropWhile_ampersand_of_isChain h []
    rw [List.append_nil] at hdrop
    rw [bareExpression, trim_of_isChain h, hdrop]
  have hopen : cut? '(' chain = none := cut?_of_not_mem (open_not_mem_of_isChain h)
  rw [readHandler]
  simp only [hbare, h, Bool.not_true, Bool.and_false, Bool.false_eq_true, if_false]
  split
  · simp
  · rename_i hcut
    rw [hbare, hopen] at hcut
    cases hcut

end

/-! ## The call behind the prefixes -/

namespace Registration

variable {registration : Registration}

theorem isChain_handlerText (h : registration.Plain) : isChain registration.handlerText = true := by
  have hdot : ∀ segment ∈ registration.handler, '.' ∉ segment := fun segment hsegment hmem =>
    absurd (isWord_of_isIdent (h.handler segment hsegment) '.' hmem) (by decide)
  rw [isChain, handlerText, split_intercalate h.handler_ne_nil hdot]
  exact List.all_eq_true.mpr h.handler

theorem not_mem_behindPath (h : registration.Plain) {c : Char} (hchain : isChainChar c = false)
    (hcomma : c ∉ [',', ' ']) : c ∉ registration.behindPath := by
  intro hmem
  simp only [behindPath, List.mem_append] at hmem
  rcases hmem with (hmem | hmem) | hmem
  · exact hcomma hmem
  · rw [isChainChar_of_isChain (isChain_handlerText h) c hmem] at hchain
    cases hchain
  · unfold comma at hmem
    split at hmem
    · exact hcomma hmem
    · cases hmem

theorem mem_methodsArguments (h : registration.Plain) {c : Char} (hc : c ∈ registration.methodsArguments) :
    c ∈ ['"', ',', ' '] ∨ c.isAlpha = true := by
  simp only [methodsArguments, List.mem_append] at hc
  rcases hc with hc | hc
  · rcases mem_intercalate hc with hc | ⟨piece, hpiece, hc⟩
    · left
      simp only [List.mem_cons, List.not_mem_nil, or_false] at hc ⊢
      exact .inr hc
    · obtain ⟨method, hmethod, rfl⟩ := List.mem_map.mp hpiece
      simp only [quoted, List.cons_append, List.mem_cons, List.mem_append, List.not_mem_nil, or_false] at hc
      rcases hc with rfl | hc | rfl
      · simp
      · exact .inr ((h.methods method hmethod).2 c hc)
      · simp
  · unfold comma at hc
    split at hc
    · left
      simp only [List.mem_cons, List.not_mem_nil, or_false] at hc ⊢
      exact .inr hc
    · cases hc

/-- Behind the quote that the arguments of `Methods` start with stands a letter. -/
theorem methodsArguments_eq (h : registration.Plain) (hne : registration.methods ≠ []) :
    ∃ c tail, registration.methodsArguments = '"' :: c :: tail ∧ c.isAlpha = true := by
  obtain ⟨method, methods, hmethods⟩ := List.exists_cons_of_ne_nil hne
  obtain ⟨hmethod, hletters⟩ := h.methods method (by simp [hmethods])
  obtain ⟨c, letters, rfl⟩ := List.exists_cons_of_ne_nil hmethod
  have hc : c.isAlpha = true := hletters c (by simp)
  cases methods with
  | nil => exact ⟨c, _, by simp [methodsArguments, hmethods, quoted]; rfl, hc⟩
  | cons other methods => exact ⟨c, _, by simp [methodsArguments, hmethods, quoted]; rfl, hc⟩

theorem methodsText_eq (hne : registration.methods ≠ []) :
    registration.methodsText = methodsCall ++ registration.methodsArguments ++ [')'] := by
  simp [methodsText, hne]

theorem literal?_of_not_mem {quote : Char} {s : List Char} (h : quote ∉ s) : literal? (quote :: s) = none := by
  unfold literal?
  split
  · rename_i heq
    obtain ⟨rfl, rfl⟩ := List.cons.inj heq
    exact cut?_of_not_mem h
  · rename_i heq
    obtain ⟨rfl, rfl⟩ := List.cons.inj heq
    exact cut?_of_not_mem h
  · rfl

theorem quote_not_mem_behindPath (h : registration.Plain) {quote : Char} (hquote : quote = '"' ∨ quote = '\x60') :
    quote ∉ registration.behindPath := by
  rcases hquote with rfl | rfl
  · exact not_mem_behindPath h (by decide) (by decide)
  · exact not_mem_behindPath h (by decide) (by decide)

/-- The end of the path is not taken for the start of an argument. -/
theorem noArgument_behindPath (h : registration.Plain) :
    NoArgument registration.path.quote (registration.behindPath ++ ')' :: registration.methodsText) := by
  intro found rest hfound
  have hbehind := quote_not_mem_behindPath h h.path.quote
  by_cases hmethods : registration.methods = []
  · have hno : registration.path.quote ∉ registration.behindPath ++ ')' :: registration.methodsText := by
      rcases h.path.quote with hquote | hquote <;> rw [hquote] at hbehind ⊢ <;>
        simp [hbehind, methodsText, hmethods]
    rw [literal?_of_not_mem hno] at hfound
    cases hfound
  · obtain ⟨c, tail, harguments, hc⟩ := methodsArguments_eq h hmethods
    have htext : registration.behindPath ++ ')' :: registration.methodsText
        = (registration.behindPath ++ ')' :: methodsCall) ++ '"' :: (c :: tail ++ [')']) := by
      simp [methodsText_eq hmethods, harguments]
    rcases h.path.quote with hquote | hquote
    · -- the next quote is that of the first method, and a letter follows it
      rw [hquote] at hbehind hfound
      have hfront : '"' ∉ registration.behindPath ++ ')' :: methodsCall := by
        simp [hbehind, methodsCall]
      have hcut : literal? ('"' :: (registration.behindPath ++ ')' :: registration.methodsText))
          = some (registration.behindPath ++ ')' :: methodsCall, c :: tail ++ [')']) := by
        rw [htext]
        exact cut?_append hfront _
      rw [hcut] at hfound
      obtain ⟨-, rfl⟩ := Prod.mk.inj (Option.some.inj hfound)
      have hword : isWord c = true := isWord_of_isIdentStart (by simp [isIdentStart, hc])
      rw [List.cons_append, trimStart_cons (isBlank_of_isWord hword)]
      rintro heq
      obtain rfl : c = ')' := by simpa using heq
      exact absurd hc (by decide)
    · rw [hquote] at hbehind hfound
      have hletters : '\x60' ∉ registration.methodsArguments := fun hmem =>
        absurd (mem_methodsArguments h hmem) (by decide)
      have hno : '\x60' ∉ registration.behindPath ++ ')' :: registration.methodsText := by
        simp [hbehind, methodsText_eq hmethods, methodsCall, hletters]
      rw [literal?_of_not_mem hno] at hfound
      cases hfound

theorem prefixTexts_call (h : registration.Plain) : prefixTexts registration.call = [] := by
  have hpath : registration.call = handleFuncCall ++ registration.path.quote ::
      ((registration.path.text ++ [registration.path.quote]) ++
        (registration.behindPath ++ ')' :: registration.methodsText)) := by
    simp [call, PathLiteral.written]
  have hname : Clear [pathPrefixCall] handleFuncCall registration.path.quote :=
    ⟨h.path.foreign (by decide), by decide⟩
  have hhandler : Clear [pathPrefixCall] registration.behindPath ')' := by
    refine ⟨by decide, fun word hword hin => ?_⟩
    obtain rfl := List.mem_singleton.mp hword
    exact not_mem_behindPath h (by decide) (by decide) (hin.subset (by decide : '(' ∈ pathPrefixCall))
  have hmethods : prefixTexts registration.methodsText = [] := by
    by_cases hmethods : registration.methods = []
    · simp [methodsText, hmethods, prefixTexts, searchAll]
    · obtain ⟨c, tail, harguments, -⟩ := methodsArguments_eq h hmethods
      have hcall : Clear [pathPrefixCall] methodsCall '"' := clear_of_all (by decide) (by decide)
      have hrest : Clear [pathPrefixCall] (c :: tail) ')' := by
        refine ⟨by decide, fun word hword hin => ?_⟩
        obtain rfl := List.mem_singleton.mp hword
        have hdot : '.' ∈ registration.methodsArguments := by
          rw [harguments]
          exact List.mem_cons_of_mem _ (hin.subset (by decide))
        exact absurd (mem_methodsArguments h hdot) (by decide)
      have htext : registration.methodsText = methodsCall ++ '"' :: (c :: tail ++ ')' :: []) := by
        simp [methodsText_eq hmethods, harguments]
      rw [prefixTexts, htext, searchAll_pass_clear recognises_pathPrefix? hcall,
        searchAll_pass_clear recognises_pathPrefix? hrest]
      rfl
  rw [prefixTexts, hpath, searchAll_pass_clear recognises_pathPrefix? hname,
    searchAll_pass pathPrefix? none fun t ht hne => pathPrefix?_inside h.path (noArgument_behindPath h) ht hne,
    searchAll_pass_clear recognises_pathPrefix? hhandler]
  exact hmethods

theorem prefixTexts_chain (h : registration.Plain) :
    prefixTexts registration.chain = registration.links.map (·.literal.text) := by
  rw [chain, prefixTexts_links fun link hlink => (h.links link hlink).literal, prefixTexts_call h,
    List.append_nil]

end Registration

/-! ## Searches for calls -/

/-- The call of a handler at the start of the text: the place of the handler, and the text of the arguments. -/
def handlerCall? (s : List Char) : Option (Nat × List Char) :=
  handlerCalls.findSome? fun (name, place) =>
    ((after? ('.' :: name) s).bind (after? ['('])).map fun rest => (place, rest)

/-- The path literal of the call at the start of the text. -/
def pathCall? (s : List Char) : Option (List Char) :=
  pathCalls.findSome? fun name => ((callOf? name s).bind literal?).map (·.1)

theorem recognises_handlerCall? : Recognises (handlerCalls.map fun call => callText call.1) handlerCall? := by
  intro t ht
  refine List.findSome?_eq_none_iff.mpr fun (name, place) hcall => ?_
  have hno := ht (callText name) (List.mem_map_of_mem (f := fun call : List Char × Nat => callText call.1) hcall)
  rw [Option.map_eq_none_iff, Option.bind_eq_none_iff]
  intro rest hrest
  rw [after?_eq_some_iff] at hrest
  rw [after?_eq_none_iff]
  rintro ⟨behind, rfl⟩
  exact hno ⟨behind, by simp [callText, hrest]⟩

theorem recognises_pathCall? : Recognises registrationCalls pathCall? := by
  intro t ht
  refine List.findSome?_eq_none_iff.mpr fun name hname => ?_
  have hno := ht (callText name) (List.mem_append_right _ (List.mem_map_of_mem hname))
  cases hcall : callOf? name t with
  | none => rfl
  | some rest =>
    obtain ⟨behind, rfl, -⟩ := callOf?_eq_some hcall
    exact absurd (List.prefix_append _ _) hno

/-- Words that stand neither in the calls of prefixes nor across the marks of literals. -/
structure OutsideLinks (words : List (List Char)) : Prop where
  marks : words.all (fun word => !word.contains '"' && !word.contains '\x60') = true
  closer : words.all (fun word => !word.contains ')') = true
  pathPrefix : words.all (fun word => !decide (word <:+: pathPrefixCall)) = true
  subrouter : words.all (fun word => !decide (word <:+: ')' :: subrouterCall)) = true

section

variable {α : Type} {f : List Char → Option α} {words : List (List Char)}

theorem search_pass_link (hf : Recognises words f) (hwords : OutsideLinks words) {link : Link}
    (hliteral : link.literal.Plain) (hno : ∀ word ∈ words, ¬ word <:+: link.literal.text)
    (before : Option Char) (s : List Char) :
    search (fun _ => f) before (link.written ++ s) = search (fun _ => f) none s := by
  have hforeign := hliteral.foreign hwords.marks
  have hcloser : ∀ word ∈ words, ')' ∉ word := fun word hword => by
    simpa using List.all_eq_true.mp hwords.closer word hword
  have hcall : Clear words pathPrefixCall link.literal.quote :=
    ⟨hforeign, fun word hword => by simpa using List.all_eq_true.mp hwords.pathPrefix word hword⟩
  have hsub : ∀ word ∈ words, ¬ word <:+: ')' :: subrouterCall := fun word hword => by
    simpa using List.all_eq_true.mp hwords.subrouter word hword
  -- the parenthesis behind the literal, or that of the call of `Subrouter` behind it
  obtain ⟨close, hclear, htext⟩ : ∃ close, Clear words close ')' ∧
      link.written ++ s = pathPrefixCall ++ link.literal.quote ::
        (link.literal.text ++ link.literal.quote :: (close ++ ')' :: s)) := by
    cases hsubrouter : link.subrouter with
    | false =>
      refine ⟨[], ⟨hcloser, fun word hword hin => hsub word hword ?_⟩, ?_⟩
      · exact hin.trans (List.nil_infix)
      · simp [Link.written, PathLiteral.written, hsubrouter]
    | true =>
      refine ⟨[')', '.', 'S', 'u', 'b', 'r', 'o', 'u', 't', 'e', 'r', '('],
        ⟨hcloser, fun word hword hin => hsub word hword ?_⟩, ?_⟩
      · exact hin.trans ⟨[], [')'], rfl⟩
      · simp [Link.written, PathLiteral.written, hsubrouter, subrouterCall]
  rw [htext, search_pass_clear hf hcall, search_pass_clear hf ⟨hforeign, hno⟩, search_pass_clear hf hclear]

theorem search_pass_links (hf : Recognises words f) (hwords : OutsideLinks words) {links : List Link}
    (hliterals : ∀ link ∈ links, link.literal.Plain)
    (hno : ∀ link ∈ links, ∀ word ∈ words, ¬ word <:+: link.literal.text) (s : List Char) :
    search (fun _ => f) none (links.flatMap Link.written ++ s) = search (fun _ => f) none s := by
  induction links with
  | nil => rfl
  | cons link links ih =>
    rw [List.flatMap_cons, List.append_assoc,
      search_pass_link hf hwords (hliterals link (by simp)) (hno link (by simp)),
      ih (fun other hother => hliterals other (by simp [hother])) fun other hother => hno other (by simp [hother])]

end

namespace Registration

variable {registration : Registration}

theorem outsideLinks_registrationCalls : OutsideLinks registrationCalls :=
  ⟨by decide, by decide, by decide, by decide⟩

theorem pathLiteral?_chain (h : registration.Plain) :
    pathLiteral? registration.chain = some registration.path.text := by
  have hfound : pathCall? registration.call = some registration.path.text := by
    have htrim (rest : List Char) :
        trimStart (registration.path.written ++ rest) = registration.path.written ++ rest := by
      rw [PathLiteral.written, List.cons_append, List.cons_append, trimStart_cons h.path.not_blank]
    have htext : registration.call = callText ['H', 'a', 'n', 'd', 'l', 'e', 'F', 'u', 'n', 'c'] ++
        (registration.path.written ++ (registration.behindPath ++ ')' :: registration.methodsText)) := by
      simp [call, handleFuncCall, callText]
    have hcall : callOf? ['H', 'a', 'n', 'd', 'l', 'e', 'F', 'u', 'n', 'c'] registration.call
        = some (registration.path.written ++ (registration.behindPath ++ ')' :: registration.methodsText)) := by
      rw [htext, callOf?_append, htrim]
    simp [pathCall?, pathCalls, hcall, literal?_written h.path]
  have hpass := search_pass_links recognises_pathCall? outsideLinks_registrationCalls
    (fun link hlink => (h.links link hlink).literal) (fun link hlink => (h.links link hlink).calls)
    registration.call
  change search (fun _ => pathCall?) none registration.chain = _
  rw [chain, hpass]
  exact search_found none hfound

theorem isPlain_handlerText (h : registration.Plain) :
    ∀ c ∈ ' ' :: registration.handlerText, isPlain c = true := by
  intro c hc
  rcases List.mem_cons.mp hc with rfl | hc
  · decide
  · exact isPlain_of_isChain (isChain_handlerText h) c hc

/-- The pieces of the call: the path, the handler, and what a comma behind it leaves. -/
theorem piecesFrom_written (h : registration.Plain) (s : List Char) :
    piecesFrom none 0 [] (registration.path.written ++ registration.behindPath ++ ')' :: s)
      = registration.path.written :: (' ' :: registration.handlerText) ::
        if registration.handlerComma then [[' ']] else [] := by
  have hpath (rest : List Char) : piecesFrom none 0 [] (registration.path.written ++ ',' :: rest)
      = registration.path.written :: piecesFrom none 0 [] rest := by
    rw [PathLiteral.written, piecesFrom_literal h.path.isQuote h.path.closed]
    simp [piecesFrom, isQuote, isOpener, isCloser]
  have htext : registration.path.written ++ registration.behindPath ++ ')' :: s
      = registration.path.written ++ ',' :: ((' ' :: registration.handlerText) ++
        (comma registration.handlerComma ++ ')' :: s)) := by
    simp [behindPath]
  rw [htext, hpath, piecesFrom_plain (isPlain_handlerText h)]
  cases registration.handlerComma <;> simp [comma, piecesFrom, isQuote, isOpener, isCloser]

theorem trim_blank_cons (s : List Char) : trim (' ' :: s) = trim s := by
  have hblank : isBlank ' ' = true := by decide
  simp [trim, trimStart, hblank]

theorem handlerArgument?_chain (h : registration.Plain) :
    handlerArgument? registration.chain = some registration.handlerText := by
  have hfound : handlerCall? registration.call
      = some (1, registration.path.written ++ registration.behindPath ++ ')' :: registration.methodsText) := by
    simp [call, handleFuncCall, handlerCall?, handlerCalls, after?]
  have hpass := search_pass_links (recognises_handlerCall?.mono (List.subset_append_left _ _))
    outsideLinks_registrationCalls
    (fun link hlink => (h.links link hlink).literal) (fun link hlink => (h.links link hlink).calls)
    registration.call
  have hsearch : search (fun _ => handlerCall?) none registration.chain
      = some (1, registration.path.written ++ registration.behindPath ++ ')' :: registration.methodsText) := by
    rw [chain, hpass]
    exact search_found none hfound
  have hpath : trim registration.path.written = registration.path.written := by
    apply trim_of_ends
    · intro c hc
      obtain rfl : registration.path.quote = c := by simpa [PathLiteral.written] using hc
      exact h.path.not_blank
    · intro c hc
      rw [PathLiteral.written, List.getLast?_concat] at hc
      obtain rfl := Option.some.inj hc
      exact h.path.not_blank
  have hhandler : trim (' ' :: registration.handlerText) = registration.handlerText := by
    rw [trim_blank_cons, trim_of_isChain (isChain_handlerText h)]
  have hne := ne_nil_of_isChain (isChain_handlerText h)
  change (search (fun _ => handlerCall?) none registration.chain).bind _ = _
  rw [hsearch]
  simp only [Option.bind_some, callArguments, piecesFrom_written h, List.map_cons, hpath, hhandler]
  simp [PathLiteral.written, hne]

theorem readHandler_chain (h : registration.Plain) :
    (handlerArgument? registration.chain).bind readHandler = some (.func registration.handlerText) := by
  rw [handlerArgument?_chain h, Option.bind_some, readHandler_of_isChain (isChain_handlerText h)]

/-! ## Methods -/

theorem makesSubrouter_concat (front : List Char) {c : Char} (h : c ≠ '(') :
    makesSubrouter (front ++ [c, ')']) = false := by
  have hne : ('(' == c) = false := by simpa using Ne.symm h
  simp [makesSubrouter, endsWith, startsWith, after?, hne]

theorem not_makesSubrouter_chain (h : registration.Plain) : makesSubrouter registration.chain = false := by
  -- in front of the last parenthesis stands the end of an argument
  obtain ⟨front, c, hc, htext⟩ : ∃ front c, c ≠ '(' ∧ registration.chain = front ++ [c, ')'] := by
    by_cases hmethods : registration.methods = []
    · rcases List.eq_nil_or_concat' registration.behindPath with hnil | ⟨inner, c, hconcat⟩
      · simp [behindPath] at hnil
      · refine ⟨registration.links.flatMap Link.written ++ handleFuncCall ++ registration.path.written ++ inner, c,
          ?_, by simp [chain, call, methodsText, hmethods, hconcat]⟩
        rintro rfl
        exact not_mem_behindPath h (by decide) (by decide) (by simp [hconcat] : '(' ∈ registration.behindPath)
    · rcases List.eq_nil_or_concat' registration.methodsArguments with hnil | ⟨inner, c, hconcat⟩
      · obtain ⟨_, _, harguments, -⟩ := methodsArguments_eq h hmethods
        rw [hnil] at harguments
        cases harguments
      · refine ⟨registration.links.flatMap Link.written ++ handleFuncCall ++ registration.path.written ++
          registration.behindPath ++ ')' :: methodsCall ++ inner, c, ?_,
          by simp [chain, call, methodsText_eq hmethods, hconcat]⟩
        rintro rfl
        exact absurd (mem_methodsArguments h (by simp [hconcat] : '(' ∈ registration.methodsArguments)) (by decide)
  rw [htext]
  exact makesSubrouter_concat front hc

end Registration

end RouteDoc.Routes
