import Mathlib.Data.Option.Basic
import RouteDoc.Proofs.TextSearch
import RouteDoc.Routes.Mux

/-!
Statements and calls as they are read. A statement that starts with a receiver and the name of a call is read as
it stands (`read_call`), the definition of a variable as its name and its value (`read_definition`). A receiver
that is no package makes a statement the call of a router (`routerCall?_call`).

The arguments of a call are cut at its commas. A literal goes through whole (`piecesFrom_literal`), and so does a
text without quotes, brackets and commas (`piecesFrom_plain`).
-/

namespace RouteDoc.Go

open RouteDoc.Text

/-! ## Literals -/

/-- The literal behind a text inside it, if the text does not end it. -/
def Literal.through (literal : Literal) : List Char → Option Literal
  | [] => some literal
  | c :: cs => (literal.next c).bind (·.through cs)

theorem Literal.through_of_not_mem {quote : Char} {text : List Char} (hquote : quote ∉ text)
    (hescape : '\\' ∉ text) : Literal.through ⟨quote, false⟩ text = some ⟨quote, false⟩ := by
  induction text with
  | nil => rfl
  | cons c text ih =>
    have hc : c ≠ '\\' := fun heq => hescape (by simp [heq])
    have hend : c ≠ quote := fun heq => hquote (by simp [heq])
    have hrest := ih (fun h => hquote (by simp [h])) fun h => hescape (by simp [h])
    simp [through, next, hc, hend, hrest]

theorem piecesFrom_through {literal last : Literal} {text : List Char} (h : literal.through text = some last)
    (depth : Nat) (current s : List Char) :
    piecesFrom (some literal) depth current (text ++ s) = piecesFrom (some last) depth (current ++ text) s := by
  induction text generalizing literal current with
  | nil =>
    obtain rfl := Option.some.inj h
    simp
  | cons c text ih =>
    obtain ⟨next, hnext, hrest⟩ := Option.bind_eq_some_iff.mp h
    rw [List.cons_append, piecesFrom, hnext, ih hrest, List.append_assoc]
    rfl

theorem nestingFrom_through {literal last : Literal} {text : List Char} (h : literal.through text = some last)
    (opener closer : Char) (s : List Char) :
    nestingFrom opener closer (some literal) (text ++ s) = nestingFrom opener closer (some last) s := by
  induction text generalizing literal with
  | nil =>
    obtain rfl := Option.some.inj h
    rfl
  | cons c text ih =>
    obtain ⟨next, hnext, hrest⟩ := Option.bind_eq_some_iff.mp h
    rw [List.cons_append, nestingFrom, hnext, ih hrest]

theorem Literal.next_quote {quote : Char} (h : isQuote quote = true) : Literal.next ⟨quote, false⟩ quote = none := by
  simp only [isQuote, Bool.or_eq_true, beq_iff_eq] at h
  rcases h with (rfl | rfl) | rfl <;> decide

theorem piecesFrom_literal {quote : Char} {body : List Char} (hquote : isQuote quote = true)
    (hbody : Literal.through ⟨quote, false⟩ body = some ⟨quote, false⟩) (depth : Nat) (current s : List Char) :
    piecesFrom none depth current (quote :: body ++ [quote] ++ s)
      = piecesFrom none depth (current ++ (quote :: body ++ [quote])) s := by
  simp only [List.cons_append, List.append_assoc, List.nil_append, piecesFrom, hquote, if_true]
  rw [piecesFrom_through hbody, piecesFrom, Literal.next_quote hquote]
  simp

/-- A character that neither quotes nor is a bracket or a comma goes to the piece that it stands in. -/
def isPlain (c : Char) : Bool :=
  !isQuote c && !isOpener c && !isCloser c && c != ','

theorem piecesFrom_plain {text : List Char} (h : ∀ c ∈ text, isPlain c = true) (depth : Nat)
    (current s : List Char) :
    piecesFrom none depth current (text ++ s) = piecesFrom none depth (current ++ text) s := by
  induction text generalizing current with
  | nil => simp
  | cons c text ih =>
    have hc := h c (by simp)
    simp only [isPlain, Bool.and_eq_true, Bool.not_eq_true', bne_iff_ne, ne_eq] at hc
    obtain ⟨⟨⟨hquote, hopen⟩, hclose⟩, hcomma⟩ := hc
    simp only [List.cons_append, piecesFrom, hquote, hopen, hclose, hcomma, Bool.false_eq_true, if_false,
      decide_false, Bool.false_and]
    rw [ih fun d hd => h d (by simp [hd]), List.append_assoc]
    rfl

theorem isPlain_of_isWord {c : Char} (h : isWord c = true) : isPlain c = true := by
  have hmarks : ['"', '\'', '\x60', '(', '[', '{', ')', ']', '}', ','].all (fun mark => !isWord mark) = true := by
    decide
  have hne : ∀ mark ∈ ['"', '\'', '\x60', '(', '[', '{', ')', ']', '}', ','], c ≠ mark := by
    rintro mark hmark rfl
    have hno := List.all_eq_true.mp hmarks c hmark
    simp [h] at hno
  simp [isPlain, isQuote, isOpener, isCloser, hne]

theorem isPlain_of_isBlank {c : Char} (h : isBlank c = true) : isPlain c = true := by
  simpa using eq_false_of_isBlank (p := fun c => !isPlain c) (by decide) h

/-! ## Receivers -/

theorem isReceiverChar_mark : ∀ c ∈ ['(', ':', '=', ' ', '"', '\x60'], isReceiverChar c = false := by
  have hall : ['(', ':', '=', ' ', '"', '\x60'].all (fun c => !isReceiverChar c) = true := by decide
  intro c hc
  simpa using List.all_eq_true.mp hall c hc

theorem takeWhile_receiver {front : List Char} (h : ∀ c ∈ front, isReceiverChar c = true) (s : List Char) :
    (front ++ '(' :: s).takeWhile isReceiverChar = front ∧
      (front ++ '(' :: s).dropWhile isReceiverChar = '(' :: s := by
  have hstop : isReceiverChar '(' = false := isReceiverChar_mark '(' (by simp)
  rw [List.takeWhile_append_of_pos h, List.dropWhile_append_of_pos h, List.takeWhile_cons_of_neg (by simp [hstop]),
    List.dropWhile_cons_of_neg (by simp [hstop]), List.append_nil]
  exact ⟨rfl, rfl⟩

theorem splitReceiver?_call {receiver name : List Char} (hne : receiver ≠ [])
    (hreceiver : ∀ c ∈ receiver, isReceiverChar c = true) (hname : ∀ c ∈ name, isReceiverChar c = true)
    (hdot : '.' ∉ name) (s : List Char) :
    splitReceiver? (receiver ++ '.' :: name ++ '(' :: s) = some (receiver, '.' :: name ++ '(' :: s) := by
  have hfront : ∀ c ∈ receiver ++ '.' :: name, isReceiverChar c = true := by
    intro c hc
    rcases List.mem_append.mp hc with hc | hc
    · exact hreceiver c hc
    · rcases List.mem_cons.mp hc with rfl | hc
      · decide
      · exact hname c hc
  obtain ⟨htake, hdrop⟩ := takeWhile_receiver hfront s
  rw [splitReceiver?, hdrop, htake, cutLast?_append receiver hdot]
  cases receiver with
  | nil => exact absurd rfl hne
  | cons c receiver => rfl

end RouteDoc.Go

namespace RouteDoc.Routes

open RouteDoc.Go RouteDoc.Text

/-! ## Statements -/

theorem not_blank_of_head_call {front s : List Char} (h : ∀ c ∈ front, isReceiverChar c = true) {c : Char}
    (hc : (front ++ '(' :: s).head? = some c) : isBlank c = false ∧ c ≠ ':' ∧ c ≠ '=' := by
  cases front with
  | nil =>
    obtain rfl : '(' = c := by simpa using hc
    decide
  | cons first front =>
    obtain rfl : first = c := by simpa using hc
    have hreceiver := h first (by simp)
    refine ⟨isBlank_of_isReceiverChar hreceiver, ?_, ?_⟩
    · rintro rfl
      rw [isReceiverChar_mark ':' (by simp)] at hreceiver
      cases hreceiver
    · rintro rfl
      rw [isReceiverChar_mark '=' (by simp)] at hreceiver
      cases hreceiver

theorem assignment?_eq_none_of_head {s : List Char}
    (h : ∀ c, s.head? = some c → isBlank c = false ∧ c ≠ ':' ∧ c ≠ '=') : Go.assignment? s = none := by
  have htrim : trimStart s = s := trimStart_of_head fun c hc => (h c hc).1
  rw [Go.assignment?, htrim]
  split
  · exact absurd rfl (h ':' rfl).2.1
  · exact absurd rfl (h '=' rfl).2.2
  · rfl

theorem assignment?_call {front : List Char} (h : ∀ c ∈ front, isReceiverChar c = true) (s : List Char) :
    assignment? (front ++ '(' :: s) = none := by
  cases front with
  | nil => rfl
  | cons c front =>
    rw [List.cons_append, assignment?, dotted?]
    split
    · have hstop : isChainChar '(' = false := by decide
      have hnone : Go.assignment? ((front ++ '(' :: s).dropWhile isChainChar) = none := by
        have hdrop : (front ++ '(' :: s).dropWhile isChainChar = front.dropWhile isChainChar ++ '(' :: s := by
          rw [List.dropWhile_append, List.dropWhile_cons_of_neg (by simp [hstop])]
          split
          · rename_i hempty
            rw [List.isEmpty_iff.mp hempty]
            rfl
          · rfl
        rw [hdrop]
        refine assignment?_eq_none_of_head fun d hd => not_blank_of_head_call (fun e he => ?_) hd
        exact h e (List.mem_cons_of_mem c ((List.dropWhile_suffix _).mem he))
      simp [hnone]
    · rfl

theorem read_call {front : List Char} (h : ∀ c ∈ front, isReceiverChar c = true) (s : List Char) :
    Assignment.read (front ++ '(' :: s) = ⟨none, front ++ '(' :: s⟩ := by
  have hblank : ' ' ∉ front := by
    intro hmem
    have hreceiver := h ' ' hmem
    rw [isReceiverChar_mark ' ' (by simp)] at hreceiver
    cases hreceiver
  have hreturn : after? ['r', 'e', 't', 'u', 'r', 'n', ' '] (front ++ '(' :: s) = none := by
    have hno : ¬ ['r', 'e', 't', 'u', 'r', 'n', ' '] <:+: front := fun hin => hblank (hin.subset (by simp))
    have hforeign : '(' ∉ ['r', 'e', 't', 'u', 'r', 'n', ' '] := by decide
    have hstarts := not_starts_in hforeign hno (List.suffix_refl _) (by simp) s
    rw [List.append_assoc] at hstarts
    exact after?_eq_none_iff.mpr hstarts
  have hdeclared : ((after? ['v', 'a', 'r'] (front ++ '(' :: s)).bind blanks?).bind assignment? = none := by
    cases hvar : after? ['v', 'a', 'r'] (front ++ '(' :: s) with
    | none => rfl
    | some rest =>
      -- the parenthesis is behind the word, so what follows it starts within the call
      have hrest := after?_eq_some_iff.mp hvar
      obtain ⟨tail, htail, hsub⟩ : ∃ tail, rest = tail ++ '(' :: s ∧ tail ⊆ front := by
        rcases List.append_eq_append_iff.mp hrest with ⟨more, hmore, hcall⟩ | ⟨more, hmore, hcall⟩
        · cases more with
          | nil => exact ⟨[], hcall.symm, by simp⟩
          | cons d more =>
            obtain ⟨rfl, -⟩ := List.cons.inj hcall
            have hmem : '(' ∈ ['v', 'a', 'r'] := by simp [hmore]
            exact absurd hmem (by decide)
        · exact ⟨more, hcall, hmore ▸ List.subset_append_right _ _⟩
      have hnone : blanks? rest = none := by
        rw [htail]
        cases hhead : tail ++ '(' :: s with
        | nil => rfl
        | cons d more =>
          have hd := not_blank_of_head_call (s := s) (c := d) (fun e he => h e (hsub he)) (by rw [hhead]; rfl)
          simp [blanks?, hd.1]
      simp [hnone]
  simp [Assignment.read, hreturn, hdeclared, assignment?_call h]

theorem toNat_of_isAlpha {c : Char} (h : c.isAlpha = true) :
    (65 ≤ c.toNat ∧ c.toNat ≤ 90) ∨ (97 ≤ c.toNat ∧ c.toNat ≤ 122) := by
  change (decide (c.val ≥ 65 ∧ c.val ≤ 90) || (decide (c.val ≥ 97) && decide (c.val ≤ 122))) = true at h
  simp only [Bool.or_eq_true, Bool.and_eq_true, decide_eq_true_eq, UInt32.le_iff_toNat_le] at h
  exact h

theorem isWord_of_isIdentStart {c : Char} (h : isIdentStart c = true) : isWord c = true := by
  simp only [isIdentStart, Bool.or_eq_true] at h
  have hascii : c.toNat < 128 := by
    rcases h with h | h
    · have hletter := toNat_of_isAlpha h
      omega
    · rw [beq_iff_eq.mp h]
      decide
  simp only [isWord, hascii, if_true, isAsciiWord, Char.isAlphanum, Bool.or_eq_true]
  tauto

theorem isWord_of_isIdent {name : List Char} (h : isIdent name = true) : ∀ c ∈ name, isWord c = true := by
  cases name with
  | nil => simp
  | cons first name =>
    simp only [isIdent, Bool.and_eq_true, List.all_eq_true] at h
    intro c hc
    rcases List.mem_cons.mp hc with rfl | hc
    · exact isWord_of_isIdentStart h.1
    · exact h.2 c hc

theorem dotted?_ident {name s : List Char} (h : isIdent name = true)
    (hs : ∀ c, s.head? = some c → isChainChar c = false) : dotted? (name ++ s) = some (name, s) := by
  cases name with
  | nil => cases h
  | cons first name =>
    simp only [isIdent, Bool.and_eq_true, List.all_eq_true] at h
    have hchain : ∀ c ∈ name, isChainChar c = true := fun c hc => by simp [isChainChar, h.2 c hc]
    have htake : s.takeWhile isChainChar = [] ∧ s.dropWhile isChainChar = s := by
      cases s with
      | nil => exact ⟨rfl, rfl⟩
      | cons c s => simp [hs c rfl]
    rw [List.cons_append, dotted?, if_pos h.1, List.takeWhile_append_of_pos hchain,
      List.dropWhile_append_of_pos hchain, htake.1, htake.2, List.append_nil]

def defines : List Char :=
  [' ', ':', '=', ' ']

/-- A definition of a variable is read as its name and its value. -/
theorem read_definition {name value : List Char} (hname : isIdent name = true)
    (hkeyword : name ≠ ['r', 'e', 't', 'u', 'r', 'n']) (hvalue : value ≠ []) (htrim : trim value = value)
    (hhead : ∀ c, value.head? = some c → isBlank c = false) :
    Assignment.read (name ++ defines ++ value) = ⟨some name, value⟩ := by
  have hword := isWord_of_isIdent hname
  have hblank : ' ' ∉ name := fun hmem => absurd (hword ' ' hmem) (by decide)
  rw [List.append_assoc]
  have hreturn : after? ['r', 'e', 't', 'u', 'r', 'n', ' '] (name ++ (defines ++ value)) = none := by
    rw [after?_eq_none_iff]
    rintro ⟨rest, hrest⟩
    -- both texts are cut at their first blank
    have hcut := congrArg (cut? ' ') hrest
    have hleft := cut?_append (by decide : ' ' ∉ ['r', 'e', 't', 'u', 'r', 'n']) rest
    have hright := cut?_append hblank ([':', '=', ' '] ++ value)
    simp only [List.cons_append, List.nil_append] at hcut hleft hright
    rw [hleft, defines, List.cons_append, List.cons_append, List.cons_append, List.cons_append,
      List.nil_append, hright] at hcut
    exact hkeyword (Prod.mk.inj (Option.some.inj hcut)).1.symm
  have hdeclared : ((after? ['v', 'a', 'r'] (name ++ (defines ++ value))).bind blanks?).bind assignment?
      = none := by
    cases hvar : after? ['v', 'a', 'r'] (name ++ (defines ++ value)) with
    | none => rfl
    | some rest =>
      have hrest := after?_eq_some_iff.mp hvar
      rcases List.append_eq_append_iff.mp hrest with ⟨more, hmore, hdefines⟩ | ⟨more, hmore, hdefines⟩
      · cases more with
        | nil =>
          -- a variable with this name: nothing that is declared starts with the sign
          rw [List.nil_append] at hdefines
          rw [← hdefines]
          rfl
        | cons c more =>
          obtain ⟨rfl, -⟩ := List.cons.inj hdefines
          have hmem : ' ' ∈ ['v', 'a', 'r'] := by simp [hmore]
          exact absurd hmem (by decide)
      · cases more with
        | nil =>
          rw [hdefines]
          rfl
        | cons c more =>
          have hc : isBlank c = false := isBlank_of_isWord (hword c (by simp [hmore]))
          simp [hdefines, blanks?, hc]
  have hassignment : assignment? (name ++ (defines ++ value)) = some (name, value) := by
    have hsign : Go.assignment? (defines ++ value) = some (trimStart value) := rfl
    have hchain : ∀ c, (defines ++ value).head? = some c → isChainChar c = false := by
      intro c hc
      obtain rfl : ' ' = c := by simpa [defines] using hc
      decide
    simp [assignment?, dotted?_ident hname hchain, hsign, trimStart_of_head hhead, hvalue, guard]
  simp [Assignment.read, hreturn, hdeclared, hassignment, htrim]

/-- A chain of calls on a receiver that is no package is the call of a router. -/
theorem routerCall?_call {ctx : FileContext} {receiver name : List Char} (hne : receiver ≠ [])
    (hreceiver : ∀ c ∈ receiver, isReceiverChar c = true)
    (halias : Assoc.has (String.ofList (receiver.takeWhile (· != '.'))) ctx.imports = false)
    (hname : ∀ c ∈ name, isReceiverChar c = true) (hdot : '.' ∉ name) (s : List Char) :
    routerCall? ctx (receiver ++ '.' :: name ++ '(' :: s) = some (none, receiver, '.' :: name ++ '(' :: s) := by
  have hfront : ∀ c ∈ receiver ++ '.' :: name, isReceiverChar c = true := by
    intro c hc
    rcases List.mem_append.mp hc with hc | hc
    · exact hreceiver c hc
    · rcases List.mem_cons.mp hc with rfl | hc
      · decide
      · exact hname c hc
  rw [routerCall?, read_call hfront]
  simp only [splitReceiver?_call hne hreceiver hname hdot]
  simp [halias, guard]

end RouteDoc.Routes
