import RouteDoc.Proofs.StrippedText
import RouteDoc.Proofs.TypeScan

/-!
Lines that declare functions, as they are written. A declaration is the keyword, the receiver of a method, a name and
an opening parenthesis or bracket (`DeclarationText`), and this is exactly what is read as one
(`declaration?_eq_some_iff`). The type of a receiver is the last word of its clause in front of any bracket, without
the stars before it (`receiverType?_eq_some_iff`). So whether a line declares a function, or a method of some type, is
a matter of its text alone (`declares_iff`).
-/

namespace RouteDoc

namespace Text

/-! ## The last word -/

theorem blankSeparated_eq_nil_iff (s : List Char) : blankSeparated s = [] ↔ ∀ c ∈ s, isBlank c = true := by
  fun_induction blankSeparated s with
  | case1 => simp
  | case2 c cs hc ih => simp [hc, ih]
  | case3 c hc => simp [hc]
  | case4 c hc d cs hd ih => simp [hc]
  | case5 c hc d cs hd hnil ih => simp [hc, hnil]
  | case6 c hc d cs hd word words hcons ih => simp [hc, hcons]

theorem blankSeparated_append {front : List Char} (h : ∀ c, front.getLast? = some c → isBlank c = true)
    (s : List Char) : blankSeparated (front ++ s) = blankSeparated front ++ blankSeparated s := by
  induction front with
  | nil => rfl
  | cons c front ih =>
    cases front with
    | nil =>
      have hc : isBlank c = true := h c rfl
      simp [blankSeparated, hc]
    | cons d front =>
      have hrest := ih fun last hlast => h last (by rwa [List.getLast?_cons_cons])
      rw [List.cons_append] at hrest
      by_cases hc : isBlank c = true
      · simp only [List.cons_append, blankSeparated, hc, if_true] at hrest ⊢
        exact hrest
      · by_cases hd : isBlank d = true
        · simp only [List.cons_append, blankSeparated, hc, hd, if_true] at hrest ⊢
          simp [hrest]
        · -- the word that `d` is in goes on to the left
          have hne : blankSeparated (d :: front) ≠ [] := fun hnil =>
            hd ((blankSeparated_eq_nil_iff _).mp hnil d List.mem_cons_self)
          obtain ⟨word, words, hwords⟩ := List.exists_cons_of_ne_nil hne
          rw [hwords] at hrest
          rw [List.cons_append, List.cons_append, blankSeparated, blankSeparated]
          simp [hc, hd, hrest, hwords]

theorem blankSeparated_word {word tail : List Char} (hne : word ≠ []) (hword : ∀ c ∈ word, isBlank c = false)
    (htail : ∀ c ∈ tail, isBlank c = true) : blankSeparated (word ++ tail) = [word] := by
  induction word with
  | nil => exact absurd rfl hne
  | cons c word ih =>
    have hc : isBlank c = false := hword c List.mem_cons_self
    cases word with
    | nil =>
      cases tail with
      | nil => simp [blankSeparated, hc]
      | cons d tail =>
        have hrest : blankSeparated (d :: tail) = [] := (blankSeparated_eq_nil_iff _).mpr htail
        rw [List.singleton_append, blankSeparated]
        simp [hc, htail d List.mem_cons_self, hrest]
    | cons d word =>
      have hrest := ih (by simp) fun other hother => hword other (List.mem_cons_of_mem c hother)
      have hd : isBlank d = false := hword d (by simp)
      rw [List.cons_append] at hrest
      rw [List.cons_append, List.cons_append, blankSeparated]
      simp [hc, hd, hrest]

theorem exists_last_word {s : List Char} (h : ¬ ∀ c ∈ s, isBlank c = true) :
    ∃ front word tail, s = front ++ (word ++ tail) ∧ (∀ c, front.getLast? = some c → isBlank c = true) ∧
      word ≠ [] ∧ (∀ c ∈ word, isBlank c = false) ∧ ∀ c ∈ tail, isBlank c = true := by
  obtain ⟨tail, htail, hs⟩ := eq_append_trimEnd s
  -- from the end: the last word runs back to the next blank
  let back := (trimEnd s).reverse
  have hback : back.takeWhile (fun c => !isBlank c) ++ back.dropWhile (fun c => !isBlank c) = (trimEnd s).reverse :=
    List.takeWhile_append_dropWhile
  refine ⟨(back.dropWhile fun c => !isBlank c).reverse, (back.takeWhile fun c => !isBlank c).reverse, tail, ?_, ?_,
    ?_, ?_, htail⟩
  · rw [← List.append_assoc, ← List.reverse_append, hback, List.reverse_reverse]
    exact hs
  · intro c hc
    rw [List.getLast?_reverse] at hc
    have hstop := List.head?_dropWhile_not (fun c => !isBlank c) back
    simpa [hc] using hstop
  · intro hnil
    cases hlast : (trimEnd s).getLast? with
    | none =>
      rw [List.getLast?_eq_none_iff] at hlast
      rw [hlast, List.nil_append] at hs
      exact h (hs ▸ htail)
    | some c =>
      have hhead : back.head? = some c := by rw [List.head?_reverse, hlast]
      obtain ⟨rest, hcons⟩ := List.head?_eq_some_iff.mp hhead
      rw [hcons] at hnil
      simp [isBlank_getLast?_trimEnd hlast] at hnil
  · intro c hc
    simpa using List.mem_takeWhile_imp (List.mem_reverse.mp hc)

theorem getLast?_blankSeparated_iff {s word : List Char} : (blankSeparated s).getLast? = some word ↔
    ∃ front tail, s = front ++ (word ++ tail) ∧ (∀ c, front.getLast? = some c → isBlank c = true) ∧
      word ≠ [] ∧ (∀ c ∈ word, isBlank c = false) ∧ ∀ c ∈ tail, isBlank c = true := by
  have hlast : ∀ {front word tail : List Char}, (∀ c, front.getLast? = some c → isBlank c = true) → word ≠ [] →
      (∀ c ∈ word, isBlank c = false) → (∀ c ∈ tail, isBlank c = true) →
      (blankSeparated (front ++ (word ++ tail))).getLast? = some word := by
    intro front word tail hfront hne hword htail
    rw [blankSeparated_append hfront, blankSeparated_word hne hword htail, List.getLast?_concat]
  constructor
  · intro h
    have hsome : ¬ ∀ c ∈ s, isBlank c = true := fun hblank => by
      rw [(blankSeparated_eq_nil_iff s).mpr hblank] at h
      cases h
    obtain ⟨front, other, tail, rfl, hfront, hne, hother, htail⟩ := exists_last_word hsome
    rw [hlast hfront hne hother htail] at h
    obtain rfl := Option.some.inj h
    exact ⟨front, tail, rfl, hfront, hne, hother, htail⟩
  · rintro ⟨front, tail, rfl, hfront, hne, hword, htail⟩
    exact hlast hfront hne hword htail

end Text

namespace Go

open RouteDoc.Text

/-! ## Names in ASCII -/

def isAsciiIdent : List Char → Bool
  | c :: cs => isIdentStart c && cs.all isAsciiWord
  | [] => false

theorem isAsciiWord_of_isIdentStart {c : Char} (h : isIdentStart c = true) : isAsciiWord c = true := by
  simp only [isIdentStart, Bool.or_eq_true] at h
  simp only [isAsciiWord, Char.isAlphanum, Bool.or_eq_true]
  tauto

theorem isWord_of_isAsciiWord {c : Char} (h : isAsciiWord c = true) : isWord c = true := by
  have hascii : c.toNat < 128 := by
    simp only [isAsciiWord, Char.isAlphanum, Bool.or_eq_true, beq_iff_eq] at h
    rcases h with (h | h) | rfl
    · have hletter := Routes.toNat_of_isAlpha h
      omega
    · simp only [Char.isDigit, Bool.and_eq_true, decide_eq_true_eq] at h
      have hdigit : c.toNat ≤ 57 := UInt32.le_iff_toNat_le.mp h.2
      omega
    · decide
  rw [isWord, if_pos hascii]
  exact h

theorem isAsciiWord_of_isAsciiIdent {name : List Char} (h : isAsciiIdent name = true) :
    ∀ c ∈ name, isAsciiWord c = true := by
  cases name with
  | nil => cases h
  | cons first name =>
    simp only [isAsciiIdent, Bool.and_eq_true, List.all_eq_true] at h
    intro c hc
    rcases List.mem_cons.mp hc with rfl | hc
    · exact isAsciiWord_of_isIdentStart h.1
    · exact h.2 c hc

theorem isAsciiIdent_ne_nil {name : List Char} (h : isAsciiIdent name = true) : name ≠ [] := by
  rintro rfl
  cases h

/-- The identifier at the start of a text ends where no more of its characters follow. -/
theorem asciiIdent?_eq_some_iff {s name rest : List Char} : asciiIdent? s = some (name, rest) ↔
    isAsciiIdent name = true ∧ s = name ++ rest ∧ ∀ c, rest.head? = some c → isAsciiWord c = false := by
  constructor
  · intro h
    cases s with
    | nil => cases h
    | cons first s =>
      rw [asciiIdent?] at h
      split at h
      · rename_i hfirst
        obtain ⟨rfl, rfl⟩ := Prod.mk.inj (Option.some.inj h)
        refine ⟨?_, ?_, fun c hc => ?_⟩
        · simp only [isAsciiIdent, hfirst, Bool.true_and, List.all_eq_true]
          exact fun c hc => List.mem_takeWhile_imp hc
        · rw [List.cons_append, List.takeWhile_append_dropWhile]
        · have hstop := List.head?_dropWhile_not isAsciiWord s
          simpa [hc] using hstop
      · cases h
  · rintro ⟨hname, rfl, hrest⟩
    cases name with
    | nil => cases hname
    | cons first name =>
      simp only [isAsciiIdent, Bool.and_eq_true, List.all_eq_true] at hname
      obtain ⟨htake, hdrop⟩ := takeWhile_stop hname.2 hrest
      rw [List.cons_append, asciiIdent?, if_pos hname.1, htake, hdrop]

/-! ## Declarations -/

/-- What stands between the keyword and the name of a function: nothing, or for a method its receiver clause in
parentheses. -/
inductive ReceiverText : Option (List Char) → List Char → Prop
  | function : ReceiverText none []
  | method {clause gap : List Char} (hclause : ')' ∉ clause) (hgap : Blank gap) :
    ReceiverText (some clause) ('(' :: (clause ++ ')' :: gap))

/-- A line that declares a function. Behind the name stands the parenthesis of its parameters, or the bracket of its
type parameters. -/
inductive DeclarationText : Declaration → List Char → Prop
  | written {receiver? : Option (List Char)} {receiver name gap gap' rest : List Char} {mark : Char}
    (hgap : Blank gap) (hne : gap ≠ []) (hreceiver : ReceiverText receiver? receiver)
    (hname : isAsciiIdent name = true) (hgap' : Blank gap') (hmark : mark = '(' ∨ mark = '[') :
    DeclarationText ⟨receiver?, name⟩
      (['f', 'u', 'n', 'c'] ++ (gap ++ (receiver ++ (name ++ (gap' ++ mark :: rest)))))

/-- The receiver in front of a name: its clause, and what follows it. -/
def receiver? (s : List Char) : Option (Option (List Char) × List Char) :=
  match s with
  | '(' :: cs => (cut? ')' cs).map fun found => (some found.1, trimStart found.2)
  | _ => some (none, s)

/-- The name at the start of the text, with a parenthesis or bracket behind it. -/
def openedName? (s : List Char) : Option (List Char) :=
  (asciiIdent? s).bind fun found =>
    match trimStart found.2 with
    | '[' :: _ => some found.1
    | '(' :: _ => some found.1
    | _ => none

theorem receiver?_of_ne {s : List Char} (h : ∀ cs, s = '(' :: cs → False) : receiver? s = some (none, s) := by
  unfold receiver?
  split
  · rename_i cs
    exact (h cs rfl).elim
  · rfl

theorem named_eq (clause? : Option (List Char)) (s : List Char) :
    ((asciiIdent? s).bind fun found => match trimStart found.2 with
      | '[' :: _ => some (Declaration.mk clause? found.1)
      | '(' :: _ => some (Declaration.mk clause? found.1)
      | _ => none) = (openedName? s).map fun name => ⟨clause?, name⟩ := by
  unfold openedName?
  cases asciiIdent? s with
  | none => rfl
  | some found =>
    simp only [Option.bind_some]
    split <;> rfl

theorem declaration?_eq (line : List Char) : declaration? line
    = ((after? ['f', 'u', 'n', 'c'] line).bind blanks?).bind fun rest => (receiver? rest).bind fun found =>
        (openedName? found.2).map fun name => ⟨found.1, name⟩ := by
  unfold declaration?
  cases after? ['f', 'u', 'n', 'c'] line with
  | none => rfl
  | some rest =>
    simp only [Option.bind_eq_bind, Option.bind_some]
    cases blanks? rest with
    | none => rfl
    | some behind =>
      simp only [Option.bind_some]
      split
      · rename_i cs
        rw [receiver?]
        cases cut? ')' cs with
        | none => rfl
        | some found => exact named_eq (some found.1) (trimStart found.2)
      · rename_i hother
        rw [receiver?_of_ne hother]
        exact named_eq none behind

theorem openedName?_eq_some_iff {s name : List Char} : openedName? s = some name ↔
    isAsciiIdent name = true ∧
      ∃ gap mark rest, Blank gap ∧ (mark = '(' ∨ mark = '[') ∧ s = name ++ (gap ++ mark :: rest) := by
  constructor
  · intro h
    obtain ⟨⟨found, rest⟩, hfound, hopened⟩ := Option.bind_eq_some_iff.mp h
    obtain ⟨hname, rfl, -⟩ := asciiIdent?_eq_some_iff.mp hfound
    dsimp only at hopened
    obtain ⟨gap, hgap, hrest⟩ := eq_blank_append_trimStart rest
    split at hopened
    · rename_i behind hmark
      obtain rfl := Option.some.inj hopened
      exact ⟨hname, gap, '[', behind, hgap, .inr rfl, by rw [← hmark, ← hrest]⟩
    · rename_i behind hmark
      obtain rfl := Option.some.inj hopened
      exact ⟨hname, gap, '(', behind, hgap, .inl rfl, by rw [← hmark, ← hrest]⟩
    · cases hopened
  · rintro ⟨hname, gap, mark, rest, hgap, hmark, rfl⟩
    have hsolid : isBlank mark = false := by rcases hmark with rfl | rfl <;> decide
    have hstop : ∀ c, (gap ++ mark :: rest).head? = some c → isAsciiWord c = false := by
      intro c hc
      have hword : isWord c = false := by
        cases gap with
        | nil =>
          obtain rfl : mark = c := by simpa using hc
          rcases hmark with rfl | rfl <;> decide
        | cons first gap =>
          obtain rfl : first = c := by simpa using hc
          exact isWord_of_isBlank (hgap first List.mem_cons_self)
      by_contra hascii
      rw [isWord_of_isAsciiWord (Bool.of_not_eq_false hascii)] at hword
      cases hword
    rw [openedName?, asciiIdent?_eq_some_iff.mpr ⟨hname, rfl, hstop⟩, Option.bind_some]
    dsimp only
    rw [hgap.trimStart_append, trimStart_cons hsolid]
    rcases hmark with rfl | rfl <;> rfl

theorem receiver?_written {clause? : Option (List Char)} {receiver s : List Char}
    (h : ReceiverText clause? receiver) (hs : ∀ c, s.head? = some c → isWord c = true) :
    receiver? (receiver ++ s) = some (clause?, s) := by
  cases h with
  | function =>
    rw [List.nil_append]
    cases s with
    | nil => rfl
    | cons c s =>
      have hc : c ≠ '(' := by
        rintro rfl
        exact absurd (hs '(' rfl) (by decide)
      simp [receiver?, hc]
  | method hclause hgap =>
    have hsolid : ∀ c, s.head? = some c → isBlank c = false := fun c hc => isBlank_of_isWord (hs c hc)
    rw [List.cons_append, List.append_assoc, List.cons_append, receiver?, cut?_append hclause, Option.map_some]
    dsimp only
    rw [hgap.trimStart_append, trimStart_of_head hsolid]

theorem receiverText_of_receiver? {s rest : List Char} {clause? : Option (List Char)}
    (h : receiver? s = some (clause?, rest)) : ∃ receiver, ReceiverText clause? receiver ∧ s = receiver ++ rest := by
  unfold receiver? at h
  split at h
  · rename_i cs
    obtain ⟨⟨clause, behind⟩, hcut, heq⟩ := Option.map_eq_some_iff.mp h
    obtain ⟨rfl, rfl⟩ := Prod.mk.inj heq
    obtain ⟨hclause, rfl⟩ := cut?_eq_some hcut
    obtain ⟨gap, hgap, hbehind⟩ := eq_blank_append_trimStart behind
    refine ⟨_, .method hclause hgap, ?_⟩
    rw [List.cons_append, List.append_assoc, List.cons_append, ← hbehind]
  · obtain ⟨rfl, rfl⟩ := Prod.mk.inj (Option.some.inj h)
    exact ⟨[], .function, rfl⟩

theorem ReceiverText.head {clause? : Option (List Char)} {receiver s : List Char} (h : ReceiverText clause? receiver)
    (hs : ∀ c, s.head? = some c → isBlank c = false) :
    ∀ c, (receiver ++ s).head? = some c → isBlank c = false := by
  cases h with
  | function => exact hs
  | method hclause hgap =>
    intro c hc
    obtain rfl : '(' = c := by simpa using hc
    decide

/-- What is read as a declaration is what is written as one. -/
theorem declaration?_eq_some_iff {line : List Char} {declaration : Declaration} :
    declaration? line = some declaration ↔ DeclarationText declaration line := by
  rw [declaration?_eq]
  constructor
  · intro h
    obtain ⟨rest, hrest, h⟩ := Option.bind_eq_some_iff.mp h
    obtain ⟨behind, hkeyword, hblanks⟩ := Option.bind_eq_some_iff.mp hrest
    obtain ⟨⟨clause?, named⟩, hreceiver, h⟩ := Option.bind_eq_some_iff.mp h
    obtain ⟨name, hname, rfl⟩ := Option.map_eq_some_iff.mp h
    obtain ⟨receiver, hwritten, rfl⟩ := receiverText_of_receiver? hreceiver
    obtain ⟨hident, gap', mark, args, hgap', hmark, rfl⟩ := openedName?_eq_some_iff.mp hname
    obtain ⟨-, gap, hgap, hne, rfl⟩ := (blanks?_eq_some_iff (by simp)).mp hblanks
    rw [after?_eq_some_iff.mp hkeyword]
    exact .written hgap hne hwritten hident hgap' hmark
  · rintro ⟨hgap, hne, hreceiver, hname, hgap', hmark⟩
    rename_i clause? receiver name gap gap' rest mark
    have hword : ∀ c, (name ++ (gap' ++ mark :: rest)).head? = some c → isWord c = true := by
      intro c hc
      obtain ⟨first, more, rfl⟩ := List.exists_cons_of_ne_nil (isAsciiIdent_ne_nil hname)
      obtain rfl : first = c := by simpa using hc
      exact isWord_of_isAsciiWord (isAsciiWord_of_isAsciiIdent hname first List.mem_cons_self)
    have hsolid := hreceiver.head fun c hc => isBlank_of_isWord (hword c hc)
    rw [after?_append, Option.bind_some, blanks?_append hgap hne hsolid, Option.bind_some,
      receiver?_written hreceiver hword, Option.bind_some,
      openedName?_eq_some_iff.mpr ⟨hname, gap', mark, rest, hgap', hmark, rfl⟩]
    rfl

/-! ## Receivers -/

/-- A receiver clause with the given type: its last word in front of any bracket, without the stars before it. -/
inductive ReceiverClause (type : List Char) : List Char → Prop
  | written {front stars tail behind : List Char} (hfront : ∀ c, front.getLast? = some c → isBlank c = true)
    (hstars : ∀ c ∈ stars, c = '*') (hne : type ≠ []) (hhead : type.head? ≠ some '*')
    (hsolid : ∀ c ∈ type, isBlank c = false) (htail : Blank tail)
    (hplain : '[' ∉ front ++ (stars ++ (type ++ tail))) (hbehind : ∀ c, behind.head? = some c → c = '[') :
    ReceiverClause type ((front ++ (stars ++ (type ++ tail))) ++ behind)

theorem receiverType?_eq_some_iff {clause type : List Char} :
    receiverType? clause = some type ↔ ReceiverClause type clause := by
  unfold receiverType?
  constructor
  · intro h
    split at h
    · cases h
    · rename_i word hword
      obtain ⟨front, tail, hclause, hfront, -, hsolid, htail⟩ := getLast?_blankSeparated_iff.mp hword
      have hsplit : word.takeWhile (· == '*') ++ word.dropWhile (· == '*') = word :=
        List.takeWhile_append_dropWhile
      split at h
      · cases h
      · rename_i hne
        obtain rfl := Option.some.inj h
        have hplain : '[' ∉ clause.takeWhile (· != '[') := fun hmem => by
          simpa using List.mem_takeWhile_imp hmem
        have hstop := List.head?_dropWhile_not (· != '[') clause
        have htext : (front ++ (word.takeWhile (· == '*') ++ (word.dropWhile (· == '*') ++ tail)))
            ++ clause.dropWhile (· != '[') = clause := by
          rw [← List.append_assoc (word.takeWhile _), hsplit, ← hclause, List.takeWhile_append_dropWhile]
        rw [hclause, ← hsplit, List.append_assoc] at hplain
        rw [← htext]
        refine .written hfront (fun c hc => by simpa using List.mem_takeWhile_imp hc) hne ?_ ?_ htail hplain ?_
        · intro hstar
          have hstop' := List.head?_dropWhile_not (· == '*') word
          rw [hstar] at hstop'
          simp at hstop'
        · exact fun c hc => hsolid c ((List.dropWhile_sublist _).subset hc)
        · intro c hc
          rw [hc] at hstop
          simpa using hstop
  · rintro ⟨hfront, hstars, hne, hhead, hsolid, htail, hplain, hbehind⟩
    rename_i front stars tail behind
    have hplainly : ∀ c ∈ front ++ (stars ++ (type ++ tail)), (c != '[') = true := by
      intro c hc
      simp only [bne_iff_ne]
      rintro rfl
      exact hplain hc
    have hstop : ∀ c, behind.head? = some c → (c != '[') = false := by
      intro c hc
      rw [hbehind c hc]
      rfl
    have hstarred : ∀ c ∈ stars ++ type, isBlank c = false := by
      intro c hc
      rcases List.mem_append.mp hc with hc | hc
      · rw [hstars c hc]
        decide
      · exact hsolid c hc
    have hword := getLast?_blankSeparated_iff.mpr ⟨front, tail, rfl, hfront, by simp [hne], hstarred, htail⟩
    rw [List.append_assoc] at hword
    rw [(takeWhile_stop hplainly hstop).1, hword]
    dsimp only
    have hbare : (stars ++ type).dropWhile (· == '*') = type := by
      rw [List.dropWhile_append_of_pos (by simpa using hstars)]
      cases type with
      | nil => rfl
      | cons c type =>
        have hc : c ≠ '*' := by simpa using hhead
        simp [hc]
    rw [hbare]
    cases type with
    | nil => exact absurd rfl hne
    | cons c type => rfl

/-- A line that declares a function of the name, and where a receiver is given a method of that type. -/
def DeclaresFunction (receiver? : Option (List Char)) (name line : List Char) : Prop :=
  ∃ clause?, DeclarationText ⟨clause?, name⟩ line ∧
    ∀ receiver ∈ receiver?, ∃ clause ∈ clause?, ReceiverClause receiver clause

theorem declares_iff {receiver? : Option (List Char)} {name line : List Char} :
    declares receiver? name line = true ↔ DeclaresFunction receiver? name line := by
  unfold declares DeclaresFunction
  constructor
  · intro h
    split at h
    · cases h
    · rename_i declaration hdeclaration
      obtain ⟨clause?, other⟩ := declaration
      simp only [Bool.and_eq_true, decide_eq_true_eq] at h
      obtain ⟨rfl, hreceiver⟩ := h
      refine ⟨clause?, declaration?_eq_some_iff.mp hdeclaration, fun receiver hmem => ?_⟩
      obtain rfl := Option.mem_def.mp hmem
      obtain ⟨clause, hclause, htype⟩ := Option.bind_eq_some_iff.mp (of_decide_eq_true hreceiver)
      exact ⟨clause, hclause, receiverType?_eq_some_iff.mp htype⟩
  · rintro ⟨clause?, hdeclaration, hreceiver⟩
    rw [declaration?_eq_some_iff.mpr hdeclaration]
    cases receiver? with
    | none => simp
    | some receiver =>
      obtain ⟨clause, rfl, hclause⟩ := hreceiver receiver rfl
      simp [receiverType?_eq_some_iff.mpr hclause]

theorem DeclaresFunction.functionName? {receiver? : Option (List Char)} {name line : List Char}
    (h : DeclaresFunction receiver? name line) : Go.functionName? line = some name := by
  obtain ⟨clause?, hdeclaration, -⟩ := h
  rw [Go.functionName?, declaration?_eq_some_iff.mpr hdeclaration]
  rfl

end Go

end RouteDoc
