import Mathlib.Data.List.Basic
import RouteDoc.Json.Print
import RouteDoc.Json.Read

/-!
JSON text is read back as the data that it was printed from (`read?_print`), for data that can be printed at all
(`Data.Printable`): numbers, and values that were not understood, come out as null.

Readers are run with text behind what they read, so that a value inside a list or a record is a case of the same
statement, and with at least as many steps as the printed value has characters.
-/

namespace RouteDoc

namespace Data

mutual

/-- Whether a value is made of null, truth values, texts, lists and records alone. -/
def Printable : Data → Prop
  | .null => True
  | .bool _ => True
  | .number _ => False
  | .text _ => True
  | .list items => PrintableItems items
  | .record members => PrintableMembers members
  | .unreadable => False

def PrintableItems : List Data → Prop
  | [] => True
  | item :: items => item.Printable ∧ PrintableItems items

def PrintableMembers : List (String × Data) → Prop
  | [] => True
  | (_, value) :: members => value.Printable ∧ PrintableMembers members

end

theorem printableItems_iff {items : List Data} : PrintableItems items ↔ ∀ item ∈ items, item.Printable := by
  induction items with
  | nil => simp [PrintableItems]
  | cons item items ih => simp [PrintableItems, ih]

theorem printableMembers_iff {members : List (String × Data)} :
    PrintableMembers members ↔ ∀ member ∈ members, member.2.Printable := by
  induction members with
  | nil => simp [PrintableMembers]
  | cons member members ih => simp [PrintableMembers, ih]

end Data

namespace Json

/-! ## Quoted texts -/

theorem digits?_hexDigit {n : Nat} (h : n < 32) :
    Text.digits? 16 ['0', '0', hexDigit (n / 16), hexDigit (n % 16)] = some n := by
  have hall : ∀ n < 32, Text.digits? 16 ['0', '0', hexDigit (n / 16), hexDigit (n % 16)] = some n := by decide
  exact hall n h

theorem units?_escaped {e c : Char} (h : escaped? e = some c) (s : List Char) :
    units? ('\\' :: e :: s) = (units? s).map fun found => (.char c :: found.1, found.2) := by
  have hu : e ≠ 'u' := by
    rintro rfl
    cases h
  rw [units?]
  · rw [h]
  · intro a b c d rest he
    exact absurd he hu

theorem units?_digits {n : Nat} (h : n < 32) (s : List Char) :
    units? ('\\' :: 'u' :: '0' :: '0' :: hexDigit (n / 16) :: hexDigit (n % 16) :: s)
      = (units? s).map fun found => (.char (Char.ofNat n) :: found.1, found.2) := by
  have hunit : unitOf n = .char (Char.ofNat n) := by
    rw [unitOf, if_neg]
    simp only [Bool.and_eq_true, decide_eq_true_eq, not_and]
    omega
  rw [units?, digits?_hexDigit h]
  simp only [hunit]

theorem units?_plain {c : Char} (hquote : c ≠ '"') (hslash : c ≠ '\\') (hc : ¬ c.toNat < 32) (s : List Char) :
    units? (c :: s) = (units? s).map fun found => (.char c :: found.1, found.2) := by
  have hplain : ¬ (decide (c.toNat < 32) || decide (c = '\\')) = true := by simp [hc, hslash]
  rw [units?, if_neg hplain]
  · exact hquote
  · intro a b c d rest hcons
    exact absurd hcons hslash
  · intro a rest hcons
    exact absurd hcons hslash

/-- However a character is written inside a quoted text, it is read back. -/
theorem units?_quotedChar (c : Char) (s : List Char) :
    units? (quotedChar c ++ s) = (units? s).map fun found => (.char c :: found.1, found.2) := by
  have hofNat : ∀ n, c.toNat = n → Char.ofNat n = c := by
    rintro n rfl
    exact Char.ofNat_toNat c
  unfold quotedChar
  split_ifs with hquote hslash hn hr ht hb hf hcontrol
  · exact units?_escaped (by rw [hquote]; rfl) s
  · exact units?_escaped (by rw [hslash]; rfl) s
  · exact units?_escaped (by rw [hn]; rfl) s
  · exact units?_escaped (by rw [hr]; rfl) s
  · exact units?_escaped (by rw [ht]; rfl) s
  · exact units?_escaped (by rw [← hofNat 8 hb]; rfl) s
  · exact units?_escaped (by rw [← hofNat 12 hf]; rfl) s
  · have hread := units?_digits hcontrol s
    rwa [hofNat _ rfl] at hread
  · exact units?_plain hquote hslash hcontrol s

theorem units?_quoted (cs rest : List Char) :
    units? (cs.flatMap quotedChar ++ '"' :: rest) = some (cs.map .char, rest) := by
  induction cs with
  | nil => rfl
  | cons c cs ih =>
    rw [List.flatMap_cons, List.append_assoc, units?_quotedChar, ih]
    rfl

theorem characters?_map_char (cs : List Char) : characters? (cs.map .char) = some cs := by
  induction cs with
  | nil => rfl
  | cons c cs ih =>
    rw [List.map_cons, characters?, ih]
    rfl

theorem text?_quoted (s : String) (rest : List Char) :
    text? (s.toList.flatMap quotedChar ++ '"' :: rest) = some (some s, rest) := by
  simp [text?, units?_quoted, characters?_map_char]

/-! ## Space -/

@[simp]
theorem skipSpace_newline (s : List Char) : skipSpace ('\n' :: s) = skipSpace s :=
  rfl

@[simp]
theorem skipSpace_blank (s : List Char) : skipSpace (' ' :: s) = skipSpace s :=
  rfl

@[simp]
theorem skipSpace_spaces (n : Nat) (s : List Char) : skipSpace (Text.spaces n ++ s) = skipSpace s := by
  induction n with
  | zero => rfl
  | succ n ih => exact ih

theorem skipSpace_cons {c : Char} (h : isSpace c = false) (s : List Char) : skipSpace (c :: s) = c :: s := by
  rw [skipSpace, List.dropWhile_cons_of_neg (by simp [h])]

theorem skipSpace_skipSpace (s : List Char) : skipSpace (skipSpace s) = skipSpace s := by
  induction s with
  | nil => rfl
  | cons c s ih =>
    cases hc : isSpace c with
    | true =>
      have hskip : skipSpace (c :: s) = skipSpace s := List.dropWhile_cons_of_pos hc
      rw [hskip, ih]
    | false => rw [skipSpace_cons hc, skipSpace_cons hc]

section

attribute [local simp] value? items? members?

theorem value?_skipSpace (n : Nat) {s t : List Char} (h : skipSpace s = skipSpace t) : value? n s = value? n t := by
  cases n with
  | zero => simp
  | succ n => simp [h]

theorem items?_skipSpace (n : Nat) {s t : List Char} (h : skipSpace s = skipSpace t) : items? n s = items? n t := by
  cases n with
  | zero => simp
  | succ n => simp [value?_skipSpace n h]

theorem members?_skipSpace (n : Nat) {s t : List Char} (h : skipSpace s = skipSpace t) :
    members? n s = members? n t := by
  cases n with
  | zero => simp
  | succ n => simp [h]

end

/-! ## Values -/

section

variable (k : Nat)

attribute [local simp] pretty

theorem pretty_null : pretty k .null = ['n', 'u', 'l', 'l'] := by
  simp [atom]

theorem pretty_true : pretty k (.bool true) = ['t', 'r', 'u', 'e'] := by
  simp [atom]

theorem pretty_false : pretty k (.bool false) = ['f', 'a', 'l', 's', 'e'] := by
  simp [atom]

theorem pretty_text (s : String) : pretty k (.text s) = '"' :: (s.toList.flatMap quotedChar ++ ['"']) := by
  simp [atom, quoted]

theorem pretty_list (item : Data) (items : List Data) : pretty k (.list (item :: items)) =
    '[' :: '\n' :: (prettyItems (k + 2) (item :: items) ++ '\n' :: (Text.spaces k ++ [']'])) := by
  simp

theorem pretty_record (member : String × Data) (members : List (String × Data)) :
    pretty k (.record (member :: members)) =
      '{' :: '\n' :: (prettyMembers (k + 2) (member :: members) ++ '\n' :: (Text.spaces k ++ ['}'])) := by
  simp

end

/-- A printed value starts with a character that is neither space nor a closing bracket. -/
theorem exists_head_pretty {value : Data} (h : value.Printable) (k : Nat) :
    ∃ c cs, pretty k value = c :: cs ∧ isSpace c = false ∧ c ≠ ']' := by
  cases value with
  | null => exact ⟨_, _, pretty_null k, by decide, by decide⟩
  | bool b =>
    cases b with
    | true => exact ⟨_, _, pretty_true k, by decide, by decide⟩
    | false => exact ⟨_, _, pretty_false k, by decide, by decide⟩
  | number inRange => exact h.elim
  | text s => exact ⟨_, _, pretty_text k s, by decide, by decide⟩
  | list items =>
    cases items with
    | nil => exact ⟨'[', [']'], by rw [pretty], by decide, by decide⟩
    | cons item items => exact ⟨_, _, pretty_list k item items, by decide, by decide⟩
  | record members =>
    cases members with
    | nil => exact ⟨'{', ['}'], by rw [pretty], by decide, by decide⟩
    | cons member members => exact ⟨_, _, pretty_record k member members, by decide, by decide⟩
  | unreadable => exact h.elim

theorem recordOf_some (members : List (String × Data)) :
    recordOf (members.map fun member => (some member.1, member.2)) = .record members := by
  have hnames : (members.map fun member => ((some member.1 : Option String), member.2)).mapM
      (fun member => member.1.map fun name => (name, member.2)) = some members := by
    induction members with
    | nil => rfl
    | cons member members ih => simp [ih]
  rw [recordOf]
  simp [hnames]

/-- What is left of a list behind its first item: it ends, or there are more items behind a comma. -/
theorem items?_of_value? {n : Nat} {s rest : List Char} {item : Data} (h : value? n s = some (item, rest)) :
    (∀ behind, skipSpace rest = ']' :: behind → items? (n + 1) s = some ([item], behind)) ∧
      ∀ more items behind, skipSpace rest = ',' :: more → items? n more = some (items, behind) →
        items? (n + 1) s = some (item :: items, behind) := by
  constructor
  · intro behind hclose
    rw [items?, h]
    simp only [hclose]
  · intro more items behind hcomma hitems
    rw [items?, h]
    simp only [hcomma, hitems, Option.map_some]

theorem members?_of_value? {n : Nat} {s rest : List Char} {name : String} {value : Data}
    (h : value? n s = some (value, rest)) :
    (∀ behind, skipSpace rest = '}' :: behind →
      members? (n + 1) (quoted name ++ ':' :: s) = some ([(some name, value)], behind)) ∧
      ∀ more members behind, skipSpace rest = ',' :: more → members? n more = some (members, behind) →
        members? (n + 1) (quoted name ++ ':' :: s) = some ((some name, value) :: members, behind) := by
  have hquoted : quoted name ++ ':' :: s = '"' :: (name.toList.flatMap quotedChar ++ '"' :: ':' :: s) := by
    simp [quoted]
  have hquote := skipSpace_cons (c := '"') (by decide)
  have hcolon := skipSpace_cons (c := ':') (by decide)
  rw [hquoted]
  constructor
  · intro behind hclose
    rw [members?]
    simp only [hquote, text?_quoted, hcolon, h, hclose]
  · intro more members behind hcomma hmembers
    rw [members?]
    simp only [hquote, text?_quoted, hcolon, h, hcomma, hmembers, Option.map_some]

theorem value?_of_items? {n : Nat} {s rest : List Char} {items : List Data} (hopen : (skipSpace s).head? ≠ some ']')
    (h : items? n s = some (items, rest)) : value? (n + 1) ('[' :: s) = some (.list items, rest) := by
  rw [value?, skipSpace_cons (by decide)]
  simp only
  split
  · rename_i hclose
    rw [hclose] at hopen
    exact absurd rfl hopen
  · rw [items?_skipSpace n (skipSpace_skipSpace s), h]
    rfl

theorem value?_of_members? {n : Nat} {s rest : List Char} {members : List (String × Data)}
    (hopen : (skipSpace s).head? ≠ some '}')
    (h : members? n s = some (members.map fun member => (some member.1, member.2), rest)) :
    value? (n + 1) ('{' :: s) = some (.record members, rest) := by
  rw [value?, skipSpace_cons (by decide)]
  simp only
  split
  · rename_i hclose
    rw [hclose] at hopen
    exact absurd rfl hopen
  · rw [members?_skipSpace n (skipSpace_skipSpace s), h, Option.map_some, recordOf_some]

theorem head?_prettyItems (item : Data) (items : List Data) (h : item.Printable) (k : Nat) (s : List Char) :
    (skipSpace ('\n' :: (prettyItems k (item :: items) ++ s))).head? ≠ some ']' := by
  obtain ⟨c, cs, hpretty, hspace, hbracket⟩ := exists_head_pretty h k
  rw [skipSpace_newline, prettyItems, hpretty]
  simp only [List.append_assoc, skipSpace_spaces, List.cons_append, skipSpace_cons hspace]
  simpa using hbracket

theorem head?_prettyMembers (member : String × Data) (members : List (String × Data)) (k : Nat) (s : List Char) :
    (skipSpace ('\n' :: (prettyMembers k (member :: members) ++ s))).head? ≠ some '}' := by
  rw [skipSpace_newline, prettyMembers, quoted]
  simp only [List.append_assoc, skipSpace_spaces, List.cons_append, skipSpace_cons (c := '"') (by decide)]
  simp

mutual

/-- A printed value is read back, whatever stands behind it. -/
theorem value?_pretty (value : Data) (h : value.Printable) (n k : Nat) (hn : (pretty k value).length ≤ n)
    (rest : List Char) : value? (n + 1) (pretty k value ++ rest) = some (value, rest) := by
  cases value with
  | null =>
    rw [pretty_null, value?]
    rfl
  | bool b =>
    cases b with
    | true =>
      rw [pretty_true, value?]
      rfl
    | false =>
      rw [pretty_false, value?]
      rfl
  | number inRange => exact h.elim
  | text s =>
    have hquote := skipSpace_cons (c := '"') (by decide)
    rw [pretty_text, List.cons_append, List.append_assoc, List.singleton_append, value?, hquote]
    simp only [text?_quoted, Option.map_some]
  | list items =>
    cases items with
    | nil =>
      rw [pretty, value?]
      rfl
    | cons item items =>
      have hprintable : Data.PrintableItems (item :: items) := h
      rw [pretty_list] at hn ⊢
      simp only [List.length_cons, List.length_append] at hn
      simp only [List.cons_append, List.append_assoc]
      apply value?_of_items? (head?_prettyItems item items hprintable.1 (k + 2) _)
      rw [items?_skipSpace n (skipSpace_newline _)]
      have hlength : (prettyItems (k + 2) (item :: items)).length < n := by omega
      exact items?_pretty (item :: items) hprintable (List.cons_ne_nil item items) n k (k + 1) hlength rest
  | record members =>
    cases members with
    | nil =>
      rw [pretty, value?]
      rfl
    | cons member members =>
      have hprintable : Data.PrintableMembers (member :: members) := h
      rw [pretty_record] at hn ⊢
      simp only [List.length_cons, List.length_append] at hn
      simp only [List.cons_append, List.append_assoc]
      apply value?_of_members? (head?_prettyMembers member members (k + 2) _)
      rw [members?_skipSpace n (skipSpace_newline _)]
      have hlength : (prettyMembers (k + 2) (member :: members)).length < n := by omega
      exact members?_pretty (member :: members) hprintable (List.cons_ne_nil member members) n k (k + 1) hlength rest
  | unreadable => exact h.elim

theorem items?_pretty (items : List Data) (h : Data.PrintableItems items) (hne : items ≠ []) (n j k : Nat)
    (hn : (prettyItems (k + 1) items).length < n) (rest : List Char) :
    items? n (prettyItems (k + 1) items ++ '\n' :: (Text.spaces j ++ ']' :: rest)) = some (items, rest) := by
  cases items with
  | nil => exact absurd rfl hne
  | cons item items =>
    obtain ⟨hitem, hitems⟩ := h
    simp only [prettyItems, List.length_append, Text.spaces, List.length_replicate] at hn
    obtain ⟨m, rfl⟩ : ∃ m, n = m + 2 := ⟨n - 2, by omega⟩
    have hread := value?_pretty item hitem m (k + 1) (by omega)
    cases items with
    | nil =>
      simp only [prettyItems, List.isEmpty_nil, if_true, List.append_nil, List.append_assoc]
      rw [items?_skipSpace _ (skipSpace_spaces (k + 1) _)]
      apply (items?_of_value? (hread _)).1
      rw [skipSpace_newline, skipSpace_spaces, skipSpace_cons (by decide)]
    | cons next items =>
      have hmore := items?_pretty (next :: items) hitems (List.cons_ne_nil next items) (m + 1) j k (by
        simp only [List.isEmpty_cons, Bool.false_eq_true, if_false, List.length_cons] at hn
        omega) rest
      rw [prettyItems]
      simp only [List.isEmpty_cons, Bool.false_eq_true, if_false, List.append_assoc, List.cons_append, List.nil_append]
      rw [items?_skipSpace _ (skipSpace_spaces (k + 1) _)]
      apply (items?_of_value? (hread _)).2 _ _ _ (skipSpace_cons (by decide) _)
      rw [items?_skipSpace _ (skipSpace_newline _)]
      exact hmore

theorem members?_pretty (members : List (String × Data)) (h : Data.PrintableMembers members) (hne : members ≠ [])
    (n j k : Nat) (hn : (prettyMembers (k + 1) members).length < n) (rest : List Char) :
    members? n (prettyMembers (k + 1) members ++ '\n' :: (Text.spaces j ++ '}' :: rest))
      = some (members.map fun member => (some member.1, member.2), rest) := by
  cases members with
  | nil => exact absurd rfl hne
  | cons member members =>
    obtain ⟨name, value⟩ := member
    obtain ⟨hvalue, hmembers⟩ := h
    simp only [prettyMembers, List.length_append, Text.spaces, List.length_replicate] at hn
    obtain ⟨m, rfl⟩ : ∃ m, n = m + 2 := ⟨n - 2, by omega⟩
    have hread : ∀ rest, value? (m + 1) (' ' :: (pretty (k + 1) value ++ rest)) = some (value, rest) := by
      intro rest
      rw [value?_skipSpace _ (skipSpace_blank _)]
      exact value?_pretty value hvalue m (k + 1) (by omega) rest
    cases members with
    | nil =>
      simp only [prettyMembers, List.isEmpty_nil, if_true, List.append_nil, List.append_assoc, List.cons_append,
        List.nil_append]
      rw [members?_skipSpace _ (skipSpace_spaces (k + 1) _)]
      apply (members?_of_value? (hread _)).1
      rw [skipSpace_newline, skipSpace_spaces, skipSpace_cons (by decide)]
    | cons next members =>
      have hmore := members?_pretty (next :: members) hmembers (List.cons_ne_nil next members) (m + 1) j k (by
        simp only [List.isEmpty_cons, Bool.false_eq_true, if_false, List.length_cons] at hn
        omega) rest
      rw [prettyMembers]
      simp only [List.isEmpty_cons, Bool.false_eq_true, if_false, List.append_assoc, List.cons_append, List.nil_append]
      rw [members?_skipSpace _ (skipSpace_spaces (k + 1) _), List.map_cons]
      apply (members?_of_value? (hread _)).2 _ _ _ (skipSpace_cons (by decide) _)
      rw [members?_skipSpace _ (skipSpace_newline _)]
      exact hmore

end

theorem read?_print (value : Data) (h : value.Printable) : read? (print value) = some value := by
  have hread := value?_pretty value h (pretty 0 value).length 0 (Nat.le_refl _) []
  rw [List.append_nil] at hread
  simp only [read?, print, String.toList_ofList, hread]
  rfl

end Json

end RouteDoc
