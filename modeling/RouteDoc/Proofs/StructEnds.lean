import RouteDoc.Proofs.StructLayout
import RouteDoc.Proofs.TopLevelTypes

/-!
Where the body of a struct ends. The text says it by its braces (`StructText`): the line that closes the struct is the
first one behind which as many braces are open as before the struct. The reader of fields does not count braces. It
goes one level down at the head of an anonymous struct, and one level up at every line that starts with a closing brace
(`readerStep`).

In a text that is laid out in lines (`Outline.Laid`) the reader never goes down further than the text, so once it has
missed a block it stops too early. It therefore ends at the closing line exactly if every line that opens a block is
the head of an anonymous struct (`Outline.Followed`); this is `struct_end_iff`.
-/

namespace RouteDoc.Go

open RouteDoc.Text

/-! ## Blocks in the text -/

def closes (line : List Char) : Bool :=
  (trim line).head? == some '}'

namespace Outline

/-- The property holds of every line, with the outline at its start. -/
def Along (P : Outline → List Char → Prop) : Outline → List (List Char) → Prop
  | _, [] => True
  | outline, line :: lines => P outline line ∧ Along P (outline.next line) lines

instance decidableAlong (P : Outline → List Char → Prop) [∀ outline line, Decidable (P outline line)] :
    (outline : Outline) → (lines : List (List Char)) → Decidable (outline.Along P lines)
  | _, [] => .isTrue trivial
  | outline, line :: lines =>
    haveI := decidableAlong P (outline.next line) lines
    inferInstanceAs (Decidable (_ ∧ _))

def nesting (outline : Outline) (line : List Char) : Int :=
  nestingFrom '{' '}' outline.place.literal? line

/-- How many blocks the line opens and leaves open, if a brace at its start closes one of the blocks around it. -/
def opens (outline : Outline) (line : List Char) : Int :=
  outline.nesting line + if closes line then 1 else 0

/-- The line closes none of the blocks around it but with a brace at its start, and if it reads as the head of an
anonymous struct it does not stand in a raw string. -/
def Laid (outline : Outline) (line : List Char) : Prop :=
  0 ≤ outline.opens line ∧ ((nestedHead? (trim line)).isSome → outline.place.literal? = none)

/-- If the line opens a block, it is the head of an anonymous struct. -/
def Followed (outline : Outline) (line : List Char) : Prop :=
  0 < outline.opens line → (nestedHead? (trim line)).isSome

instance (outline : Outline) (line : List Char) : Decidable (outline.Laid line) :=
  inferInstanceAs (Decidable (_ ∧ (_ → _)))

instance (outline : Outline) (line : List Char) : Decidable (outline.Followed line) :=
  inferInstanceAs (Decidable (_ → _))

end Outline

/-- The names that the line declares, if it is read as the head of an anonymous struct or as a field. -/
def lineNames (line : List Char) : List (List (List Char)) :=
  match nestedHead? (trim line) with
  | some found => [[found.1]]
  | none => (field? (trim line)).toList.map Field.names

/-- The names that are declared by the lines inside of exactly `depth` braces. -/
def Outline.namesAt (depth : Nat) : Outline → List (List Char) → List (List (List Char))
  | _, [] => []
  | outline, line :: lines =>
    (if outline.braces = depth then lineNames line else []) ++ namesAt depth (outline.next line) lines

/-- All lines stand inside of more than `depth` braces, up to one that closes all but these. -/
structure Enclosed (outline : Outline) (depth : Nat) (body : List (List Char)) (close : List Char) : Prop where
  inside : outline.Along (fun inner _ => depth < inner.braces) (body ++ [close])
  closed : (outline.behind (body ++ [close])).braces = depth
  laid : outline.Along Outline.Laid (body ++ [close])

/-- The text of a struct type behind `outline`: a line that opens it, the lines inside, and the line that closes it,
which is the first one behind which the braces are as they were before. -/
structure StructText (outline : Outline) (head : List Char) (body : List (List Char)) (close : List Char) : Prop where
  opened : (outline.next head).braces = outline.braces + 1
  enclosed : Enclosed (outline.next head) outline.braces body close

/-! ## The reader -/

/-- What the reader has open and has read behind a line, unless it stops there. -/
def readLine (stack : List OpenStruct) (fields : List Field) (line : List Char) :
    Option (List OpenStruct × List Field) :=
  if closes line then
    match stack with
    | [] => none
    | s :: stack => some (stack, s.close fields (closingTag? line))
  else
    match nestedHead? (trim line) with
    | some found => some (⟨found.1, found.2, fields⟩ :: stack, [])
    | none => some (stack, fields ++ (field? (trim line)).toList)

/-- How many more structs the reader has open behind a line. -/
def readerStep (line : List Char) : Int :=
  if closes line then -1 else if (nestedHead? (trim line)).isSome then 1 else 0

theorem fieldsFrom_cons (stack : List OpenStruct) (fields : List Field) (line : List Char)
    (lines : List (List Char)) :
    fieldsFrom stack fields (line :: lines) = (readLine stack fields line).elim (fields, line :: lines)
      fun state => fieldsFrom state.1 state.2 lines := by
  unfold readLine
  split
  · rename_i hcloses
    obtain ⟨rest, htrim⟩ := List.head?_eq_some_iff.mp (beq_iff_eq.mp hcloses)
    cases stack with
    | nil =>
      rw [fieldsFrom, htrim]
      rfl
    | cons s stack =>
      rw [fieldsFrom, htrim]
      rfl
  · rename_i hcloses
    rw [fieldsFrom_open fun hhead => hcloses (beq_iff_eq.mpr hhead)]
    cases nestedHead? (trim line) with
    | none => rfl
    | some found => rfl

theorem readLine_eq_none_iff {stack : List OpenStruct} {fields : List Field} {line : List Char} :
    readLine stack fields line = none ↔ closes line = true ∧ stack = [] := by
  unfold readLine
  cases closes line with
  | true => cases stack <;> simp
  | false => cases nestedHead? (trim line) <;> simp

theorem length_of_readLine {stack stack' : List OpenStruct} {fields fields' : List Field} {line : List Char}
    (h : readLine stack fields line = some (stack', fields')) :
    (stack'.length : Int) = stack.length + readerStep line := by
  unfold readLine at h
  unfold readerStep
  cases hcloses : closes line with
  | true =>
    rw [hcloses] at h
    cases stack with
    | nil => cases h
    | cons s stack =>
      obtain ⟨rfl, -⟩ := Prod.mk.inj (Option.some.inj h)
      rw [List.length_cons, if_pos rfl]
      omega
  | false =>
    rw [hcloses] at h
    cases hhead : nestedHead? (trim line) with
    | none =>
      rw [hhead] at h
      obtain ⟨rfl, -⟩ := Prod.mk.inj (Option.some.inj h)
      simp
    | some found =>
      rw [hhead] at h
      obtain ⟨rfl, -⟩ := Prod.mk.inj (Option.some.inj h)
      simp

/-! ## The reader beside the text -/

/-- The marks that braces are counted by stand nowhere in the head of a struct but at its end. -/
theorem headMark : ∀ c ∈ ['"', '\'', '\x60', '{', '}'],
    isWord c = false ∧ isBlank c = false ∧ ¬ (c = '[' ∨ c = ']' ∨ c = '*') ∧
      c ∉ ['s', 't', 'r', 'u', 'c', 't'] := by
  have hall : ['"', '\'', '\x60', '{', '}'].all (fun c => !isWord c && !isBlank c &&
      !(c == '[' || c == ']' || c == '*') && !(['s', 't', 'r', 'u', 'c', 't'].contains c)) = true := by decide +kernel
  intro c hc
  simpa [and_assoc] using List.all_eq_true.mp hall c hc

theorem braceNesting_of_nestedHead? {line : List Char} (h : (nestedHead? (trim line)).isSome) :
    braceNesting line = 1 := by
  obtain ⟨found, hfound⟩ := Option.isSome_iff_exists.mp h
  obtain ⟨name, gap, lead, gap', hname, hgap, hlead, hgap', htext⟩ := nestedHead?_split hfound
  obtain ⟨front, tail, hfront, htail, hline⟩ := eq_append_trim line
  have hsplit : line
      = (front ++ (name ++ (gap ++ (lead ++ (['s', 't', 'r', 'u', 'c', 't'] ++ gap'))))) ++ '{' :: tail := by
    rw [hline, htext, structBrace]
    simp
  -- all in front of the brace is made of words, blanks, brackets and stars
  have hmarks : ∀ mark ∈ ['"', '\'', '\x60', '{', '}'],
      mark ∉ front ++ (name ++ (gap ++ (lead ++ (['s', 't', 'r', 'u', 'c', 't'] ++ gap')))) := by
    intro mark hmark hmem
    obtain ⟨hword, hblank, hbracket, hkeyword⟩ := headMark mark hmark
    have hblanks : ∀ s, Blank s → mark ∉ s := fun s hs hmem => absurd (hs mark hmem) (by simp [hblank])
    simp only [List.mem_append] at hmem
    rcases hmem with hmem | hmem | hmem | hmem | hmem | hmem
    · exact hblanks front hfront hmem
    · exact absurd (hname mark hmem) (by simp [hword])
    · exact hblanks gap hgap hmem
    · exact hbracket (hlead mark hmem)
    · exact hkeyword hmem
    · exact hblanks gap' hgap' hmem
  have htailMarks : ∀ mark ∈ ['{', '}'], mark ∉ tail := by
    intro mark hmark hmem
    have hblank := (headMark mark (by simp at hmark ⊢; tauto)).2.1
    rw [htail mark hmem] at hblank
    cases hblank
  rw [braceNesting, hsplit, nestingFrom_code_append ?_ (hmarks '{' (by simp)) (hmarks '}' (by simp))]
  · show 1 + nestingFrom '{' '}' none tail = 1
    rw [nestingFrom_of_not_mem none (htailMarks '{' (by simp)) (htailMarks '}' (by simp))]
    rfl
  · intro c hc
    rw [isQuote, Bool.or_eq_false_iff, Bool.or_eq_false_iff, beq_eq_false_iff_ne, beq_eq_false_iff_ne,
      beq_eq_false_iff_ne]
    refine ⟨⟨?_, ?_⟩, ?_⟩
    · exact fun heq => hmarks '"' (by simp) (heq ▸ hc)
    · exact fun heq => hmarks '\'' (by simp) (heq ▸ hc)
    · exact fun heq => hmarks '\x60' (by simp) (heq ▸ hc)

theorem nestedHead?_of_closes {line : List Char} (h : closes line = true) : nestedHead? (trim line) = none := by
  obtain ⟨rest, htrim⟩ := List.head?_eq_some_iff.mp (beq_iff_eq.mp h)
  rw [htrim]
  rfl

namespace Outline

/-- The reader goes no further down than the text, and just as far exactly if it follows the line. -/
theorem Laid.readerStep {outline : Outline} {line : List Char} (h : outline.Laid line) :
    readerStep line ≤ outline.nesting line ∧ (outline.Followed line ↔ outline.nesting line = Go.readerStep line) := by
  obtain ⟨hopens, hhead⟩ := h
  unfold Followed
  unfold opens at hopens ⊢
  unfold Go.readerStep
  cases hcloses : closes line with
  | true =>
    rw [hcloses] at hopens
    rw [nestedHead?_of_closes hcloses]
    simp only [if_true, Option.isSome_none, Bool.false_eq_true, imp_false] at hopens ⊢
    omega
  | false =>
    rw [hcloses] at hopens
    cases hfound : nestedHead? (trim line) with
    | none =>
      simp only [Bool.false_eq_true, if_false, Option.isSome_none, imp_false] at hopens ⊢
      omega
    | some found =>
      have hcode := hhead (by rw [hfound]; rfl)
      have hnesting : outline.nesting line = 1 := by
        rw [nesting, hcode]
        exact braceNesting_of_nestedHead? (by rw [hfound]; rfl)
      simp [hnesting]

theorem braces_next (outline : Outline) (line : List Char) :
    (outline.next line).braces = (outline.braces + outline.nesting line).toNat :=
  rfl

/-- A line that is laid out does not close more than one block. -/
theorem Laid.braces_next {outline : Outline} {line : List Char} (h : outline.Laid line) (hinside : 0 < outline.braces) :
    ((outline.next line).braces : Int) = outline.braces + outline.nesting line := by
  have hopens := h.1
  unfold opens at hopens
  rw [Outline.braces_next]
  split at hopens <;> omega

end Outline

namespace Enclosed

variable {inner : Outline} {depth : Nat} {body : List (List Char)} {line close : List Char}

theorem tail (h : Enclosed inner depth (line :: body) close) : Enclosed (inner.next line) depth body close :=
  ⟨h.inside.2, h.closed, h.laid.2⟩

theorem braces_lt (h : Enclosed inner depth body close) : depth < inner.braces := by
  cases body with
  | nil => exact h.inside.1
  | cons line body => exact h.inside.1

theorem of_nil (h : Enclosed inner depth [] close) : closes close = true ∧ inner.braces = depth + 1 := by
  have hbraces := h.laid.1.braces_next (Nat.zero_lt_of_lt h.inside.1)
  have hclosed : ((inner.next close).braces : Int) = depth := congrArg Nat.cast h.closed
  have hopens := h.laid.1.1
  have hlt := h.inside.1
  unfold Outline.opens at hopens
  split at hopens
  · rename_i hcloses
    refine ⟨hcloses, ?_⟩
    omega
  · omega

end Enclosed

/-! ## Where the reader ends -/

/-- The names of the outermost struct's fields, that of the inner struct being read included. -/
def outerNames : List OpenStruct → List Field → List (List (List Char))
  | [], fields => fields.map Field.names
  | s :: stack, _ => outerNames stack (s.outer ++ [.nested s.name s.lead [] none])

/-- A line adds its names to the outermost struct if no inner one is open. -/
theorem outerNames_of_readLine {stack stack' : List OpenStruct} {fields fields' : List Field} {line : List Char}
    (h : readLine stack fields line = some (stack', fields')) :
    outerNames stack' fields' = outerNames stack fields ++ if stack = [] then lineNames line else [] := by
  unfold readLine at h
  split at h
  · cases stack with
    | nil => cases h
    | cons s stack =>
      -- the name was there when the inner struct was opened
      obtain ⟨rfl, rfl⟩ := Prod.mk.inj (Option.some.inj h)
      cases stack with
      | nil => simp [outerNames, OpenStruct.close, Field.names]
      | cons outer stack => simp [outerNames]
  · unfold lineNames
    cases hhead : nestedHead? (trim line) with
    | none =>
      rw [hhead] at h
      obtain ⟨rfl, rfl⟩ := Prod.mk.inj (Option.some.inj h)
      cases stack with
      | nil => simp [outerNames]
      | cons outer stack => simp [outerNames]
    | some found =>
      rw [hhead] at h
      obtain ⟨rfl, rfl⟩ := Prod.mk.inj (Option.some.inj h)
      cases stack with
      | nil => simp [outerNames, Field.names]
      | cons outer stack => simp [outerNames]

namespace Enclosed

variable {inner : Outline} {depth : Nat} {body : List (List Char)} {close : List Char}

/-- A reader that has as many structs open as the text has blocks, and follows every line, ends at the closing line.
It has read the names that are declared outside of inner blocks. -/
theorem fieldsFrom_followed (h : Enclosed inner depth body close) (hfollowed : inner.Along Outline.Followed body)
    (stack : List OpenStruct) (hstack : inner.braces = depth + 1 + stack.length) (fields : List Field)
    (after : List (List Char)) :
    ∃ found, fieldsFrom stack fields (body ++ close :: after) = (found, close :: after) ∧
      found.map Field.names = outerNames stack fields ++ inner.namesAt (depth + 1) body := by
  induction body generalizing inner stack fields with
  | nil =>
    obtain ⟨hcloses, hbraces⟩ := h.of_nil
    obtain rfl : stack = [] := List.length_eq_zero_iff.mp (by omega)
    refine ⟨fields, ?_, by simp [outerNames, Outline.namesAt]⟩
    rw [List.nil_append, fieldsFrom_cons, readLine_eq_none_iff.mpr ⟨hcloses, rfl⟩]
    rfl
  | cons line body ih =>
    have hlaid := h.laid.1
    have hbraces := hlaid.braces_next (Nat.zero_lt_of_lt h.braces_lt)
    have hstep := hlaid.readerStep.2.mp hfollowed.1
    have hnext := h.tail.braces_lt
    rw [List.cons_append, fieldsFrom_cons]
    cases hread : readLine stack fields line with
    | none =>
      -- to stop here the line would have to close the struct itself
      obtain ⟨hcloses, rfl⟩ := readLine_eq_none_iff.mp hread
      rw [readerStep, if_pos hcloses] at hstep
      rw [List.length_nil] at hstack
      omega
    | some state =>
      obtain ⟨stack', fields'⟩ := state
      have hlength := length_of_readLine hread
      obtain ⟨found, hfound, hnames⟩ := ih h.tail hfollowed.2 stack' (by omega) fields'
      refine ⟨found, hfound, ?_⟩
      have houter : (inner.braces = depth + 1) ↔ stack = [] := by
        rw [← List.length_eq_zero_iff]
        omega
      rw [hnames, outerNames_of_readLine hread, Outline.namesAt, List.append_assoc]
      simp only [houter]

/-- A reader that has fewer structs open than the text has blocks, or does not follow some line, ends before the closing
line, and has read the lines up to there only. -/
theorem fieldsFrom_stops (h : Enclosed inner depth body close) (stack : List OpenStruct)
    (hstack : depth + 1 + stack.length ≤ inner.braces)
    (hmissed : inner.Along Outline.Followed body → depth + 1 + stack.length < inner.braces) (fields : List Field)
    (after : List (List Char)) :
    ∃ front stop back, body = front ++ stop :: back ∧ fieldsFrom stack fields (body ++ close :: after)
      = ((fieldsFrom stack fields front).1, stop :: (back ++ close :: after)) := by
  induction body generalizing inner stack fields with
  | nil =>
    have hbraces := h.of_nil.2
    have hlt := hmissed trivial
    omega
  | cons line body ih =>
    have hlaid := h.laid.1
    have hbraces := hlaid.braces_next (Nat.zero_lt_of_lt h.braces_lt)
    obtain ⟨hle, hiff⟩ := hlaid.readerStep
    cases hread : readLine stack fields line with
    | none =>
      obtain ⟨-, rfl⟩ := readLine_eq_none_iff.mp hread
      refine ⟨[], line, body, rfl, ?_⟩
      rw [List.cons_append, fieldsFrom_cons, hread]
      rfl
    | some state =>
      obtain ⟨stack', fields'⟩ := state
      have hlength := length_of_readLine hread
      -- what is behind once stays behind: on no line does the reader go down further than the text
      have hbehind : (inner.next line).Along Outline.Followed body →
          depth + 1 + stack'.length < (inner.next line).braces := by
        intro hbody
        by_cases hline : inner.Followed line
        · have hlt := hmissed ⟨hline, hbody⟩
          have hsame := hiff.mp hline
          omega
        · have hne := mt hiff.mpr hline
          omega
      obtain ⟨front, stop, back, rfl, hstops⟩ := ih h.tail stack' (by omega) hbehind fields'
      refine ⟨line :: front, stop, back, rfl, ?_⟩
      rw [List.cons_append, fieldsFrom_cons, hread, fieldsFrom_cons, hread]
      exact hstops

end Enclosed

/-- **Where the body of a struct ends.** For a struct type that is laid out in lines, the reader of its fields ends at
the line that closes it if and only if every line that opens a block is the head of an anonymous struct. It has then read
exactly the names that are declared outside of inner blocks. If a block is opened in any other way, the reader ends
at a line before and has read the lines up to that one only, so that all that is declared behind it is lost. -/
theorem struct_end_iff (outline : Outline) (head close : List Char) (body after : List (List Char))
    (h : StructText outline head body close) :
    ((structFields (body ++ close :: after)).2 = close :: after ↔ (outline.next head).Along Outline.Followed body) ∧
    ((outline.next head).Along Outline.Followed body →
      (structFields (body ++ close :: after)).1.map Field.names
        = (outline.next head).namesAt (outline.braces + 1) body) ∧
    (¬ (outline.next head).Along Outline.Followed body → ∃ front stop back, body = front ++ stop :: back ∧
      structFields (body ++ close :: after) = ((structFields front).1, stop :: (back ++ close :: after))) := by
  have hopened := h.opened
  have hread : (outline.next head).Along Outline.Followed body →
      ∃ found, structFields (body ++ close :: after) = (found, close :: after) ∧
        found.map Field.names = (outline.next head).namesAt (outline.braces + 1) body := by
    intro hfollowed
    exact h.enclosed.fieldsFrom_followed hfollowed [] (by rw [hopened]; rfl) [] after
  have hstops : ¬ (outline.next head).Along Outline.Followed body →
      ∃ front stop back, body = front ++ stop :: back ∧
        structFields (body ++ close :: after) = ((structFields front).1, stop :: (back ++ close :: after)) := by
    intro hmissed
    exact h.enclosed.fieldsFrom_stops [] (by rw [hopened]; rfl) (fun hall => absurd hall hmissed) [] after
  refine ⟨⟨fun hend => ?_, fun hfollowed => ?_⟩, fun hfollowed => ?_, hstops⟩
  · -- a line before the closing one has more lines behind it
    by_contra hmissed
    obtain ⟨front, stop, back, rfl, hfound⟩ := hstops hmissed
    rw [hfound] at hend
    have hlength := congrArg List.length hend
    simp only [List.length_cons, List.length_append] at hlength
    omega
  · obtain ⟨found, hfound, -⟩ := hread hfollowed
    rw [hfound]
  · obtain ⟨found, hfound, hnames⟩ := hread hfollowed
    rw [hfound]
    exact hnames

/-- A struct with slices of an anonymous struct, and a tag with a brace. -/
def listedBody : List (List Char) :=
  ["\tItems []struct \x7b", "\t\tID int \x60json:\"\x7b\"\x60", "\t\x7d", "\tNote string"].map String.toList

/-- A struct with a map to an anonymous struct. -/
def mappedBody : List (List Char) :=
  ["\tItems map[string]struct \x7b", "\t\tID int", "\t\x7d", "\tNote string"].map String.toList

/-- The fields of the first struct are read to its end. Those of the second end with the map, whose inner field is taken
for one of the struct itself, and the field behind the map is lost. -/
theorem struct_end_iff_map :
    StructText {} "type Order struct \x7b".toList listedBody "\x7d".toList ∧
    (structFields (listedBody ++ ["\x7d".toList])).2 = ["\x7d".toList] ∧
    (structFields (listedBody ++ ["\x7d".toList])).1.map Field.names = [["Items".toList], ["Note".toList]] ∧
    StructText {} "type Order struct \x7b".toList mappedBody "\x7d".toList ∧
    (structFields (mappedBody ++ ["\x7d".toList])).2 ≠ ["\x7d".toList] ∧
    (structFields (mappedBody ++ ["\x7d".toList])).1.map Field.names = [["Items".toList], ["ID".toList]] := by
  have hlisted : StructText {} "type Order struct \x7b".toList listedBody "\x7d".toList :=
    ⟨by decide +kernel, by decide +kernel, by decide +kernel, by decide +kernel⟩
  have hmapped : StructText {} "type Order struct \x7b".toList mappedBody "\x7d".toList :=
    ⟨by decide +kernel, by decide +kernel, by decide +kernel, by decide +kernel⟩
  have hread := struct_end_iff {} _ _ listedBody [] hlisted
  have hmissed := struct_end_iff {} _ _ mappedBody [] hmapped
  refine ⟨hlisted, hread.1.mpr (by decide +kernel), ?_, hmapped, ?_, by decide +kernel⟩
  · rw [hread.2.1 (by decide +kernel)]
    decide +kernel
  · rw [Ne, hmissed.1]
    decide +kernel

end RouteDoc.Go
