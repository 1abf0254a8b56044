import RouteDoc.Proofs.TypeScan

/-!
Struct types are read back as they are written. `Body` says how a list of fields may be laid out: one field on a
line, an anonymous struct as its head, its own body and a closing line with the tag, nested to any depth.

Main statements:
- `fieldsFrom_body`: the reader takes such lines for exactly these fields, whatever it has read before and whatever
  structs are open around them.
- `definition?_struct`: a type that is declared with such a body, alone or in a group, is defined as the struct of
  these fields. The lines in front only have to leave the scan outside of all braces, in the group or not as the
  declaration is written, and not declare the name.
-/

namespace RouteDoc.Go

open RouteDoc.Text

/-! ## Layouts -/

/-- The line that closes an anonymous struct, with the tag of its field. -/
def Closing (tag? : Option Tag) (line : List Char) : Prop :=
  ∃ indent back, Blank indent ∧ TagEnd tag? back ∧ line = indent ++ '}' :: back

/-- The lines lay out the fields. -/
inductive Body : List FieldDecl → List (List Char) → Prop
  | nil : Body [] []
  | blank {decls : List FieldDecl} {line : List Char} {lines : List (List Char)} (h : trim line = [])
    (hrest : Body decls lines) : Body decls (line :: lines)
  | line {decl : FieldDecl} {decls : List FieldDecl} {line : List Char} {lines : List (List Char)}
    (h : Written decl (trim line)) (hrest : Body decls lines) : Body (decl :: decls) (line :: lines)
  | nested {name : Ident} {slices : Nat} {pointer : Bool} {fields decls : List FieldDecl} {tag? : Option Tag}
    {head close : List Char} {body lines : List (List Char)} (hhead : Head name slices pointer (trim head))
    (hbody : Body fields body) (hclose : Closing tag? close) (hrest : Body decls lines) :
    Body (.nested name slices pointer fields tag? :: decls) (head :: (body ++ close :: lines))

/-! ## One line -/

/-- A line that does not close a struct is the head of one, or declares a field or nothing. -/
theorem fieldsFrom_open {line : List Char} (h : (trim line).head? ≠ some '}') (stack : List OpenStruct)
    (fields : List Field) (lines : List (List Char)) :
    fieldsFrom stack fields (line :: lines) = (nestedHead? (trim line)).elim
      (fieldsFrom stack (fields ++ (field? (trim line)).toList) lines)
      fun found => fieldsFrom (⟨found.1, found.2, fields⟩ :: stack) [] lines := by
  rw [fieldsFrom.eq_def]
  dsimp only
  split
  · rename_i rest hline
    exact absurd (by rw [hline]; rfl) h
  · cases nestedHead? (trim line) with
    | none => rfl
    | some found => rfl

theorem fieldsFrom_blank {line : List Char} (h : trim line = []) (stack : List OpenStruct) (fields : List Field)
    (lines : List (List Char)) : fieldsFrom stack fields (line :: lines) = fieldsFrom stack fields lines := by
  have hhead : nestedHead? [] = none := rfl
  have hfield : field? [] = none := rfl
  rw [fieldsFrom_open (by simp [h]), h, hhead, hfield, Option.elim_none, Option.toList_none, List.append_nil]

theorem fieldsFrom_line {decl : FieldDecl} {line : List Char} (h : Written decl (trim line))
    (stack : List OpenStruct) (fields : List Field) (lines : List (List Char)) :
    fieldsFrom stack fields (line :: lines) = fieldsFrom stack (fields ++ [decl.field]) lines := by
  obtain ⟨hhead, hfield⟩ := field?_written h
  have hbrace : (trim line).head? ≠ some '}' := by
    obtain ⟨c, cs, hline, hc⟩ := h.first
    rw [hline, List.head?_cons]
    intro heq
    rw [Option.some.inj heq, (fieldMark '}' (by simp)).2.2.2] at hc
    rcases hc with hc | hc <;> cases hc
  rw [fieldsFrom_open hbrace, hhead, hfield, Option.elim_none, Option.toList_some]

theorem fieldsFrom_head {name : Ident} {slices : Nat} {pointer : Bool} {line : List Char}
    (h : Head name slices pointer (trim line)) (stack : List OpenStruct) (fields : List Field)
    (lines : List (List Char)) :
    fieldsFrom stack fields (line :: lines)
      = fieldsFrom (⟨name.text, brackets slices ++ star pointer, fields⟩ :: stack) [] lines := by
  have hread := nestedHead?_head h
  have hbrace : (trim line).head? ≠ some '}' := by
    intro hbrace
    obtain ⟨rest, hline⟩ := List.head?_eq_some_iff.mp hbrace
    rw [hline] at hread
    cases hread
  rw [fieldsFrom_open hbrace, hread, Option.elim_some]

theorem Closing.trim {tag? : Option Tag} {line : List Char} (h : Closing tag? line) :
    ∃ rest, Text.trim line = '}' :: rest := by
  obtain ⟨indent, back, hindent, hback, rfl⟩ := h
  have hbrace : isBlank '}' = false := (fieldMark '}' (by simp)).1
  refine ⟨back, ?_⟩
  rw [Text.trim, hindent.trimStart_append, trimStart_cons hbrace]
  apply trimEnd_of_last
  intro c hc
  rcases hback.getLast?_append ['}'] with hlast | hlast
  · obtain rfl : '}' = c := Option.some.inj (hlast.symm.trans hc)
    exact hbrace
  · obtain rfl : '\x60' = c := Option.some.inj (hlast.symm.trans hc)
    exact (fieldMark '\x60' (by simp)).1

theorem Closing.tag {tag? : Option Tag} {line : List Char} (h : Closing tag? line) :
    closingTag? line = tag?.map Tag.text := by
  obtain ⟨indent, back, hindent, hback, rfl⟩ := h
  have hplain : ∀ gap, Blank gap → ∀ c ∈ gap, (c != '\x60') = true := by
    intro gap hgap c hc
    rw [bne_iff_ne]
    intro heq
    rw [heq] at hc
    exact absurd (hgap _ hc) (by rw [(fieldMark '\x60' (by simp)).1]; simp)
  have hdrop : (indent ++ '}' :: back).dropWhile (· != '\x60') = back.dropWhile (· != '\x60') := by
    rw [List.dropWhile_append_of_pos (hplain indent hindent)]
    rfl
  rw [closingTag?, hdrop]
  cases hback with
  | bare => rfl
  | tagged hgap tag =>
    rw [List.dropWhile_append_of_pos (hplain _ hgap)]
    rfl

theorem fieldsFrom_close {tag? : Option Tag} {line : List Char} (h : Closing tag? line) (s : OpenStruct)
    (stack : List OpenStruct) (fields : List Field) (lines : List (List Char)) :
    fieldsFrom (s :: stack) fields (line :: lines)
      = fieldsFrom stack (s.outer ++ [.nested s.name s.lead fields (tag?.map Tag.text)]) lines := by
  obtain ⟨rest, htrim⟩ := h.trim
  rw [fieldsFrom, htrim]
  show fieldsFrom stack (s.close fields (closingTag? line)) lines = _
  rw [h.tag, OpenStruct.close]

/-! ## Whole bodies -/

theorem fieldsFrom_body {decls : List FieldDecl} {lines : List (List Char)} (h : Body decls lines)
    (stack : List OpenStruct) (fields : List Field) (rest : List (List Char)) :
    fieldsFrom stack fields (lines ++ rest) = fieldsFrom stack (fields ++ fieldsOf decls) rest := by
  induction h generalizing stack fields rest with
  | nil => rw [List.nil_append, fieldsOf, List.append_nil]
  | blank h hrest ih => rw [List.cons_append, fieldsFrom_blank h, ih]
  | line h hrest ih =>
    rw [List.cons_append, fieldsFrom_line h, ih, fieldsOf, List.append_assoc, List.singleton_append]
  | @nested name slices pointer inner decls tag? head close body lines hhead hbody hclose hrest ihbody ih =>
    -- the inner body is read with the outer struct on the stack, which the closing line takes off again
    calc fieldsFrom stack fields ((head :: (body ++ close :: lines)) ++ rest)
        = fieldsFrom stack fields (head :: (body ++ close :: (lines ++ rest))) := by simp
      _ = fieldsFrom (⟨name.text, brackets slices ++ star pointer, fields⟩ :: stack) []
            (body ++ close :: (lines ++ rest)) := fieldsFrom_head hhead stack fields _
      _ = fieldsFrom (⟨name.text, brackets slices ++ star pointer, fields⟩ :: stack) (fieldsOf inner)
            (close :: (lines ++ rest)) := by rw [ihbody, List.nil_append]
      _ = fieldsFrom stack (fields ++ [.nested name.text (brackets slices ++ star pointer) (fieldsOf inner)
            (tag?.map Tag.text)]) (lines ++ rest) := fieldsFrom_close hclose _ stack _ _
      _ = fieldsFrom stack (fields ++ fieldsOf (.nested name slices pointer inner tag? :: decls)) rest := by
        rw [ih, fieldsOf, FieldDecl.field, List.append_assoc, List.singleton_append]

theorem structFields_body {decls : List FieldDecl} {body : List (List Char)} (h : Body decls body) {close : List Char}
    (hclose : (trim close).head? = some '}') (after : List (List Char)) :
    structFields (body ++ close :: after) = (fieldsOf decls, close :: after) := by
  obtain ⟨rest, htrim⟩ := List.head?_eq_some_iff.mp hclose
  rw [structFields, fieldsFrom_body h, List.nil_append, fieldsFrom, htrim]
  rfl

theorem definitionOf_structBrace {gap : List Char} (hgap : Blank gap) (lines : List (List Char)) :
    definitionOf (structBrace gap) lines = .struct (structFields lines).1 := by
  have hends : trim (structBrace gap) = structBrace gap := by
    apply trim_of_ends
    · intro c hc
      obtain rfl : 's' = c := by simpa [structBrace] using hc
      decide
    · intro c hc
      obtain rfl : '{' = c := by
        rw [structBrace, ← List.append_assoc, List.getLast?_concat] at hc
        exact Option.some.inj hc
      exact (fieldMark '{' (by simp)).1
  have hbody : trimStart (gap ++ ['{']) = ['{'] := by
    rw [hgap.trimStart_append, trimStart_cons (fieldMark '{' (by simp)).1]
  have hafter : after? ['s', 't', 'r', 'u', 'c', 't'] (structBrace gap) = some (gap ++ ['{']) := after?_append _ _
  simp [definitionOf, hends, hafter, hbody]

/-! ## A layout for every list -/

/-- The text of a tag behind a type, or nothing. -/
def tagText (tag? : Option Tag) : List Char :=
  tag?.elim [] fun tag => ' ' :: tag.text

/-- Names with a comma and a blank between them. -/
def namesText : Ident → List Ident → List Char
  | first, [] => first.text
  | first, second :: more => first.text ++ ',' :: ' ' :: namesText second more

mutual

/-- The lines of a field, indented by `indent` tabs. -/
def FieldDecl.layout (indent : Nat) : FieldDecl → List (List Char)
  | .plain first more type tag? =>
    [List.replicate indent '\t' ++ (namesText first more ++ [' '] ++ type.text ++ tagText tag?)]
  | .embedded pointer package? name tag? =>
    [List.replicate indent '\t' ++ (embeddedText pointer package? name ++ tagText tag?)]
  | .nested name slices pointer fields tag? =>
    (List.replicate indent '\t' ++ (name.text ++ ' ' :: (brackets slices ++ (star pointer ++ structBrace [' ']))))
      :: (layoutOf (indent + 1) fields ++ [List.replicate indent '\t' ++ '}' :: tagText tag?])

def layoutOf (indent : Nat) : List FieldDecl → List (List Char)
  | [] => []
  | decl :: decls => decl.layout indent ++ layoutOf indent decls

end

theorem blank_replicate (n : Nat) {c : Char} (hc : isBlank c = true) : Blank (List.replicate n c) := by
  intro d hd
  rw [List.eq_of_mem_replicate hd]
  exact hc

theorem blank_tabs (indent : Nat) : Blank (List.replicate indent '\t') :=
  blank_replicate indent (by decide)

theorem blank_space : Blank [' '] :=
  blank_replicate 1 (by decide)

theorem trim_indented {indent text : List Char} (hindent : Blank indent)
    (hhead : ∀ c, text.head? = some c → isBlank c = false) (hlast : ∀ c, text.getLast? = some c → isBlank c = false) :
    trim (indent ++ text) = text := by
  rw [trim, hindent.trimStart_append, ← trim, trim_of_ends hhead hlast]

theorem Written.trim_indented {decl : FieldDecl} {text : List Char} (h : Written decl text) (indent : Nat) :
    trim (List.replicate indent '\t' ++ text) = text := by
  refine Go.trim_indented (blank_tabs indent) (fun c hc => ?_) fun c hc => (h.last c hc).1
  obtain ⟨first, rest, rfl, hfirst⟩ := h.first
  obtain rfl : first = c := by simpa using hc
  rcases hfirst with hstart | rfl
  · exact isBlank_of_isWord (Routes.isWord_of_isIdentStart hstart)
  · exact (fieldMark '*' (by simp)).1

theorem Head.trim_indented {name : Ident} {slices : Nat} {pointer : Bool} {text : List Char}
    (h : Head name slices pointer text) (indent : Nat) : trim (List.replicate indent '\t' ++ text) = text := by
  obtain ⟨gap, gap', -, -, -, rfl⟩ := h
  apply Go.trim_indented (blank_tabs indent)
  · intro c hc
    obtain ⟨first, rest, hname, hstart, -⟩ := name.head
    obtain rfl : first = c := by simpa [hname] using hc
    exact isBlank_of_isWord (Routes.isWord_of_isIdentStart hstart)
  · intro c hc
    simp only [structBrace, ← List.append_assoc, List.getLast?_concat] at hc
    rw [← Option.some.inj hc]
    exact (fieldMark '{' (by simp)).1

theorem tagEnd_tagText (tag? : Option Tag) : TagEnd tag? (tagText tag?) := by
  cases tag? with
  | none => exact .bare
  | some tag => exact .tagged blank_space tag

theorem nameList_namesText (first : Ident) (more : List Ident) :
    NameList (first :: more) (namesText first more) := by
  induction more generalizing first with
  | nil => exact .one first
  | cons second more ih =>
    have hcons := NameList.cons first (blank_tabs 0) blank_space (ih second)
    simpa only [namesText, List.replicate_zero, List.append_nil, List.singleton_append] using hcons

mutual

theorem body_layout (indent : Nat) (decl : FieldDecl) {decls : List FieldDecl} {lines : List (List Char)}
    (h : Body decls lines) : Body (decl :: decls) (decl.layout indent ++ lines) := by
  cases decl with
  | plain first more type tag? =>
    have hwritten := Written.plain (nameList_namesText first more) blank_space (by simp) type (tagEnd_tagText tag?)
    rw [FieldDecl.layout, List.singleton_append]
    exact .line (by rwa [hwritten.trim_indented]) h
  | embedded pointer package? name tag? =>
    have hwritten := Written.embedded pointer package? name (tagEnd_tagText tag?)
    rw [FieldDecl.layout, List.singleton_append]
    exact .line (by rwa [hwritten.trim_indented]) h
  | nested name slices pointer fields tag? =>
    have hhead : Head name slices pointer
        (name.text ++ ' ' :: (brackets slices ++ (star pointer ++ structBrace [' ']))) :=
      ⟨[' '], [' '], blank_space, by simp, blank_space, rfl⟩
    have hclose : Closing tag? (List.replicate indent '\t' ++ '}' :: tagText tag?) :=
      ⟨List.replicate indent '\t', tagText tag?, blank_tabs indent, tagEnd_tagText tag?, rfl⟩
    rw [FieldDecl.layout, List.cons_append, List.append_assoc, List.singleton_append]
    exact .nested (by rwa [hhead.trim_indented]) (body_layoutOf (indent + 1) fields) hclose h

theorem body_layoutOf (indent : Nat) (decls : List FieldDecl) : Body decls (layoutOf indent decls) := by
  cases decls with
  | nil => exact .nil
  | cons decl decls =>
    rw [layoutOf]
    exact body_layout indent decl (body_layoutOf indent decls)

end

/-! ## Declared structs -/

theorem fieldsOf_eq_map (decls : List FieldDecl) : fieldsOf decls = decls.map FieldDecl.field := by
  induction decls with
  | nil => rfl
  | cons decl decls ih => rw [fieldsOf, ih, List.map_cons]

theorem structBrace_ne (gap : List Char) : structBrace gap ≠ ['('] := by
  intro h
  cases h

/-- A declared struct is defined as the list of fields that its body lays out, with their names, types, tags, embedded
types and inner lists. -/
theorem definition?_struct (name : Ident) (decls : List FieldDecl) (before body after : List (List Char))
    (head close gap : List Char) (grouped : Bool) (hscan : Scan.behind {} before = ⟨0, grouped⟩)
    (hbefore : ¬ Scan.Declared {} name.text before) (hgap : Blank gap)
    (hhead : Declares name.text (structBrace gap) grouped (trim head)) (hbody : Body decls body)
    (hclose : (trim close).head? = some '}') :
    definition? (before ++ head :: (body ++ close :: after)) name.text = some (.struct (fieldsOf decls)) ∧
      (fieldsOf decls).map Field.names = decls.map FieldDecl.names := by
  have hfound : Scan.declaration? name.text {} (before ++ head :: (body ++ close :: after))
      = some (structBrace gap, body ++ close :: after) := by
    rw [Scan.declaration?_append, Scan.declaration?_eq_none_of_not hbefore, hscan, Scan.declaration?,
      Scan.declares?_of_declares (.inr (structBrace_ne gap)) hhead]
    rfl
  constructor
  · calc definition? (before ++ head :: (body ++ close :: after)) name.text
        = some (definitionOf (structBrace gap) (body ++ close :: after)) := by
          rw [definition?_eq, hfound, Option.map_some]
      _ = some (.struct (structFields (body ++ close :: after)).1) := by rw [definitionOf_structBrace hgap]
      _ = some (.struct (fieldsOf decls)) := by rw [structFields_body hbody hclose]
  · rw [fieldsOf_eq_map, List.map_map]
    exact List.map_congr_left fun decl _ => names_field decl

/-- Two names with a tag, a pointer to a type of another package, and slices of pointers to a struct that holds a
struct of its own. -/
def orderFields : List FieldDecl :=
  [.plain ⟨"ID".toList, by decide +kernel⟩ [⟨"Ref".toList, by decide +kernel⟩]
      ⟨"map[string]int".toList, by decide, fun c hc => by cases hc; decide +kernel,
        fun c hc => by cases hc; decide +kernel, by decide⟩
      (some ⟨"json:\"id\"".toList, by decide⟩),
    .embedded true (some ⟨"audit".toList, by decide +kernel⟩) ⟨"Stamp".toList, by decide +kernel⟩ none,
    .nested ⟨"Items".toList, by decide +kernel⟩ 2 true
      [.nested ⟨"Price".toList, by decide +kernel⟩ 0 false
        [.embedded false none ⟨"Amount".toList, by decide +kernel⟩ none] none]
      (some ⟨"json:\"items\"".toList, by decide⟩)]

/-- A file up to a group of types, with one of them declared. -/
def ordersBefore : List (List Char) :=
  ["package orders", "", "type (", "\tAmount struct \x7b", "\t\tCents int", "\t\x7d"].map String.toList

theorem definition?_struct_order :
    Scan.behind {} ordersBefore = ⟨0, true⟩ ∧ ¬ Scan.Declared {} "Order".toList ordersBefore ∧
      Body orderFields (layoutOf 2 orderFields) ∧
      definition?
          (ordersBefore ++ "\tOrder struct \x7b".toList :: (layoutOf 2 orderFields ++ "\t\x7d".toList :: [[')']]))
          "Order".toList
        = some (.struct (fieldsOf orderFields)) := by
  have hscan : Scan.behind {} ordersBefore = ⟨0, true⟩ := by decide +kernel
  have hbefore : ¬ Scan.Declared {} "Order".toList ordersBefore :=
    (Scan.declaration?_eq_none_iff (by decide)).mp (by decide +kernel)
  have hhead : Declares "Order".toList (structBrace [' ']) true (trim "\tOrder struct \x7b".toList) :=
    declaredAs?_eq_some_iff.mp (by decide +kernel)
  exact ⟨hscan, hbefore, body_layoutOf 2 orderFields,
    (definition?_struct ⟨"Order".toList, by decide +kernel⟩ orderFields ordersBefore (layoutOf 2 orderFields) [[')']]
      "\tOrder struct \x7b".toList "\t\x7d".toList [' '] true hscan hbefore blank_space hhead
      (body_layoutOf 2 orderFields) (by decide +kernel)).1⟩

end RouteDoc.Go
