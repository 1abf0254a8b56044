import RouteDoc.Proofs.StatementJoining
import RouteDoc.Proofs.TypeScan

/-!
Type declarations at the top level of a file. `Outline` follows the text with its raw strings over the ends of lines:
which literal a line starts in, which parentheses and braces are open there, and whether they are those of a group of
types. A declaration at the top level is a line that starts outside of all of them (`Outline.Declares`).

The scan for a declaration starts outside of literals on every line, so lines inside a raw string are read as code.
As long as they leave the braces and the group as they are in the text, and declare nothing, and groups are laid out
in lines of their own (`Clear`), the scan is where the text is (`Clear.scan_eq`). It then finds the declaration of a
name, and nothing if there is none. In general it stops at a declaration exactly if it gets there outside of all
braces and in the group, and has taken nothing before for a declaration (`type_declaration_found_iff`).
-/

namespace RouteDoc.Go

open RouteDoc.Text

/-! ## The outline of the text -/

/-- What is open at the start of a line. -/
structure Outline where
  /-- The literal, and the number of parentheses. -/
  place : Place := {}
  braces : Nat := 0
  /-- Whether the outermost parenthesis is that of a group of types. -/
  grouped : Bool := false

namespace Outline

/-- The line starts outside of literals and braces, and of parentheses but for those of a group. -/
def AtTop (outline : Outline) : Prop :=
  outline.place.literal? = none ∧ outline.braces = 0 ∧ outline.place.opened = if outline.grouped then 1 else 0

instance (outline : Outline) : Decidable outline.AtTop :=
  inferInstanceAs (Decidable (_ ∧ _ ∧ _))

/-- The outline at the start of the next line. A group is open until all parentheses are closed. -/
def next (outline : Outline) (line : List Char) : Outline where
  place := outline.place.nextLine line
  braces := (outline.braces + nestingFrom '{' '}' outline.place.literal? line).toNat
  grouped := if outline.grouped then (outline.place.nextLine line).opened != 0
    else outline.AtTop && opensTypes (trim line)

def behind (outline : Outline) (lines : List (List Char)) : Outline :=
  lines.foldl next outline

/-- The line declares the name at the top level, as `type`. -/
def Declares (outline : Outline) (name type line : List Char) : Prop :=
  outline.AtTop ∧ Go.Declares name type outline.grouped (trim line)

/-- Some line declares the name at the top level. -/
def Declared (outline : Outline) (name : List Char) (lines : List (List Char)) : Prop :=
  ∃ front line rest type, lines = front ++ line :: rest ∧ (outline.behind front).Declares name type line

/-- What a scan has to carry to be where the text is. -/
def scan (outline : Outline) : Scan :=
  ⟨outline.braces, outline.grouped⟩

/-- Every line starts inside a raw string. -/
def Inside : Outline → List (List Char) → Prop
  | _, [] => True
  | outline, line :: lines => outline.place.literal?.isSome ∧ (outline.next line).Inside lines

/-- A line of code, as it is laid out around groups of types and their specifications. -/
structure Tidy (outline : Outline) (name line : List Char) : Prop where
  code : outline.place.literal? = none
  /-- A group is closed on a line of its own, and no other parenthesis is. -/
  closing : outline.grouped = true → ((outline.next line).grouped = false ↔ outline.braces = 0 ∧ trim line = [')'])
  /-- A group is opened outside of parentheses. -/
  opening : outline.grouped = false → outline.braces = 0 → opensTypes (trim line) = true → outline.place.opened = 0
  /-- Inside parentheses no line reads as a declaration of the name. -/
  specs : outline.braces = 0 → ¬ outline.AtTop → ∀ type, ¬ Go.Declares name type outline.grouped (trim line)

end Outline

/-- The lines do not lead a scan for the name astray. -/
inductive Clear (name : List Char) : Outline → List (List Char) → Prop
  | nil (outline : Outline) : Clear name outline []
  /-- A line of code. -/
  | code {outline : Outline} {line : List Char} {lines : List (List Char)} (h : outline.Tidy name line)
    (hrest : Clear name (outline.next line) lines) : Clear name outline (line :: lines)
  /-- Lines that start inside a raw string, up to where a scan that reads them as code is back where the text is. -/
  | raw {outline : Outline} {block lines : List (List Char)} (hinside : outline.Inside block)
    (hscan : outline.scan.behind block = (outline.behind block).scan) (hnone : ¬ outline.scan.Declared name block)
    (hrest : Clear name (outline.behind block) lines) : Clear name outline (block ++ lines)

/-! ## The scan is where the text is -/

theorem braceNesting_of_trim {line text : List Char} (htrim : trim line = text) (hopen : '{' ∉ text)
    (hclose : '}' ∉ text) : braceNesting line = 0 := by
  obtain ⟨lead, tail, hlead, htail, hline⟩ := eq_append_trim line
  have hmark : ∀ c, isBlank c = false → c ∉ text → c ∉ line := by
    intro c hblank htext hmem
    rw [hline, htrim, List.mem_append, List.mem_append] at hmem
    rcases hmem with (hmem | hmem) | hmem
    · rw [hlead c hmem] at hblank
      cases hblank
    · exact htext hmem
    · rw [htail c hmem] at hblank
      cases hblank
  exact nestingFrom_of_not_mem none (hmark '{' (fieldMark '{' (by simp)).1 hopen)
    (hmark '}' (fieldMark '}' (by simp)).1 hclose)

namespace Scan

theorem opensTypes_iff (line : List Char) :
    opensTypes line = true ↔ line = ['t', 'y', 'p', 'e', ' ', '('] ∨ line = ['t', 'y', 'p', 'e', '('] := by
  rw [opensTypes, Bool.or_eq_true, decide_eq_true_eq, decide_eq_true_eq]

/-- The lines around a group have no braces, so the braces are counted alike on every line. -/
theorem depth_next (scan : Scan) (line : List Char) :
    (scan.next line).depth = (scan.depth + braceNesting line).toNat := by
  rw [next]
  split
  · rename_i hopens
    rw [Bool.and_eq_true, opensTypes_iff] at hopens
    have hline : braceNesting line = 0 := by
      rcases hopens.2 with htrim | htrim
      · exact braceNesting_of_trim htrim (by decide) (by decide)
      · exact braceNesting_of_trim htrim (by decide) (by decide)
    show scan.depth = (scan.depth + braceNesting line).toNat
    omega
  · split
    · rename_i hcloses
      rw [Bool.and_eq_true, decide_eq_true_eq] at hcloses
      have hline : braceNesting line = 0 := braceNesting_of_trim hcloses.2 (by decide) (by decide)
      show scan.depth = (scan.depth + braceNesting line).toNat
      omega
    · rfl

theorem inGroup_next_iff (scan : Scan) (line : List Char) :
    (scan.next line).inGroup = true ↔ (scan.depth = 0 ∧ opensTypes (trim line) = true) ∨
      (scan.inGroup = true ∧ ¬ (scan.depth = 0 ∧ trim line = [')'])) := by
  rw [next]
  split
  · rename_i hopens
    simp only [Bool.and_eq_true, decide_eq_true_eq] at hopens
    simp [hopens]
  · rename_i hopens
    simp only [Bool.and_eq_true, decide_eq_true_eq] at hopens
    split
    · rename_i hcloses
      simp only [Bool.and_eq_true, decide_eq_true_eq] at hcloses
      have hnot : opensTypes [')'] = false := rfl
      simp [hcloses, hnot]
    · rename_i hcloses
      simp only [Bool.and_eq_true, decide_eq_true_eq] at hcloses
      constructor
      · intro hgroup
        exact .inr ⟨hgroup, fun h => hcloses ⟨⟨h.1, hgroup⟩, h.2⟩⟩
      · intro h
        rcases h with h | h
        · exact absurd h hopens
        · exact h.1

end Scan

namespace Outline

theorem grouped_next_iff {outline : Outline} (hgrouped : outline.grouped = false) (line : List Char) :
    (outline.next line).grouped = true ↔ outline.AtTop ∧ opensTypes (trim line) = true := by
  rw [next, hgrouped, if_neg (by simp), Bool.and_eq_true, decide_eq_true_eq]

/-- A tidy line of code takes the scan to where the text goes on. -/
theorem Tidy.scan_next {outline : Outline} {name line : List Char} (h : outline.Tidy name line) :
    outline.scan.next line = (outline.next line).scan := by
  have hdepth : (outline.scan.next line).depth = (outline.next line).braces := by
    rw [Scan.depth_next, next, h.code]
    rfl
  have hgroup : (outline.scan.next line).inGroup = (outline.next line).grouped := by
    rw [Bool.eq_iff_iff, Scan.inGroup_next_iff]
    show (outline.braces = 0 ∧ _) ∨ (outline.grouped = true ∧ ¬ (outline.braces = 0 ∧ _)) ↔ _
    cases hgrouped : outline.grouped with
    | false =>
      -- only a line that opens a group matters, and it stands at the top level
      rw [grouped_next_iff hgrouped]
      constructor
      · intro hopens
        rcases hopens with ⟨hbraces, hopens⟩ | hfalse
        · exact ⟨⟨h.code, hbraces, by rw [h.opening hgrouped hbraces hopens, hgrouped]; rfl⟩, hopens⟩
        · exact absurd hfalse.1 (by simp)
      · intro hopens
        exact .inl ⟨hopens.1.2.1, hopens.2⟩
    | true =>
      -- only the closing line of the group matters, and it stands alone
      have hstays : (outline.next line).grouped = true ↔ ¬ (outline.braces = 0 ∧ trim line = [')']) := by
        rw [← h.closing hgrouped, Bool.not_eq_false]
      rw [hstays]
      constructor
      · intro hopens hcloses
        rcases hopens with hopens | hopens
        · rw [hcloses.2] at hopens
          cases hopens.2
        · exact hopens.2 hcloses
      · intro hcloses
        exact .inr ⟨rfl, hcloses⟩
  calc outline.scan.next line
      = ⟨(outline.scan.next line).depth, (outline.scan.next line).inGroup⟩ := rfl
    _ = (outline.next line).scan := by rw [hdepth, hgroup, scan]

theorem Tidy.declares?_eq_none {outline : Outline} {name line : List Char} (h : outline.Tidy name line)
    (hnone : ∀ type, ¬ outline.Declares name type line) : outline.scan.declares? name line = none := by
  apply Scan.declares?_eq_none_of_not
  intro type hdepth hdeclares
  by_cases htop : outline.AtTop
  · exact hnone type ⟨htop, hdeclares⟩
  · exact h.specs hdepth htop type hdeclares

end Outline

theorem Clear.scan_eq {name : List Char} {outline : Outline} {lines : List (List Char)} (h : Clear name outline lines) :
    outline.scan.behind lines = (outline.behind lines).scan := by
  induction h with
  | nil outline => rfl
  | @code outline line lines h hrest ih =>
    calc outline.scan.behind (line :: lines)
        = (outline.scan.next line).behind lines := rfl
      _ = (outline.next line).scan.behind lines := by rw [h.scan_next]
      _ = ((outline.next line).behind lines).scan := ih
  | @raw outline block lines hinside hscan hnone hrest ih =>
    calc outline.scan.behind (block ++ lines)
        = (outline.scan.behind block).behind lines := List.foldl_append
      _ = (outline.behind block).scan.behind lines := by rw [hscan]
      _ = ((outline.behind block).behind lines).scan := ih
      _ = (outline.behind (block ++ lines)).scan := by rw [Outline.behind, Outline.behind, ← List.foldl_append]; rfl

theorem Outline.declared_cons_iff (outline : Outline) (name line : List Char) (lines : List (List Char)) :
    outline.Declared name (line :: lines) ↔
      (outline.AtTop ∧ (declaredAs? name outline.grouped (trim line)).isSome) ∨
        (outline.next line).Declared name lines := by
  constructor
  · rintro ⟨front, line', rest, type, hlines, htop, hdeclares⟩
    cases front with
    | nil =>
      obtain ⟨rfl, rfl⟩ := List.cons.inj hlines
      rw [Outline.behind, List.foldl_nil] at hdeclares
      exact .inl ⟨htop, Option.isSome_iff_exists.mpr ⟨type, declaredAs?_eq_some_iff.mpr hdeclares⟩⟩
    | cons first front =>
      obtain ⟨rfl, rfl⟩ := List.cons.inj hlines
      exact .inr ⟨front, line', rest, type, rfl, htop, hdeclares⟩
  · intro h
    rcases h with ⟨htop, hsome⟩ | ⟨front, line', rest, type, rfl, hdeclares⟩
    · obtain ⟨type, htype⟩ := Option.isSome_iff_exists.mp hsome
      exact ⟨[], line, lines, type, rfl, htop, declaredAs?_eq_some_iff.mp htype⟩
    · exact ⟨line :: front, line', rest, type, rfl, hdeclares⟩

instance Outline.decidableDeclared (name : List Char) :
    (outline : Outline) → (lines : List (List Char)) → Decidable (outline.Declared name lines)
  | _, [] => isFalse fun ⟨front, _, _, _, hlines, _⟩ => by cases front <;> cases hlines
  | outline, line :: lines =>
    haveI := Outline.decidableDeclared name (outline.next line) lines
    decidable_of_iff' _ (outline.declared_cons_iff name line lines)

theorem Outline.Declared.behind {outline : Outline} {name : List Char} (front : List (List Char))
    {lines : List (List Char)} (h : (outline.behind front).Declared name lines) :
    outline.Declared name (front ++ lines) := by
  obtain ⟨between, line, rest, type, rfl, hdeclares⟩ := h
  refine ⟨front ++ between, line, rest, type, by simp, ?_⟩
  rwa [Outline.behind, List.foldl_append]

/-- Along clear lines, the scan takes nothing for a declaration but one at the top level. -/
theorem Clear.declaration?_eq_none {name : List Char} {outline : Outline} {lines : List (List Char)}
    (h : Clear name outline lines) (hnone : ¬ outline.Declared name lines) :
    outline.scan.declaration? name lines = none := by
  induction h with
  | nil outline => rfl
  | @code outline line lines h hrest ih =>
    have hline : outline.scan.declares? name line = none := by
      apply h.declares?_eq_none
      intro type hdeclares
      exact hnone ⟨[], line, lines, type, rfl, hdeclares⟩
    rw [Scan.declaration?, hline, h.scan_next]
    exact ih fun hdeclared => hnone (Outline.Declared.behind [line] hdeclared)
  | @raw outline block lines hinside hscan hblock hrest ih =>
    rw [Scan.declaration?_append, Scan.declaration?_eq_none_of_not hblock, hscan]
    exact ih fun hdeclared => hnone (hdeclared.behind block)

/-! ## What the scan finds -/

namespace Scan

theorem length_of_declaration? {name : List Char} {scan : Scan} {lines : List (List Char)}
    {found : List Char × List (List Char)} (h : scan.declaration? name lines = some found) :
    found.2.length < lines.length := by
  induction lines generalizing scan with
  | nil => cases h
  | cons line lines ih =>
    rw [declaration?] at h
    rw [List.length_cons]
    split at h
    · obtain rfl := Option.some.inj h
      exact Nat.lt_succ_self _
    · have hlt := ih h
      omega

/-- The scan stops at a line that declares the name exactly if it gets there outside of all braces, in a group or
not as the line is written, and no line before is taken for a declaration. -/
theorem declaration?_at_iff {name type line : List Char} {inGroup : Bool} (hname : name ≠ typeKeyword)
    (h : Go.Declares name type inGroup (trim line)) (scan : Scan) (before after : List (List Char)) :
    scan.declaration? name (before ++ line :: after) = some (type, after) ↔
      ¬ scan.Declared name before ∧ scan.behind before = ⟨0, inGroup⟩ := by
  rw [declaration?_append, ← declaration?_eq_none_iff hname, ← declares?_eq_some_iff hname h]
  cases hfront : scan.declaration? name before with
  | some found =>
    -- a declaration before the line has more lines behind it
    have hlong : found.2 ++ line :: after ≠ after := by
      intro heq
      have hlength := congrArg List.length heq
      rw [List.length_append, List.length_cons] at hlength
      omega
    simp [hlong]
  | none =>
    rw [Option.map_none, Option.none_or, declaration?]
    cases hline : (scan.behind before).declares? name line with
    | some other => simp
    | none =>
      -- a declaration behind the line has fewer
      have hshort : ((scan.behind before).next line).declaration? name after ≠ some (type, after) := by
        intro hafter
        exact absurd (length_of_declaration? hafter) (Nat.lt_irrefl _)
      simp [hshort]

end Scan

/-- **Declarations at the top level and what the scan finds.** A name is defined by the line that the scan stops at, and
not defined if it stops at none.

If no line declares the name at the top level, clear lines do not define it; in general lines do not define it exactly
if the scan takes none of them for a declaration. Now let a line declare the name at the top level, and none before it.
If the lines before it are clear, the name is defined by that line. In general the scan stops there exactly if it has
taken nothing before for a declaration and gets there outside of all braces, and in a group or not as the text is. -/
theorem type_declaration_found_iff (name : List Char) (hname : name ≠ typeKeyword) (lines : List (List Char)) :
    (definition? lines name = (Scan.declaration? name {} lines).map fun found => definitionOf found.1 found.2) ∧
    (Clear name {} lines → ¬ Outline.Declared {} name lines → definition? lines name = none) ∧
    (definition? lines name = none ↔ ¬ Scan.Declared {} name lines) ∧
    ∀ before line after type, lines = before ++ line :: after →
      (Outline.behind {} before).Declares name type line → ¬ Outline.Declared {} name before →
      (Clear name {} before → definition? lines name = some (definitionOf type after)) ∧
      (Scan.declaration? name {} lines = some (type, after) ↔
        ¬ Scan.Declared {} name before ∧ Scan.behind {} before = (Outline.behind {} before).scan) := by
  have hnone : definition? lines name = none ↔ Scan.declaration? name {} lines = none := by
    rw [definition?_eq, Option.map_eq_none_iff]
  refine ⟨definition?_eq name lines, ?_, ?_, ?_⟩
  · intro hclear hdeclared
    exact hnone.mpr (hclear.declaration?_eq_none hdeclared)
  · rw [hnone, Scan.declaration?_eq_none_iff hname]
  · intro before line after type hlines hline hbefore
    subst hlines
    have hscan : (Outline.behind {} before).scan = ⟨0, (Outline.behind {} before).grouped⟩ := by
      rw [Outline.scan, hline.1.2.1]
    have hat := Scan.declaration?_at_iff hname hline.2 {} before after
    rw [← hscan] at hat
    refine ⟨?_, hat⟩
    intro hclear
    have hundeclared := (Scan.declaration?_eq_none_iff hname).mp (hclear.declaration?_eq_none hbefore)
    rw [definition?_eq, hat.mpr ⟨hundeclared, hclear.scan_eq⟩, Option.map_some]

/-- The lines of a raw string with the braces of an object, behind the first one. -/
def schemaInner : List (List Char) :=
  ["\t\"order\": \x7b", "\t\x7d", "\x7d\x60"].map String.toList

/-- A constant that is the raw string, and then a group of types. -/
def schemaBefore : List (List Char) :=
  "const schema = \x60\x7b".toList :: (schemaInner ++ ["type (".toList])

/-- A raw string with a brace that nothing closes. -/
def braceBefore : List (List Char) :=
  ["const opening = \x60", "\x7b", "\x60"].map String.toList

theorem clear_schemaBefore : Clear "Order".toList {} schemaBefore := by
  have htop : ∀ {outline : Outline} {line : List Char}, outline.AtTop → outline.grouped = false →
      outline.Tidy "Order".toList line := by
    intro outline line htop hgrouped
    refine ⟨htop.1, fun h => ?_, fun _ _ _ => ?_, fun _ h => absurd htop h⟩
    · rw [hgrouped] at h
      cases h
    · rw [htop.2.2, hgrouped]
      rfl
  apply Clear.code (htop (by decide) rfl)
  apply Clear.raw
  · exact ⟨by decide, by decide, by decide, trivial⟩
  · decide
  · exact (Scan.declaration?_eq_none_iff (by decide)).mp (by decide)
  · exact .code (htop (by decide) (by decide)) (.nil _)

/-- The type behind the balanced raw string is found in its group; the one behind the single brace is declared at the
top level and not found. -/
theorem type_declaration_found_iff_schema :
    definition? (schemaBefore ++ "\tOrder int".toList :: [[')']]) "Order".toList
      = some (definitionOf "int".toList [[')']]) ∧
    (Outline.behind {} braceBefore).Declares "Order".toList "int".toList "type Order int".toList ∧
    Scan.declaration? "Order".toList {} (braceBefore ++ ["type Order int".toList]) ≠ some ("int".toList, []) ∧
    definition? (braceBefore ++ ["type Order int".toList]) "Order".toList = none := by
  have hgrouped : (Outline.behind {} schemaBefore).Declares "Order".toList "int".toList "\tOrder int".toList :=
    ⟨by decide +kernel, declaredAs?_eq_some_iff.mp (by decide +kernel)⟩
  have halone : (Outline.behind {} braceBefore).Declares "Order".toList "int".toList "type Order int".toList :=
    ⟨by decide +kernel, declaredAs?_eq_some_iff.mp (by decide +kernel)⟩
  have hclear := (type_declaration_found_iff "Order".toList (by decide) _).2.2.2 schemaBefore "\tOrder int".toList
    [[')']] "int".toList rfl hgrouped (by decide +kernel)
  have hquery := type_declaration_found_iff "Order".toList (by decide) (braceBefore ++ ["type Order int".toList])
  have hhidden := (hquery.2.2.2 braceBefore "type Order int".toList [] "int".toList rfl halone (by decide +kernel)).2
  refine ⟨hclear.1 clear_schemaBefore, halone, ?_, ?_⟩
  · rw [Ne, hhidden]
    exact fun h => absurd h.2 (by decide +kernel)
  · rw [hquery.2.2.1]
    exact (Scan.declaration?_eq_none_iff (by decide)).mp (by decide +kernel)

end RouteDoc.Go
