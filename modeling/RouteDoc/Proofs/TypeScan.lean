import RouteDoc.Proofs.FieldLines
import RouteDoc.Proofs.ReadNames

/-!
The scan for a type declaration. It goes over the lines of a file and carries two things along: how many braces are
open, and whether a group of declarations is (`Scan`). `declaration?` says which line it stops at, and the definition
of a name is read from there (`definition?_eq`). Lines can be taken in two parts, the second from the state that the
first leaves (`declaration?_append`).

A line declares a name if it reads as a specification of it, behind the keyword or in a group (`Declares`). That is
a matter of the text alone, and it is what the reader of specifications finds (`declaredAs?_eq_some_iff`).
-/

namespace RouteDoc.Go

open RouteDoc.Text

/-! ## Type specifications -/

/-- A text that does not start with a blank, and is not empty. -/
structure Solid (text : List Char) : Prop where
  ne_nil : text ≠ []
  head : ∀ c, text.head? = some c → isBlank c = false

/-- The text behind the name and the parameters of a type: the type, or an equals sign and the type. -/
inductive Denotes (type : List Char) : List Char → Prop
  | direct (h : ∀ cs, type = '=' :: cs → trimStart cs = []) : Denotes type type
  | aliased {gap : List Char} (hgap : Blank gap) : Denotes type ('=' :: (gap ++ type))

/-- The parameters of a generic type, or nothing. -/
inductive Parameters : List Char → Prop
  | absent : Parameters []
  | listed {inner : List Char} (h : ']' ∉ inner) : Parameters ('[' :: (inner ++ [']']))

/-- The text specifies the type with this name as `type`. -/
structure SpecText (name type spec : List Char) : Prop where
  ident : isIdent name = true
  solid : Solid type
  split : ∃ parameters gap text, Parameters parameters ∧ Blank gap ∧ gap ≠ [] ∧ Denotes type text ∧
    spec = name ++ (parameters ++ (gap ++ text))

def typeKeyword : List Char :=
  ['t', 'y', 'p', 'e']

/-- The line, without the blanks at its ends, declares the type with this name as `type`: as a specification in a
group, or behind the keyword. -/
inductive Declares (name type : List Char) : Bool → List Char → Prop
  | grouped {spec : List Char} (h : SpecText name type spec) : Declares name type true spec
  | alone {gap spec : List Char} (hgap : Blank gap) (h : SpecText name type spec) :
    Declares name type false (typeKeyword ++ ' ' :: (gap ++ spec))

theorem Denotes.solid {type text : List Char} (h : Denotes type text) (htype : Solid type) : Solid text := by
  cases h with
  | direct => exact htype
  | aliased hgap =>
    refine ⟨by simp, fun c hc => ?_⟩
    obtain rfl : '=' = c := by simpa using hc
    decide

theorem solid_trimStart {s : List Char} (h : trimStart s ≠ []) : Solid (trimStart s) := by
  refine ⟨h, fun c hc => ?_⟩
  have hstop := List.head?_dropWhile_not isBlank s
  rw [trimStart] at hc
  simpa [hc] using hstop

theorem cut?_eq_some {sep : Char} {s front behind : List Char} (h : cut? sep s = some (front, behind)) :
    sep ∉ front ∧ s = front ++ sep :: behind := by
  induction s generalizing front with
  | nil => cases h
  | cons c s ih =>
    rw [cut?] at h
    split at h
    · rename_i hc
      obtain ⟨rfl, rfl⟩ := Prod.mk.inj (Option.some.inj h)
      simpa using hc
    · rename_i hc
      obtain ⟨⟨front', behind'⟩, hcut, hpair⟩ := Option.map_eq_some_iff.mp h
      obtain ⟨rfl, rfl⟩ := Prod.mk.inj hpair
      obtain ⟨hfront, rfl⟩ := ih hcut
      refine ⟨?_, rfl⟩
      rw [List.mem_cons]
      rintro (rfl | hmem)
      · exact hc (by simp)
      · exact hfront hmem

theorem blanks?_eq_some_iff {s text : List Char} (htext : text ≠ []) :
    blanks? s = some text ↔ Solid text ∧ ∃ gap, Blank gap ∧ gap ≠ [] ∧ s = gap ++ text := by
  constructor
  · intro h
    cases s with
    | nil => cases h
    | cons first s =>
      rw [blanks?] at h
      split at h
      · rename_i hfirst
        obtain rfl := Option.some.inj h
        obtain ⟨gap, hgap, hs⟩ := eq_blank_append_trimStart s
        refine ⟨solid_trimStart htext, first :: gap, ?_, by simp, ?_⟩
        · intro c hc
          rcases List.mem_cons.mp hc with rfl | hc
          · exact hfirst
          · exact hgap c hc
        · rw [List.cons_append, ← hs]
      · cases h
  · rintro ⟨hsolid, gap, hgap, hne, rfl⟩
    exact blanks?_append hgap hne hsolid.head

/-- What stands behind the parameters at the start of the text, if it starts with any. -/
def behindParameters : List Char → List Char
  | '[' :: cs => (cut? ']' cs).elim ('[' :: cs) Prod.snd
  | cs => cs

/-- The type in the text behind the name and the parameters. -/
def denoted : List Char → List Char
  | '=' :: cs => if trimStart cs = [] then '=' :: cs else trimStart cs
  | cs => cs

theorem typeSpec?_eq (spec : List Char) :
    typeSpec? spec = (ident? spec).bind fun found => (blanks? (behindParameters found.2)).bind fun text =>
      if text = [] then none else some (found.1, denoted text) := by
  rw [typeSpec?, Option.bind_eq_bind]
  congr 1
  funext ⟨name, rest⟩
  dsimp only
  rw [Option.bind_eq_bind]
  congr 1
  · congr 1
    split
    · rename_i cs
      cases hcut : cut? ']' cs with
      | none => simp [behindParameters, hcut]
      | some found => simp [behindParameters, hcut]
    · rename_i hother
      rw [behindParameters]
      exact hother
  · funext text
    split
    · rename_i cs
      cases htrim : trimStart cs with
      | nil => simp [denoted, htrim]
      | cons c cs => simp [denoted, htrim]
    · rename_i hother
      rw [denoted]
      · cases text with
        | nil => simp
        | cons c cs => simp
      · exact hother

theorem denoted_eq_iff {text : List Char} (htext : Solid text) (type : List Char) :
    denoted text = type ↔ Solid type ∧ Denotes type text := by
  constructor
  · rintro rfl
    unfold denoted
    split
    · rename_i cs
      split
      · rename_i hnone
        exact ⟨htext, .direct fun cs' h => by rw [← (List.cons.inj h).2, hnone]⟩
      · rename_i hsome
        obtain ⟨gap, hgap, hcs⟩ := eq_blank_append_trimStart cs
        refine ⟨solid_trimStart hsome, ?_⟩
        have haliased : Denotes (trimStart cs) ('=' :: (gap ++ trimStart cs)) := .aliased hgap
        rwa [← hcs] at haliased
    · rename_i hother
      exact ⟨htext, .direct fun cs' h => absurd h (hother cs')⟩
  · rintro ⟨htype, hdenotes⟩
    cases hdenotes with
    | direct h =>
      unfold denoted
      split
      · rename_i cs
        rw [if_pos (h cs rfl)]
      · rfl
    | aliased hgap =>
      rw [denoted, hgap.trimStart_append, trimStart_of_head htype.head, if_neg htype.ne_nil]

theorem blanks?_behindParameters_iff {rest text : List Char} (htext : text ≠ []) :
    blanks? (behindParameters rest) = some text ↔ Solid text ∧
      ∃ parameters gap, Parameters parameters ∧ Blank gap ∧ gap ≠ [] ∧ rest = parameters ++ (gap ++ text) := by
  rw [blanks?_eq_some_iff htext]
  refine and_congr_right fun _ => ?_
  constructor
  · rintro ⟨gap, hgap, hne, hbehind⟩
    unfold behindParameters at hbehind
    split at hbehind
    · rename_i cs
      cases hcut : cut? ']' cs with
      | none =>
        -- a bracket that nothing closes is no blank
        rw [hcut] at hbehind
        obtain ⟨first, more, rfl⟩ := List.exists_cons_of_ne_nil hne
        obtain rfl : '[' = first := (List.cons.inj hbehind).1
        exact absurd (hgap '[' (by simp)) (by decide)
      | some found =>
        obtain ⟨hinner, rfl⟩ := cut?_eq_some hcut
        rw [hcut] at hbehind
        exact ⟨'[' :: (found.1 ++ [']']), gap, .listed hinner, hgap, hne, by simp [← hbehind]⟩
    · exact ⟨[], gap, .absent, hgap, hne, hbehind⟩
  · rintro ⟨parameters, gap, hparameters, hgap, hne, rfl⟩
    refine ⟨gap, hgap, hne, ?_⟩
    cases hparameters with
    | absent =>
      obtain ⟨first, more, rfl⟩ := List.exists_cons_of_ne_nil hne
      rw [List.nil_append, List.cons_append, behindParameters]
      rintro cs h
      obtain rfl := (List.cons.inj h).1
      exact absurd (hgap '[' (by simp)) (by decide)
    | listed hinner => simp [behindParameters, cut?_append hinner]

theorem typeSpec?_eq_some_iff {name type spec : List Char} :
    typeSpec? spec = some (name, type) ↔ SpecText name type spec := by
  rw [typeSpec?_eq]
  constructor
  · intro h
    obtain ⟨⟨name', rest⟩, hident, h⟩ := Option.bind_eq_some_iff.mp h
    obtain ⟨text, hblanks, h⟩ := Option.bind_eq_some_iff.mp h
    split at h
    · cases h
    · rename_i hne
      obtain ⟨rfl, hdenoted⟩ := Prod.mk.inj (Option.some.inj h)
      obtain ⟨hsolid, parameters, gap, hparameters, hgap, hgapne, hrest⟩ :=
        (blanks?_behindParameters_iff hne).mp hblanks
      obtain ⟨htype, hdenotes⟩ := (denoted_eq_iff hsolid type).mp hdenoted
      refine ⟨ident?_isIdent spec _ hident, htype, parameters, gap, text, hparameters, hgap, hgapne, hdenotes, ?_⟩
      rw [← hrest, ident?_eq_append hident]
  · rintro ⟨hname, htype, parameters, gap, text, hparameters, hgap, hgapne, hdenotes, rfl⟩
    have htext := hdenotes.solid htype
    have hident : ident? (name ++ (parameters ++ (gap ++ text))) = some (name, parameters ++ (gap ++ text)) := by
      refine ident?_append hname fun d hd => ?_
      cases hparameters with
      | absent =>
        obtain ⟨first, more, rfl⟩ := List.exists_cons_of_ne_nil hgapne
        obtain rfl : first = d := by simpa using hd
        exact isWord_of_isBlank (hgap first (by simp))
      | listed hinner =>
        obtain rfl : '[' = d := by simpa using hd
        decide
    have hblanks := (blanks?_behindParameters_iff htext.ne_nil).mpr
      ⟨htext, parameters, gap, hparameters, hgap, hgapne, rfl⟩
    rw [hident, Option.bind_some, hblanks, Option.bind_some, if_neg htext.ne_nil,
      (denoted_eq_iff htext type).mpr ⟨htype, hdenotes⟩]

theorem SpecText.solid_spec {name type spec : List Char} (h : SpecText name type spec) : Solid spec := by
  obtain ⟨parameters, gap, text, -, -, -, -, rfl⟩ := h.split
  obtain ⟨c, cs, hname, hstart, -⟩ := (Ident.mk name h.ident).head
  subst hname
  refine ⟨by simp, fun d hd => ?_⟩
  obtain rfl : c = d := by simpa using hd
  exact isBlank_of_isWord (Routes.isWord_of_isIdentStart hstart)

theorem declaredAs?_eq_some_iff {name type text : List Char} {inGroup : Bool} :
    declaredAs? name inGroup text = some type ↔ Declares name type inGroup text := by
  have hspec : declaredAs? name inGroup text = some type ↔
      ∃ spec, specOn? inGroup text = some spec ∧ typeSpec? spec = some (name, type) := by
    rw [declaredAs?, ← Option.bind_eq_some_iff]
    cases (specOn? inGroup text).bind typeSpec? with
    | none => simp
    | some found =>
      obtain ⟨declared, type'⟩ := found
      by_cases hsame : declared = name <;> simp [hsame]
  rw [hspec]
  constructor
  · rintro ⟨spec, hon, hread⟩
    rw [typeSpec?_eq_some_iff] at hread
    cases inGroup with
    | true =>
      obtain rfl : text = spec := by simpa [specOn?] using hon
      exact .grouped hread
    | false =>
      obtain ⟨behind, hafter, rfl⟩ := Option.map_eq_some_iff.mp hon
      obtain ⟨gap, hgap, hbehind⟩ := eq_blank_append_trimStart behind
      rw [after?_eq_some_iff] at hafter
      have halone := Declares.alone hgap hread
      rw [← hbehind] at halone
      rw [hafter]
      exact halone
  · intro h
    cases h with
    | grouped h => exact ⟨text, rfl, typeSpec?_eq_some_iff.mpr h⟩
    | @alone gap spec hgap h =>
      refine ⟨spec, ?_, typeSpec?_eq_some_iff.mpr h⟩
      have hafter : after? ['t', 'y', 'p', 'e', ' '] (typeKeyword ++ ' ' :: (gap ++ spec)) = some (gap ++ spec) :=
        after?_append ['t', 'y', 'p', 'e', ' '] (gap ++ spec)
      rw [specOn?, if_neg (by simp), hafter, Option.map_some, hgap.trimStart_append,
        trimStart_of_head h.solid_spec.head]

theorem opensTypes_of_declares {name type text : List Char} {inGroup : Bool}
    (hne : name ≠ typeKeyword ∨ type ≠ ['(']) (h : Declares name type inGroup text) : opensTypes text = false := by
  by_contra hopens
  rw [Bool.not_eq_false, opensTypes, Bool.or_eq_true, decide_eq_true_eq, decide_eq_true_eq] at hopens
  rw [← declaredAs?_eq_some_iff] at h
  -- with a blank the line is the specification of a type that goes by the keyword, without one it is none
  have hblank : typeSpec? ['t', 'y', 'p', 'e', ' ', '('] = some (typeKeyword, ['(']) := by decide
  have hnone : typeSpec? ['t', 'y', 'p', 'e', '('] = none := by decide
  rcases hopens with rfl | rfl
  · cases inGroup with
    | false => cases h
    | true =>
      rw [declaredAs?, specOn?, if_pos rfl, Option.bind_some, hblank] at h
      simp only [Option.ite_none_right_eq_some, Option.some.injEq] at h
      rcases hne with hname | htype
      · exact hname h.1.symm
      · exact htype h.2.symm
  · cases inGroup with
    | false => cases h
    | true =>
      rw [declaredAs?, specOn?, if_pos rfl, Option.bind_some, hnone] at h
      cases h

theorem SpecText.ident?_eq {name type spec : List Char} (h : SpecText name type spec) :
    ∃ rest, ident? spec = some (name, rest) := by
  have hread := typeSpec?_eq_some_iff.mpr h
  rw [typeSpec?_eq] at hread
  obtain ⟨⟨name', rest⟩, hident, hread⟩ := Option.bind_eq_some_iff.mp hread
  obtain ⟨text, -, hread⟩ := Option.bind_eq_some_iff.mp hread
  split at hread
  · cases hread
  · obtain ⟨rfl, -⟩ := Prod.mk.inj (Option.some.inj hread)
    exact ⟨rest, hident⟩

/-- A specification that starts with the keyword specifies a type of that name. -/
theorem SpecText.name_eq_typeKeyword {name type spec : List Char}
    (h : SpecText name type (typeKeyword ++ ' ' :: spec)) : name = typeKeyword := by
  obtain ⟨rest, hident⟩ := h.ident?_eq
  have hkeyword : ident? (typeKeyword ++ ' ' :: spec) = some (typeKeyword, ' ' :: spec) := by
    refine ident?_append (by decide) fun c hc => ?_
    obtain rfl : ' ' = c := by simpa using hc
    decide
  rw [hkeyword] at hident
  exact (Prod.mk.inj (Option.some.inj hident)).1.symm

theorem Declares.inGroup_unique {name type type' text : List Char} {inGroup inGroup' : Bool}
    (hname : name ≠ typeKeyword) (h : Declares name type inGroup text) (h' : Declares name type' inGroup' text) :
    inGroup = inGroup' := by
  have hclash : ∀ type type', Declares name type true text → ¬ Declares name type' false text := by
    intro type type' hgrouped halone
    cases hgrouped with
    | grouped h =>
      cases halone with
      | alone => exact hname h.name_eq_typeKeyword
  cases inGroup <;> cases inGroup'
  · rfl
  · exact absurd h (hclash type' type h')
  · exact absurd h' (hclash type type' h)
  · rfl

/-! ## The scan -/

/-- What the scan carries from line to line: how many braces are open, and whether a group of declarations is. -/
structure Scan where
  depth : Nat := 0
  inGroup : Bool := false
  deriving DecidableEq

namespace Scan

/-- The state behind a line that is not taken for the declaration. -/
def next (scan : Scan) (line : List Char) : Scan :=
  if scan.depth = 0 && opensTypes (trim line) then { scan with inGroup := true }
  else if scan.depth = 0 && scan.inGroup && trim line = [')'] then { scan with inGroup := false }
  else { scan with depth := (scan.depth + braceNesting line).toNat }

/-- The state behind lines of which none is taken for the declaration. -/
def behind (scan : Scan) (lines : List (List Char)) : Scan :=
  lines.foldl next scan

/-- The text of the type that the line is taken to declare the name as. -/
def declares? (scan : Scan) (name line : List Char) : Option (List Char) :=
  if scan.depth = 0 && !opensTypes (trim line) then declaredAs? name scan.inGroup (trim line) else none

/-- The declaration that the scan stops at: the text of its type, and the lines that follow it. -/
def declaration? (name : List Char) : Scan → List (List Char) → Option (List Char × List (List Char))
  | _, [] => none
  | scan, line :: lines =>
    match scan.declares? name line with
    | some type => some (type, lines)
    | none => (scan.next line).declaration? name lines

end Scan

theorem declaredAs?_closing (name : List Char) (inGroup : Bool) : declaredAs? name inGroup [')'] = none := by
  cases inGroup <;> rfl

/-- The lines of a group's ends declare nothing, and only change whether a group is open. -/
theorem definitionFrom_eq (name : List Char) (scan : Scan) (lines : List (List Char)) :
    definitionFrom name scan.depth scan.inGroup lines
      = (scan.declaration? name lines).map fun found => definitionOf found.1 found.2 := by
  induction lines generalizing scan with
  | nil => rfl
  | cons line lines ih =>
    rw [definitionFrom, Scan.declaration?, Scan.declares?]
    have hnext := ih (scan.next line)
    by_cases hopens : (scan.depth = 0 && opensTypes (trim line)) = true
    · rw [Scan.next, if_pos hopens] at hnext
      rw [if_pos hopens, if_neg (by simp_all), Scan.next, if_pos hopens]
      exact hnext
    · by_cases hcloses : (scan.depth = 0 && scan.inGroup && trim line = [')']) = true
      · rw [Scan.next, if_neg hopens, if_pos hcloses] at hnext
        have hnone : declaredAs? name scan.inGroup (trim line) = none := by
          simp only [Bool.and_eq_true, decide_eq_true_eq] at hcloses
          rw [hcloses.2, declaredAs?_closing]
        rw [if_neg hopens, if_pos hcloses, hnone, ite_self, Scan.next, if_neg hopens, if_pos hcloses]
        exact hnext
      · rw [Scan.next, if_neg hopens, if_neg hcloses] at hnext
        have hsame : (if (scan.depth = 0 && !opensTypes (trim line)) = true
            then declaredAs? name scan.inGroup (trim line) else none)
              = if scan.depth = 0 then declaredAs? name scan.inGroup (trim line) else none := by
          by_cases hdepth : scan.depth = 0 <;> simp_all
        rw [if_neg hopens, if_neg hcloses, hsame]
        cases (if scan.depth = 0 then declaredAs? name scan.inGroup (trim line) else none) with
        | some type => rfl
        | none =>
          rw [Scan.next, if_neg hopens, if_neg hcloses]
          exact hnext

theorem definition?_eq (name : List Char) (lines : List (List Char)) :
    definition? lines name
      = (Scan.declaration? name {} lines).map fun found => definitionOf found.1 found.2 :=
  definitionFrom_eq name {} lines

namespace Scan

theorem declaration?_append (name : List Char) (scan : Scan) (front back : List (List Char)) :
    scan.declaration? name (front ++ back)
      = ((scan.declaration? name front).map fun found => (found.1, found.2 ++ back)).or
          ((scan.behind front).declaration? name back) := by
  induction front generalizing scan with
  | nil => rfl
  | cons line front ih =>
    rw [List.cons_append, declaration?, declaration?, behind, List.foldl_cons]
    cases scan.declares? name line with
    | some type => rfl
    | none => exact ih (scan.next line)

/-- Some line, reached outside of all braces, declares the name as the state in front of it asks. -/
def Declared (scan : Scan) (name : List Char) (lines : List (List Char)) : Prop :=
  ∃ front line rest type, lines = front ++ line :: rest ∧ (scan.behind front).depth = 0 ∧
    Declares name type (scan.behind front).inGroup (trim line)

theorem declares?_eq_none_of_not {scan : Scan} {name line : List Char}
    (h : ∀ type, scan.depth = 0 → ¬ Declares name type scan.inGroup (trim line)) : scan.declares? name line = none := by
  rw [declares?]
  split
  · rename_i hdepth
    simp only [Bool.and_eq_true, decide_eq_true_eq] at hdepth
    rw [Option.eq_none_iff_forall_ne_some]
    intro type htype
    exact h type hdepth.1 (declaredAs?_eq_some_iff.mp htype)
  · rfl

theorem declaration?_eq_none_of_not {scan : Scan} {name : List Char} {lines : List (List Char)}
    (h : ¬ scan.Declared name lines) : scan.declaration? name lines = none := by
  induction lines generalizing scan with
  | nil => rfl
  | cons line lines ih =>
    have hline : scan.declares? name line = none :=
      declares?_eq_none_of_not fun type hdepth htype => h ⟨[], line, lines, type, rfl, hdepth, htype⟩
    rw [declaration?, hline]
    refine ih ?_
    rintro ⟨front, line', rest, type, rfl, hdepth, htype⟩
    exact h ⟨line :: front, line', rest, type, rfl, hdepth, htype⟩

theorem declares?_of_declares {name type line : List Char} {inGroup : Bool}
    (hne : name ≠ typeKeyword ∨ type ≠ ['(']) (h : Declares name type inGroup (trim line)) :
    (Scan.mk 0 inGroup).declares? name line = some type := by
  rw [declares?, if_pos (by simp [opensTypes_of_declares hne h])]
  exact declaredAs?_eq_some_iff.mpr h

/-- A line that declares the name is taken for its declaration outside of all braces, and in a group exactly if it
is written for one. -/
theorem declares?_eq_some_iff {name type line : List Char} {inGroup : Bool} (hname : name ≠ typeKeyword)
    (h : Declares name type inGroup (trim line)) (scan : Scan) :
    scan.declares? name line = some type ↔ scan = ⟨0, inGroup⟩ := by
  constructor
  · intro hdeclares
    rw [declares?] at hdeclares
    split at hdeclares
    · rename_i hdepth
      simp only [Bool.and_eq_true, decide_eq_true_eq] at hdepth
      have hgroup := (declaredAs?_eq_some_iff.mp hdeclares).inGroup_unique hname h
      cases scan
      simp_all
    · cases hdeclares
  · rintro rfl
    exact declares?_of_declares (.inl hname) h

theorem declaration?_eq_none_iff {scan : Scan} {name : List Char} (hname : name ≠ typeKeyword)
    {lines : List (List Char)} : scan.declaration? name lines = none ↔ ¬ scan.Declared name lines := by
  refine ⟨?_, declaration?_eq_none_of_not⟩
  rintro hnone ⟨front, line, rest, type, rfl, hdepth, htype⟩
  rw [declaration?_append, Option.or_eq_none_iff, declaration?] at hnone
  have hline : (scan.behind front).declares? name line = some type :=
    (declares?_eq_some_iff hname htype _).mpr (by rw [← hdepth])
  rw [hline] at hnone
  cases hnone.2

end Scan

end RouteDoc.Go
