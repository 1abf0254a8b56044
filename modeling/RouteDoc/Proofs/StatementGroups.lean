import RouteDoc.Proofs.StatementJoining

/-!
Statements are groups of lines. The lines that are not blank are cut into consecutive groups, and each group gives one
statement. A group ends with the first line behind which it is complete: its parentheses are closed and its last line
does not end in a dot. Only the last group may be left incomplete. These rules leave no choice (`Grouping.unique`), and
the statements are what they say (`statements_eq_groups`).
-/

namespace RouteDoc.Go

open RouteDoc.Text

/-- The lines that are not blank, without the blanks at their ends. -/
def codeLines (lines : List (List Char)) : List (List Char) :=
  (lines.map trim).filter fun line => !line.isEmpty

/-- The text with one line more: at once behind a dot or an opening parenthesis, otherwise behind a blank. -/
def appendLine (text line : List Char) : List Char :=
  if text.getLast? = some '.' ∨ text.getLast? = some '(' then text ++ line else text ++ ' ' :: line

/-- The statement that the lines of a group make. -/
def joinLines : List (List Char) → List Char
  | [] => []
  | first :: rest => rest.foldl appendLine first

/-- How many more parentheses the lines open than they close, counted line by line. -/
def opened : List (List Char) → Int
  | [] => 0
  | line :: group => parenNesting line + opened group

/-- The last of the lines ends in a dot. -/
def EndsInDot (group : List (List Char)) : Prop :=
  group.getLast?.bind List.getLast? = some '.'

/-- The groups of lines that statements are made of. -/
structure Grouping (lines : List (List Char)) (groups : List (List (List Char))) : Prop where
  flatten : groups.flatten = lines
  nonempty : [] ∉ groups
  complete : ∀ group ∈ groups.dropLast, opened group ≤ 0 ∧ ¬ EndsInDot group
  /-- No group goes on behind a complete one. -/
  unfinished : ∀ group ∈ groups, ∀ front, front ≠ [] → front <+: group → front ≠ group →
    0 < opened front ∨ EndsInDot front

namespace Grouping

variable {lines group : List (List Char)} {groups : List (List (List Char))}

theorem nil : Grouping [] [] :=
  ⟨rfl, by simp, by simp, by simp⟩

theorem cons (h : Grouping lines groups) (hne : group ≠ []) (hcomplete : opened group ≤ 0 ∧ ¬ EndsInDot group)
    (hunfinished : ∀ front, front ≠ [] → front <+: group → front ≠ group → 0 < opened front ∨ EndsInDot front) :
    Grouping (group ++ lines) (group :: groups) := by
  constructor
  · rw [List.flatten_cons, h.flatten]
  · rw [List.mem_cons, not_or]
    exact ⟨hne.symm, h.nonempty⟩
  · intro other hother
    cases groups with
    | nil => cases hother
    | cons next groups =>
      rcases List.mem_cons.mp hother with rfl | hother
      · exact hcomplete
      · exact h.complete other hother
  · intro other hother
    rcases List.mem_cons.mp hother with rfl | hother
    · exact hunfinished
    · exact h.unfinished other hother

theorem tail (h : Grouping (group ++ lines) (group :: groups)) : Grouping lines groups := by
  constructor
  · exact List.append_cancel_left h.flatten
  · exact fun hmem => h.nonempty (List.mem_cons_of_mem group hmem)
  · intro other hother
    cases groups with
    | nil => cases hother
    | cons next groups => exact h.complete other (List.mem_cons_of_mem group hother)
  · exact fun other hother => h.unfinished other (List.mem_cons_of_mem group hother)

/-- The first group of a grouping does not go on behind the first group of another one. -/
theorem not_longer {more : List (List Char)} {others : List (List (List Char))} (h : Grouping lines (group :: groups))
    (h' : Grouping lines ((group ++ more) :: others)) : more = [] := by
  by_contra hmore
  have hne : group ≠ [] := fun heq => h.nonempty (heq ▸ List.mem_cons_self)
  have hopen : 0 < opened group ∨ EndsInDot group :=
    h'.unfinished _ List.mem_cons_self group hne (List.prefix_append _ _) (by simpa using hmore)
  -- more lines follow, so the shorter group is not the last one
  have hmem : group ∈ (group :: groups).dropLast := by
    cases groups with
    | nil =>
      have hflatten := h.flatten.trans h'.flatten.symm
      simp [hmore] at hflatten
    | cons next groups => exact List.mem_cons_self
  obtain ⟨hdepth, hdot⟩ := h.complete group hmem
  rcases hopen with hopen | hopen
  · omega
  · exact hdot hopen

theorem eq_nil (h : Grouping [] groups) : groups = [] := by
  cases groups with
  | nil => rfl
  | cons group groups =>
    obtain ⟨hgroup, -⟩ := List.append_eq_nil_iff.mp h.flatten
    exact absurd (hgroup ▸ List.mem_cons_self) h.nonempty

theorem unique {others : List (List (List Char))} (h : Grouping lines groups) (h' : Grouping lines others) :
    groups = others := by
  induction groups generalizing lines others with
  | nil =>
    obtain rfl : [] = lines := h.flatten
    exact h'.eq_nil.symm
  | cons group groups ih =>
    cases others with
    | nil =>
      obtain rfl : [] = lines := h'.flatten
      exact h.eq_nil
    | cons other others =>
      have hfirst : group = other := by
        rcases List.append_eq_append_iff.mp (h.flatten.trans h'.flatten.symm) with ⟨more, rfl, -⟩ | ⟨more, rfl, -⟩
        · rw [h.not_longer h', List.append_nil]
        · rw [h'.not_longer h, List.append_nil]
      subst hfirst
      obtain rfl : group ++ groups.flatten = lines := h.flatten
      rw [ih h.tail h'.tail]

end Grouping

/-! ## Reading the groups -/

/-- The groups of the lines, where `begun` has been read of the first one. -/
def groupsFrom (begun : List (List Char)) : List (List Char) → List (List (List Char))
  | [] => if begun.isEmpty then [] else [begun]
  | line :: lines =>
    if endsStatement (opened (begun ++ [line])) line then (begun ++ [line]) :: groupsFrom [] lines
    else groupsFrom (begun ++ [line]) lines

theorem opened_concat (begun : List (List Char)) (line : List Char) :
    opened (begun ++ [line]) = opened begun + parenNesting line := by
  induction begun with
  | nil => simp [opened]
  | cons first begun ih => rw [List.cons_append, opened, opened, ih, Int.add_assoc]

theorem endsStatement_concat (begun : List (List Char)) (line : List Char) :
    endsStatement (opened (begun ++ [line])) line = true ↔
      opened (begun ++ [line]) ≤ 0 ∧ ¬ EndsInDot (begun ++ [line]) := by
  have hdot : EndsInDot (begun ++ [line]) ↔ line.getLast? = some '.' := by simp [EndsInDot]
  rw [endsStatement_iff, hdot]

/-- What has been read of a group is unfinished, and so is every front of it. One more line completes the group or
leaves it so. -/
theorem grouping_groupsFrom (begun lines : List (List Char))
    (h : ∀ front, front ≠ [] → front <+: begun → 0 < opened front ∨ EndsInDot front) :
    Grouping (begun ++ lines) (groupsFrom begun lines) := by
  induction lines generalizing begun with
  | nil =>
    rw [groupsFrom, List.append_nil]
    split
    · rename_i hempty
      rw [List.isEmpty_iff.mp hempty]
      exact .nil
    · rename_i hbegun
      rw [List.isEmpty_iff] at hbegun
      refine ⟨List.flatten_singleton, fun hmem => hbegun (List.mem_singleton.mp hmem).symm, by simp, ?_⟩
      intro group hgroup front hne hfront _
      exact h front hne (List.mem_singleton.mp hgroup ▸ hfront)
  | cons line lines ih =>
    have hfront : ∀ front, front ≠ [] → front <+: begun ++ [line] → front ≠ begun ++ [line] →
        0 < opened front ∨ EndsInDot front := by
      intro front hne hfront hproper
      rcases List.prefix_concat_iff.mp hfront with heq | hfront
      · exact absurd heq hproper
      · exact h front hne hfront
    rw [groupsFrom, List.append_cons]
    split
    · rename_i hends
      have hrest : Grouping lines (groupsFrom [] lines) :=
        ih [] fun front hne hnil => absurd (List.prefix_nil.mp hnil) hne
      exact hrest.cons (by simp) ((endsStatement_concat begun line).mp hends) hfront
    · rename_i hends
      rw [endsStatement_concat, not_and_or, not_not, Int.not_le] at hends
      refine ih (begun ++ [line]) fun front hne hprefix => ?_
      by_cases heq : front = begun ++ [line]
      · exact heq ▸ hends
      · exact hfront front hne hprefix heq

/-! ## Joining the groups -/

theorem appendLine_eq {text : List Char} (h : text ≠ []) (line : List Char) :
    appendLine text line = text ++ glue text ++ line := by
  rw [appendLine, glue, List.getLast?_eq_some_getLast h]
  by_cases hdot : text.getLast h = '.'
  · simp [hdot]
  · by_cases hopen : text.getLast h = '('
    · simp [hopen]
    · simp [hdot, hopen]

theorem joinLines_ne_nil {group : List (List Char)} (hne : group ≠ []) (h : [] ∉ group) : joinLines group ≠ [] := by
  obtain ⟨first, rest, rfl⟩ := List.exists_cons_of_ne_nil hne
  have hfirst : first ≠ [] := fun heq => h (by simp [heq])
  rw [joinLines]
  clear hne h
  induction rest generalizing first with
  | nil => exact hfirst
  | cons line rest ih =>
    apply ih
    rw [appendLine_eq hfirst]
    simp [hfirst]

theorem joinLines_concat {begun : List (List Char)} (h : [] ∉ begun) (line : List Char) :
    joinLines (begun ++ [line]) = joinLines begun ++ glue (joinLines begun) ++ line := by
  cases begun with
  | nil => rfl
  | cons first rest =>
    rw [← appendLine_eq (joinLines_ne_nil (List.cons_ne_nil _ _) h)]
    simp [joinLines]

theorem statementsFrom_eq_groups {begun : List (List Char)} (h : [] ∉ begun) (lines : List (List Char)) :
    statementsFrom (joinLines begun) (opened begun) lines = (groupsFrom begun (codeLines lines)).map joinLines := by
  induction lines generalizing begun with
  | nil =>
    cases begun with
    | nil => rfl
    | cons first rest =>
      have hne := joinLines_ne_nil (List.cons_ne_nil first rest) h
      simp [statementsFrom, codeLines, groupsFrom, hne]
  | cons line lines ih =>
    by_cases hblank : trim line = []
    · have hskip : codeLines (line :: lines) = codeLines lines := by simp [codeLines, hblank]
      rw [hskip, ← ih h]
      simp [statementsFrom, hblank]
    · have hcode : codeLines (line :: lines) = trim line :: codeLines lines := by simp [codeLines, hblank]
      have hbegun : [] ∉ begun ++ [trim line] := by simpa [h] using Ne.symm hblank
      rw [hcode, statementsFrom, groupsFrom]
      simp only [List.isEmpty_iff, hblank, if_false, ← opened_concat, ← joinLines_concat h]
      split
      · rw [List.map_cons]
        exact congrArg (joinLines (begun ++ [trim line]) :: ·) (ih List.not_mem_nil)
      · exact ih hbegun

/-- **Statements are the groups of the lines.** The lines that are not blank fall into consecutive groups, in the one
way in which every group but the last is complete and nothing before the end of a group is. Each group gives a
statement, and these are all. -/
theorem statements_eq_groups (lines : List (List Char)) :
    ∃ groups, Grouping (codeLines lines) groups ∧ statements lines = groups.map joinLines ∧
      ∀ others, Grouping (codeLines lines) others → others = groups := by
  have hgrouping : Grouping (codeLines lines) (groupsFrom [] (codeLines lines)) :=
    grouping_groupsFrom [] _ fun front hne hnil => absurd (List.prefix_nil.mp hnil) hne
  refine ⟨_, hgrouping, ?_, fun others hothers => hothers.unique hgrouping⟩
  exact statementsFrom_eq_groups List.not_mem_nil lines

-- a call over three lines, a chain, and a line behind which the file ends too early
example : statements ["r.Handle(".toList, "\ta,".toList, "b)".toList, [], "r.Get(a).".toList, "Name(b)".toList,
      "x.".toList]
    = ["r.Handle(a, b)".toList, "r.Get(a).Name(b)".toList, "x.".toList] := by
  decide +kernel

end RouteDoc.Go
