import Mathlib.Data.List.DropRight
import RouteDoc.Handler.Locate

/-!
Symbols and their parts. A symbol joins an import path and a name with a dot, and import paths have dots
of their own. Taking a symbol apart ends the path at the first dot behind its last slash. So the parts
are those that the symbol was made of exactly if the last segment of the path has no dot
(`parts_iff`); a package such as `gopkg.in/yaml.v2` is cut in the middle.

What is cut off in front decides it (`cutPackage?_spec`): the name and the receiver have no slash, so the
last slash of the symbol is that of the path.
-/

namespace RouteDoc

namespace Text

variable {sep : Char}

theorem cut?_of_not_mem {s : List Char} (h : sep ∉ s) : cut? sep s = none := by
  induction s with
  | nil => rfl
  | cons c s ih =>
    have hne : c ≠ sep := fun heq => h (by simp [heq])
    have hrest : sep ∉ s := fun hmem => h (List.mem_cons_of_mem c hmem)
    simp [cut?, hne, ih hrest]

theorem cut?_append {a : List Char} (h : sep ∉ a) (b : List Char) :
    cut? sep (a ++ sep :: b) = some (a, b) := by
  induction a with
  | nil => simp [cut?]
  | cons c a ih =>
    have hne : c ≠ sep := fun heq => h (by simp [heq])
    have hrest : sep ∉ a := fun hmem => h (List.mem_cons_of_mem c hmem)
    simp [cut?, hne, ih hrest]

theorem cut?_append_of_mem {a : List Char} (h : sep ∈ a) (b : List Char) :
    ∃ stem rest, cut? sep (a ++ b) = some (stem, rest) ∧ stem.length < a.length := by
  induction a with
  | nil => cases h
  | cons c a ih =>
    by_cases hc : c = sep
    · exact ⟨[], a ++ b, by simp [cut?, hc], by simp⟩
    · have hrest : sep ∈ a := by
        rcases List.mem_cons.mp h with heq | hmem
        · exact absurd heq.symm hc
        · exact hmem
      obtain ⟨stem, rest, hcut, hlength⟩ := ih hrest
      refine ⟨c :: stem, rest, by simp [cut?, hc, hcut], ?_⟩
      rw [List.length_cons, List.length_cons]
      omega

theorem cutLast?_of_not_mem {s : List Char} (h : sep ∉ s) : cutLast? sep s = none := by
  rw [cutLast?, cut?_of_not_mem (by simpa using h)]
  rfl

theorem cutLast?_append (a : List Char) {b : List Char} (h : sep ∉ b) :
    cutLast? sep (a ++ sep :: b) = some (a, b) := by
  have hreverse : (a ++ sep :: b).reverse = b.reverse ++ sep :: a.reverse := by simp
  rw [cutLast?, hreverse, cut?_append (by simpa using h)]
  simp

end Text

namespace Symbol

open RouteDoc.Text

/-- The part of an import path behind its last slash. -/
def lastSegment (path : List Char) : List Char :=
  path.rtakeWhile (· ≠ '/')

theorem slash_not_mem_lastSegment (path : List Char) : '/' ∉ lastSegment path := by
  intro hmem
  have hne := List.mem_rtakeWhile_imp hmem
  simp at hne

theorem eq_lastSegment_or (path : List Char) :
    path = lastSegment path ∨ ∃ outer, path = outer ++ '/' :: lastSegment path := by
  have hsplit : path.rdropWhile (· ≠ '/') ++ lastSegment path = path :=
    List.rdropWhile_append_rtakeWhile
  rcases List.eq_nil_or_concat' (path.rdropWhile (· ≠ '/')) with hnil | ⟨outer, c, hconcat⟩
  · rw [hnil, List.nil_append] at hsplit
    exact .inl hsplit.symm
  · have hne : path.rdropWhile (· ≠ '/') ≠ [] := by
      rw [hconcat]
      exact List.concat_ne_nil c outer
    have hlast : (path.rdropWhile (· ≠ '/')).getLast hne = c := by
      rw [List.getLast_congr hne (List.concat_ne_nil c outer) hconcat]
      exact List.getLast_concat
    have hslash : c = '/' := by
      have hstop := List.rdropWhile_last_not _ path hne
      rw [hlast] at hstop
      simpa using hstop
    rw [hconcat, hslash, List.append_assoc] at hsplit
    exact .inr ⟨outer, hsplit.symm⟩

/-- What is cut off in front of a dot that no slash follows: the path, if its last segment has no dot of
its own, and else less than the path. -/
theorem cutPackage?_spec (path : List Char) {rest : List Char} (h : '/' ∉ rest) :
    ∃ package behind, cutPackage? (path ++ '.' :: rest) = some (package, behind) ∧
      (package = path ↔ '.' ∉ lastSegment path) ∧ ('.' ∉ lastSegment path → behind = rest) := by
  have hslash := slash_not_mem_lastSegment path
  have htail : '/' ∉ lastSegment path ++ '.' :: rest := by
    intro hmem
    rcases List.mem_append.mp hmem with hmem | hmem
    · exact hslash hmem
    · rcases List.mem_cons.mp hmem with heq | hmem
      · exact absurd heq (by decide)
      · exact h hmem
  -- the cut is made in the last segment and what follows it
  obtain ⟨outer, hpath, hcut⟩ : ∃ outer, path = outer ++ lastSegment path ∧
      cutPackage? (path ++ '.' :: rest) = (cut? '.' (lastSegment path ++ '.' :: rest)).map
        fun cut => (outer ++ cut.1, cut.2) := by
    rcases eq_lastSegment_or path with hpath | ⟨outer, hpath⟩
    · refine ⟨[], hpath, ?_⟩
      rw [← hpath] at htail ⊢
      rw [cutPackage?, cutLast?_of_not_mem htail]
      cases cut? '.' (path ++ '.' :: rest) <;> rfl
    · refine ⟨outer ++ ['/'], by simpa using hpath, ?_⟩
      have hwhole : path ++ '.' :: rest
          = outer ++ '/' :: (lastSegment path ++ '.' :: rest) := by
        calc path ++ '.' :: rest
            = (outer ++ '/' :: lastSegment path) ++ '.' :: rest := by rw [← hpath]
          _ = outer ++ '/' :: (lastSegment path ++ '.' :: rest) := by simp
      rw [hwhole, cutPackage?, cutLast?_append outer htail]
      simp
  by_cases hdot : '.' ∈ lastSegment path
  · obtain ⟨stem, behind, hstem, hlength⟩ := cut?_append_of_mem hdot ('.' :: rest)
    refine ⟨outer ++ stem, behind, by rw [hcut, hstem]; rfl, ?_, fun hno => absurd hdot hno⟩
    refine ⟨fun heq => ?_, fun hno => absurd hdot hno⟩
    have hsame := congrArg List.length (heq.trans hpath)
    simp only [List.length_append] at hsame
    omega
  · refine ⟨outer ++ lastSegment path, rest, ?_, ⟨fun _ => hdot, fun _ => hpath.symm⟩,
      fun _ => rfl⟩
    rw [hcut, cut?_append hdot]
    rfl

/-- A word that can stand in a symbol. Every identifier of the language is one. -/
structure IsIdentifier (s : List Char) : Prop where
  nonempty : s ≠ []
  word : ∀ c ∈ s, isWord c = true

theorem IsIdentifier.not_mem {s : List Char} (h : IsIdentifier s) {c : Char}
    (hc : isWord c = false) : c ∉ s := by
  intro hmem
  rw [h.word c hmem] at hc
  cases hc

/-- None of the characters that symbols are taken apart by is part of a word. -/
theorem isWord_mark : ∀ c ∈ ['/', '.', '(', ')', '*', '-'], isWord c = false := by
  have hall : ['/', '.', '(', ')', '*', '-'].all (fun c => !isWord c) = true := by decide +kernel
  intro c hc
  simpa using List.all_eq_true.mp hall c hc

theorem dropWhile_of_not_mem {c : Char} {s : List Char} (h : c ∉ s) : s.dropWhile (· == c) = s := by
  cases s with
  | nil => rfl
  | cons first rest =>
    have hne : first ≠ c := fun heq => h (by simp [heq])
    simp [hne]

theorem bareReceiver_mark {receiver : List Char} (h : IsIdentifier receiver) :
    bareReceiver ('(' :: '*' :: (receiver ++ [')'])) = receiver := by
  have hopen : ('(' :: '*' :: (receiver ++ [')'])).dropWhile (· == '(')
      = '*' :: (receiver ++ [')']) := by
    simp
  have hclose : (('*' :: (receiver ++ [')'])).reverse.dropWhile (· == ')')).reverse
      = '*' :: receiver := by
    have hrest : ')' ∉ ('*' :: receiver).reverse := by
      have hmark : ')' ∉ receiver := h.not_mem (isWord_mark _ (by simp))
      simpa using hmark
    have hreverse : ('*' :: (receiver ++ [')'])).reverse = ')' :: ('*' :: receiver).reverse := by
      simp
    rw [hreverse, List.dropWhile_cons_of_pos (by simp), dropWhile_of_not_mem hrest,
      List.reverse_reverse]
  have hstar : ('*' :: receiver).dropWhile (· == '*') = receiver := by
    rw [List.dropWhile_cons_of_pos (by simp)]
    exact dropWhile_of_not_mem (h.not_mem (isWord_mark _ (by simp)))
  simp only [bareReceiver]
  rw [hopen, hclose, hstar]

theorem bareName_of_not_mem {name : List Char} (h : '-' ∉ name) : bareName name = name := by
  have hmarks : dropValueMarks name.reverse = name.reverse := by
    unfold dropValueMarks
    split
    · rename_i rest hrest
      have hmem : '-' ∈ name.reverse := by simp [hrest]
      exact absurd (List.mem_reverse.mp hmem) h
    · rfl
  rw [bareName, hmarks, List.reverse_reverse]

/-- What is behind the dot of a method's symbol. -/
def methodTail (receiver name : List Char) : List Char :=
  '(' :: '*' :: (receiver ++ [')']) ++ '.' :: name

theorem toList_method (package receiver name : String) :
    (method package receiver name).text.toList
      = package.toList ++ '.' :: methodTail receiver.toList name.toList := by
  simp [method, methodTail]

theorem toList_function (package name : String) :
    (function package name).text.toList = package.toList ++ '.' :: name.toList := by
  simp [function]

theorem slash_not_mem_methodTail {receiver name : List Char} (hreceiver : IsIdentifier receiver)
    (hname : IsIdentifier name) : '/' ∉ methodTail receiver name := by
  have h := hreceiver.not_mem (isWord_mark '/' (by simp))
  have h' := hname.not_mem (isWord_mark '/' (by simp))
  simp [methodTail, h, h']

theorem package_splitChars {s package behind : List Char}
    (h : cutPackage? s = some (package, behind)) : (splitChars s).package = package := by
  simp only [splitChars, h, Option.getD_some]
  cases cutLast? '.' behind <;> rfl

theorem splitChars_of_method {s package receiver name : List Char}
    (h : cutPackage? s = some (package, methodTail receiver name))
    (hreceiver : IsIdentifier receiver) (hname : IsIdentifier name) :
    splitChars s = ⟨package, some receiver, name⟩ := by
  have hdot : '.' ∉ name := hname.not_mem (isWord_mark _ (by simp))
  have hmark : '-' ∉ name := hname.not_mem (isWord_mark _ (by simp))
  have hempty : receiver.isEmpty = false := List.isEmpty_eq_false_iff.mpr hreceiver.nonempty
  simp only [splitChars, h, Option.getD_some]
  rw [methodTail, cutLast?_append _ hdot]
  simp only [bareReceiver_mark hreceiver, hempty, bareName_of_not_mem hmark, Bool.false_eq_true,
    if_false]

theorem splitChars_of_function {s package name : List Char}
    (h : cutPackage? s = some (package, name)) (hname : IsIdentifier name) :
    splitChars s = ⟨package, none, name⟩ := by
  have hdot : '.' ∉ name := hname.not_mem (isWord_mark _ (by simp))
  have hmark : '-' ∉ name := hname.not_mem (isWord_mark _ (by simp))
  simp only [splitChars, h, Option.getD_some]
  rw [cutLast?_of_not_mem hdot]
  simp only [bareName_of_not_mem hmark]

/-- A text is taken apart into parts with its path exactly if the last segment of the path has no dot,
provided that it is taken apart into them wherever the cut is made behind the path. -/
theorem splitChars_iff {path rest : List Char} {parts : SymbolParts} (hrest : '/' ∉ rest)
    (hpath : parts.package = path)
    (h : cutPackage? (path ++ '.' :: rest) = some (path, rest) →
      splitChars (path ++ '.' :: rest) = parts) :
    splitChars (path ++ '.' :: rest) = parts ↔ '.' ∉ lastSegment path := by
  obtain ⟨package, behind, hcut, hpackage, hbehind⟩ := cutPackage?_spec path hrest
  constructor
  · intro hparts
    have hfront := package_splitChars hcut
    rw [hparts, hpath] at hfront
    exact hpackage.mp hfront.symm
  · intro hdot
    rw [hbehind hdot, hpackage.mpr hdot] at hcut
    exact h hcut

/-- The import path of a symbol's location is what is cut off in front. -/
theorem package_iff {symbol path : String} {rest : List Char} (file : Path) (line : Nat)
    (hrest : '/' ∉ rest) (htext : symbol.toList = path.toList ++ '.' :: rest) :
    (Location.mk symbol file line).package = path ↔ '.' ∉ lastSegment path.toList := by
  obtain ⟨package, behind, hcut, hpackage, -⟩ := cutPackage?_spec path.toList hrest
  have hvalue : (Location.mk symbol file line).package = String.ofList package := by
    simp [Location.package, packagePath, htext, hcut]
  rw [hvalue, ← hpackage]
  constructor
  · intro heq
    rw [← heq, String.toList_ofList]
  · intro heq
    rw [heq, String.ofList_toList]

/-- The symbol of a method or a function has the parts that it was made of, and its location the import
path that it was made of, exactly if the last segment of the path has no dot. -/
theorem parts_iff (path receiver name : String) (file : Path) (line : Nat)
    (hreceiver : IsIdentifier receiver.toList) (hname : IsIdentifier name.toList) :
    ((method path receiver name).parts = ⟨path.toList, some receiver.toList, name.toList⟩ ↔
        '.' ∉ lastSegment path.toList) ∧
      ((Location.mk (method path receiver name).text file line).package = path ↔
        '.' ∉ lastSegment path.toList) ∧
      ((function path name).parts = ⟨path.toList, none, name.toList⟩ ↔
        '.' ∉ lastSegment path.toList) ∧
      ((Location.mk (function path name).text file line).package = path ↔
        '.' ∉ lastSegment path.toList) := by
  have hslash : '/' ∉ name.toList := hname.not_mem (isWord_mark _ (by simp))
  have htail := slash_not_mem_methodTail hreceiver hname
  refine ⟨?_, package_iff file line htail (toList_method path receiver name), ?_,
    package_iff file line hslash (toList_function path name)⟩
  · rw [parts, toList_method]
    exact splitChars_iff htail rfl fun hcut => splitChars_of_method hcut hreceiver hname
  · rw [parts, toList_function]
    exact splitChars_iff hslash rfl fun hcut => splitChars_of_function hcut hname

theorem parts_iff_dotted :
    (IsIdentifier "T".toList ∧ IsIdentifier "F".toList) ∧
      (method "gopkg.in/acme.v2/api" "T" "F").parts
        = ⟨"gopkg.in/acme.v2/api".toList, some "T".toList, "F".toList⟩ ∧
      (method "gopkg.in/yaml.v2" "T" "F").parts
        ≠ ⟨"gopkg.in/yaml.v2".toList, some "T".toList, "F".toList⟩ := by
  have hreceiver : IsIdentifier "T".toList := ⟨by decide, List.all_eq_true.mp (by decide +kernel)⟩
  have hname : IsIdentifier "F".toList := ⟨by decide, List.all_eq_true.mp (by decide +kernel)⟩
  have hplain : '.' ∉ lastSegment "gopkg.in/acme.v2/api".toList := by decide +kernel
  have hdotted : ¬ '.' ∉ lastSegment "gopkg.in/yaml.v2".toList := by decide +kernel
  refine ⟨⟨hreceiver, hname⟩, ?_, ?_⟩
  · exact (parts_iff _ "T" "F" ⟨[]⟩ 1 hreceiver hname).1.mpr hplain
  · intro hparts
    exact hdotted ((parts_iff _ "T" "F" ⟨[]⟩ 1 hreceiver hname).1.mp hparts)

end Symbol

end RouteDoc
