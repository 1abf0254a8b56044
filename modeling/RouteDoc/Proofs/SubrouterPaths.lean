import Mathlib.Data.List.Chain
import Mathlib.Data.List.DropRight
import RouteDoc.Proofs.RegistrationReading
import RouteDoc.Proofs.StatementJoining

/-!
The paths of nested subrouters. The prefixes of one chain are combined with one slash at each junction
(`folded`), but the prefixes of a subrouter are put behind those of its parent as they are. So the path of a
route is that of all its prefixes combined exactly if no chain whose prefixes end with a slash is followed by
another prefix (`combinePaths_groups_iff`); else it has two slashes in a row.

The slashes at the end decide it. Without them (`stem`), what is combined of clean prefixes is the
concatenation of their stems, and that has no two slashes in a row. What a chain leaves behind its stems is at
most one slash (`folded_eq`), and it is in the way of the next prefix.

The second half reads the prefixes off the statements of a file: every subrouter is a `Mount`, and what is known
of its variable is what the mounts up to it say (`known_behind`).
-/

namespace RouteDoc

namespace Routes

open RouteDoc.Go RouteDoc.Text

/-! ## Clean paths -/

def doubleSlash : List Char :=
  ['/', '/']

/-- A path that starts with a slash and has no two slashes in a row. -/
structure CleanPath (path : List Char) : Prop where
  head : path.head? = some '/'
  single : ¬ doubleSlash <:+: path

/-- The path without the slashes at its end. -/
def stem (path : List Char) : List Char :=
  path.rdropWhile (· == '/')

def folded (paths : List (List Char)) : List Char :=
  paths.foldl combinePaths []

def stems (paths : List (List Char)) : List Char :=
  paths.flatMap stem

/-- No two slashes in a row, said of neighbours. -/
theorem not_doubleSlash_iff (s : List Char) :
    ¬ doubleSlash <:+: s ↔ s.IsChain fun a b => ¬ (a = '/' ∧ b = '/') := by
  rw [List.isChain_iff_forall_rel_of_append_cons_cons]
  constructor
  · rintro hno a b front back rfl ⟨rfl, rfl⟩
    exact hno ⟨front, back, by simp [doubleSlash]⟩
  · rintro hall ⟨front, back, rfl⟩
    exact hall (by simp [doubleSlash]; rfl) ⟨rfl, rfl⟩

theorem stem_eq_nil_iff {s : List Char} : stem s = [] ↔ ∀ c ∈ s, c = '/' := by
  simp [stem, List.rdropWhile_eq_nil_iff]

theorem stem_append (a b : List Char) : stem (a ++ b) = if stem b = [] then stem a else a ++ stem b := by
  have hreverse : stem (a ++ b) = ((b.reverse ++ a.reverse).dropWhile (· == '/')).reverse := by
    rw [← List.reverse_append]
    rfl
  rw [hreverse, List.dropWhile_append]
  by_cases hb : stem b = []
  · have hdrop : b.reverse.dropWhile (· == '/') = [] := List.reverse_eq_nil_iff.mp hb
    rw [if_pos hb, hdrop]
    rfl
  · have hdrop : (b.reverse.dropWhile (· == '/')).isEmpty = false := by
      rw [List.isEmpty_eq_false_iff]
      exact fun hnil => hb (List.reverse_eq_nil_iff.mpr hnil)
    rw [if_neg hb, if_neg (by simp [hdrop]), List.reverse_append, List.reverse_reverse]
    rfl

theorem getLast?_stem (s : List Char) : (stem s).getLast? ≠ some '/' := by
  intro hlast
  obtain ⟨hne, heq⟩ : ∃ hne, (stem s).getLast hne = '/' := by
    have hne : stem s ≠ [] := by
      rintro hnil
      simp [hnil] at hlast
    exact ⟨hne, by rw [List.getLast?_eq_some_getLast hne] at hlast; exact Option.some.inj hlast⟩
  exact List.rdropWhile_last_not _ s hne (beq_iff_eq.mpr heq)

namespace CleanPath

variable {path : List Char}

theorem eq_cons (h : CleanPath path) : ∃ tail, path = '/' :: tail ∧ tail.head? ≠ some '/' := by
  obtain ⟨tail, rfl⟩ := List.head?_eq_some_iff.mp h.head
  refine ⟨tail, rfl, fun hhead => ?_⟩
  obtain ⟨rest, rfl⟩ := List.head?_eq_some_iff.mp hhead
  exact h.single ⟨[], rest, rfl⟩

theorem stem_eq_nil_iff (h : CleanPath path) : stem path = [] ↔ path = ['/'] := by
  rw [Routes.stem_eq_nil_iff]
  constructor
  · intro hall
    obtain ⟨tail, rfl, htail⟩ := h.eq_cons
    cases tail with
    | nil => rfl
    | cons c tail => exact absurd (by simp [hall c]) htail
  · rintro rfl
    simp

/-- A clean path is its stem, with at most one slash behind it. -/
theorem eq_stem (h : CleanPath path) : path = stem path ∨ path = stem path ++ ['/'] := by
  rcases List.eq_nil_or_concat' path with rfl | ⟨inner, c, rfl⟩
  · exact .inl rfl
  · by_cases hc : c = '/'
    · subst hc
      right
      have hlast : stem inner = inner := by
        refine List.rdropWhile_eq_self_iff.mpr fun hne hslash => ?_
        have hchain := (not_doubleSlash_iff _).mp h.single
        rw [List.isChain_append] at hchain
        refine hchain.2.2 '/' ?_ '/' rfl ⟨rfl, rfl⟩
        rw [List.getLast?_eq_some_getLast hne]
        simpa using hslash
      have hstem : stem (inner ++ ['/']) = stem inner := by
        rw [stem_append, if_pos (by decide)]
      rw [hstem, hlast]
    · left
      rw [stem_append, if_neg (by simp [Routes.stem_eq_nil_iff, hc])]
      congr 1
      simp [stem, List.rdropWhile_singleton, hc]

theorem head?_stem (h : CleanPath path) (hne : path ≠ ['/']) : (stem path).head? = some '/' := by
  have hstem : stem path ≠ [] := fun hnil => hne (h.stem_eq_nil_iff.mp hnil)
  obtain ⟨rest, hrest⟩ : stem path <+: path := List.rdropWhile_prefix _ _
  obtain ⟨c, tail, hcons⟩ := List.exists_cons_of_ne_nil hstem
  have hhead := h.head
  rw [← hrest, hcons] at hhead
  rw [hcons]
  exact hhead

theorem single_stem (h : CleanPath path) : ¬ doubleSlash <:+: stem path := fun hin =>
  h.single (hin.trans (List.rdropWhile_prefix _ _).isInfix)

/-- A clean path behind something else: a slash alone adds nothing, and any other path follows the stem. -/
theorem combinePaths_eq (h : CleanPath path) (front : List Char) :
    combinePaths front path
      = if path = ['/'] then if front = [] then ['/'] else stem front else stem front ++ path := by
  obtain ⟨tail, rfl, htail⟩ := h.eq_cons
  have hdrop : ('/' :: tail).dropWhile (· == '/') = tail := by
    rw [List.dropWhile_cons_of_pos (by simp)]
    cases tail with
    | nil => rfl
    | cons c tail =>
      have hc : c ≠ '/' := fun heq => htail (by simp [heq])
      rw [List.dropWhile_cons_of_neg (by simpa using hc)]
  by_cases hfront : front = []
  · subst hfront
    by_cases hpath : '/' :: tail = ['/']
    · rw [if_pos hpath, if_pos rfl, hpath]
      rfl
    · rw [if_neg hpath]
      rfl
  · rw [combinePaths, if_neg (by simpa using hfront)]
    simp only [hdrop]
    cases tail with
    | nil => simp [hfront, stem, List.rdropWhile]
    | cons c tail => simp [stem, List.rdropWhile]

end CleanPath

/-! ## Prefixes of one chain -/

section

variable {paths : List (List Char)}

theorem stems_append (a b : List (List Char)) : stems (a ++ b) = stems a ++ stems b :=
  List.flatMap_append

theorem folded_concat (paths : List (List Char)) (path : List Char) :
    folded (paths ++ [path]) = combinePaths (folded paths) path := by
  simp [folded]

theorem stems_eq_nil_iff (h : ∀ path ∈ paths, CleanPath path) :
    stems paths = [] ↔ ∀ path ∈ paths, path = ['/'] := by
  rw [stems, List.flatMap_eq_nil_iff]
  constructor
  · intro hall path hpath
    exact (h path hpath).stem_eq_nil_iff.mp (hall path hpath)
  · intro hall path hpath
    exact (h path hpath).stem_eq_nil_iff.mpr (hall path hpath)

theorem getLast?_stems (paths : List (List Char)) : (stems paths).getLast? ≠ some '/' := by
  induction paths using List.reverseRecOn with
  | nil => simp [stems]
  | append_singleton paths path ih => simpa [stems] using ⟨getLast?_stem path, fun _ => ih⟩

theorem head?_stems (h : ∀ path ∈ paths, CleanPath path) (hne : stems paths ≠ []) :
    (stems paths).head? = some '/' := by
  induction paths with
  | nil => exact absurd rfl hne
  | cons path paths ih =>
    have hsplit : stems (path :: paths) = stem path ++ stems paths := rfl
    by_cases hpath : path = ['/']
    · have hstem : stem path = [] := (h path (by simp)).stem_eq_nil_iff.mpr hpath
      rw [hsplit, hstem, List.nil_append] at hne ⊢
      exact ih (fun other hother => h other (by simp [hother])) hne
    · rw [hsplit, List.head?_append, (h path (by simp)).head?_stem hpath]
      rfl

/-- Stems put one behind the other have no two slashes in a row. -/
theorem single_stems (h : ∀ path ∈ paths, CleanPath path) : ¬ doubleSlash <:+: stems paths := by
  induction paths with
  | nil => simp [stems, doubleSlash]
  | cons path paths ih =>
    have hrest := ih fun other hother => h other (by simp [hother])
    rw [not_doubleSlash_iff] at hrest ⊢
    have hsplit : stems (path :: paths) = stem path ++ stems paths := rfl
    rw [hsplit, List.isChain_append]
    refine ⟨(not_doubleSlash_iff _).mp (h path (by simp)).single_stem, hrest, ?_⟩
    rintro a ha b - ⟨rfl, -⟩
    exact getLast?_stem path ha

theorem stem_stems (paths : List (List Char)) : stem (stems paths) = stems paths := by
  refine List.rdropWhile_eq_self_iff.mpr fun hne hslash => getLast?_stems paths ?_
  rw [List.getLast?_eq_some_getLast hne]
  simpa using hslash

theorem stem_of_stems {s : List Char} (h : s = stems paths ∨ s = stems paths ++ ['/']) : stem s = stems paths := by
  rcases h with heq | heq
  · rw [heq, stem_stems]
  · rw [heq, stem_append, if_pos (by decide), stem_stems]

/-- What the prefixes of a chain are combined to has the stems of the prefixes, and at most one slash behind
them. -/
theorem folded_eq (h : ∀ path ∈ paths, CleanPath path) :
    folded paths = stems paths ∨ folded paths = stems paths ++ ['/'] := by
  induction paths using List.reverseRecOn with
  | nil => exact .inl rfl
  | append_singleton paths path ih =>
    have hpath := h path (by simp)
    have hstem := stem_of_stems (ih fun other hother => h other (by simp [hother]))
    have hstems : stems (paths ++ [path]) = stems paths ++ stem path := by simp [stems]
    rw [folded_concat, hpath.combinePaths_eq, hstems, hstem]
    by_cases hslash : path = ['/']
    · have hnil : stem path = [] := hpath.stem_eq_nil_iff.mpr hslash
      rw [if_pos hslash, hnil, List.append_nil]
      by_cases hempty : folded paths = []
      · have hnone : stems paths = [] := by rw [← hstem, hempty]; rfl
        simp [hempty, hnone]
      · simp [hempty]
    · rw [if_neg hslash]
      rcases hpath.eq_stem with heq | heq
      · exact .inl (by rw [← heq])
      · exact .inr (by rw [List.append_assoc, ← heq])

theorem stem_folded (h : ∀ path ∈ paths, CleanPath path) : stem (folded paths) = stems paths :=
  stem_of_stems (folded_eq h)

end

/-! ## Prefixes of several chains -/

/-- No chain whose prefixes end with a slash is followed by a prefix other than a slash alone. -/
def Smooth (groups : List (List (List Char))) : Prop :=
  groups.Pairwise fun group later => (folded group).getLast? = some '/' → ∀ path ∈ later, path = ['/']

section

variable {groups : List (List (List Char))}

theorem doubleSlash_infix {a b : List Char} (ha : a.getLast? = some '/') (hb : b.head? = some '/') :
    doubleSlash <:+: a ++ b := by
  obtain ⟨front, rfl⟩ := List.getLast?_eq_some_iff.mp ha
  obtain ⟨back, rfl⟩ := List.head?_eq_some_iff.mp hb
  exact ⟨front, back, by simp [doubleSlash]⟩

/-- What the chains leave when all prefixes are slashes is slashes. -/
theorem stem_flatMap_folded_of_slashes (h : ∀ path ∈ groups.flatten, path = ['/']) :
    stem (groups.flatMap folded) = [] := by
  have hclean : ∀ path ∈ groups.flatten, CleanPath path := fun path hpath =>
    h path hpath ▸ ⟨rfl, by decide⟩
  rw [stem_eq_nil_iff]
  intro c hc
  obtain ⟨group, hgroup, hc⟩ := List.mem_flatMap.mp hc
  have hpaths : ∀ path ∈ group, path ∈ groups.flatten := fun path hpath =>
    List.mem_flatten.mpr ⟨group, hgroup, hpath⟩
  have hnil : stems group = [] :=
    (stems_eq_nil_iff fun path hpath => hclean path (hpaths path hpath)).mpr fun path hpath =>
      h path (hpaths path hpath)
  rcases folded_eq fun path hpath => hclean path (hpaths path hpath) with heq | heq
  · rw [heq, hnil] at hc
    cases hc
  · rw [heq, hnil] at hc
    exact List.mem_singleton.mp hc

/-- What chains put one behind the other leave without the slashes at the end: the stems of all prefixes if the
chains are smooth, and else a text with two slashes in a row. -/
theorem stem_flatMap_folded (h : ∀ path ∈ groups.flatten, CleanPath path) :
    (Smooth groups → stem (groups.flatMap folded) = stems groups.flatten) ∧
      (¬ Smooth groups → doubleSlash <:+: stem (groups.flatMap folded)) := by
  induction groups with
  | nil => exact ⟨fun _ => rfl, fun hrough => absurd List.Pairwise.nil hrough⟩
  | cons group groups ih =>
    have hgroup : ∀ path ∈ group, CleanPath path := fun path hpath => h path (by simp [hpath])
    have hlater : ∀ path ∈ groups.flatten, CleanPath path := fun path hpath => h path (by
      rw [List.flatten_cons]
      exact List.mem_append_right _ hpath)
    obtain ⟨hsmooth, hrough⟩ := ih hlater
    rw [List.flatMap_cons, List.flatten_cons, stems_append, stem_append, Smooth, List.pairwise_cons]
    by_cases hslashes : ∀ path ∈ groups.flatten, path = ['/']
    · -- nothing but slashes follows, which neither of the two texts shows
      have hnil : stem (groups.flatMap folded) = [] := stem_flatMap_folded_of_slashes hslashes
      have hnone : stems groups.flatten = [] := (stems_eq_nil_iff hlater).mpr hslashes
      rw [if_pos hnil, stem_folded hgroup, hnone, List.append_nil]
      refine ⟨fun _ => rfl, fun hno => absurd ⟨?_, ?_⟩ hno⟩
      · intro later hin _ path hpath
        exact hslashes path (List.mem_flatten.mpr ⟨later, hin, hpath⟩)
      · by_contra hno
        have hdouble := hrough hno
        rw [hnil] at hdouble
        exact absurd hdouble (by decide)
    · have hstems : stems groups.flatten ≠ [] := fun hnil => hslashes ((stems_eq_nil_iff hlater).mp hnil)
      have hne : stem (groups.flatMap folded) ≠ [] := by
        by_cases hgroups : Smooth groups
        · rw [hsmooth hgroups]
          exact hstems
        · intro hnil
          have hdouble := hrough hgroups
          rw [hnil] at hdouble
          exact absurd hdouble (by decide)
      rw [if_neg hne]
      constructor
      · rintro ⟨hfirst, hgroups⟩
        have hclosed : folded group = stems group := by
          rcases folded_eq hgroup with heq | heq
          · exact heq
          · refine absurd (fun path hpath => ?_) hslashes
            obtain ⟨later, hin, hpath⟩ := List.mem_flatten.mp hpath
            exact hfirst later hin (by rw [heq, List.getLast?_concat]) path hpath
        rw [hclosed, hsmooth hgroups]
      · intro hno
        by_cases hgroups : Smooth groups
        · -- the first chain ends with a slash, and the next prefix starts with one
          have hlast : (folded group).getLast? = some '/' := by
            by_contra hlast
            exact hno ⟨fun later _ hslash => absurd hslash hlast, hgroups⟩
          refine doubleSlash_infix hlast ?_
          rw [hsmooth hgroups]
          exact head?_stems hlater hstems
        · exact (hrough hgroups).trans (List.suffix_append _ _).isInfix

/-- The path of a route below nested subrouters: all prefixes and the path combined, exactly if the chains are
smooth, and exactly if it has no two slashes in a row. -/
theorem combinePaths_groups_iff (h : ∀ path ∈ groups.flatten, CleanPath path) {path : List Char}
    (hpath : CleanPath path) (hsome : ∃ other ∈ groups.flatten ++ [path], other ≠ ['/']) :
    (combinePaths (groups.flatMap folded) path = folded (groups.flatten ++ [path]) ↔ Smooth groups) ∧
      (¬ doubleSlash <:+: combinePaths (groups.flatMap folded) path ↔ Smooth groups) := by
  obtain ⟨hsmooth, hrough⟩ := stem_flatMap_folded h
  -- both texts are stems with the path behind them, if it is not a slash alone
  have htail : ∀ front, (path = ['/'] → stem front ≠ []) →
      combinePaths front path = stem front ++ if path = ['/'] then [] else path := by
    intro front hfront
    rw [hpath.combinePaths_eq]
    by_cases hslash : path = ['/']
    · have hne : front ≠ [] := by
        rintro rfl
        exact hfront hslash rfl
      simp [hslash, hne]
    · simp [hslash]
  have hstems : path = ['/'] → stems groups.flatten ≠ [] := by
    intro hslash hnil
    obtain ⟨other, hother, hne⟩ := hsome
    rcases List.mem_append.mp hother with hother | hother
    · exact hne ((stems_eq_nil_iff h).mp hnil other hother)
    · exact hne (List.mem_singleton.mp hother ▸ hslash)
  have hideal : folded (groups.flatten ++ [path]) = stems groups.flatten ++ if path = ['/'] then [] else path := by
    rw [folded_concat, htail _ (by rwa [stem_folded h]), stem_folded h]
  have hbase : path = ['/'] → stem (groups.flatMap folded) ≠ [] := by
    intro hslash hnil
    by_cases hgroups : Smooth groups
    · exact hstems hslash (by rw [← hsmooth hgroups, hnil])
    · have hdouble := hrough hgroups
      rw [hnil] at hdouble
      exact absurd hdouble (by decide)
  have hclean : ¬ doubleSlash <:+: folded (groups.flatten ++ [path]) := by
    rw [hideal]
    by_cases hslash : path = ['/']
    · simpa [hslash] using single_stems h
    · rw [if_neg hslash, not_doubleSlash_iff, List.isChain_append]
      refine ⟨(not_doubleSlash_iff _).mp (single_stems h), (not_doubleSlash_iff _).mp hpath.single, ?_⟩
      rintro a ha b - ⟨rfl, -⟩
      exact getLast?_stems _ ha
  have hequal : Smooth groups → combinePaths (groups.flatMap folded) path = folded (groups.flatten ++ [path]) := by
    intro hgroups
    rw [htail _ hbase, hsmooth hgroups, hideal]
  have hdouble : ¬ Smooth groups → doubleSlash <:+: combinePaths (groups.flatMap folded) path := by
    intro hgroups
    rw [htail _ hbase]
    exact (hrough hgroups).trans (List.prefix_append _ _).isInfix
  refine ⟨⟨fun heq => ?_, hequal⟩, fun hno => ?_, fun hgroups => ?_⟩
  · by_contra hgroups
    exact hclean (heq ▸ hdouble hgroups)
  · by_contra hgroups
    exact hno (hdouble hgroups)
  · rw [hequal hgroups]
    exact hclean

end

/-! ## Subrouters in statements -/

/-- What a router is called on: it is no package. -/
structure RouterName (ctx : FileContext) (name : List Char) : Prop where
  ne_nil : name ≠ []
  chars : ∀ c ∈ name, isReceiverChar c = true
  package : Assoc.has (String.ofList (name.takeWhile (· != '.'))) ctx.imports = false

/-- A router that can be assigned. -/
structure RouterVariable (ctx : FileContext) (name : List Char) : Prop extends RouterName ctx name where
  ident : isIdent name = true
  keyword : name ≠ ['r', 'e', 't', 'u', 'r', 'n']

/-- The definition of a subrouter, and the statements in front of it. -/
structure Mount where
  before : List (List Char)
  name : List Char
  links : List Link
  deriving Repr, DecidableEq

namespace Mount

def chain (mount : Mount) : List Char :=
  mount.links.flatMap Link.written ++ subrouterCall

/-- The statement that makes a subrouter of the router `parent`. -/
def statement (parent : List Char) (mount : Mount) : List Char :=
  mount.name ++ defines ++ (parent ++ mount.chain)

def prefixes (mount : Mount) : List (List Char) :=
  mount.links.map (·.literal.text)

end Mount

/-- The statements of subrouters, each made of the one before it, the first of the router `root`. -/
def mountStatements (root : List Char) : List Mount → List (List Char)
  | [] => []
  | mount :: mounts => mount.before ++ mount.statement root :: mountStatements mount.name mounts

def lastRouter (root : List Char) : List Mount → List Char
  | [] => root
  | mount :: mounts => lastRouter mount.name mounts

/-- The statement makes a subrouter and assigns it to the variable. -/
def Binds (ctx : FileContext) (name statement : List Char) : Prop :=
  ∃ receiver chain, routerCall? ctx statement = some (some name, receiver, chain) ∧ makesSubrouter chain = true

/-- Subrouters that are bound once: no other statement binds a router between its definition and its use. -/
def BoundOnce (ctx : FileContext) (root : List Char) : List Mount → Prop
  | [] => True
  | mount :: mounts =>
    (∀ statement ∈ mount.before, ¬ Binds ctx root statement) ∧ BoundOnce ctx mount.name mounts

section

variable {ctx : FileContext}

theorem get?_subroutersBehind {name statement : List Char} (h : ¬ Binds ctx name statement) (known : Prefixes) :
    Assoc.get? name (subroutersBehind ctx known statement) = Assoc.get? name known := by
  unfold subroutersBehind
  split
  · rename_i target receiver chain hcall
    split
    · rename_i hmakes
      have hne : target ≠ name := by
        rintro rfl
        exact h ⟨receiver, chain, hcall, hmakes⟩
      rw [Assoc.get?_put, if_neg hne]
    · rfl
  · rfl

theorem get?_foldl_subroutersBehind {name : List Char} {statements : List (List Char)}
    (h : ∀ statement ∈ statements, ¬ Binds ctx name statement) (known : Prefixes) :
    Assoc.get? name (statements.foldl (subroutersBehind ctx) known) = Assoc.get? name known := by
  induction statements generalizing known with
  | nil => rfl
  | cons statement statements ih =>
    rw [List.foldl_cons, ih fun other hother => h other (by simp [hother]),
      get?_subroutersBehind (h statement (by simp))]

theorem links_eq_call (links : List Link) {name : List Char} (hname : ∀ c ∈ name, isReceiverChar c = true)
    (hdot : '.' ∉ name) (s : List Char) :
    ∃ first rest, links.flatMap Link.written ++ (callText name ++ s) = '.' :: first ++ '(' :: rest ∧
      (∀ c ∈ first, isReceiverChar c = true) ∧ '.' ∉ first := by
  cases links with
  | nil => exact ⟨name, s, by simp [callText], hname, hdot⟩
  | cons link links =>
    refine ⟨['P', 'a', 't', 'h', 'P', 'r', 'e', 'f', 'i', 'x'], link.literal.written ++
      ')' :: ((if link.subrouter then subrouterCall else []) ++
        (links.flatMap Link.written ++ (callText name ++ s))), ?_, ?_, by decide⟩
    · simp [Link.written, pathPrefixCall]
    · have hall : ['P', 'a', 't', 'h', 'P', 'r', 'e', 'f', 'i', 'x'].all isReceiverChar = true := by decide
      exact List.all_eq_true.mp hall

theorem endsWith_append (word front : List Char) : endsWith word (front ++ word) = true := by
  simp [endsWith, startsWith, after?_append]

namespace Mount

variable {mount : Mount}

theorem chain_eq_call (mount : Mount) :
    ∃ first rest, mount.chain = '.' :: first ++ '(' :: rest ∧
      (∀ c ∈ first, isReceiverChar c = true) ∧ '.' ∉ first := by
  have hall : ['S', 'u', 'b', 'r', 'o', 'u', 't', 'e', 'r'].all isReceiverChar = true := by decide
  exact links_eq_call mount.links (List.all_eq_true.mp hall) (by decide) [')']

theorem routerCall?_statement {parent : List Char} (hparent : RouterName ctx parent)
    (hname : RouterVariable ctx mount.name) :
    routerCall? ctx (mount.statement parent) = some (some mount.name, parent, mount.chain) := by
  obtain ⟨first, rest, hchain, hfirst, hdot⟩ := mount.chain_eq_call
  have hhead : ∀ c, (parent ++ mount.chain).head? = some c → isBlank c = false := by
    intro c hc
    obtain ⟨d, tail, rfl⟩ := List.exists_cons_of_ne_nil hparent.ne_nil
    obtain rfl : d = c := by simpa using hc
    exact isBlank_of_isReceiverChar (hparent.chars d (by simp))
  have hlast : ∀ c, (parent ++ mount.chain).getLast? = some c → isBlank c = false := by
    intro c hc
    have hend : parent ++ mount.chain = (parent ++ mount.links.flatMap Link.written ++
        ['.', 'S', 'u', 'b', 'r', 'o', 'u', 't', 'e', 'r', '(']) ++ [')'] := by
      simp [chain, subrouterCall]
    rw [hend, List.getLast?_concat] at hc
    obtain rfl := Option.some.inj hc
    decide
  have hread := read_definition hname.ident hname.keyword (by simp [hparent.ne_nil]) (trim_of_ends hhead hlast)
    hhead
  have hsplit := splitReceiver?_call hparent.ne_nil hparent.chars hfirst hdot rest
  rw [List.append_assoc, ← hchain] at hsplit
  rw [routerCall?, statement, hread]
  simp only [hsplit]
  simp [hparent.package, guard]

theorem pathPrefixes_chain (h : ∀ link ∈ mount.links, link.literal.Plain) :
    pathPrefixes mount.chain = folded mount.prefixes := by
  have hend : prefixTexts subrouterCall = [] := by decide
  rw [pathPrefixes_eq, chain, prefixTexts_links h, hend, List.append_nil]
  rfl

theorem makesSubrouter_chain (mount : Mount) : makesSubrouter mount.chain = true :=
  endsWith_append _ _

end Mount

/-- What is known of the last subrouter: the prefixes of the root, and behind them those of every mount, each
combined for itself. -/
theorem known_behind {root : List Char} {mounts : List Mount} (hroot : RouterName ctx root)
    (hnames : ∀ mount ∈ mounts, RouterVariable ctx mount.name)
    (hlinks : ∀ mount ∈ mounts, ∀ link ∈ mount.links, link.literal.Plain) (honce : BoundOnce ctx root mounts)
    (known : Prefixes) :
    (Assoc.get? (lastRouter root mounts)
        ((mountStatements root mounts).foldl (subroutersBehind ctx) known)).getD []
      = (Assoc.get? root known).getD [] ++ (mounts.map Mount.prefixes).flatMap folded := by
  induction mounts generalizing root known with
  | nil => simp [lastRouter, mountStatements]
  | cons mount mounts ih =>
    obtain ⟨hbefore, hrest⟩ := honce
    have hname := hnames mount (by simp)
    have hcall := mount.routerCall?_statement hroot hname
    have hknown (before : Prefixes) : subroutersBehind ctx before (mount.statement root)
        = Assoc.put mount.name ((Assoc.get? root before).getD [] ++ folded mount.prefixes) before := by
      simp [subroutersBehind, hcall, mount.makesSubrouter_chain, Mount.pathPrefixes_chain (hlinks mount (by simp))]
    rw [lastRouter, mountStatements, List.foldl_append, List.foldl_cons,
      ih hname.toRouterName (fun other hother => hnames other (by simp [hother]))
        (fun other hother => hlinks other (by simp [hother])) hrest,
      hknown, Assoc.get?_put, if_pos rfl, get?_foldl_subroutersBehind hbefore]
    simp

end

/-! ## Routes below subrouters -/

/-- A route below nested subrouters: the root of them, the subrouters, the statements behind them and the
registration. -/
structure NestedRoute where
  root : List Char
  mounts : List Mount
  between : List (List Char)
  registration : Registration
  deriving Repr, DecidableEq

namespace NestedRoute

def router (route : NestedRoute) : List Char :=
  lastRouter route.root route.mounts

def front (route : NestedRoute) : List (List Char) :=
  mountStatements route.root route.mounts ++ route.between

def statement (route : NestedRoute) : List Char :=
  route.router ++ route.registration.chain

/-- The prefixes, by the chains that they are written in. -/
def groups (route : NestedRoute) : List (List (List Char)) :=
  route.mounts.map Mount.prefixes ++ [route.registration.links.map (·.literal.text)]

/-- The prefixes and the path, from the outermost to the innermost. -/
def pieces (route : NestedRoute) : List (List Char) :=
  route.groups.flatten ++ [route.registration.path.text]

def path (route : NestedRoute) : List Char :=
  combinePaths (route.groups.flatMap folded) route.registration.path.text

/-- The statements are of the kinds that they are written for, and every subrouter is bound once. -/
structure Plain (ctx : FileContext) (route : NestedRoute) : Prop where
  root : RouterName ctx route.root
  names : ∀ mount ∈ route.mounts, RouterVariable ctx mount.name
  links : ∀ mount ∈ route.mounts, ∀ link ∈ mount.links, link.literal.Plain
  once : BoundOnce ctx route.root route.mounts
  between : ∀ statement ∈ route.between, ¬ Binds ctx route.router statement
  registration : route.registration.Plain

theorem Plain.router {ctx : FileContext} {route : NestedRoute} (h : route.Plain ctx) :
    RouterName ctx route.router := by
  have hlast : ∀ (root : List Char) (mounts : List Mount), RouterName ctx root →
      (∀ mount ∈ mounts, RouterVariable ctx mount.name) → RouterName ctx (lastRouter root mounts) := by
    intro root mounts hroot hnames
    induction mounts generalizing root with
    | nil => exact hroot
    | cons mount mounts ih =>
      exact ih mount.name (hnames mount (by simp)).toRouterName fun other hother => hnames other (by simp [hother])
  exact hlast _ _ h.root h.names

theorem Plain.routerCall?_statement {ctx : FileContext} {route : NestedRoute} (h : route.Plain ctx) :
    routerCall? ctx route.statement = some (none, route.router, route.registration.chain) := by
  have hall : ['H', 'a', 'n', 'd', 'l', 'e', 'F', 'u', 'n', 'c'].all isReceiverChar = true := by decide
  obtain ⟨first, rest, hchain, hfirst, hdot⟩ := links_eq_call route.registration.links
    (List.all_eq_true.mp hall) (by decide) (route.registration.path.written ++ route.registration.behindPath ++
      ')' :: route.registration.methodsText)
  have htext : route.registration.chain = '.' :: first ++ '(' :: rest := by
    rw [← hchain]
    simp [Registration.chain, Registration.call, handleFuncCall, callText]
  have hcall := routerCall?_call h.router.ne_nil h.router.chars h.router.package hfirst hdot rest
  rw [List.append_assoc, ← htext] at hcall
  exact hcall

/-- What the subrouters and the chain of the registration put in front of its path. -/
theorem Plain.base {ctx : FileContext} {route : NestedRoute} (h : route.Plain ctx) :
    (Assoc.get? route.router (route.front.foldl (subroutersBehind ctx) [])).getD [] ++
      pathPrefixes route.registration.chain = route.groups.flatMap folded := by
  rw [front, List.foldl_append, get?_foldl_subroutersBehind h.between, NestedRoute.router,
    known_behind h.root h.names h.links h.once, pathPrefixes_eq, Registration.prefixTexts_chain h.registration]
  simp [groups, Assoc.get?, folded]

theorem registration_run (disk : Disk) (packages : Packages) (ctx : FileContext) {registration : Registration}
    (h : registration.Plain) (base : List Char) (session : Session) :
    ∃ entry, entry.path? = some (String.ofList (combinePaths base registration.path.text)) ∧
      (Routes.registration disk packages ctx base registration.chain session).1 = some entry := by
  have hhandler := Registration.readHandler_chain h
  have hpath := Registration.pathLiteral?_chain h
  refine ⟨_, ?_, by rw [Routes.registration, hhandler]; rfl⟩
  simp [hpath]

/-- The statement of a registration adds its entry in front of those of the statements that follow. -/
theorem scanStatements_registered (disk : Disk) (packages : Packages) {ctx : FileContext}
    {known : Prefixes} {statement router base : List Char} {registration : Registration}
    (hcall : routerCall? ctx statement = some (none, router, registration.chain)) (h : registration.Plain)
    (hbase : (Assoc.get? router known).getD [] ++ pathPrefixes registration.chain = base)
    (after : List (List Char)) (session : Session) :
    ∃ entry rest, entry.path? = some (String.ofList (combinePaths base registration.path.text)) ∧
      (scanStatements disk packages ctx known (statement :: after) session).1 = entry :: rest := by
  have hscan : scanStatements disk packages ctx known (statement :: after) = (do
      let entry? ← Routes.registration disk packages ctx base registration.chain
      let rest ← scanStatements disk packages ctx known after
      return entry?.toList ++ rest) := by
    rw [scanStatements, hcall]
    simp only [Registration.not_makesSubrouter_chain h, Bool.false_eq_true, if_false, hbase]
  obtain ⟨entry, hpath, hentry⟩ := registration_run disk packages ctx h base session
  let rest := scanStatements disk packages ctx known after
    (Routes.registration disk packages ctx base registration.chain session).2
  refine ⟨entry, rest.1, hpath, ?_⟩
  rw [hscan]
  change (Routes.registration disk packages ctx base registration.chain session).1.toList ++ rest.1 = _
  rw [hentry]
  rfl

/-- **The path of a route below nested subrouters.** A file that makes subrouters one of the other, each bound
once, and registers a route with the last of them gives an entry for it behind those of the statements in front.
Where the prefixes and the path start with a slash and have no two slashes in a row, and one of them is more than
a slash, the path of the entry is that of all of them combined exactly if no chain of prefixes that ends with a
slash is followed by a further prefix in another statement, and this is so exactly if the path has no two
slashes in a row. -/
theorem path_iff (route : NestedRoute) (disk : Disk) (packages : Packages) (file : SourceFile)
    (session : Session) (after : List (List Char)) (hplain : route.Plain (.of disk packages file))
    (hfile : statements file.lines = route.front ++ route.statement :: after)
    (hclean : ∀ piece ∈ route.pieces, CleanPath piece) :
    (∃ entry rest, entry.path? = some (String.ofList route.path) ∧
      (scanFile disk packages file session).1
        = (scanStatements disk packages (.of disk packages file) [] route.front session).1 ++ entry :: rest) ∧
    ((∃ piece ∈ route.pieces, piece ≠ ['/']) →
      (route.path = folded route.pieces ↔ Smooth route.groups) ∧
        (¬ doubleSlash <:+: route.path ↔ Smooth route.groups)) := by
  constructor
  · obtain ⟨entry, rest, hpath, hrest⟩ := scanStatements_registered disk packages hplain.routerCall?_statement
      hplain.registration hplain.base after
      (scanStatements disk packages (.of disk packages file) [] route.front session).2
    refine ⟨entry, rest, hpath, ?_⟩
    rw [scanFile, hfile, scanStatements_append, ← hrest]
    rfl
  · intro hsome
    refine combinePaths_groups_iff (fun piece hpiece => hclean piece ?_) (hclean _ ?_) hsome
    · exact List.mem_append_left _ hpiece
    · exact List.mem_append_right _ (by simp)

def plainRegistration : Registration :=
  { path := ⟨'"', "/x".toList⟩, handler := [['H']], methods := ["GET".toList] }

theorem plainRegistration_plain : plainRegistration.Plain where
  links := by simp [plainRegistration]
  path := ⟨by decide, by decide, by decide, by decide⟩
  handler_ne_nil := by decide
  handler := List.all_eq_true.mp (by decide)
  methods method hmethod := by
    obtain rfl := List.mem_singleton.mp hmethod
    exact ⟨by decide, List.all_eq_true.mp (by decide)⟩

/-- A route below a version, below the prefix `outer`. -/
def versioned (outer : List Char) : NestedRoute :=
  { root := ['r']
    mounts :=
      [⟨["package m".toList, "func R(r *mux.Router) \x7b".toList], ['s'], [⟨⟨'"', outer⟩, false⟩]⟩,
        ⟨[], ['t'], [⟨⟨'\x60', "/v1/".toList⟩, false⟩]⟩]
    between := []
    registration := plainRegistration }

def versionedFile (outer : List Char) : SourceFile :=
  ⟨⟨["", "m", "r.go"]⟩, ["package m".toList, "func R(r *mux.Router) \x7b".toList,
    "\ts := r.PathPrefix(\"".toList ++ outer ++ "\").".toList, "\t\tSubrouter()".toList,
    "\tt := s.PathPrefix(`/v1/`).Subrouter()".toList, "\tt.HandleFunc(\"/x\", H).Methods(\"GET\")".toList,
    "\x7d".toList]⟩

theorem versioned_plain {outer : List Char} (houter : PathLiteral.Plain ⟨'"', outer⟩) {ctx : FileContext}
    (himports : ctx.imports = []) : (versioned outer).Plain ctx := by
  have hname : ∀ name ∈ [['r'], ['s'], ['t']], RouterVariable ctx name := by
    have hall : [['r'], ['s'], ['t']].all (fun name => !name.isEmpty && name.all isReceiverChar && isIdent name
        && name != ['r', 'e', 't', 'u', 'r', 'n']) = true := by decide
    intro name hname
    have hparts := List.all_eq_true.mp hall name hname
    simp only [Bool.and_eq_true, Bool.not_eq_true', List.isEmpty_eq_false_iff, List.all_eq_true, bne_iff_ne] at hparts
    exact ⟨⟨hparts.1.1.1, hparts.1.1.2, by rw [himports]; rfl⟩, hparts.1.2, hparts.2⟩
  have hquiet : ∀ statement ∈ ["package m".toList, "func R(r *mux.Router) \x7b".toList],
      ¬ Binds ctx ['r'] statement := by
    have hsplit : ["package m".toList, "func R(r *mux.Router) \x7b".toList].all
        (fun statement => (splitReceiver? (Assignment.read statement).value).isNone) = true := by decide +kernel
    rintro statement hstatement ⟨receiver, chain, hcall, -⟩
    have hnone := List.all_eq_true.mp hsplit statement hstatement
    simp [routerCall?, Option.isNone_iff_eq_none.mp hnone] at hcall
  refine ⟨(hname _ (by simp [versioned])).toRouterName, ?_, ?_, ⟨hquiet, by simp, trivial⟩, by simp [versioned],
    plainRegistration_plain⟩
  · intro mount hmount
    simp only [versioned, List.mem_cons, List.not_mem_nil, or_false] at hmount
    rcases hmount with rfl | rfl
    · exact hname _ (by simp)
    · exact hname _ (by simp)
  · intro mount hmount link hlink
    simp only [versioned, List.mem_cons, List.not_mem_nil, or_false] at hmount
    rcases hmount with rfl | rfl
    · obtain rfl := List.mem_singleton.mp hlink
      exact houter
    · obtain rfl := List.mem_singleton.mp hlink
      exact ⟨by decide, by decide, by decide, by decide⟩

/-- A slash at the end of the inner prefix does no harm; one at the end of the outer prefix stays. -/
theorem path_iff_versions :
    (∃ entry ∈ (scanFile ⟨.folder [], []⟩ [] (versionedFile "/api".toList) {}).1,
      entry.path? = some "/api/v1/x") ∧
    (∃ entry ∈ (scanFile ⟨.folder [], []⟩ [] (versionedFile "/api/".toList) {}).1,
      entry.path? = some "/api//v1/x") ∧
    (versioned "/api/".toList).path ≠ folded (versioned "/api/".toList).pieces := by
  have hclean : ∀ outer ∈ ["/api".toList, "/api/".toList], ∀ piece ∈ (versioned outer).pieces,
      CleanPath piece := by
    have hall : ["/api".toList, "/api/".toList].all (fun outer => (versioned outer).pieces.all fun piece =>
        piece.head? == some '/' && !decide (doubleSlash <:+: piece)) = true := by decide +kernel
    intro outer houter piece hpiece
    have hparts := List.all_eq_true.mp (List.all_eq_true.mp hall outer houter) piece hpiece
    simp only [Bool.and_eq_true, beq_iff_eq, Bool.not_eq_true', decide_eq_false_iff_not] at hparts
    exact ⟨hparts.1, hparts.2⟩
  have hsmooth := path_iff (versioned "/api".toList) ⟨.folder [], []⟩ [] (versionedFile "/api".toList) {}
    ["\x7d".toList] (versioned_plain ⟨by decide, by decide, by decide, by decide⟩ (by decide +kernel))
    (by decide +kernel) (hclean _ (by simp))
  have hrough := path_iff (versioned "/api/".toList) ⟨.folder [], []⟩ [] (versionedFile "/api/".toList) {}
    ["\x7d".toList] (versioned_plain ⟨by decide, by decide, by decide, by decide⟩ (by decide +kernel))
    (by decide +kernel) (hclean _ (by simp))
  have hpaths : String.ofList (versioned "/api".toList).path = "/api/v1/x" ∧
      String.ofList (versioned "/api/".toList).path = "/api//v1/x" := by decide +kernel
  refine ⟨?_, ?_, ?_⟩
  · obtain ⟨entry, rest, hpath, hentries⟩ := hsmooth.1
    exact ⟨entry, by rw [hentries]; simp, by rw [hpath, hpaths.1]⟩
  · obtain ⟨entry, rest, hpath, hentries⟩ := hrough.1
    exact ⟨entry, by rw [hentries]; simp, by rw [hpath, hpaths.2]⟩
  · rw [Ne, (hrough.2 ⟨"/x".toList, by decide +kernel, by decide⟩).1, Smooth]
    decide +kernel

end NestedRoute

end Routes

end RouteDoc
