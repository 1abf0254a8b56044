import RouteDoc.Text.Blank
import RouteDoc.Text.WordChar

/-!
Recognising text from the left. A recogniser takes the text from some place on and answers what it
read together with the rest; `search` tries the places from left to right, and `searchAll` goes on
behind each find, so finds never overlap.
-/

namespace RouteDoc.Text

/-- What follows `word` in a text that starts with it. -/
def after? : List Char → List Char → Option (List Char)
  | [], s => some s
  | _ :: _, [] => none
  | w :: ws, c :: cs => if w == c then after? ws cs else none

def startsWith (word s : List Char) : Bool :=
  (after? word s).isSome

def endsWith (word s : List Char) : Bool :=
  startsWith word.reverse s.reverse

/-- The pieces of a text between the characters `sep`; there is always one piece. -/
def split (sep : Char) : List Char → List (List Char)
  | [] => [[]]
  | c :: cs =>
    if c == sep then [] :: split sep cs
    else match split sep cs with
      | [] => [[c]]
      | piece :: pieces => (c :: piece) :: pieces

/-- The text before the first `sep` and the text behind it. -/
def cut? (sep : Char) : List Char → Option (List Char × List Char)
  | [] => none
  | c :: cs => if c == sep then some ([], cs) else (cut? sep cs).map fun (a, b) => (c :: a, b)

/-- The text before the last `sep` and the text behind it. -/
def cutLast? (sep : Char) (s : List Char) : Option (List Char × List Char) :=
  (cut? sep s.reverse).map fun (behind, before) => (before.reverse, behind.reverse)

/-- Whether a word starts or ends between the character `before` and the text `s`. -/
def atBoundary (before : Option Char) (s : List Char) : Bool :=
  before.any isWord != s.head?.any isWord

/-- The answer at the first place from the left that has one. The recogniser sees the character
before the place and the text from there on. -/
def search {α : Type} (f : Option Char → List Char → Option α) (before : Option Char) :
    List Char → Option α
  | [] => f before []
  | c :: cs =>
    match f before (c :: cs) with
    | some a => some a
    | none => search f (some c) cs

/-- The answers from left to right, each sought behind the one before it; the first `skip`
characters are passed over. -/
def searchAll {α : Type} (f : Option Char → List Char → Option (α × List Char))
    (before : Option Char) (skip : Nat) : List Char → List α
  | [] => []
  | c :: cs =>
    match skip with
    | n + 1 => searchAll f (some c) n cs
    | 0 =>
      match f before (c :: cs) with
      | some (a, rest) => a :: searchAll f (some c) (cs.length - rest.length) cs
      | none => searchAll f (some c) 0 cs

/-- The text between double quotes that starts the given text, which must not be empty. -/
def quotedWord? (s : List Char) : Option (List Char × List Char) :=
  match s with
  | '"' :: cs =>
    match cut? '"' cs with
    | some ([], _) => none
    | found => found
  | _ => none

theorem length_of_cut? {sep : Char} {s a b : List Char} (h : cut? sep s = some (a, b)) :
    s.length = a.length + 1 + b.length := by
  induction s generalizing a with
  | nil => simp [cut?] at h
  | cons c cs ih =>
    unfold cut? at h
    split at h
    · obtain ⟨rfl, rfl⟩ := Prod.mk.inj (Option.some.inj h)
      simp [Nat.add_comm]
    · obtain ⟨⟨a', b'⟩, h', heq⟩ := Option.map_eq_some_iff.1 h
      obtain ⟨rfl, rfl⟩ := Prod.mk.inj heq
      have := ih h'
      simp only [List.length_cons]
      omega

end RouteDoc.Text
