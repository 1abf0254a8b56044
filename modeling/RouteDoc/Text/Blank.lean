import RouteDoc.Text.Span

/-!
White space, and texts without it at their ends.
-/

namespace RouteDoc.Text

/-- The white space of every script. -/
def blankSpans : List Span := [
  ⟨0x9, 0xD, 1⟩, ⟨0x20, 0x20, 1⟩, ⟨0x85, 0x85, 1⟩, ⟨0xA0, 0xA0, 1⟩, ⟨0x1680, 0x1680, 1⟩,
  ⟨0x2000, 0x200A, 1⟩, ⟨0x2028, 0x2029, 1⟩, ⟨0x202F, 0x202F, 1⟩, ⟨0x205F, 0x205F, 1⟩,
  ⟨0x3000, 0x3000, 1⟩]

def isBlank (c : Char) : Bool :=
  Span.covers blankSpans c

def isGap (c : Char) : Bool :=
  c == ' ' || c == '\t'

def spaces (n : Nat) : List Char :=
  List.replicate n ' '

def trimStart (s : List Char) : List Char :=
  s.dropWhile isBlank

def trimEnd (s : List Char) : List Char :=
  (s.reverse.dropWhile isBlank).reverse

/-- The text without white space at either end. -/
def trim (s : List Char) : List Char :=
  trimEnd (trimStart s)

/-- The text after at least one blank and all blanks that follow it. -/
def blanks? : List Char → Option (List Char)
  | c :: cs => if isBlank c then some (trimStart cs) else none
  | [] => none

/-- The words of a text: its maximal pieces free of white space. -/
def blankSeparated : List Char → List (List Char)
  | [] => []
  | c :: cs =>
    if isBlank c then blankSeparated cs
    else match cs with
      | [] => [[c]]
      | d :: _ =>
        if isBlank d then [c] :: blankSeparated cs
        else match blankSeparated cs with
          | [] => [[c]]
          | word :: words => (c :: word) :: words

theorem length_trimStart_le (s : List Char) : (trimStart s).length ≤ s.length :=
  (List.dropWhile_sublist _).length_le

theorem length_trim_le (s : List Char) : (trim s).length ≤ s.length := by
  have h : (trimEnd (trimStart s)).length ≤ (trimStart s).length := by
    simpa [trimEnd] using (List.dropWhile_sublist isBlank (l := (trimStart s).reverse)).length_le
  exact Nat.le_trans h (length_trimStart_le s)

end RouteDoc.Text
