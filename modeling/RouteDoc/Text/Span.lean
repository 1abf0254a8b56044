/-!
Evenly spaced runs of code points. Character properties are lists of such runs: alphabets come in
blocks, and where upper and lower case alternate every second code point belongs.
-/

namespace RouteDoc.Text

/-- The code points `first`, `first + step`, ... up to `last`. -/
structure Span where
  first : Nat
  last : Nat
  step : Nat

def Span.has (s : Span) (c : Char) : Bool :=
  s.first ≤ c.toNat && c.toNat ≤ s.last && (c.toNat - s.first) % s.step == 0

/-- Whether some run of the list holds `c`. -/
def Span.covers (spans : List Span) (c : Char) : Bool :=
  spans.any (fun s => s.has c)

/-- A run of code points and the place where its images start: the distance from the start is kept. -/
structure Shift where
  source : Span
  target : Nat

end RouteDoc.Text
