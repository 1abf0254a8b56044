/-!
Digits and decimal numbers. Numbers are never computed with: what matters is whether a text writes
one, and whether that is within the range of 64 bits of binary floating point.
-/

namespace RouteDoc.Text

/-- The value of a digit up to base sixteen. -/
def digitValue (c : Char) : Nat :=
  if '0' ≤ c && c ≤ '9' then c.toNat - 48
  else if 'a' ≤ c && c ≤ 'f' then c.toNat - 87
  else if 'A' ≤ c && c ≤ 'F' then c.toNat - 55
  else 16

/-- The number that digits write in a base, if there is one and all are digits of it. -/
def digits? (base : Nat) : List Char → Option Nat
  | [] => none
  | cs =>
    if cs.all fun c => digitValue c < base then
      some (cs.foldl (fun n c => n * base + digitValue c) 0)
    else none

def dropPlus : List Char → List Char
  | '+' :: cs => cs
  | cs => cs

/-- A decimal number: all its digits, and the power of ten of the last one. -/
structure Decimal where
  digits : List Char
  power : Int
  deriving Repr, DecidableEq

/-- The exponent at the end of a decimal number. -/
def exponent? : List Char → Option Int
  | [] => some 0
  | c :: cs =>
    if c = 'e' || c = 'E' then
      match cs with
      | '-' :: ds => (digits? 10 ds).map fun n => -(n : Int)
      | ds => (digits? 10 (dropPlus ds)).map fun n => (n : Int)
    else none

/-- The decimal number that a text without a sign writes. -/
def decimal? (s : List Char) : Option Decimal :=
  let whole := s.takeWhile Char.isDigit
  let (fraction, rest) := match s.dropWhile Char.isDigit with
    | '.' :: cs => (cs.takeWhile Char.isDigit, cs.dropWhile Char.isDigit)
    | cs => ([], cs)
  if whole.isEmpty && fraction.isEmpty then none
  else (exponent? rest).map fun power => ⟨whole ++ fraction, power - fraction.length⟩

/-- The least number that is too large for 64 bits of binary floating point: half a unit above the
largest. -/
def overflow : Nat :=
  Nat.pow 2 1024 - Nat.pow 2 970

/-- Whether a decimal number is within the range of 64 bits of binary floating point. -/
def Decimal.isFinite (d : Decimal) : Bool :=
  let digits := d.digits.dropWhile (· == '0')
  let size : Int := digits.length + d.power
  if digits.isEmpty || size < 300 then true
  else if size > 320 then false
  else
    let n := (digits? 10 digits).getD 0
    if d.power < 0 then n < overflow * Nat.pow 10 d.power.natAbs
    else n * Nat.pow 10 d.power.natAbs < overflow

end RouteDoc.Text
