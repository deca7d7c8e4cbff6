import FloatingAddress.Number.Decimal

/-!
# The shortest decimal of a double

Each double is exactly a decimal, if a long one. Of all decimals that are read as a
double, `Decimal.shortest` takes one with the fewest digits, and among those the nearest.

* `Dyadic.toDecimal`: the decimal that a dyadic number is;
* `Decimal.neighbours`: a decimal rounded to some digits, in both directions;
* `Decimal.shortest`: the decimal by which a double is written;
* `Decimal.text`: a decimal as it is written.
-/

namespace FloatingAddress

/-- The decimal that a dyadic number is: halves are fives at the next place. -/
def Dyadic.toDecimal (d : Dyadic) : Decimal :=
  ⟨d.negative, (d.magnitude <<< d.exponent.toNat) * Nat.pow 5 (-d.exponent).toNat,
    min d.exponent 0⟩

namespace Decimal

/-- The digits of the coefficient. -/
def digits (d : Decimal) : Text :=
  Numeral.ofNat d.coefficient

/-- The decimals on both sides of a decimal with at most so many digits, the nearer one
first; of two equally near ones the one with an even coefficient. -/
def neighbours (count : Nat) (d : Decimal) : List Decimal :=
  let dropped := d.digits.length - count
  let unit := Nat.pow 10 dropped
  let lower := d.coefficient / unit
  let twice := 2 * (d.coefficient % unit)
  let rounded (c : Nat) : Decimal := ⟨d.negative, c, d.exponent + dropped⟩
  if unit < twice || (twice = unit && lower % 2 = 1) then
    [rounded (lower + 1), rounded lower]
  else [rounded lower, rounded (lower + 1)]

/-- A decimal without zeros at the end of its coefficient. -/
def trimmed (d : Decimal) : Decimal :=
  let kept := d.digits.stripEnd fun c => c = '0'
  if kept = [] then { d with exponent := 0 }
  else
    ⟨d.negative, Numeral.value kept, d.exponent + (d.digits.length - kept.length : Nat)⟩

/-- The most digits that it takes to write a double. -/
def maxPrecision : Nat := 17

/-- The decimal with the fewest digits that is read as a double, whose exact decimal is
given; of several the nearest. -/
def shortest (x : Float) (exact : Decimal) : Decimal :=
  let candidates := (List.range maxPrecision).flatMap fun n => exact.neighbours (n + 1)
  ((candidates.find? fun d => d.toFloat.toBits = x.toBits).getD exact).trimmed

/-- How many digits stand in front of the point; if negative or zero, how many zeros stand
between the point and the first digit. -/
def place (d : Decimal) : Int :=
  d.digits.length + d.exponent

/-- The point between two runs of digits, with a zero for a run that is empty. -/
def pointBetween (whole fraction : Text) : Text :=
  (if whole = [] then ("0" : Text) else whole) ++ "."
    ++ (if fraction = [] then ("0" : Text) else fraction)

/-- The digits around a point, filled up with zeros. -/
def positional (d : Decimal) : Text :=
  let filled := List.replicate (-d.place).toNat ('0' : CodePoint) ++ d.digits
    ++ List.replicate d.exponent.toNat ('0' : CodePoint)
  pointBetween (filled.take d.place.toNat) (filled.drop d.place.toNat)

/-- One digit in front of the point, and the power of ten with its sign and at least two
digits; without more digits there is no point. -/
def scientific (d : Decimal) : Text :=
  let power := d.place - 1
  let numeral := Numeral.ofNat power.natAbs
  d.digits.take 1
    ++ (if d.digits.length ≤ 1 then [] else ("." : Text) ++ d.digits.drop 1)
    ++ (if power < 0 then ("e-" : Text) else ("e+" : Text))
    ++ List.replicate (2 - numeral.length) ('0' : CodePoint) ++ numeral

/-- The most digits in front of the point. -/
def maxWhole : Int := 16

/-- The most zeros between the point and the first digit. -/
def maxGap : Int := 3

/-- A decimal as it is written: around a point, unless that takes too many digits in front
of it or too many zeros after it. -/
def text (d : Decimal) : Text :=
  (if d.negative then ("-" : Text) else [])
    ++ (if -maxGap ≤ d.place ∧ d.place ≤ maxWhole then d.positional else d.scientific)

end Decimal

/-- A double as it is written, by the fewest digits; infinities and NaN by a word. -/
def floatText (x : Float) : Text :=
  match Dyadic.ofFloat? x with
  | some d => (Decimal.shortest x d.toDecimal).text
  | none => if x < 0 then "-inf" else if 0 < x then "inf" else "nan"

end FloatingAddress
