import FloatingAddress.Text.Basic

/-!
# Exact values of doubles

A finite double is a signed natural number times a power of two. Whether it is a whole
number, which one, and to which whole number it rounds are decided on that form.

* `Dyadic` and `Dyadic.ofFloat?`: the exact value of a finite double;
* `Dyadic.toInt?`: the integer that a dyadic number is, if it is one;
* `Dyadic.floor`: the greatest integer that is not above it;
* `Dyadic.roundEven`: the nearest integer, a half going to the even neighbour.
-/

namespace FloatingAddress

/-- The number `± magnitude · 2 ^ exponent`. -/
structure Dyadic where
  /-- A minus sign, kept also in front of zero. -/
  negative : Bool
  /-- The integral factor. -/
  magnitude : Nat
  /-- The power of two. -/
  exponent : Int
deriving DecidableEq, Repr

namespace Dyadic

/-- The exact value of a double; infinities and NaN have none. -/
def ofFloat? (x : Float) : Option Dyadic :=
  let bits : Nat := x.toBits.toNat
  let negative := decide (bits / 0x8000000000000000 = 1)
  let scale : Nat := bits / 0x10000000000000 % 0x800
  let fraction : Nat := bits % 0x10000000000000
  if scale = 0x7FF then none
  else if scale = 0 then some ⟨negative, fraction, -1074⟩
  else some ⟨negative, 0x10000000000000 + fraction, (scale : Int) - 1075⟩

/-- An integer from its magnitude and sign. -/
def withSign (d : Dyadic) (n : Nat) : Int :=
  if d.negative then -(n : Int) else (n : Int)

/-- The integer that a dyadic number is, if it is one. -/
def toInt? (d : Dyadic) : Option Int :=
  let divisor := 1 <<< (-d.exponent).toNat
  let scaled := d.magnitude <<< d.exponent.toNat
  if scaled % divisor = 0 then some (d.withSign (scaled / divisor)) else none

/-- The greatest integer that is not above a dyadic number. -/
def floor (d : Dyadic) : Int :=
  let divisor := 1 <<< (-d.exponent).toNat
  let scaled := d.magnitude <<< d.exponent.toNat
  Int.fdiv (d.withSign scaled) divisor

/-- The nearest integer; a half goes to the even neighbour. -/
def roundEven (d : Dyadic) : Int :=
  let divisor := 1 <<< (-d.exponent).toNat
  let scaled := d.magnitude <<< d.exponent.toNat
  let floor := scaled / divisor
  let twice := 2 * (scaled % divisor)
  let up := divisor < twice || (twice = divisor && floor % 2 = 1)
  d.withSign (if up then floor + 1 else floor)

end Dyadic
end FloatingAddress
