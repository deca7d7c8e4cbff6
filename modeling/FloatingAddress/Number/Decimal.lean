import FloatingAddress.Number.Numeral
import FloatingAddress.Number.Binary64

/-!
# Decimal numbers

A decimal numeral with a point or an exponent denotes a signed natural number times a
power of ten. `Decimal.toFloat` is the nearest double; a number far outside the range of
doubles is recognised by its count of digits, so that no huge power is ever computed.
-/

namespace FloatingAddress

/-- The number `± coefficient · 10 ^ exponent`. -/
structure Decimal where
  /-- A minus sign, kept also in front of zero. -/
  negative : Bool
  /-- All digits of the numeral, the point left out. -/
  coefficient : Nat
  /-- The power of ten. -/
  exponent : Int
deriving DecidableEq, Repr

namespace Decimal

/-- Positive infinity as a double. -/
def infinity : Float := Float.ofBits 0x7FF0000000000000

/-- A number that is no number, as a double. -/
def notANumber : Float := Float.ofBits 0x7FF8000000000000

/-- The decimal of an integer. -/
def ofInt (n : Int) : Decimal :=
  ⟨decide (n < 0), n.natAbs, 0⟩

/-- The double nearest to the magnitude of a decimal. -/
def magnitude (d : Decimal) : Float :=
  let place : Int := (Numeral.ofNat d.coefficient).length + d.exponent
  if d.coefficient = 0 ∨ place < -400 then 0.0
  else if 400 < place then infinity
  else Float.ofScientific d.coefficient (decide (d.exponent < 0)) d.exponent.natAbs

/-- The double nearest to a decimal. -/
def toFloat (d : Decimal) : Float :=
  if d.negative then -d.magnitude else d.magnitude

end Decimal
end FloatingAddress
