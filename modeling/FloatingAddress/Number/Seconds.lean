import FloatingAddress.Number.Decimal

/-!
# Durations in seconds

A duration is given as a whole number of seconds or as a double. It is compared as it is
given and reported in milliseconds.
-/

namespace FloatingAddress

/-- A number of seconds; it may be zero or negative. -/
inductive Seconds
  | whole (n : Int)
  | real (x : Float)

namespace Seconds

/-- A duration that is zero or negative. -/
def IsNonPositive : Seconds → Prop
  | whole n => n ≤ 0
  | real x => x ≤ 0

instance : (s : Seconds) → Decidable s.IsNonPositive
  | whole n => inferInstanceAs (Decidable (n ≤ 0))
  | real x => inferInstanceAs (Decidable (x ≤ 0))

/-- Whether a double is at least an integer. The comparison is exact, also where no double
is equal to the integer. -/
def isAtLeast (span : Float) (n : Int) : Bool :=
  match Dyadic.ofFloat? span with
  | some d => n ≤ d.floor
  | none => span > 0

/-- A span of time that is at least as long as the duration. -/
def IsReachedBy : Seconds → Float → Prop
  | whole n, span => isAtLeast span n = true
  | real x, span => span ≥ x

instance : (s : Seconds) → (span : Float) → Decidable (s.IsReachedBy span)
  | whole n, span => inferInstanceAs (Decidable (isAtLeast span n = true))
  | real x, span => inferInstanceAs (Decidable (span ≥ x))

/-- Whole milliseconds, a half going to the even neighbour. -/
def milliseconds : Seconds → Int
  | whole n => n * 1000
  | real x =>
      match Dyadic.ofFloat? (x * 1000) with
      | some d => d.roundEven
      | none => 0

end Seconds
end FloatingAddress
