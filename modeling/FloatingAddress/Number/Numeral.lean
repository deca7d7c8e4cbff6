import FloatingAddress.Text.Basic

/-!
# Numerals

Integers written in base ten, and digits read back.

* `Numeral.ofNat`, `Numeral.ofInt`: the shortest numeral, a minus sign in front of a
  negative number;
* `Numeral.hex`: the shortest numeral in base sixteen, letters in lower case;
* `Numeral.value`: the number that a run of decimal digits denotes;
* `Numeral.hexDigit?`: the number that one digit of base sixteen denotes.
-/

namespace FloatingAddress
namespace Numeral

/-- The longest run of digits that is read as one integer. -/
def maxDigits : Nat := 4300

/-- A natural number in base ten, without leading zeros. -/
def ofNat (n : Nat) : Text :=
  (Nat.toDigits 10 n).map CodePoint.ofChar

/-- An integer in base ten. -/
def ofInt : Int → Text
  | .ofNat n => ofNat n
  | .negSucc n => ('-' : CodePoint) :: ofNat (n + 1)

/-- A natural number in base sixteen, without leading zeros. -/
def hex (n : Nat) : Text :=
  (Nat.toDigits 16 n).map CodePoint.ofChar

/-- A natural number in base sixteen, filled up with zeros in front to a width. -/
def hexPadded (width n : Nat) : Text :=
  List.replicate (width - (hex n).length) ('0' : CodePoint) ++ hex n

/-- The number that a run of decimal digits denotes. -/
def value (digits : Text) : Nat :=
  digits.foldl (fun n c => 10 * n + (c.val - 0x30)) 0

/-- An integer from its sign and the digits of its magnitude. -/
def signed (negative : Bool) (digits : Text) : Int :=
  if negative then -(value digits : Int) else (value digits : Int)

/-- The number that a digit of base sixteen denotes; letters of either case. -/
def hexDigit? (c : CodePoint) : Option Nat :=
  if 0x30 ≤ c.val ∧ c.val ≤ 0x39 then some (c.val - 0x30)
  else if 0x41 ≤ c.val ∧ c.val ≤ 0x46 then some (c.val - 0x41 + 10)
  else if 0x61 ≤ c.val ∧ c.val ≤ 0x66 then some (c.val - 0x61 + 10)
  else none

end Numeral
end FloatingAddress
