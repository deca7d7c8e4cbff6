import FloatingAddress.Text.Basic

/-!
# Base 64

Three bytes become four characters of the standard alphabet; a last group of one or two
bytes is filled up with equality signs.
-/

namespace FloatingAddress
namespace Base64

/-- The character of six bits. -/
def digit (n : Nat) : CodePoint :=
  if n < 26 then Char.ofNat (0x41 + n)
  else if n < 52 then Char.ofNat (0x61 + (n - 26))
  else if n < 62 then Char.ofNat (0x30 + (n - 52))
  else if n = 62 then '+'
  else '/'

/-- Bytes written in base 64. -/
def encode : List UInt8 → Text
  | a :: b :: c :: rest =>
      let n := a.toNat * 0x10000 + b.toNat * 0x100 + c.toNat
      digit (n / 0x40000) :: digit (n / 0x1000 % 64) :: digit (n / 64 % 64)
        :: digit (n % 64) :: encode rest
  | [a, b] =>
      let n := a.toNat * 0x100 + b.toNat
      [digit (n / 0x400), digit (n / 16 % 64), digit (n % 16 * 4), '=']
  | [a] => [digit (a.toNat / 4), digit (a.toNat % 4 * 16), '=', '=']
  | [] => []

end Base64
end FloatingAddress
