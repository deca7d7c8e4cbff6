import FloatingAddress.Text.Encoding

/-!
# UTF-8

Text as bytes, one to four for each code point. Surrogates have none: `Utf8.encode` names
the first run of them instead.
-/

namespace FloatingAddress
namespace Utf8

/-- The bytes of one code point, one to four by its size. -/
def encodePoint (c : CodePoint) : List UInt8 :=
  let n := c.val
  if n < 0x80 then [UInt8.ofNat n]
  else if n < 0x800 then [UInt8.ofNat (0xC0 + n / 0x40), UInt8.ofNat (0x80 + n % 0x40)]
  else if n < 0x10000 then
    [UInt8.ofNat (0xE0 + n / 0x1000), UInt8.ofNat (0x80 + n / 0x40 % 0x40),
      UInt8.ofNat (0x80 + n % 0x40)]
  else
    [UInt8.ofNat (0xF0 + n / 0x40000), UInt8.ofNat (0x80 + n / 0x1000 % 0x40),
      UInt8.ofNat (0x80 + n / 0x40 % 0x40), UInt8.ofNat (0x80 + n % 0x40)]

/-- The bytes of a text, if it holds no surrogate. -/
def encode (t : Text) : Except Unencodable (List UInt8) :=
  match Encoding.utf8.unencodable? t with
  | some run => .error run
  | none => .ok (t.flatMap encodePoint)

end Utf8
end FloatingAddress
