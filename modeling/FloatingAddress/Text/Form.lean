import FloatingAddress.Text.Utf8

/-!
# Form encoding

The body of a posted form: `name=value`, where letters, digits and four marks stand for
themselves, the blank is a plus sign, and any other code point is written byte by byte
with a percent sign and two upper-case digits.
-/

namespace FloatingAddress
namespace Form

/-- The media type of an encoded form. -/
def mediaType : Text := "application/x-www-form-urlencoded"

/-- Code points that an encoded form holds as themselves. -/
def isPlain (c : CodePoint) : Bool :=
  c.isLetter || c.isDigit || c = '-' || c = '.' || c = '_' || c = '~'

/-- A byte as a percent sign and two upper-case digits of base sixteen. -/
def percentByte (b : UInt8) : Text :=
  let digit (n : Nat) : CodePoint :=
    if n < 10 then Char.ofNat (0x30 + n) else Char.ofNat (0x41 + (n - 10))
  ['%', digit (b.toNat / 16), digit (b.toNat % 16)]

/-- One code point of a name or value. -/
def encodePoint (c : CodePoint) : Text :=
  if isPlain c then [c]
  else if c = ' ' then ['+']
  else (Utf8.encodePoint c).flatMap percentByte

/-- A name or value, if it holds no surrogate. -/
def encodeText (t : Text) : Except Unencodable Text :=
  match Encoding.utf8.unencodable? t with
  | some run => .error run
  | none => .ok (t.flatMap encodePoint)

/-- The body of a form with one field. -/
def encodeField (name value : Text) : Except Unencodable Text := do
  let name ← encodeText name
  let value ← encodeText value
  return name ++ "=" ++ value

end Form
end FloatingAddress
