import FloatingAddress.Text.Basic

/-!
# White space

The 25 code points with the property White_Space.
-/

namespace FloatingAddress
namespace CodePoint

/-- First and last code point of every run of white space, in ascending order. -/
def blankRuns : List (Nat × Nat) :=
  [(0x9, 0xD), (0x20, 0x20), (0x85, 0x85), (0xA0, 0xA0), (0x1680, 0x1680),
   (0x2000, 0x200A), (0x2028, 0x2029), (0x202F, 0x202F), (0x205F, 0x205F),
   (0x3000, 0x3000)]

/-- White space of any script. -/
def isBlank (c : CodePoint) : Bool :=
  c.isAmong blankRuns

end CodePoint

namespace Text

/-- A text without white space at either end. -/
def trim (t : Text) : Text :=
  t.strip CodePoint.isBlank

end Text
end FloatingAddress
