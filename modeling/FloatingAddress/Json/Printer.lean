import FloatingAddress.Json.Value

/-!
# Writing JSON

Values are written on one line in printable ASCII, with a blank after each comma and
colon. Code points outside printable ASCII are written as 16-bit units of four digits,
two of them for a code point above plane 0. A decimal is written as its coefficient and
its exponent.
-/

namespace FloatingAddress
namespace Json

/-- A 16-bit unit as four digits after a backslash and a letter. -/
def printUnit (n : Nat) : Text :=
  [CodePoint.backslash, 'u'] ++ Numeral.hexPadded 4 n

/-- A code point as it stands inside a string. -/
def printPoint (c : CodePoint) : Text :=
  if c = CodePoint.quotationMark ∨ c = CodePoint.backslash then [CodePoint.backslash, c]
  else if c.val = 0x08 then [CodePoint.backslash, 'b']
  else if c.val = 0x0C then [CodePoint.backslash, 'f']
  else if c.val = 0x0A then [CodePoint.backslash, 'n']
  else if c.val = 0x0D then [CodePoint.backslash, 'r']
  else if c.val = 0x09 then [CodePoint.backslash, 't']
  else if 0x20 ≤ c.val ∧ c.val < 0x7F then [c]
  else if c.val < 0x10000 then printUnit c.val
  else
    printUnit (0xD800 + (c.val - 0x10000) / 0x400)
      ++ printUnit (0xDC00 + (c.val - 0x10000) % 0x400)

/-- A string between its marks. -/
def printString (t : Text) : Text :=
  CodePoint.quotationMark :: t.flatMap printPoint ++ [CodePoint.quotationMark]

/-- A decimal as coefficient and exponent. -/
def printDecimal (d : Decimal) : Text :=
  (if d.negative then "-" else "") ++ Numeral.ofNat d.coefficient ++ "e"
    ++ Numeral.ofInt d.exponent

mutual

/-- A value on one line. -/
def Value.print : Value → Text
  | .null => "null"
  | .bool true => "true"
  | .bool false => "false"
  | .integer n => Numeral.ofInt n
  | .decimal d => printDecimal d
  | .nonFinite word => word.text
  | .string t => printString t
  | .array items => "[" ++ printItems items ++ "]"
  | .object members => "\x7b" ++ printMembers members ++ "\x7d"

/-- The items of an array, a comma and a blank between them. -/
def printItems : List Value → Text
  | [] => []
  | [v] => v.print
  | v :: rest => v.print ++ ", " ++ printItems rest

/-- The members of an object, a comma and a blank between them. -/
def printMembers : List (Text × Value) → Text
  | [] => []
  | [(name, v)] => printString name ++ ": " ++ v.print
  | (name, v) :: rest => printString name ++ ": " ++ v.print ++ ", " ++ printMembers rest

end

end Json
end FloatingAddress
