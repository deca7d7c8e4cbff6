import FloatingAddress.Number.Decimal

/-!
# JSON values

Numerals are kept exactly: an integer as an integer, a numeral with a point or an
exponent as a decimal. The members of an object are kept in the order of the text,
repeated names included; `Members.get?` lets the last one of a name win.
-/

namespace FloatingAddress
namespace Json

/-- The three words for numbers that no numeral denotes. -/
inductive NonFinite
  | notANumber
  | infinity
  | negativeInfinity
deriving DecidableEq, Repr

/-- A JSON value. -/
inductive Value
  | null
  | bool (b : Bool)
  | integer (n : Int)
  | decimal (d : Decimal)
  | nonFinite (word : NonFinite)
  | string (t : Text)
  | array (items : List Value)
  | object (members : List (Text × Value))

/-- The members of an object, in the order of the text. -/
abbrev Members := List (Text × Value)

/-- The value of the last member with a name. -/
def Members.get? (name : Text) : Members → Option Value
  | [] => none
  | (key, v) :: rest =>
      match Members.get? name rest with
      | some w => some w
      | none => if key = name then some v else none

namespace NonFinite

/-- How the word is written. -/
def text : NonFinite → Text
  | notANumber => "NaN"
  | infinity => "Infinity"
  | negativeInfinity => "-Infinity"

/-- The double that the word stands for. -/
def toFloat : NonFinite → Float
  | notANumber => Decimal.notANumber
  | infinity => Decimal.infinity
  | negativeInfinity => -Decimal.infinity

end NonFinite

namespace Value

/-- The word that messages use for the kind of a value. -/
def kindName : Value → Text
  | null => "NoneType"
  | bool _ => "bool"
  | integer _ => "int"
  | decimal _ | nonFinite _ => "float"
  | string _ => "str"
  | array _ => "list"
  | object _ => "dict"

end Value
end Json
end FloatingAddress
