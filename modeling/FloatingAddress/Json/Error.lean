import FloatingAddress.Number.Numeral

/-!
# Why a text is not read as JSON

A text may break the grammar, at a place given by line, column and offset. Two more limits
are not part of the grammar: the digits of one integer and the depth of nesting.
-/

namespace FloatingAddress
namespace Json

/-- What the grammar misses or refuses. -/
inductive Reason
  | byteOrderMark
  | expectingValue
  | expectingName
  | expectingColon
  | expectingComma
  | unterminatedString
  | controlCharacter
  | invalidEscape
  | invalidHexEscape
  | extraData
deriving DecidableEq, Repr

/-- The wording of a reason. -/
def Reason.message : Reason → Text
  | byteOrderMark => "Unexpected UTF-8 BOM (decode using utf-8-sig)"
  | expectingValue => "Expecting value"
  | expectingName => "Expecting property name enclosed in double quotes"
  | expectingColon => "Expecting ':' delimiter"
  | expectingComma => "Expecting ',' delimiter"
  | unterminatedString => "Unterminated string starting at"
  | controlCharacter => "Invalid control character at"
  | invalidEscape => "Invalid \\escape"
  | invalidHexEscape => "Invalid \\uXXXX escape"
  | extraData => "Extra data"

/-- A place in a text: lines and columns count from one, offsets from zero. -/
structure Place where
  /-- One more than the line feeds before the place. -/
  line : Nat
  /-- One more than the code points between the last line feed and the place. -/
  column : Nat
  /-- The code points before the place. -/
  offset : Nat
deriving DecidableEq, Repr

/-- The place that follows a number of code points of a text. -/
def Place.after (t : Text) (offset : Nat) : Place :=
  let before := t.take offset
  { line := before.count CodePoint.lineFeed + 1
    column := (before.reverse.takeWhile (· ≠ CodePoint.lineFeed)).length + 1
    offset := offset }

/-- The two kinds of value that hold other values. -/
inductive Container
  | array
  | object
deriving DecidableEq, Repr

/-- The word for a container. -/
def Container.name : Container → Text
  | array => "array"
  | object => "object"

/-- Why a text is not read. -/
inductive ReadError
  | malformed (reason : Reason) (place : Place)
  /-- An integer has more digits than are read as one number. -/
  | numeralTooLong (digits : Nat)
  /-- A container opens below the deepest level that is read. -/
  | nestedTooDeep (container : Container)
deriving DecidableEq, Repr

/-- The message of an integer with too many digits. -/
def numeralTooLongMessage (digits : Nat) : Text :=
  "Exceeds the limit (" ++ Numeral.ofNat Numeral.maxDigits
    ++ " digits) for integer string conversion: value has " ++ Numeral.ofNat digits
    ++ " digits; use sys.set_int_max_str_digits() to increase the limit"

/-- The message of a container that opens too deep. -/
def nestedTooDeepMessage (container : Container) : Text :=
  "maximum recursion depth exceeded while decoding a JSON " ++ container.name
    ++ " from a unicode string"

/-- A reason and its place in one line. -/
def malformedMessage (reason : Reason) (place : Place) : Text :=
  reason.message ++ ": line " ++ Numeral.ofNat place.line ++ " column "
    ++ Numeral.ofNat place.column ++ " (char " ++ Numeral.ofNat place.offset ++ ")"

end Json
end FloatingAddress
