import FloatingAddress.Address.Reader
import FloatingAddress.Json.Value
import FloatingAddress.Text.Blank

/-!
# Reading the fields of a provider's record

A field is declared as a text, an integer or an address. A value of another kind is taken
if it plainly denotes one: an integer may also be a truth value, a double without a
fraction, or a text that holds a numeral; an address may also be its number.

* `textField`, `integerField`, `addressField`: a field by its name, or what is wrong
  with it;
* `integerOfText`: the numerals that an integer may be written as.
-/

namespace FloatingAddress
namespace Provider

/-- What is wrong with a field. -/
inductive Defect
  | missing
  | notText
  | notInteger
  | notNumeral
  | brokenText
  | fractional
  | notFinite
  | outOfRange
  | notAddress
  | notObject
deriving DecidableEq, Repr

/-- The word for a defect. -/
def Defect.word : Defect → Text
  | missing => "missing"
  | notText => "string_type"
  | notInteger => "int_type"
  | notNumeral => "int_parsing"
  | brokenText => "string_unicode"
  | fractional => "int_from_float"
  | notFinite => "finite_number"
  | outOfRange => "int_parsing_size"
  | notAddress => "ip_any_address"
  | notObject => "model_type"

/-- A declared text. -/
def textOf : Json.Value → Except Defect Text
  | .string t => .ok t
  | _ => .error .notText

/-! ## Integers -/

/-- A numeral without its sign, and whether the sign is a minus. -/
def unsigned (t : Text) : Bool × Text :=
  match t with
  | [] => (false, [])
  | c :: rest =>
      if c = '-' then (true, rest) else if c = '+' then (false, rest) else (false, t)

/-- An integer in its plain form: a minus sign or none, then a single zero or digits that
do not begin with zero. Too many digits are out of range whatever follows them. -/
def plainInteger (t : Text) : Except Defect Int :=
  let negative := decide (t.head? = some ('-' : CodePoint))
  let magnitude := if negative then t.drop 1 else t
  let digits := magnitude.takeWhile CodePoint.isDigit
  if magnitude = ("0" : Text) then .ok 0
  else if digits = [] ∨ digits.head? = some ('0' : CodePoint) then .error .notNumeral
  else if Numeral.maxDigits < digits.length then .error .outOfRange
  else if digits = magnitude then .ok (Numeral.signed negative digits)
  else .error .notNumeral

/-- What follows zeros and underscores, the last of which is given: the number from a
digit or a minus sign on, or that last code point, with a point and all after it if there
is a point. -/
def afterZeros (last : CodePoint) : Text → Option Text
  | [] => some [last]
  | c :: rest =>
      if c = '0' ∨ c = '_' then afterZeros c rest
      else if c.isDigit ∨ c = '-' then some (c :: rest)
      else if c = '.' then some (last :: c :: rest)
      else none

/-- A numeral that begins with a digit, without the zeros that it begins with. -/
def withoutZeros? : Text → Option Text
  | [] => none
  | c :: rest =>
      if c = '0' then afterZeros c rest else if c.isDigit then some (c :: rest) else none

/-- A numeral without a point that only zeros follow. -/
def withoutFraction (t : Text) : Text :=
  match Text.cutAround "." t with
  | none => t
  | some (whole, fraction) =>
      if fraction ≠ [] ∧ (fraction.all fun c => c = '0') then whole else t

/-- A numeral without single underscores inside. -/
def ungrouped (t : Text) : Text :=
  let groups := List.splitOn ('_' : CodePoint) t
  if [] ∈ groups then t else groups.flatten

/-- A numeral brought to its plain form: without white space around it, a plus sign,
zeros in front, a fraction of zeros, and underscores. -/
def tidied? (t : Text) : Option Text :=
  let (negative, magnitude) := unsigned t.trim
  (withoutZeros? magnitude).map fun rest =>
    (if negative then ("-" : Text) else []) ++ ungrouped (withoutFraction rest)

/-- An integer written as a text, in its plain form or in one that can be tidied. -/
def integerOfText (t : Text) : Except Defect Int :=
  if t.any CodePoint.isSurrogate then .error .brokenText
  else
    match plainInteger t with
    | .error .notNumeral =>
        match (tidied? t).map plainInteger with
        | some (.ok n) => .ok n
        | _ => .error .notNumeral
    | read => read

/-- The integer that a double is, if it lies between -2^63 and 2^63. -/
def integerOfFloat (x : Float) : Except Defect Int :=
  match Dyadic.ofFloat? x with
  | none => .error .notFinite
  | some d =>
      match d.toInt? with
      | none => .error .fractional
      | some n => if n.natAbs < 0x8000000000000000 then .ok n else .error .outOfRange

/-- A declared integer. -/
def integerOf : Json.Value → Except Defect Int
  | .integer n => .ok n
  | .bool b => .ok (if b then 1 else 0)
  | .decimal d => integerOfFloat d.toFloat
  | .nonFinite _ => .error .notFinite
  | .string t => integerOfText t
  | .null | .array _ | .object _ => .error .notInteger

/-! ## Addresses -/

/-- A declared address. -/
def addressOf (v : Json.Value) : Except Defect Address :=
  let read : Option Address :=
    match v with
    | .string t => Address.read? t
    | .bool b => Address.ofInt? (if b then 1 else 0)
    | .integer n => Address.ofInt? n
    | _ => none
  match read with
  | some a => .ok a
  | none => .error .notAddress

/-! ## Fields by name -/

/-- The value of the last field with a name, read by the rule of its declaration. -/
def field {α : Type} (rule : Json.Value → Except Defect α) (fields : Json.Members)
    (name : Text) : Except Defect α :=
  match fields.get? name with
  | some v => rule v
  | none => .error .missing

/-- A field that is declared as a text. -/
def textField : Json.Members → Text → Except Defect Text := field textOf

/-- A field that is declared as an integer. -/
def integerField : Json.Members → Text → Except Defect Int := field integerOf

/-- A field that is declared as an address. -/
def addressField : Json.Members → Text → Except Defect Address := field addressOf

/-- A field with what is wrong with it, none or one. -/
def defect {α : Type} (name : Text) : Except Defect α → List (Text × Defect)
  | .ok _ => []
  | .error d => [(name, d)]

end Provider
end FloatingAddress
