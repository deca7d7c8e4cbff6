import FloatingAddress.Json.Value
import FloatingAddress.Number.Shortest
import FloatingAddress.Text.Quoted

/-!
# Values in messages

A message shows a value on one line: a text quoted, a number with a point or an exponent
as the double that it is read as, and of members with one name the last value, at the
place of the first.
-/

namespace FloatingAddress
namespace Json

/-- Members with one more, which takes the place of one with its name or comes last. -/
def put {α : Type} (member : Text × α) : List (Text × α) → List (Text × α)
  | [] => [member]
  | m :: rest => if m.1 = member.1 then member :: rest else m :: put member rest

/-- Members with each name once, at its first place and with its last value. -/
def settled {α : Type} (members : List (Text × α)) : List (Text × α) :=
  members.foldl (fun kept member => put member kept) []

/-- Parts with a comma and a blank between them. -/
def listed (parts : List Text) : Text :=
  List.intercalate ", " parts

/-- A name and a shown value as a member. -/
def shownMember (member : Text × Text) : Text :=
  member.1.quoted ++ ": " ++ member.2

mutual

/-- A value as messages show it. -/
def Value.shown : Value → Text
  | .null => "None"
  | .bool true => "True"
  | .bool false => "False"
  | .integer n => Numeral.ofInt n
  | .decimal d => floatText d.toFloat
  | .nonFinite word => floatText word.toFloat
  | .string t => t.quoted
  | .array items => "[" ++ listed (shownItems items) ++ "]"
  | .object members =>
      "\x7b" ++ listed ((settled (shownMembers members)).map shownMember) ++ "\x7d"

/-- Each item of an array as messages show it. -/
def shownItems : List Value → List Text
  | [] => []
  | v :: rest => v.shown :: shownItems rest

/-- Each member of an object with its value as messages show it. -/
def shownMembers : List (Text × Value) → List (Text × Text)
  | [] => []
  | (name, v) :: rest => (name, v.shown) :: shownMembers rest

end

end Json
end FloatingAddress
