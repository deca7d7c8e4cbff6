import FloatingAddress.Address.Basic
import FloatingAddress.Number.Numeral
import FloatingAddress.Text.Quoted

/-!
# Reading addresses

* Version 4: four parts of one to three ASCII digits between points, at most 255 and
  without a leading zero.
* Version 6: eight groups of one to four digits of base sixteen between colons. A double
  colon may stand once, for one or more zero groups, and the last two groups may be written
  as an address of version 4. A scope may follow a percent sign.

There are no blanks, and a slash makes any text invalid.
-/

namespace FloatingAddress

/-- One part of an address of version 4. -/
def V4.readOctet? (t : Text) : Option (Fin 0x100) :=
  if t ≠ [] ∧ t.all CodePoint.isDigit ∧ t.length ≤ 3
      ∧ (t.head? = some ('0' : CodePoint) → t.length = 1) then
    if h : Numeral.value t < 0x100 then some ⟨Numeral.value t, h⟩ else none
  else none

/-- An address of version 4. -/
def V4.read? (t : Text) : Option V4 := do
  let octets ← (List.splitOn ('.' : CodePoint) t).mapM readOctet?
  if h : octets.length = 4 then return ⟨octets, h⟩ else none

namespace V6

/-- One group of an address of version 6. -/
def readGroup? (t : Text) : Option (Fin 0x10000) := do
  let digits ← t.mapM Numeral.hexDigit?
  let n := digits.foldl (fun n digit => 0x10 * n + digit) 0
  if h : n < 0x10000 then
    if t ≠ [] ∧ t.length ≤ 4 then return ⟨n, h⟩ else none
  else none

/-- The two groups that hold the octets of an address of version 4. -/
def ofTail (a : V4) : List (Fin 0x10000) :=
  match a.octets with
  | [a, b, c, d] =>
      [⟨a.val * 0x100 + b.val, by omega⟩, ⟨c.val * 0x100 + d.val, by omega⟩]
  | _ => []

/-- Parts of an address of version 6; the last may be an address of version 4. -/
def readParts? : List Text → Option (List (Fin 0x10000))
  | [] => some []
  | [last] =>
      if ('.' : CodePoint) ∈ last then (V4.read? last).map ofTail
      else (readGroup? last).map fun group => [group]
  | part :: parts => do
      let group ← readGroup? part
      let groups ← readParts? parts
      return group :: groups

/-- The groups on one side of a double colon, none if there is no text. -/
def readSide? (read : List Text → Option (List (Fin 0x10000))) (t : Text) :
    Option (List (Fin 0x10000)) :=
  if t = [] then some [] else read (List.splitOn (':' : CodePoint) t)

/-- The groups of an address. A double colon stands for the groups that are missing; in
front of it no part is an address of version 4. -/
def readGroups? (t : Text) : Option (List (Fin 0x10000)) :=
  match Text.cutAround "::" t with
  | none => readParts? (List.splitOn (':' : CodePoint) t)
  | some (before, after) => do
      let left ← readSide? (List.mapM readGroup?) before
      let right ← readSide? readParts? after
      if left.length + right.length < 8 then
        return left ++ List.replicate (8 - (left.length + right.length)) zeroGroup ++ right
      else none

/-- The name of a scope. -/
def readScope? (t : Text) : Option Scope :=
  if h : t ≠ [] ∧ ('%' : CodePoint) ∉ t ∧ ('/' : CodePoint) ∉ t then
    some ⟨t, h.1, h.2.1, h.2.2⟩
  else none

/-- An address without its scope. -/
def withScope? (scope : Option Scope) (t : Text) : Option V6 := do
  let groups ← readGroups? t
  if h : groups.length = 8 then return ⟨groups, h, scope⟩ else none

/-- An address of version 6. -/
def read? (t : Text) : Option V6 :=
  match Text.cutAround "%" t with
  | none => withScope? none t
  | some (front, name) => do
      let scope ← readScope? name
      withScope? (some scope) front

end V6

/-- An address of either version. -/
def Address.read? (t : Text) : Option Address :=
  match V4.read? t with
  | some a => some (.v4 a)
  | none => (V6.read? t).map .v6

/-- The message for a text that is no address. -/
def Address.unreadableMessage (t : Text) : Text :=
  t.quoted ++ " does not appear to be an IPv4 or IPv6 address"

end FloatingAddress
