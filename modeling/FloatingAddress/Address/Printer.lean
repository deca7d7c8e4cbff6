import FloatingAddress.Address.Basic
import FloatingAddress.Number.Numeral

/-!
# Writing addresses

Octets are written in base ten between points, groups in base sixteen between colons.
The longest run of two or more zero groups, the leftmost of several, is written as a
double colon. A scope follows a percent sign.

* `zeroRun`: how many zero groups a list of groups starts with;
* `longestRun`: where the run lies that is left out, and how long it is;
* `Address.text`: the one written form of an address.
-/

namespace FloatingAddress

/-- Octets in base ten between points. -/
def V4.text (a : V4) : Text :=
  List.intercalate "." (a.octets.map fun octet => Numeral.ofNat octet.val)

namespace V6

/-- How many zero groups a list starts with. -/
def zeroRun (groups : List (Fin 0x10000)) : Nat :=
  (groups.takeWhile (· = zeroGroup)).length

/-- Start and length of the longest run of zero groups, the leftmost of several. -/
def longestRun : List (Fin 0x10000) → Nat × Nat
  | [] => (0, 0)
  | g :: rest =>
      let later := longestRun rest
      if later.2 ≤ zeroRun (g :: rest) then (0, zeroRun (g :: rest))
      else (later.1 + 1, later.2)

/-- Groups in base sixteen between colons. -/
def joinGroups (groups : List (Fin 0x10000)) : Text :=
  List.intercalate ":" (groups.map fun group => Numeral.hex group.val)

/-- All groups, with a double colon in place of the longest run of two or more zeros. -/
def groupsText (groups : List (Fin 0x10000)) : Text :=
  let run := longestRun groups
  if run.2 < 2 then joinGroups groups
  else joinGroups (groups.take run.1) ++ "::" ++ joinGroups (groups.drop (run.1 + run.2))

/-- The groups, and the scope after a percent sign. -/
def text (a : V6) : Text :=
  match a.scope with
  | none => groupsText a.groups
  | some scope => groupsText a.groups ++ "%" ++ scope.name

end V6

/-- The one written form of an address. -/
def Address.text : Address → Text
  | v4 a => a.text
  | v6 a => a.text

end FloatingAddress
