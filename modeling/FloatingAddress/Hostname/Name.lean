import FloatingAddress.Hostname.Label
import FloatingAddress.Text.Lower

/-!
# Host names beyond ASCII

A host name is a row of labels with dots between them; three more code points count as
dots. One dot at the end adds no label.

* `Hostname.encode`: a host name as it travels, in ASCII;
* `Hostname.decode`: the host name that travels so.
-/

namespace FloatingAddress
namespace Hostname

/-- What is wrong with a host name. -/
inductive Problem
  | tooLong
  | empty
  | label (problem : Label.Problem)
deriving DecidableEq

namespace Problem

/-- The name of the kind of a problem. -/
def kind : Problem → Text
  | label problem => problem.kind
  | _ => "IDNAError"

/-- The wording of a problem. -/
def message : Problem → Text
  | tooLong => "Domain too long"
  | empty => "Empty domain"
  | label problem => problem.message

end Problem

/-- The most characters that a host name has, a dot at its end left out. -/
def maxLength : Nat := 253

/-- A dot: the full stop, the ideographic one, and their forms of other width. -/
def isDot (c : CodePoint) : Bool :=
  c = '.' || c = '。' || c = '．' || c = '｡'

/-- The labels of a host name, and whether a dot follows them. -/
def labels (name : Text) : List Text × Bool :=
  let parts := List.splitOn ('.' : CodePoint)
    (name.map fun c => if isDot c then ('.' : CodePoint) else c)
  if parts.getLast? = some [] then (parts.dropLast, true) else (parts, false)

/-- The labels of a host name put together, each recoded by a rule. -/
def recoded (rule : Text → Except Label.Problem Text) (name : Text) :
    Except Problem Text := do
  if maxLength + 1 < name.length then throw .tooLong
  if name = [] then throw .empty
  let (parts, dotted) := labels name
  let parts ← (parts.mapM rule).mapError .label
  return List.intercalate "." (if dotted then parts ++ [[]] else parts)

/-- The host name that travels in a form, in whichever case. -/
def decode (name : Text) : Except Problem Text :=
  recoded Label.decode name.toLower

/-- A host name as it travels, in ASCII. -/
def encode (name : Text) : Except Problem Text := do
  let encoded ← recoded Label.encode name.lowered
  let limit := if encoded.getLast? = some ('.' : CodePoint) then maxLength + 1 else maxLength
  if limit < encoded.length then throw .tooLong
  return encoded

end Hostname
end FloatingAddress
