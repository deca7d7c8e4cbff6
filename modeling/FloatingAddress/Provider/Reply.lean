import FloatingAddress.Failure
import FloatingAddress.Json.Reader
import FloatingAddress.Logging

/-!
# Decoding an answer

The body of an answer is an object. If its `error` member is there and not null, the
answer is an error record, whatever else the object holds; otherwise, if its `failover`
member is there and not null, it is a failover record. Anything else is malformed.
-/

namespace FloatingAddress
namespace Provider

/-- A decoded answer. -/
inductive Reply
  | failover (record : FailoverRecord)
  | error (record : ErrorRecord)
deriving DecidableEq

namespace Reply

/-- A member of an object, unless it is null. -/
def present? (members : Json.Members) (name : Text) : Option Json.Value :=
  match members.get? name with
  | some .null => none
  | found => found

/-- The record in an object. -/
def ofMembers (members : Json.Members) : Except BodyProblem Reply :=
  match present? members "error" with
  | some v =>
      match ErrorRecord.ofValue v with
      | .ok record => .ok (.error record)
      | .error defects => .error (.invalidError defects)
  | none =>
      match present? members "failover" with
      | some v =>
          match FailoverRecord.ofValue v with
          | .ok record => .ok (.failover record)
          | .error defects => .error (.invalidFailover defects)
      | none => .error .unknownShape

/-- The record in a JSON value. -/
def ofValue : Json.Value → Except BodyProblem Reply
  | .object members => ofMembers members
  | v => .error (.notObject v.kindName)

/-- A body that breaks the grammar of JSON is a failure; one that exceeds a limit of the
reader is a fault. -/
def faultOf : Json.ReadError → Fault
  | .malformed reason place => .failure (.malformedResponse (.notJson reason place))
  | .numeralTooLong digits => .numeralTooLong digits
  | .nestedTooDeep container => .nestedTooDeep container

/-- The record in a body. -/
def decode (body : Text) : Except Fault Reply :=
  match Json.read body with
  | .error e => .error (faultOf e)
  | .ok v =>
      match ofValue v with
      | .error problem => .error (.failure (.malformedResponse problem))
      | .ok reply => .ok reply

/-- The record in a body that may not even be a text. -/
def decodeValue : Json.Value → Except Fault Reply
  | .string body => decode body
  | v => .error (.failure (.malformedResponse (.notText v.kindName)))

/-- How severe the log line for an answer is. -/
def severity : Reply → Severity
  | failover _ => .info
  | error _ => .error

/-- The log line for an answer. -/
def summary : Reply → Text
  | failover record => "Result of the failover query was: " ++ record.summary
  | error record => "There was an error accessing the Hetzner API! " ++ record.summary

end Reply
end Provider
end FloatingAddress
