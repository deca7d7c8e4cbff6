import FloatingAddress.Hosting
import FloatingAddress.Json.Error
import FloatingAddress.Provider.Record
import FloatingAddress.SystemError
import FloatingAddress.Url

/-!
# Failures and faults

A *failure* is an expected way for an operation on a failover address to go wrong: bad
configuration, an unknown own address, an unreachable provider, an answer that cannot be
used. Failures form one family, whose members are the kinds below; an operation that
reports by yes or no turns any of them into a no.

A *fault* is anything that ends an operation: a failure, or something outside the family,
which no operation handles.

* `Failure.message`, `Failure.kind`, `Kind.ancestry`: wording and family of a failure;
* `Failure.trace`: a failure after the chain of failures that caused it;
* `Fault.message`, `Fault.label`: wording and name of a fault.
-/

namespace FloatingAddress

/-- Why a configuration is refused. -/
inductive ConfigProblem
  | addressMissing
  | addressUnreadable (address : Text)
  | hostingUnknown (hosting : Text)
  | credentialsMissing
  | timeoutNotPositive
  | hostingNotProvided (hosting : Hosting)
  /-- A problem in words of its own. -/
  | stated (message : Text)
deriving DecidableEq

/-- The wording of a problem. -/
def ConfigProblem.message : ConfigProblem → Text
  | addressMissing => "VIP is not set"
  | addressUnreadable address =>
      "Invalid VIP '" ++ address ++ "': " ++ Address.unreadableMessage address
  | hostingUnknown hosting => "Unknown hosting type '" ++ hosting ++ "'"
  | credentialsMissing =>
      "HETZNER_USER and HETZNER_PASSWORD are required for hosting type 'hetzner'"
  | timeoutNotPositive => "API_TIMEOUT_SECONDS must be positive"
  | hostingNotProvided hosting =>
      "Hosting type '" ++ hosting.word ++ "' is not provided by vipfailover"
  | stated message => message

/-- Why the body of an answer is no record. -/
inductive BodyProblem
  /-- The body is not even a text, but a value of the kind named. -/
  | notText (kindName : Text)
  | notJson (reason : Json.Reason) (place : Json.Place)
  /-- The body is a value of the kind named, and no object. -/
  | notObject (kindName : Text)
  | invalidError (defects : Provider.Defects)
  | invalidFailover (defects : Provider.Defects)
  | unknownShape
  /-- A problem in words of its own. -/
  | stated (message : Text)
deriving DecidableEq

namespace BodyProblem

/-- The wording of a problem. -/
def message : BodyProblem → Text
  | notText kindName =>
      "Response is not valid JSON: the JSON object must be str, bytes or bytearray, not "
        ++ kindName
  | notJson reason place => "Response is not valid JSON: " ++ Json.malformedMessage reason place
  | notObject kindName => "Expected a JSON object, got " ++ kindName
  | invalidError defects =>
      "Invalid error response: " ++ Provider.defectsMessage "APIErrorRecord" defects
  | invalidFailover defects =>
      "Invalid failover response: " ++ Provider.defectsMessage "FailoverRecord" defects
  | unknownShape => "Response matched neither known shape"
  | stated message => message

/-- The defective fields, if fields are what is wrong. -/
def defects? : BodyProblem → Option Provider.Defects
  | invalidError defects | invalidFailover defects => some defects
  | _ => none

end BodyProblem

/-- The members of the family. -/
inductive Kind
  | failover
  | config
  | identityUnresolved
  | noRoute
  | transport
  | malformedResponse
  | provider
  | ownershipMismatch
deriving DecidableEq, Repr

namespace Kind

/-- The name of a member. -/
def name : Kind → Text
  | failover => "FailoverError"
  | config => "ConfigError"
  | identityUnresolved => "IdentityUnresolvedError"
  | noRoute => "NoRouteError"
  | transport => "TransportError"
  | malformedResponse => "MalformedResponseError"
  | provider => "ProviderError"
  | ownershipMismatch => "OwnershipMismatchError"

/-- A member and what it is a special case of, up to the head of the family. -/
def ancestry : Kind → List Kind
  | failover => [failover]
  | noRoute => [noRoute, identityUnresolved, failover]
  | kind => [kind, failover]

end Kind

/-- An expected way for an operation to go wrong. -/
inductive Failure
  | unspecified (message : Text)
  | config (problem : ConfigProblem)
  | identityUnresolved (message : Text)
  | noRoute (probe reason : Text)
  | transport (message endpoint : Text) (write : Bool)
  | malformedResponse (problem : BodyProblem)
  | provider (status : Int) (code message : Text)
  /-- The address is routed elsewhere after it was claimed. -/
  | ownershipMismatch (expected actual : Text)
deriving DecidableEq

namespace Failure

/-- The kind of a failure. -/
def kind : Failure → Kind
  | unspecified _ => .failover
  | config _ => .config
  | identityUnresolved _ => .identityUnresolved
  | noRoute _ _ => .noRoute
  | transport _ _ _ => .transport
  | malformedResponse _ => .malformedResponse
  | provider _ _ _ => .provider
  | ownershipMismatch _ _ => .ownershipMismatch

/-- The wording of a failure. -/
def message : Failure → Text
  | unspecified message => message
  | config problem => problem.message
  | identityUnresolved message => message
  | noRoute probe reason => "No route to " ++ probe ++ ": " ++ reason
  | transport message endpoint write =>
      (if write then "write" else "read") ++ " " ++ endpoint ++ " failed: " ++ message
  | malformedResponse problem => problem.message
  | provider status code message =>
      "API error " ++ Numeral.ofInt status ++ " " ++ code ++ ": " ++ message
  | ownershipMismatch expected actual =>
      "Failover destination is " ++ actual ++ ", expected " ++ expected

/-- A failure on a line of its own, without a colon if it has no wording. -/
def line (f : Failure) : Text :=
  "vipfailover.exceptions." ++ f.kind.name
    ++ (if f.message = [] then [] else (": " : Text) ++ f.message) ++ [CodePoint.lineFeed]

/-- What stands between a failure and the one that it caused. -/
def causeSeparator : Text :=
  "\nThe above exception was the direct cause of the following exception:\n\n"

/-- A failure after the failures that caused it, each named before what it caused. The
list gives the nearest cause first. -/
def trace (f : Failure) : List Failure → Text
  | [] => f.line
  | cause :: causes => trace cause causes ++ causeSeparator ++ f.line

end Failure

/-- Anything that ends an operation. -/
inductive Fault
  | failure (f : Failure)
  | numeralTooLong (digits : Nat)
  | nestedTooDeep (container : Json.Container)
  | notAddress (t : Text)
  /-- A value that has to be one of a few choices is none. -/
  | notAChoice (refusal : Refusal)
  /-- The endpoint is no URL that can be asked for. -/
  | invalidUrl (problem : Url.Problem)
  /-- A text that has to be sent holds surrogates. -/
  | unencodable (run : Unencodable)
  | system (error : SystemError)
  /-- A fault from outside, with its name and wording. -/
  | foreign (label message : Text)
deriving DecidableEq

namespace Fault

/-- The name of a fault. -/
def label : Fault → Text
  | failure f => f.kind.name
  | numeralTooLong _ | notAddress _ | notAChoice _ => "ValueError"
  | nestedTooDeep _ => "RecursionError"
  | invalidUrl problem => problem.kind
  | unencodable _ => "UnicodeEncodeError"
  | system error => error.name
  | foreign label _ => label

/-- The wording of a fault. -/
def message : Fault → Text
  | failure f => f.message
  | numeralTooLong digits => Json.numeralTooLongMessage digits
  | nestedTooDeep container => Json.nestedTooDeepMessage container
  | notAddress t => Address.unreadableMessage t
  | notAChoice refusal => refusal.message
  | invalidUrl problem => problem.message
  | unencodable run => run.message
  | system error => error.message
  | foreign _ message => message

end Fault
end FloatingAddress
