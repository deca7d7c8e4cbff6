import FloatingAddress.Action
import FloatingAddress.Provider.Reply

/-!
# Decoding with its log line

An answer that decodes to a record is logged on one line; one that does not is not logged
here.
-/

namespace FloatingAddress
namespace Provider

variable {σ : Type}

/-- A decoded answer and its log line. -/
def logReply (result : Except Fault Reply) : Action σ Reply := do
  let reply ← Action.ofExcept result
  Action.log reply.severity reply.summary
  return reply

/-- The record in a body. -/
def decode (body : Text) : Action σ Reply :=
  logReply (Reply.decode body)

/-- The record in a body that may not even be a text. -/
def decodeValue (body : Json.Value) : Action σ Reply :=
  logReply (Reply.decodeValue body)

end Provider
end FloatingAddress
