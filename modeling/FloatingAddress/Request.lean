import FloatingAddress.Failure
import FloatingAddress.Number.Seconds
import FloatingAddress.Text.Base64
import FloatingAddress.Text.Form

/-!
# Requests and how they end

A request reads or changes where a failover address is routed. It ends in an answer, in
an error of the connection, or in a fault from outside. The ending that the world has in store
for a request is the one that it meets, but for an answer that cannot be taken; *answered* is
a request that meets an answer.
-/

namespace FloatingAddress

/-- A request to the web service. -/
structure Request where
  /-- Whether the request changes the routing. -/
  write : Bool
  url : Url
  authorization : Text
  /-- The encoded form that it carries, empty for a read. -/
  body : Text
  timeout : Seconds
  /-- The local address that it is sent from, if one is prescribed. -/
  localAddress : Option Text

/-- The method of a read or a write. -/
def methodName (write : Bool) : Text :=
  if write then "POST" else "GET"

/-- The media type of the body, if there is a body. -/
def Request.contentType (r : Request) : Option Text :=
  if r.write then some Form.mediaType else none

/-- The authorization of a user with a password. -/
def basicAuthorization (user password : Text) : Except Unencodable Text := do
  let user ← Utf8.encode user
  let password ← Utf8.encode password
  return "Basic " ++ Base64.encode (user ++ UInt8.ofNat 0x3A :: password)

/-- An error of the connection, by the name of its kind. There is no last kind: what makes the
connection may bring kinds of its own. -/
structure ConnectionError where
  name : Text
deriving DecidableEq

namespace ConnectionError

/-- No connection comes about. -/
def connect : ConnectionError := ⟨"ConnectError"⟩

/-- The names of the usual kinds. -/
def usualNames : List Text :=
  ["ConnectError", "ReadTimeout", "ConnectTimeout", "WriteTimeout", "PoolTimeout", "ReadError",
   "WriteError", "CloseError", "ProxyError", "UnsupportedProtocol", "DecodingError",
   "TooManyRedirects", "LocalProtocolError", "RemoteProtocolError"]

/-- The error of a usual kind. -/
def ofName? (name : Text) : Option ConnectionError :=
  (usualNames.find? fun usual => usual = name).map fun usual => ⟨usual⟩

end ConnectionError

/-- An ending of a request: the one that is in store for it, or the one that it meets. -/
inductive Ending
  | answered (status : Int) (body : Text)
  | broken (error : ConnectionError) (message : Text)
  /-- Something outside the connection fails. -/
  | raised (fault : Fault)
deriving DecidableEq

/-- The ending by an answer. An answer whose body has no bytes cannot be given. -/
def Ending.answer (status : Int) (body : Text) : Ending :=
  match Encoding.utf8.unencodable? body with
  | some run => .raised (.unencodable run)
  | none => .answered status body

/-- How a request ends for which an ending is in store. It is answered by an answer in store only
if its URL tells where that answer comes from. -/
def Request.met (r : Request) : Ending → Ending
  | .answered status body =>
      if r.url.IsAbsolute then .answered status body
      else .raised (.invalidUrl (.unknownType r.url.text))
  | ending => ending

end FloatingAddress
