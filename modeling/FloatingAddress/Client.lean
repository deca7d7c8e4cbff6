import FloatingAddress.Config
import FloatingAddress.Identity

/-!
# The client of the web service

A client reads where one failover address is routed, or has it routed to an address. A
call ends with the body of the answer. An error of the connection and a status of 500 or
above are failures of the transport; an answer with any other status is handed on, as the
provider's own errors come with statuses below 500. Where the endpoint or the credentials
cannot be sent, or the endpoint does not tell where an answer comes from, the call ends in
a fault.

* `Client.make`: a client for an address given as text;
* `Client.query`: one call.
-/

namespace FloatingAddress

/-- A client for one failover address. -/
structure Client where
  user : Text
  password : Text
  address : Address
  /-- The web service, without slashes at its end. -/
  baseUrl : Text
  timeout : Seconds
  verbose : Bool
  /-- The local address that requests are sent from, if one is prescribed. -/
  localAddress : Option Text
  source : IdentitySource

/-- What may be chosen for a client. -/
structure ClientOptions where
  baseUrl : Text := defaultBaseUrl
  timeout : Seconds := .real 5.0
  verbose : Bool := false
  /-- The local address that requests are sent from; the wildcard of version 4 keeps
  connections to that version. -/
  localAddress : Option Text := some "0.0.0.0"
  source : IdentitySource := .probed {}

/-- A call: a read, or a write towards an address. -/
structure Call where
  /-- Whether the routing is to be changed. -/
  write : Bool := false
  /-- The address to route to, the own one if none is given; a read has no use for it. -/
  towards : Option Address := none

namespace Client

/-- What the log shows in place of the password. -/
def redacted : Text := "XXXXXX"

/-- The field of a form that names the address to route to. -/
def fieldName : Text := "active_server_ip"

/-- A client for the failover address that a text denotes. -/
def make (user password address : Text) (options : ClientOptions) : Except Fault Client :=
  match Address.read? address with
  | none => .error (.notAddress address)
  | some a =>
      .ok { user, password, address := a
            baseUrl := options.baseUrl.stripEnd fun c => c = '/'
            timeout := options.timeout
            verbose := options.verbose
            localAddress := options.localAddress
            source := options.source }

/-- Where the failover address is found at the web service. -/
def endpoint (c : Client) : Text :=
  c.baseUrl ++ "/failover/" ++ c.address.text

/-- The address that a call routes to; a read has none. A write without an address looks
up the own one. -/
def destination (c : Client) (call : Call) : Action World (Option Address) :=
  if call.write then
    match call.towards with
    | some a => return some a
    | none => do
        let own ← c.source.lookUp
        return some own
  else return none

/-- What a verbose client logs before a request. -/
def announcement (c : Client) (towards : Option Address) : Text :=
  methodName towards.isSome ++ " " ++ c.endpoint ++ " (ipv4, user " ++ c.user ++ ":" ++ redacted
    ++ ")"
    ++ (match towards with
        | none => []
        | some a => (" " : Text) ++ fieldName ++ "=" ++ a.text)

/-- What is logged before a request: the address to route to, and the request itself if
the client is verbose. -/
def announce (c : Client) (towards : Option Address) : Action World Unit := do
  if let some a := towards then
    Action.log .info ("Routing failover IP " ++ c.address.text ++ " to " ++ a.text)
  if c.verbose then
    Action.log .info (c.announcement towards)

/-- The body of a request: a form with the address to route to, or nothing. -/
def formFor (towards : Option Address) : Except Unencodable Text :=
  match towards with
  | none => .ok []
  | some a => Form.encodeField fieldName a.text

/-- The request of a call. It cannot be made if the credentials or the form cannot be
encoded, or if the endpoint is no URL that can be asked for. -/
def request (c : Client) (towards : Option Address) : Except Fault Request := do
  let authorization ← (basicAuthorization c.user c.password).mapError .unencodable
  let url ← (Url.requested c.endpoint).mapError .invalidUrl
  let body ← (formFor towards).mapError .unencodable
  url.checkHost.mapError .invalidUrl
  return { write := towards.isSome, url, authorization, body
           timeout := c.timeout, localAddress := c.localAddress }

/-- A request is sent; it meets the ending that the world has in store. -/
def send (r : Request) : Action World Ending :=
  fun w =>
    let ending := r.met w.reactions.next.offer
    ⟨.ok ending, w.afterRequest, [.requested r ending w.afterRequest.clock]⟩

/-- A failure of the transport. -/
def unreached (c : Client) (write : Bool) (message : Text) : Fault :=
  .failure (.transport message c.endpoint write)

/-- What comes of the ending of a request. -/
def receive (c : Client) (write : Bool) : Ending → Action World Text
  | .raised fault => Action.raise fault
  | .broken e message => do
      Action.log .error ("Request error on " ++ methodName write ++ " " ++ c.endpoint ++ ": "
        ++ e.name ++ "(" ++ message.quoted ++ ")")
      Action.raise (c.unreached write (if message = [] then e.name else message))
  | .answered status body =>
      if 500 ≤ status then do
        Action.log .error ("HTTP " ++ Numeral.ofInt status ++ " on " ++ methodName write ++ " "
          ++ c.endpoint)
        Action.raise (c.unreached write ("HTTP " ++ Numeral.ofInt status))
      else do
        if c.verbose then
          Action.log .info ("JSON response: " ++ body)
        return body

/-- One call: the body of the answer. -/
def query (c : Client) (call : Call) : Action World Text := do
  let towards ← c.destination call
  c.announce towards
  let r ← Action.ofExcept (c.request towards)
  let ending ← send r
  c.receive call.write ending

end Client
end FloatingAddress
