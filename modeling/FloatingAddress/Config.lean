import FloatingAddress.Failure
import FloatingAddress.Logging
import FloatingAddress.Number.Seconds

/-!
# Configuration

What has to be known to keep a failover address: the address, the provider and the
credentials there, time limits, the probe of the own address, and logging. `validate`
checks that a configuration is usable and names the first thing that is wrong.
-/

namespace FloatingAddress

/-- The web service of the provider. -/
def defaultBaseUrl : Text := "https://robot-ws.your-server.de"

/-- A configuration, by default all but usable: only address and credentials are missing. -/
structure Config where
  address : Text := []
  hosting : Text := Hosting.hetzner.word
  user : Text := []
  password : Text := []
  baseUrl : Text := defaultBaseUrl
  /-- How long each phase of a request may take. -/
  timeout : Seconds := .real 5.0
  /-- How long an answer of the provider is trusted. -/
  statusTtl : Seconds := .whole 3600
  /-- The host that the own address is found by. -/
  probeHost : Text := "8.8.8.8"
  /-- The UDP port on that host. -/
  probePort : Int := 80
  probeTimeout : Seconds := .real 2.0
  verbose : Bool := false
  /-- The word for a level of logging. -/
  logLevel : Text := Level.info.word
  /-- The file that is logged to as well. -/
  logFile : Text := []

namespace Config

/-- The web service without the slashes at its end, and the path of an address there. -/
def endpointAt (baseUrl : Text) (address : Address) : Text :=
  baseUrl.stripEnd (fun c => c = '/') ++ "/failover/" ++ address.text

/-- The failover address. -/
def readAddress (c : Config) : Except ConfigProblem Address :=
  match Address.read? c.address with
  | some a => .ok a
  | none => .error (.addressUnreadable c.address)

/-- Where the failover address is found at the web service. -/
def endpoint (c : Config) : Except ConfigProblem Text := do
  let a ← c.readAddress
  return endpointAt c.baseUrl a

/-- The hosting type. -/
def readHosting (c : Config) : Except ConfigProblem Hosting :=
  match Hosting.choices.find? c.hosting with
  | some hosting => .ok hosting
  | none => .error (.hostingUnknown c.hosting)

/-- The first thing that makes a configuration unusable: no address, an address that is
none, an unknown hosting type, missing credentials, a time limit that is not positive. -/
def validate (c : Config) : Except ConfigProblem Unit := do
  if c.address = [] then throw .addressMissing
  let _ ← c.readAddress
  let hosting ← c.readHosting
  if hosting = .hetzner ∧ (c.user = [] ∨ c.password = []) then throw .credentialsMissing
  if c.timeout.IsNonPositive then throw .timeoutNotPositive

end Config
end FloatingAddress
