import FloatingAddress.Client
import FloatingAddress.Provider.Decoding

/-!
# Keeping a failover address

A keeper holds a belief about whether the failover address is routed to its own node, and
the time of the provider's last answer. A belief is trusted until the answer is older
than a limit. Typed operations (`refresh`, `claim`) end in a record or a fault; those of
the leader's loop (`query`, `configure`, `deconfigure`) answer yes or no and turn every
failure into a no.

* `Keeper.refresh`: reads the routing and believes the answer;
* `Keeper.claim`: has the address routed to the own node and checks the answer;
* `Keeper.query`, `Keeper.configure`, `Keeper.deconfigure`: the leader's operations;
* `Config.keeper`: the keeper for a configuration;
* `Config.appoint`: the same, read from a configuration at hand.
-/

namespace FloatingAddress

/-- What a node believes about the routing of the failover address. -/
inductive Belief
  /-- Nothing; the provider has to be asked. -/
  | unknown
  | configured
  | released
deriving DecidableEq, Repr

namespace Belief

/-- The word for a belief. -/
def word : Belief → Text
  | unknown => "unknown"
  | configured => "configured"
  | released => "released"

/-- The name of a belief. -/
def name : Belief → Text
  | unknown => "UNKNOWN"
  | configured => "CONFIGURED"
  | released => "RELEASED"

/-- All beliefs. -/
def choices : Choices Belief where
  title := "OwnershipState"
  all := [unknown, configured, released]
  name := name
  word := word

end Belief

/-- A belief and the time of the provider's last answer. -/
structure Status where
  belief : Belief := .unknown
  /-- When the provider last answered; nothing if it never did. -/
  checkedAt : Option Float := none

/-- A keeper's status and the world around it. -/
structure Situation where
  status : Status
  world : World

/-- A keeper of a failover address. -/
structure Keeper where
  client : Client
  /-- How long an answer of the provider is trusted. -/
  ttl : Seconds := .whole 3600
  /-- How the own address is learned, as a rule in the way in which the client learns it. -/
  source : IdentitySource := client.source

namespace Keeper

open Provider

/-! ## Parts of the operations -/

/-- An action on the world alone. -/
def outside {α : Type} (a : Action World α) : Action Situation α :=
  fun s =>
    let outcome := a s.world
    ⟨outcome.result, { s with world := outcome.state }, outcome.events⟩

/-- From now on something is believed. -/
def believe (belief : Belief) : Action Situation Unit :=
  Action.modify fun s => { s with status := { s.status with belief } }

/-- The provider has answered, at the present time. -/
def markChecked : Action Situation Unit :=
  Action.modify fun s => { s with status := { s.status with checkedAt := some s.world.clock } }

/-- A failure leaves no belief behind. -/
def forgetting {α : Type} (a : Action Situation α) : Action Situation α :=
  a.recover fun f => do
    believe .unknown
    Action.raise (.failure f)

/-- A failover record; the provider's own error is a failure. -/
def expectFailover : Reply → Except Fault FailoverRecord
  | .failover record => .ok record
  | .error record => .error (.failure (.provider record.status record.code record.message))

/-- One call, and the failover record in its answer. The provider has answered, whatever
the answer says. -/
def ask (k : Keeper) (call : Call) : Action Situation FailoverRecord := do
  let body ← outside (k.client.query call)
  markChecked
  let reply ← decode body
  Action.ofExcept (expectFailover reply)

/-- The own address. -/
def lookUp (k : Keeper) : Action Situation Address :=
  outside k.source.lookUp

/-! ## Typed operations -/

/-- Reads the routing and believes it, whatever was believed before. -/
def refresh (k : Keeper) : Action Situation FailoverRecord :=
  forgetting do
    let record ← k.ask {}
    let own ← k.lookUp
    believe (if record.activeServerIp = own then .configured else .released)
    return record

/-- Has the address routed to the own node, and believes so if the answer says so. -/
def claim (k : Keeper) : Action Situation FailoverRecord :=
  forgetting do
    let own ← k.lookUp
    let record ← k.ask { write := true, towards := some own }
    if record.activeServerIp = own then
      believe .configured
      return record
    else
      Action.raise (.failure (.ownershipMismatch own.text record.activeServerIp.text))

/-! ## The leader's operations -/

/-- The provider never answered, or its last answer is too old at a time. -/
def Expired (k : Keeper) (status : Status) (now : Float) : Prop :=
  match status.checkedAt with
  | none => True
  | some t => k.ttl.IsReachedBy (now - t)

instance (k : Keeper) : (status : Status) → (now : Float) → Decidable (k.Expired status now)
  | ⟨_, none⟩, _ => inferInstanceAs (Decidable True)
  | ⟨_, some t⟩, now => inferInstanceAs (Decidable (k.ttl.IsReachedBy (now - t)))

/-- Whether the address is routed to this node, asked from the provider. -/
def recheck (k : Keeper) : Action Situation Bool :=
  Action.recover
    (do
      let _ ← k.refresh
      let s ← Action.get
      return decide (s.status.belief = .configured))
    fun f => do
      Action.log .warning ("Could not verify ownership of " ++ k.client.address.text ++ " via "
        ++ k.client.endpoint ++ ": " ++ f.message)
      return false

/-- Whether the address is routed to this node. The belief is the answer as long as the
provider's last answer is trusted. -/
def query (k : Keeper) : Action Situation Bool := do
  let s ← Action.get
  if k.Expired s.status s.world.clock then
    if s.status.checkedAt.isSome then
      Action.log .info "Cached failover state was too old, rechecking"
    believe .unknown
    k.recheck
  else
    match s.status.belief with
    | .configured => return true
    | .released => return false
    | .unknown => k.recheck

/-- The log of a claim that failed. -/
def logRefusal (k : Keeper) : Failure → Action Situation Unit
  | .ownershipMismatch expected actual =>
      Action.log .warning
        ("The failover command was issued, but the current failover destination (" ++ actual
          ++ ") is different from what it should be (" ++ expected ++ ").")
  | f => do
      Action.log .error ("Error while configuring failover IP " ++ k.client.address.text ++ ": "
        ++ f.message)
      Action.logTrace .debug f

/-- Claims the address; whether it is now routed to this node. -/
def configure (k : Keeper) : Action Situation Bool :=
  Action.recover
    (do
      let _ ← k.claim
      Action.log .info ("Failover of " ++ k.client.address.text
        ++ " was successfully executed!")
      return true)
    fun f => do
      k.logRefusal f
      return false

/-- Gives the address up; the next leader claims it from the provider. -/
def deconfigure : Action Situation Bool := do
  believe .released
  return true

end Keeper

/-! ## The keeper for a configuration -/

namespace Config

/-- The probe that a configuration describes. -/
def probe (c : Config) : Probe :=
  { host := c.probeHost, port := c.probePort, timeout := c.probeTimeout }

/-- The choices for a client that a configuration makes. -/
def clientOptions (c : Config) : ClientOptions :=
  { baseUrl := c.baseUrl, timeout := c.timeout, verbose := c.verbose
    source := .probed c.probe }

/-- A refused configuration is a failure. -/
def refuse {α : Type} (result : Except ConfigProblem α) : Except Fault α :=
  result.mapError fun problem => .failure (.config problem)

/-- The keeper for a configuration that is usable and leaves the routing to the provider. -/
def keeper (c : Config) : Except Fault Keeper := do
  refuse c.validate
  match ← refuse c.readHosting with
  | .hetzner =>
      let a ← refuse c.readAddress
      let client ← Client.make c.user c.password a.text c.clientOptions
      return { client, ttl := c.statusTtl, source := .probed c.probe }
  | .basic => throw (.failure (.config (.hostingNotProvided .basic)))

/-- A setting of the configuration at hand; a problem with it is a failure. -/
def setting {α : Type} (read : Config → Except ConfigProblem α) : Action Config α := do
  let c ← Action.get
  Action.ofExcept (refuse (read c))

/-- A keeper for the configuration at hand, and the status that it begins with. The settings
are read one after the other, and could be changed in between. -/
def appoint : Action Config (Keeper × Status) := do
  setting validate
  match ← setting readHosting with
  | .hetzner =>
      let a ← setting readAddress
      let c ← Action.get
      let client ← Action.ofExcept (Client.make c.user c.password a.text c.clientOptions)
      return ({ client, ttl := c.statusTtl, source := .probed c.probe }, {})
  | .basic => Action.raise (.failure (.config (.hostingNotProvided .basic)))

end Config
end FloatingAddress
