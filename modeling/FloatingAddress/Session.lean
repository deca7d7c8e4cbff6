import FloatingAddress.Keeper

/-!
# Sessions

A session is a list of steps: a keeper performs an operation, or the clock moves. Each
operation is reported with its outcome, in which the situation is the one it left behind.

* `Keeper.perform`: an operation by its name;
* `Keeper.follow`: the situation after a step;
* `Keeper.run`: the reports of a list of steps, and the situation after them.
-/

namespace FloatingAddress

/-- The operations of a keeper. -/
inductive Operation
  | query
  | refresh
  | claim
  | configure
  | deconfigure
  /-- Takes away what a node of another hosting type leaves on its interfaces; here there
  is nothing. -/
  | cleanup
  /-- Shows the status and does nothing. -/
  | status
deriving DecidableEq, Repr

namespace Operation

/-- The word for an operation. -/
def word : Operation → Text
  | query => "query"
  | refresh => "refresh"
  | claim => "claim"
  | configure => "configure"
  | deconfigure => "deconfigure"
  | cleanup => "cleanup"
  | status => "status"

/-- All operations. -/
def all : List Operation :=
  [query, refresh, claim, configure, deconfigure, cleanup, status]

end Operation

/-- What an operation answers. -/
inductive Answer
  | decision (yes : Bool)
  | record (record : Provider.FailoverRecord)
  | nothing
deriving DecidableEq

/-- A step of a session. -/
inductive SessionStep
  | perform (operation : Operation)
  | advance (seconds : Float)
  | setClock (time : Float)

/-- What an operation of a session came to. -/
structure Report where
  operation : Operation
  /-- The situation that it began in. -/
  before : Situation
  outcome : Outcome Situation Answer

/-- The situation after the clock has been changed. -/
def Situation.withClock (s : Situation) (time : Float) : Situation :=
  { s with world := { s.world with clock := time } }

namespace Keeper

/-- An operation by its name. -/
def perform (k : Keeper) : Operation → Action Situation Answer
  | .query => Answer.decision <$> k.query
  | .refresh => Answer.record <$> k.refresh
  | .claim => Answer.record <$> k.claim
  | .configure => Answer.decision <$> k.configure
  | .deconfigure => Answer.decision <$> deconfigure
  | .cleanup | .status => return .nothing

/-- The report of a step, if it is an operation, and the situation after it. -/
def follow (k : Keeper) (s : Situation) : SessionStep → Option Report × Situation
  | .perform operation =>
      let outcome := (k.perform operation).run s
      (some ⟨operation, s, outcome⟩, outcome.state)
  | .advance seconds => (none, s.withClock (s.world.clock + seconds))
  | .setClock time => (none, s.withClock time)

/-- The reports of a list of steps, and the situation after them. -/
def run (k : Keeper) (s : Situation) : List SessionStep → List Report × Situation
  | [] => ([], s)
  | step :: steps =>
      let first := k.follow s step
      let rest := k.run first.2 steps
      (first.1.toList ++ rest.1, rest.2)

end Keeper

/-- Calls of a client one after the other, each with its outcome. -/
def Client.run (c : Client) (w : World) : List Call → List (Outcome World Text)
  | [] => []
  | call :: calls =>
      let outcome := (c.query call).run w
      outcome :: c.run outcome.state calls

end FloatingAddress
