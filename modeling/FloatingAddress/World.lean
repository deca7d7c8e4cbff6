import FloatingAddress.Probe
import FloatingAddress.Request

/-!
# The world around a node

Everything that a node meets is laid down beforehand: the clock, the endings that are offered
to its requests, and how its own address is found. Offers and findings are handed out one by
one from a script whose last entry repeats for ever.
-/

namespace FloatingAddress

/-- Entries to be handed out one by one; the last one repeats for ever. -/
structure Script (α : Type) where
  /-- The entry that comes next. -/
  next : α
  /-- The entries after it. -/
  later : List α

namespace Script

variable {α : Type}

/-- The script of a list, a given entry standing for an empty list. -/
def ofList (default : α) : List α → Script α
  | [] => ⟨default, []⟩
  | a :: rest => ⟨a, rest⟩

/-- The script after its next entry has been handed out. -/
def advance (s : Script α) : Script α :=
  match s.later with
  | [] => s
  | a :: rest => ⟨a, rest⟩

end Script

/-- How the clock moves while something is under way. -/
inductive ClockMove
  | advance (seconds : Float)
  | set (time : Float)

namespace ClockMove

/-- A number of seconds that go by. -/
instance : Coe Float ClockMove := ⟨advance⟩

/-- No time goes by. -/
instance : OfNat ClockMove 0 := ⟨advance 0⟩

/-- What the clock shows after a move. -/
def after : ClockMove → Float → Float
  | advance seconds, time => time + seconds
  | set time, _ => time

end ClockMove

/-- What the web service has in store for a request: how the clock moves, and the ending that it
offers. -/
structure Reaction where
  delay : ClockMove
  offer : Ending

/-- What a node meets. -/
structure World where
  /-- The reading of the clock, in seconds. -/
  clock : Float
  /-- What the web service has in store for the requests to come. -/
  reactions : Script Reaction
  /-- The own address, where it is simply told. -/
  identities : Script (Except Fault Address)
  /-- How the sockets of the probes to come behave. -/
  sockets : Script SocketBehaviour

namespace World

/-- The world after one more request: its reaction is used up and its time has gone by. -/
def afterRequest (w : World) : World :=
  { w with clock := w.reactions.next.delay.after w.clock, reactions := w.reactions.advance }

/-- The world after the own address has been told. -/
def afterTelling (w : World) : World :=
  { w with identities := w.identities.advance }

/-- The world after a probe with a socket. -/
def afterProbe (w : World) : World :=
  { w with sockets := w.sockets.advance }

end World
end FloatingAddress
