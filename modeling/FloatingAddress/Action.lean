import FloatingAddress.World

/-!
# Actions and their events

An action works on a state. It ends with a result or a fault, leaves a state behind and
leaves a trace of events, in order. When one action follows another its events follow
too; a fault ends the whole and keeps the state and the events that came before it.

* `Event` and the views of a trace: `logs`, `requests`, `socketSteps`, `lookups`;
* `Outcome`, `Action` and the laws of their sequence (`LawfulMonad`);
* `Action.recover`: what is done instead after a failure.
-/

namespace FloatingAddress

/-- The message of a log entry: words, or the trace of a failure. -/
inductive LogMessage
  | words (t : Text)
  | trace (f : Failure)
deriving DecidableEq

/-- An entry in the log. -/
structure LogEntry where
  severity : Severity
  message : LogMessage
deriving DecidableEq

/-- What happens between a node and the world around it. -/
inductive Event
  | logged (entry : LogEntry)
  | socket (step : SocketStep)
  /-- The node has looked up its own address. -/
  | lookedUp (result : Except Fault Address)
  /-- A request has been sent and has ended, when the clock showed the time. -/
  | requested (request : Request) (ending : Ending) (time : Float)

namespace Event

/-- The log entries of a trace. -/
def logs (events : List Event) : List LogEntry :=
  events.filterMap fun
    | logged entry => some entry
    | _ => none

/-- The requests of a trace. -/
def requests (events : List Event) : List Request :=
  events.filterMap fun
    | requested request _ _ => some request
    | _ => none

/-- The steps of sockets in a trace. -/
def socketSteps (events : List Event) : List SocketStep :=
  events.filterMap fun
    | socket step => some step
    | _ => none

/-- What the look-ups of a trace gave. -/
def lookups (events : List Event) : List (Except Fault Address) :=
  events.filterMap fun
    | lookedUp result => some result
    | _ => none

@[simp] theorem logs_append (before after : List Event) :
    logs (before ++ after) = logs before ++ logs after :=
  List.filterMap_append

@[simp] theorem requests_append (before after : List Event) :
    requests (before ++ after) = requests before ++ requests after :=
  List.filterMap_append

@[simp] theorem socketSteps_append (before after : List Event) :
    socketSteps (before ++ after) = socketSteps before ++ socketSteps after :=
  List.filterMap_append

@[simp] theorem lookups_append (before after : List Event) :
    lookups (before ++ after) = lookups before ++ lookups after :=
  List.filterMap_append

end Event

/-- What an action ends with and leaves behind. -/
structure Outcome (σ α : Type) where
  result : Except Fault α
  state : σ
  events : List Event

/-- An action on a state. -/
def Action (σ α : Type) := σ → Outcome σ α

namespace Action

variable {σ α β γ : Type}

/-- The outcome of an action on a state. -/
def run (a : Action σ α) (s : σ) : Outcome σ α := a s

/-- A result and nothing else. -/
def pure (v : α) : Action σ α :=
  fun s => ⟨.ok v, s, []⟩

/-- One action, and then another that depends on the result of the first. -/
def bind (a : Action σ α) (f : α → Action σ β) : Action σ β :=
  fun s =>
    match a s with
    | ⟨.error fault, s', events⟩ => ⟨.error fault, s', events⟩
    | ⟨.ok v, s', events⟩ =>
        let after := f v s'
        ⟨after.result, after.state, events ++ after.events⟩

instance : Monad (Action σ) where
  pure := pure
  bind := bind

theorem bind_pure_right (a : Action σ α) : bind a pure = a := by
  funext s
  simp only [bind, pure]
  cases h : a s with
  | mk result s' events =>
      cases result with
      | error fault => rfl
      | ok v => simp

theorem bind_assoc (a : Action σ α) (f : α → Action σ β) (g : β → Action σ γ) :
    bind (bind a f) g = bind a fun v => bind (f v) g := by
  funext s
  simp only [bind]
  cases h : a s with
  | mk result s' events =>
      cases result with
      | error fault => rfl
      | ok v =>
          simp only
          cases h' : f v s' with
          | mk result' s'' events' =>
              cases result' with
              | error fault => rfl
              | ok w => simp [List.append_assoc]

instance : LawfulMonad (Action σ) := LawfulMonad.mk' (Action σ)
  (fun a => bind_pure_right a)
  (fun _ _ => rfl)
  (fun a f g => bind_assoc a f g)

/-- The end of an action by a fault. -/
def raise (fault : Fault) : Action σ α :=
  fun s => ⟨.error fault, s, []⟩

/-- A result or a fault. -/
def ofExcept (result : Except Fault α) : Action σ α :=
  fun s => ⟨result, s, []⟩

/-- The state. -/
def get : Action σ σ :=
  fun s => ⟨.ok s, s, []⟩

/-- A change of the state. -/
def modify (f : σ → σ) : Action σ Unit :=
  fun s => ⟨.ok (), f s, []⟩

/-- An entry in the log. -/
def log (severity : Severity) (t : Text) : Action σ Unit :=
  fun s => ⟨.ok (), s, [.logged ⟨severity, .words t⟩]⟩

/-- The trace of a failure in the log. -/
def logTrace (severity : Severity) (f : Failure) : Action σ Unit :=
  fun s => ⟨.ok (), s, [.logged ⟨severity, .trace f⟩]⟩

/-- What is done instead if an action ends by a failure; other faults stay. -/
def recover (a : Action σ α) (handle : Failure → Action σ α) : Action σ α :=
  fun s =>
    match a s with
    | ⟨.error (.failure f), s', events⟩ =>
        let after := handle f s'
        ⟨after.result, after.state, events ++ after.events⟩
    | outcome => outcome

end Action
end FloatingAddress
