import FloatingAddress.Keeper

/-!
# Running actions

The outcome of a composed action from the outcomes of its parts, and the part of a trace
that reaches the outside: look-ups of the own address and requests.

* `run_bind`, `run_map`, `run_recover`: sequence, change of the result, recovery;
* `exists_ok_of_toOption`: a result with a property;
* `Event.contacts`: the look-ups and requests of a trace, in order; the other views that
  concern them depend on the contacts alone.
-/

namespace FloatingAddress
namespace Action

section

variable {σ α β : Type}

/-- One action after the other: a fault of the first ends both. -/
theorem run_bind
    (a : Action σ α)
    (f : α → Action σ β)
    (s : σ) :
    (a >>= f).run s =
      match a.run s with
      | ⟨.error fault, s', events⟩ => ⟨.error fault, s', events⟩
      | ⟨.ok v, s', events⟩ =>
          ⟨((f v).run s').result, ((f v).run s').state,
            events ++ ((f v).run s').events⟩ :=
  rfl

@[simp] theorem run_pure
    (v : α)
    (s : σ) :
    (Pure.pure v : Action σ α).run s = ⟨.ok v, s, []⟩ :=
  rfl

@[simp] theorem run_raise
    (fault : Fault)
    (s : σ) :
    (raise fault : Action σ α).run s = ⟨.error fault, s, []⟩ :=
  rfl

@[simp] theorem run_ofExcept
    (result : Except Fault α)
    (s : σ) :
    (ofExcept result).run s = ⟨result, s, []⟩ :=
  rfl

@[simp] theorem run_get
    (s : σ) :
    (get : Action σ σ).run s = ⟨.ok s, s, []⟩ :=
  rfl

@[simp] theorem run_modify
    (f : σ → σ)
    (s : σ) :
    (modify f).run s = ⟨.ok (), f s, []⟩ :=
  rfl

@[simp] theorem run_log
    (severity : Severity)
    (t : Text)
    (s : σ) :
    (log severity t).run s = ⟨.ok (), s, [.logged ⟨severity, .words t⟩]⟩ :=
  rfl

@[simp] theorem run_logTrace
    (severity : Severity)
    (f : Failure)
    (s : σ) :
    (logTrace severity f).run s = ⟨.ok (), s, [.logged ⟨severity, .trace f⟩]⟩ :=
  rfl

/-- A change of the result leaves the state and the trace alone. -/
theorem run_map
    (f : α → β)
    (a : Action σ α)
    (s : σ) :
    (f <$> a).run s =
      ⟨(a.run s).result.map f, (a.run s).state, (a.run s).events⟩ := by
  rw [← bind_pure_comp, run_bind]
  rcases a.run s with ⟨result, s', events⟩
  cases result with
  | error fault =>
      rfl
  | ok v =>
      simp [Except.map]

/-- Only a failure is handled; a result and any other fault stay as they are. -/
theorem run_recover
    (a : Action σ α)
    (handle : Failure → Action σ α)
    (s : σ) :
    (a.recover handle).run s =
      match a.run s with
      | ⟨.error (.failure f), s', events⟩ =>
          ⟨((handle f).run s').result, ((handle f).run s').state,
            events ++ ((handle f).run s').events⟩
      | outcome => outcome :=
  rfl

end

end Action

/-- A result with a property is told from its value. -/
theorem exists_ok_of_toOption
    {ε α : Type}
    {result : Except ε α}
    {p : α → Bool}
    (h : result.toOption.any p = true) :
    ∃ v, result = .ok v ∧ p v = true := by
  cases result with
  | error e =>
      cases h
  | ok v =>
      exact ⟨v, rfl, h⟩

/-! ## Contacts with the outside -/

namespace Event

/-- A look-up of the own address, or a request. -/
def isContact : Event → Bool
  | lookedUp _ | requested _ _ _ => true
  | logged _ | socket _ => false

/-- The look-ups and requests of a trace, in order. -/
def contacts (events : List Event) : List Event :=
  events.filter isContact

@[simp] theorem contacts_nil :
    contacts [] = [] :=
  rfl

@[simp] theorem contacts_append
    (before after : List Event) :
    contacts (before ++ after) = contacts before ++ contacts after :=
  List.filter_append before after

@[simp] theorem contacts_logged
    (entry : LogEntry)
    (events : List Event) :
    contacts (logged entry :: events) = contacts events :=
  rfl

@[simp] theorem contacts_requested
    (r : Request)
    (ending : Ending)
    (time : Float)
    (events : List Event) :
    contacts (requested r ending time :: events) =
      requested r ending time :: contacts events :=
  rfl

@[simp] theorem contacts_lookedUp
    (result : Except Fault Address)
    (events : List Event) :
    contacts (lookedUp result :: events) = lookedUp result :: contacts events :=
  rfl

@[simp] theorem contacts_map_socket
    (steps : List SocketStep) :
    contacts (steps.map socket) = [] := by
  induction steps with
  | nil =>
      rfl
  | cons step steps ih =>
      exact ih

@[simp] theorem contacts_map_logged
    (lines : List Text) :
    contacts (lines.map fun line => logged ⟨.error, .words line⟩) = [] := by
  induction lines with
  | nil =>
      rfl
  | cons line lines ih =>
      exact ih

/-- A view that passes over everything but contacts depends on the contacts alone. -/
theorem filterMap_contacts
    {α : Type}
    (view : Event → Option α)
    (hview : ∀ e, e.isContact = false → view e = none)
    (events : List Event) :
    (contacts events).filterMap view = events.filterMap view := by
  induction events with
  | nil =>
      rfl
  | cons e events ih =>
      cases he : e.isContact with
      | true =>
          simp [contacts, he, List.filterMap_cons, ← ih]
      | false =>
          rw [List.filterMap_cons, hview e he, ← ih]
          simp [contacts, he]

/-- A request is a contact, so it is in a trace exactly if it is among the contacts. -/
theorem requested_mem_contacts_iff
    {events : List Event}
    {request : Request}
    {ending : Ending}
    {time : Float} :
    requested request ending time ∈ contacts events ↔
      requested request ending time ∈ events := by
  simp [contacts, isContact]

theorem lookedUp_mem_contacts_iff
    {events : List Event}
    {result : Except Fault Address} :
    lookedUp result ∈ contacts events ↔ lookedUp result ∈ events := by
  simp [contacts, isContact]

/-- The look-ups of a trace are those among its contacts. -/
theorem lookups_contacts
    (events : List Event) :
    lookups (contacts events) = lookups events := by
  apply filterMap_contacts
  intro e he
  cases e <;> simp_all [isContact]

theorem lookups_of_contacts
    {events events' : List Event}
    (h : contacts events = events') :
    lookups events = lookups events' := by
  rw [← h, lookups_contacts]

theorem lookups_congr
    {events events' : List Event}
    (h : contacts events = contacts events') :
    lookups events = lookups events' := by
  rw [← lookups_contacts events, h, lookups_contacts]

/-- The requests of a trace are those among its contacts. -/
theorem requests_contacts
    (events : List Event) :
    requests (contacts events) = requests events := by
  apply filterMap_contacts
  intro e he
  cases e <;> simp_all [isContact]

theorem requests_of_contacts
    {events events' : List Event}
    (h : contacts events = events') :
    requests events = requests events' := by
  rw [← h, requests_contacts]

/-- The requests of a trace are those that have ended in it. -/
theorem mem_requests_iff
    {events : List Event}
    {request : Request} :
    request ∈ requests events ↔ ∃ ending time, requested request ending time ∈ events := by
  rw [requests, List.mem_filterMap]
  constructor
  · rintro ⟨e, he, hview⟩
    cases e with
    | requested request' ending time =>
        cases hview
        exact ⟨ending, time, he⟩
    | logged entry | socket step | lookedUp result =>
        cases hview
  · rintro ⟨ending, time, he⟩
    exact ⟨_, he, rfl⟩

theorem not_requested_of_requests
    {events : List Event}
    (h : requests events = [])
    (request : Request)
    (ending : Ending)
    (time : Float) :
    requested request ending time ∉ events := by
  intro hmem
  have hrequest := mem_requests_iff.mpr ⟨ending, time, hmem⟩
  rw [h] at hrequest
  cases hrequest

end Event

end FloatingAddress
