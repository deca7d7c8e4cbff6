import FloatingAddress.Proofs.Running

/-!
# One exchange with the web service

What one call of a client comes to when the address that it routes to is given: either no
request can be made of it, or one request is sent, whose ending decides the result. In front
of the request a call logs where it routes to and, if the client is verbose, the request
itself; after it the body of an answer that is handed on, if the client is verbose, or why
there is none.

* `Ending.handedOn?`, `Event.answers`: the answers that a client hands on;
* `Request.met_eq_answered_iff`, `Request.met_eq_self`: the ending that a request meets, and the
  one in store for it;
* `Client.verdict`: what comes of the ending of a request;
* `Client.routingNotes`, `Client.requestNotes`, `Client.answerNotes`, `Client.refusalNotes`:
  the lines that a call logs;
* `Client.requestLine`, `Client.announcement_eq`: the line of a request, word by word;
* `Client.exchange_unsent`, `Client.exchange_sent`: the two courses of a call, line by line;
* `Client.query_unsent`, `Client.query_sent`: the same up to log;
* `IdentitySource.lookUp_contacts`: a look-up is one contact;
* `Call.Consults`, `Call.route`: whether a call looks up the own address, and where it routes.
-/

namespace FloatingAddress

/-- The body of an answer that is handed on: its status is below 500. -/
def Ending.handedOn? : Ending → Option Text
  | .answered status body => if 500 ≤ status then none else some body
  | .broken _ _ | .raised _ => none

theorem Ending.handedOn?_eq_some_iff
    {ending : Ending}
    {body : Text} :
    ending.handedOn? = some body ↔
      ∃ status, ending = .answered status body ∧ status < 500 := by
  cases ending with
  | answered status text =>
      rw [handedOn?]
      constructor
      · intro h
        split at h
        · cases h
        · next hstatus =>
          cases h
          exact ⟨status, rfl, Int.not_le.mp hstatus⟩
      · rintro ⟨_, heq, hstatus⟩
        cases heq
        rw [if_neg (Int.not_le.mpr hstatus)]
  | broken e message =>
      simp [handedOn?]
  | raised fault =>
      simp [handedOn?]

/-- A request is answered by the answer that is in store for it, if its URL tells where that
answer comes from. -/
theorem Request.met_eq_answered_iff
    {r : Request}
    {offer : Ending}
    {status : Int}
    {body : Text} :
    r.met offer = .answered status body ↔
      r.url.IsAbsolute ∧ offer = .answered status body := by
  cases offer with
  | answered status' text =>
      by_cases habsolute : r.url.IsAbsolute <;> simp [met, habsolute]
  | broken e message =>
      simp [met]
  | raised fault =>
      simp [met]

/-- Any ending in store is met, but for an answer of which the URL does not tell where it comes
from. -/
theorem Request.met_eq_self
    {r : Request}
    {offer : Ending}
    (h : r.url.IsAbsolute ∨ ∀ status body, offer ≠ .answered status body) :
    r.met offer = offer := by
  cases offer with
  | answered status body =>
      rcases h with habsolute | hother
      · exact if_pos habsolute
      · exact absurd rfl (hother status body)
  | broken e message =>
      rfl
  | raised fault =>
      rfl

namespace Event

/-- The answers of a trace that were handed on, each with its body and the time at which
it arrived. -/
def answers (events : List Event) : List (Text × Float) :=
  events.filterMap fun
    | requested _ ending time => ending.handedOn?.map fun body => (body, time)
    | _ => none

@[simp] theorem answers_nil :
    answers [] = [] :=
  rfl

@[simp] theorem answers_lookedUp
    (result : Except Fault Address)
    (events : List Event) :
    answers (lookedUp result :: events) = answers events :=
  rfl

/-- The answers of a trace are those among its contacts. -/
theorem answers_contacts
    (events : List Event) :
    answers (contacts events) = answers events := by
  apply filterMap_contacts
  intro e he
  cases e <;> simp_all [isContact]

theorem answers_of_contacts
    {events events' : List Event}
    (h : contacts events = events') :
    answers events = answers events' := by
  rw [← h, answers_contacts]

theorem answers_congr
    {events events' : List Event}
    (h : contacts events = contacts events') :
    answers events = answers events' := by
  rw [← answers_contacts events, h, answers_contacts]

theorem answers_requested_of_handedOn
    {r : Request}
    {ending : Ending}
    {body : Text}
    (h : ending.handedOn? = some body)
    (time : Float)
    (events : List Event) :
    answers (requested r ending time :: events) = (body, time) :: answers events := by
  simp [answers, h]

theorem answers_requested_of_refused
    {r : Request}
    {ending : Ending}
    (h : ending.handedOn? = none)
    (time : Float)
    (events : List Event) :
    answers (requested r ending time :: events) = answers events := by
  simp [answers, h]

end Event

namespace Client

/-- What comes of the ending of a request. -/
def verdict (c : Client) (write : Bool) : Ending → Except Fault Text
  | .raised fault => .error fault
  | .broken e message => .error (c.unreached write (if message = [] then e.name else message))
  | .answered status body =>
      if 500 ≤ status then .error (c.unreached write ("HTTP " ++ Numeral.ofInt status))
      else .ok body

/-- A call succeeds with the body of the answer that is handed on, and with nothing else. -/
theorem verdict_eq_ok_iff
    (c : Client)
    (write : Bool)
    (ending : Ending)
    (body : Text) :
    c.verdict write ending = .ok body ↔ ending.handedOn? = some body := by
  cases ending with
  | answered status text =>
      by_cases hstatus : 500 ≤ status <;>
        simp [verdict, Ending.handedOn?, hstatus]
  | broken e message =>
      simp [verdict, Ending.handedOn?]
  | raised fault =>
      simp [verdict, Ending.handedOn?]

/-- A call whose ending is refused hands no answer on. -/
theorem handedOn_of_verdict_error
    {c : Client}
    {write : Bool}
    {ending : Ending}
    {fault : Fault}
    (h : c.verdict write ending = .error fault) :
    ending.handedOn? = none := by
  cases hbody : ending.handedOn? with
  | none =>
      rfl
  | some body =>
      rw [(c.verdict_eq_ok_iff write ending body).mpr hbody] at h
      cases h

/-! ## The lines -/

/-- The line that names the address to route to. -/
def routingNotes (c : Client) : Option Address → List Event
  | none => []
  | some a =>
      [.logged ⟨.info, .words ("Routing failover IP " ++ c.address.text ++ " to " ++ a.text)⟩]

/-- The line of a request, in words: the method, the endpoint and the user, a mark in place of the
password, and for a write the field with the address. -/
def requestLine (endpoint user : Text) : Option Text → Text
  | none => "GET " ++ endpoint ++ " (ipv4, user " ++ user ++ ":XXXXXX)"
  | some address =>
      "POST " ++ endpoint ++ " (ipv4, user " ++ user ++ ":XXXXXX) active_server_ip=" ++ address

/-- The line that a verbose client logs before a request. -/
def announced (c : Client) (towards : Option Address) : Event :=
  .logged ⟨.info, .words (requestLine c.endpoint c.user (towards.map Address.text))⟩

/-- What a verbose client announces is the line of the request. -/
theorem announcement_eq
    (c : Client)
    (towards : Option Address) :
    c.announcement towards = requestLine c.endpoint c.user (towards.map Address.text) := by
  have hget : ("GET " : Text) = methodName false ++ " " := by
    decide
  have hpost : ("POST " : Text) = methodName true ++ " " := by
    decide
  have hmark : (":XXXXXX)" : Text) = ":" ++ redacted ++ ")" := by
    decide
  have hfield : (":XXXXXX) active_server_ip=" : Text) =
      ":" ++ redacted ++ ")" ++ (" " ++ fieldName ++ "=") := by
    decide
  cases towards with
  | none =>
      simp only [announcement, Option.map_none, Option.isSome_none, requestLine, hget, hmark,
        List.append_assoc, List.append_nil]
  | some a =>
      simp only [announcement, Option.map_some, Option.isSome_some, requestLine, hpost, hfield,
        List.append_assoc]

/-- The line of a request, if the client is verbose. -/
def requestNotes (c : Client) (towards : Option Address) : List Event :=
  if c.verbose then [c.announced towards] else []

/-- The line that a verbose client logs after an answer that is handed on. -/
def echoes (ending : Ending) : List Event :=
  ending.handedOn?.toList.map fun body => .logged ⟨.info, .words ("JSON response: " ++ body)⟩

/-- The line of an answer that is handed on, if the client is verbose. -/
def answerNotes (c : Client) (ending : Ending) : List Event :=
  if c.verbose then echoes ending else []

/-- The line of an ending that is a failure of the transport. -/
def refusalNotes (c : Client) (write : Bool) : Ending → List Event
  | .raised _ => []
  | .broken e message =>
      [.logged ⟨.error, .words ("Request error on " ++ methodName write ++ " " ++ c.endpoint
        ++ ": " ++ e.name ++ "(" ++ message.quoted ++ ")")⟩]
  | .answered status _ =>
      if 500 ≤ status then
        [.logged ⟨.error, .words ("HTTP " ++ Numeral.ofInt status ++ " on " ++ methodName write
          ++ " " ++ c.endpoint)⟩]
      else []

section Notes

variable (c : Client) (towards : Option Address) (write : Bool) (ending : Ending)

@[simp] theorem contacts_routingNotes :
    Event.contacts (c.routingNotes towards) = [] := by
  cases towards <;> rfl

@[simp] theorem contacts_requestNotes :
    Event.contacts (c.requestNotes towards) = [] := by
  unfold requestNotes
  split <;> rfl

@[simp] theorem contacts_echoes :
    Event.contacts (echoes ending) = [] := by
  unfold echoes
  cases ending.handedOn? <;> rfl

@[simp] theorem contacts_answerNotes :
    Event.contacts (c.answerNotes ending) = [] := by
  unfold answerNotes
  split
  · exact contacts_echoes ending
  · rfl

@[simp] theorem contacts_refusalNotes :
    Event.contacts (c.refusalNotes write ending) = [] := by
  unfold refusalNotes
  split
  · rfl
  · rfl
  · split <;> rfl

end Notes

/-! ## The courses of a call -/

/-- A call when the address that it routes to is known. -/
def exchange (c : Client) (write : Bool) (towards : Option Address) : Action World Text := do
  c.announce towards
  let r ← Action.ofExcept (c.request towards)
  let ending ← send r
  c.receive write ending

theorem query_eq
    (c : Client)
    (call : Call) :
    c.query call = c.destination call >>= c.exchange call.write :=
  rfl

theorem run_announce
    (c : Client)
    (towards : Option Address)
    (w : World) :
    (c.announce towards).run w =
      ⟨.ok (), w, c.routingNotes towards ++ c.requestNotes towards⟩ := by
  cases towards <;> cases hverbose : c.verbose <;>
    simp [announce, routingNotes, requestNotes, announced, announcement_eq, hverbose,
      Action.run_bind]

theorem run_receive
    (c : Client)
    (write : Bool)
    (ending : Ending)
    (w : World) :
    (c.receive write ending).run w =
      ⟨c.verdict write ending, w, c.answerNotes ending ++ c.refusalNotes write ending⟩ := by
  cases ending with
  | answered status body =>
      by_cases hstatus : 500 ≤ status
      · simp [receive, verdict, answerNotes, echoes, Ending.handedOn?, refusalNotes, hstatus,
          Action.run_bind]
      · cases hverbose : c.verbose <;>
          simp [receive, verdict, answerNotes, echoes, Ending.handedOn?, refusalNotes, hstatus,
            hverbose, Action.run_map, Except.map]
  | broken e message =>
      simp [receive, verdict, answerNotes, echoes, Ending.handedOn?, refusalNotes,
        Action.run_bind]
  | raised fault =>
      simp [receive, verdict, answerNotes, echoes, Ending.handedOn?, refusalNotes]

section Courses

variable {c : Client} {towards : Option Address}

/-- Where no request can be made, the lines in front of it are all that happens. -/
theorem exchange_unsent
    {fault : Fault}
    (hrequest : c.request towards = .error fault)
    (write : Bool)
    (w : World) :
    (c.exchange write towards).run w =
      ⟨.error fault, w, c.routingNotes towards ++ c.requestNotes towards⟩ := by
  simp [exchange, Action.run_bind, run_announce, hrequest]

/-- A request that is sent stands between the lines in front of it and those after it. -/
theorem exchange_sent
    {r : Request}
    (hrequest : c.request towards = .ok r)
    (write : Bool)
    (w : World) :
    (c.exchange write towards).run w =
      let ending := r.met w.reactions.next.offer
      ⟨c.verdict write ending, w.afterRequest,
        c.routingNotes towards ++ c.requestNotes towards ++
          .requested r ending w.afterRequest.clock ::
            (c.answerNotes ending ++ c.refusalNotes write ending)⟩ := by
  have hsend :
      (send r).run w =
        ⟨.ok (r.met w.reactions.next.offer), w.afterRequest,
          [.requested r (r.met w.reactions.next.offer) w.afterRequest.clock]⟩ :=
    rfl
  simp [exchange, Action.run_bind, run_announce, hrequest, hsend, run_receive]

end Courses

section Query

variable {c : Client} {call : Call} {towards : Option Address}

/-- A call of which no request can be made leaves the world alone. -/
theorem query_unsent
    (hdestination : c.destination call = pure towards)
    {fault : Fault}
    (hrequest : c.request towards = .error fault)
    (w : World) :
    ∃ events,
      (c.query call).run w = ⟨.error fault, w, events⟩ ∧
      Event.contacts events = [] := by
  rw [query_eq, hdestination, pure_bind, exchange_unsent hrequest]
  exact ⟨_, rfl, by simp⟩

/-- A call of which a request can be made sends it once, and ends as its ending says. -/
theorem query_sent
    (hdestination : c.destination call = pure towards)
    {r : Request}
    (hrequest : c.request towards = .ok r)
    (w : World) :
    ∃ events,
      (c.query call).run w =
        ⟨c.verdict call.write (r.met w.reactions.next.offer), w.afterRequest, events⟩ ∧
      Event.contacts events =
        [.requested r (r.met w.reactions.next.offer) w.afterRequest.clock] := by
  rw [query_eq, hdestination, pure_bind, exchange_sent hrequest]
  exact ⟨_, rfl, by simp⟩

end Query
end Client

namespace IdentitySource

/-- A look-up of the own address is one contact with the outside, told by its result. -/
theorem lookUp_contacts
    (source : IdentitySource)
    (w : World) :
    Event.contacts (source.lookUp.run w).events =
      [.lookedUp (source.lookUp.run w).result] := by
  cases source with
  | told =>
      rfl
  | probed probe =>
      simp [lookUp, Action.run, probeEvents]

end IdentitySource

/-! ## Where a call routes to -/

namespace Call

/-- The own address is looked up: for a write that is given no address. -/
def Consults (call : Call) : Prop :=
  call.write = true ∧ call.towards = none

instance (call : Call) : Decidable call.Consults :=
  inferInstanceAs (Decidable (_ ∧ _))

/-- The address that a call routes to, given what a look-up of the own address gives. A read
has none, whatever address it is given. -/
def route (call : Call) (own : Except Fault Address) : Except Fault (Option Address) :=
  if call.write then
    match call.towards with
    | some a => .ok (some a)
    | none => own.map some
  else .ok none

theorem route_eq_error_iff
    {call : Call}
    {own : Except Fault Address}
    {fault : Fault} :
    call.route own = .error fault ↔ call.Consults ∧ own = .error fault := by
  obtain ⟨write, towards⟩ := call
  unfold route Consults
  cases write with
  | false =>
      simp
  | true =>
      cases towards with
      | some a =>
          simp
      | none =>
          cases own <;> simp [Except.map]

end Call

namespace Client

/-- The events of the look-up, if a call consults. -/
def consultation (c : Client) (call : Call) (w : World) : List Event :=
  if call.Consults then (c.source.lookUp.run w).events else []

section Calls

variable (c : Client) (call : Call) (w : World)

theorem run_destination :
    (c.destination call).run w =
      ⟨call.route (c.source.lookUp.run w).result,
        if call.Consults then (c.source.lookUp.run w).state else w,
        c.consultation call w⟩ := by
  obtain ⟨write, towards⟩ := call
  unfold destination consultation Call.route Call.Consults
  cases write with
  | false =>
      simp
  | true =>
      cases towards with
      | some a =>
          simp
      | none =>
          simp only [if_true, and_self, Action.run_bind]
          rcases c.source.lookUp.run w with ⟨result, w', events⟩
          cases result <;> simp [Except.map]

theorem contacts_consultation :
    Event.contacts (c.consultation call w) =
      if call.Consults then [.lookedUp (c.source.lookUp.run w).result] else [] := by
  unfold consultation
  split
  · exact c.source.lookUp_contacts w
  · rfl

theorem requests_consultation :
    Event.requests (c.consultation call w) = [] := by
  rw [← Event.requests_contacts, contacts_consultation]
  split <;> rfl

end Calls
end Client

end FloatingAddress
