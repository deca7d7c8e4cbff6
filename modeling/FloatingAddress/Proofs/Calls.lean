import FloatingAddress.Proofs.Urls

/-!
# What a call comes to

A call looks up the own address if it is a write and is given no address. It then sends one
request, unless the credentials, the endpoint or the address keep it from being made. How the
request ends decides the result: the body of an answer, a failure of the transport with one
error line, or any other fault without such a line.

* `Client.Sendable`, `Client.Hindered`: when a request can be made, and why it cannot;
* `Event.errors`: the error lines of a trace;
* `Ending.Unreached`: the endings that come to a failure of the transport;
* `Client.Exchanged`, `Client.Settled`: what is sent, and what comes of it;
* `Client.query_settled`: the whole of a call.
-/

namespace FloatingAddress

/-! ## When a request can be made -/

namespace Client

variable {c : Client} {towards : Option Address}

/-- A request can be made: the credentials and the address to route to can be encoded, and
the endpoint is a URL with a host that can be named. -/
def Sendable (c : Client) (towards : Option Address) : Prop :=
  (c.user.IsEncodable ∧ c.password.IsEncodable) ∧
  (∃ url, Url.requested c.endpoint = .ok url ∧ url.checkHost = .ok ()) ∧
  ∀ a, towards = some a → a.text.IsEncodable

/-- Why no request can be made. -/
inductive Hindered (c : Client) (towards : Option Address) : Fault → Prop
  | credentials {run : Unencodable}
      (h : ¬(c.user.IsEncodable ∧ c.password.IsEncodable)) :
      Hindered c towards (.unencodable run)
  | endpoint {problem : Url.Problem}
      (h : Url.requested c.endpoint = .error problem)
      (hkind : c.endpoint.IsEncodable → problem.kind = "InvalidURL") :
      Hindered c towards (.invalidUrl problem)
  | host {url : Url} {problem : Url.Problem}
      (hurl : Url.requested c.endpoint = .ok url)
      (h : url.checkHost = .error problem) :
      Hindered c towards (.invalidUrl problem)
  | address {a : Address} {run : Unencodable}
      (htowards : towards = some a)
      (h : ¬a.text.IsEncodable) :
      Hindered c towards (.unencodable run)

theorem exists_basicAuthorization_iff
    (user password : Text) :
    (∃ authorization, basicAuthorization user password = .ok authorization) ↔
      user.IsEncodable ∧ password.IsEncodable := by
  constructor
  · rintro ⟨authorization, h⟩
    by_cases huser : user.IsEncodable
    · refine ⟨huser, ?_⟩
      by_contra hpassword
      obtain ⟨run, hrun, -⟩ := basicAuthorization_of_password huser hpassword
      rw [h] at hrun
      cases hrun
    · obtain ⟨run, hrun⟩ := basicAuthorization_of_user huser
      rw [hrun] at h
      cases h
  · rintro ⟨huser, hpassword⟩
    exact basicAuthorization_of_isEncodable huser hpassword

theorem exists_formFor_iff
    (towards : Option Address) :
    (∃ form, formFor towards = .ok form) ↔ ∀ a, towards = some a → a.text.IsEncodable := by
  cases towards with
  | none =>
      simp [formFor]
  | some a =>
      rw [exists_formFor_some_iff]
      simp [Text.IsEncodable]

theorem request_hindered_or_sendable
    (c : Client)
    (towards : Option Address) :
    (∃ fault, c.request towards = .error fault ∧ c.Hindered towards fault) ∨
    (∃ r, c.request towards = .ok r ∧ c.Sendable towards) := by
  have hauthorized := exists_basicAuthorization_iff c.user c.password
  have hformed := exists_formFor_iff towards
  unfold request Sendable
  rw [← hauthorized, ← hformed]
  cases hauthorization : basicAuthorization c.user c.password with
  | error run =>
      rw [hauthorization] at hauthorized
      exact .inl ⟨_, rfl, .credentials fun h => by simpa using hauthorized.mpr h⟩
  | ok authorization =>
      cases hurl : Url.requested c.endpoint with
      | error problem =>
          exact .inl ⟨_, rfl, .endpoint hurl fun h => Url.kind_of_requested h hurl⟩
      | ok url =>
          cases hform : formFor towards with
          | error run =>
              rw [hform] at hformed
              have hunformed : ¬∀ a, towards = some a → a.text.IsEncodable :=
                fun h => by simpa using hformed.mpr h
              rw [not_forall] at hunformed
              obtain ⟨a, ha⟩ := hunformed
              rw [Classical.not_imp] at ha
              exact .inl ⟨_, rfl, .address ha.1 ha.2⟩
          | ok form =>
              simp only [Except.mapError, bind, Except.bind]
              cases hhost : url.checkHost with
              | error problem =>
                  exact .inl ⟨_, rfl, .host hurl hhost⟩
              | ok _ =>
                  exact .inr ⟨_, rfl, ⟨_, rfl⟩, ⟨url, rfl, hhost⟩, ⟨form, rfl⟩⟩

/-- What keeps a request from being made shows that it cannot be made. -/
theorem Hindered.not_sendable
    {fault : Fault}
    (h : c.Hindered towards fault) :
    ¬c.Sendable towards := by
  rintro ⟨hcredentials, ⟨url, hurl, hhost⟩, haddress⟩
  cases h with
  | credentials h =>
      exact h hcredentials
  | endpoint h _ =>
      rw [hurl] at h
      cases h
  | host hurl' h =>
      rw [hurl] at hurl'
      cases hurl'
      rw [hhost] at h
      cases h
  | address htowards h =>
      exact h (haddress _ htowards)

/-- What keeps a request from being made is one of the causes. -/
theorem hindered_of_request
    {fault : Fault}
    (h : c.request towards = .error fault) :
    c.Hindered towards fault := by
  rcases c.request_hindered_or_sendable towards with ⟨fault', herror, hhindered⟩ | ⟨r, hok, -⟩
  · rw [h] at herror
    cases herror
    exact hhindered
  · rw [h] at hok
    cases hok

/-- A request can be made if nothing keeps it from being made. -/
theorem exists_request_iff :
    (∃ r, c.request towards = .ok r) ↔ c.Sendable towards := by
  rcases c.request_hindered_or_sendable towards with
    ⟨fault, herror, hhindered⟩ | ⟨r, hok, hsendable⟩
  · exact iff_of_false (by simp [herror]) hhindered.not_sendable
  · exact iff_of_true ⟨r, hok⟩ hsendable

end Client

/-! ## Error lines -/

namespace Event

/-- The error lines of a trace. -/
def errors (events : List Event) : List LogEntry :=
  (logs events).filter fun entry => entry.severity = .error

@[simp] theorem errors_nil :
    errors [] = [] :=
  rfl

@[simp] theorem errors_append
    (before after : List Event) :
    errors (before ++ after) = errors before ++ errors after := by
  simp [errors]

@[simp] theorem errors_requested
    (r : Request)
    (ending : Ending)
    (time : Float)
    (events : List Event) :
    errors (requested r ending time :: events) = errors events :=
  rfl

@[simp] theorem errors_lookedUp
    (result : Except Fault Address)
    (events : List Event) :
    errors (lookedUp result :: events) = errors events :=
  rfl

@[simp] theorem errors_map_socket
    (steps : List SocketStep) :
    errors (steps.map socket) = [] := by
  induction steps with
  | nil =>
      rfl
  | cons step steps ih =>
      exact ih

end Event

/-- A probe that finds an address logs nothing. -/
theorem Probe.logged_of_ok
    {p : Probe}
    {socket : SocketBehaviour}
    {a : V4}
    (h : (p.run socket).result = .ok a) :
    (p.run socket).logged = none := by
  have hfail {steps : List SocketStep} {trouble : SocketTrouble}
      (h : (p.fail steps trouble).result = .ok a) :
      (p.fail steps trouble).logged = none := by
    cases trouble <;> cases h
  cases socket with
  | failsToOpen trouble | failsToLimit trouble | failsToConnect trouble | failsToName trouble =>
      exact hfail h
  | reports name =>
      rfl

/-- A look-up that finds the own address logs no error. -/
theorem IdentitySource.errors_lookUp
    {source : IdentitySource}
    {w : World}
    {own : Address}
    (h : (source.lookUp.run w).result = .ok own) :
    Event.errors (source.lookUp.run w).events = [] := by
  cases source with
  | told =>
      rfl
  | probed probe =>
      change found (probe.run w.sockets.next).result = .ok own at h
      have hlogged : (probe.run w.sockets.next).logged = none := by
        cases hresult : (probe.run w.sockets.next).result with
        | error fault =>
            rw [hresult] at h
            cases h
        | ok a =>
            exact Probe.logged_of_ok hresult
      simp [lookUp, Action.run, probeEvents, hlogged]

namespace Client

section Notes

variable (c : Client) (towards : Option Address) (write : Bool) (ending : Ending)

@[simp] theorem errors_routingNotes :
    Event.errors (c.routingNotes towards) = [] := by
  cases towards <;> rfl

@[simp] theorem errors_requestNotes :
    Event.errors (c.requestNotes towards) = [] := by
  unfold requestNotes
  split <;> rfl

@[simp] theorem errors_answerNotes :
    Event.errors (c.answerNotes ending) = [] := by
  unfold answerNotes echoes
  split
  · cases ending.handedOn? <;> rfl
  · rfl

/-- An ending is refused with one line. -/
theorem errors_refusalNotes_le :
    (Event.errors (c.refusalNotes write ending)).length ≤ 1 := by
  unfold refusalNotes
  cases ending with
  | raised fault =>
      exact Nat.zero_le 1
  | broken e message =>
      exact Nat.le_refl 1
  | answered status body =>
      dsimp only
      split
      · exact Nat.le_refl 1
      · exact Nat.zero_le 1

end Notes
end Client

/-! ## What an ending comes to -/

namespace Request

/-- A request carries the address to route to in the form of a POST, or it is a GET without a
body. -/
def Carries (r : Request) : Option Address → Prop
  | none => methodName r.write = "GET" ∧ r.body = []
  | some a =>
      methodName r.write = "POST" ∧
        Form.decode? r.body = some [(("active_server_ip" : Text), a.text)]

end Request

/-- The endings that come to a failure of the transport, with its message: an error of the
connection, and an answer with a status of 500 or above. -/
inductive Ending.Unreached : Ending → Text → Prop
  | broken (e : ConnectionError) (message : Text) :
      Unreached (.broken e message) (if message = [] then e.name else message)
  | status {status : Int} {body : Text}
      (hstatus : 500 ≤ status) :
      Unreached (.answered status body) ("HTTP " ++ Numeral.ofInt status)

namespace Client

section Endings

variable {c : Client} {write : Bool} {ending : Ending}

/-- A failure of the transport with one error line comes of these endings only. -/
theorem unreached_iff
    {message : Text} :
    (c.verdict write ending = .error (c.unreached write message) ∧
      (Event.errors (c.refusalNotes write ending)).length = 1) ↔
    ending.Unreached message := by
  constructor
  · rintro ⟨hverdict, hlines⟩
    cases ending with
    | answered status body =>
        rw [verdict] at hverdict
        split at hverdict
        · next hstatus =>
          cases hverdict
          exact .status hstatus
        · cases hverdict
    | broken e text =>
        cases hverdict
        exact .broken e text
    | raised fault =>
        cases hlines
  · intro h
    cases h with
    | broken e text =>
        exact ⟨rfl, rfl⟩
    | status hstatus =>
        rw [verdict, refusalNotes, if_pos hstatus, if_pos hstatus]
        exact ⟨rfl, rfl⟩

/-- A fault without an error line is one that something outside has raised. -/
theorem passedOn_iff
    {fault : Fault} :
    (c.verdict write ending = .error fault ∧
      Event.errors (c.refusalNotes write ending) = []) ↔
    ending = .raised fault := by
  constructor
  · rintro ⟨hverdict, hlines⟩
    cases ending with
    | answered status body =>
        rw [verdict] at hverdict
        rw [refusalNotes] at hlines
        split at hverdict
        · next hstatus =>
          rw [if_pos hstatus] at hlines
          cases hlines
        · cases hverdict
    | broken e text =>
        cases hlines
    | raised fault' =>
        cases hverdict
        rfl
  · rintro rfl
    exact ⟨rfl, rfl⟩

end Endings

/-! ## What is sent, and what comes of it -/

/-- What is sent where a call routes to an address or to none, and what comes of how the request
ends, given the ending that is in store for it. -/
structure Exchanged (c : Client) (write : Bool) (towards : Option Address) (offer : Ending)
    (o : Outcome World Text) : Prop where
  /-- No request is sent exactly if none can be made. -/
  unsent_iff : Event.requests o.events = [] ↔ ¬c.Sendable towards
  atMostOne : (Event.requests o.events).length ≤ 1
  /-- A read carries nothing; a write carries the address. -/
  carried : ∀ r ∈ Event.requests o.events, r.Carries towards
  /-- A request whose URL tells where an answer comes from ends as is in store for it; and so does
  any other for which no answer is in store. -/
  met : ∀ r ending time,
    .requested r ending time ∈ o.events →
      (r.url.IsAbsolute ∨ ∀ status body, offer ≠ .answered status body) →
        ending = offer
  /-- A body is the result exactly if the request was answered with it, by a status below 500. -/
  returned_iff : ∀ body,
    o.result = .ok body ↔
      ∃ r status time, .requested r (.answered status body) time ∈ o.events ∧ status < 500
  /-- The failure of the transport tells the endpoint and whether the call was a write. -/
  unreached_iff : ∀ message,
    (o.result = .error (.failure (.transport message c.endpoint write)) ∧
      (Event.errors o.events).length = 1) ↔
    ∃ r ending time, .requested r ending time ∈ o.events ∧ ending.Unreached message
  /-- There is no second error line. -/
  lines : (Event.errors o.events).length ≤ 1
  /-- Any other fault is passed on as it is, without an error line. -/
  passedOn_iff : ∀ fault,
    (o.result = .error fault ∧ Event.errors o.events = []) ↔
      c.request towards = .error fault ∨
      ∃ r time, .requested r (.raised fault) time ∈ o.events
  hindered : ∀ fault, c.request towards = .error fault → c.Hindered towards fault

theorem carries_of_request
    {c : Client}
    {towards : Option Address}
    {r : Request}
    (h : c.request towards = .ok r) :
    r.Carries towards := by
  cases towards with
  | none =>
      exact request_read h
  | some a =>
      exact request_written h

section Exchanges

variable
  {c : Client} {write : Bool} {towards : Option Address} {offer : Ending}
  {o : Outcome World Text}

theorem exchanged_of_unsent
    {fault : Fault}
    (hrequest : c.request towards = .error fault)
    (hresult : o.result = .error fault)
    (hrequests : Event.requests o.events = [])
    (herrors : Event.errors o.events = []) :
    c.Exchanged write towards offer o := by
  have hunsent := Event.not_requested_of_requests hrequests
  exact
    { unsent_iff := iff_of_true hrequests (hindered_of_request hrequest).not_sendable
      atMostOne := by simp [hrequests]
      carried := by simp [hrequests]
      met := by simp [hunsent]
      returned_iff := by simp [hunsent, hresult]
      unreached_iff := by simp [hunsent, herrors]
      lines := by simp [herrors]
      passedOn_iff := by simp [hunsent, herrors, hresult, hrequest]
      hindered := fun fault' => hindered_of_request }

theorem exchanged_of_sent
    {r : Request}
    (hrequest : c.request towards = .ok r)
    (hresult : o.result = c.verdict write (r.met offer))
    (hrequests : Event.requests o.events = [r])
    (time : Float)
    (hsent : ∀ r' ending time',
      .requested r' ending time' ∈ o.events ↔ r' = r ∧ ending = r.met offer ∧ time' = time)
    (herrors :
      Event.errors o.events = Event.errors (c.refusalNotes write (r.met offer))) :
    c.Exchanged write towards offer o where
  unsent_iff := by
    simp [hrequests, exists_request_iff.mp ⟨r, hrequest⟩]
  atMostOne := by
    simp [hrequests]
  carried := by
    simpa [hrequests] using carries_of_request hrequest
  met := by
    intro r' ending time' hmem hoffer
    obtain ⟨rfl, rfl, -⟩ := (hsent r' ending time').mp hmem
    exact Request.met_eq_self hoffer
  returned_iff := by
    intro body
    simp only [hresult, verdict_eq_ok_iff, Ending.handedOn?_eq_some_iff, hsent]
    simp [eq_comm]
  unreached_iff := by
    intro message
    rw [hresult, herrors]
    refine Client.unreached_iff.trans ?_
    simp [hsent]
  lines := by
    rw [herrors]
    exact errors_refusalNotes_le c write _
  passedOn_iff := by
    intro fault
    rw [hresult, herrors, Client.passedOn_iff, hrequest]
    simp [hsent, eq_comm]
  hindered := fun fault => hindered_of_request

end Exchanges

/-! ## The whole of a call -/

section Calls

variable (c : Client) (call : Call) (w : World)

/-- A call that goes on after its look-up has logged no error. -/
theorem errors_consultation
    {towards : Option Address}
    (hroute : call.route (c.source.lookUp.run w).result = .ok towards) :
    Event.errors (c.consultation call w) = [] := by
  unfold consultation
  split
  · next hconsults =>
    cases hlook : (c.source.lookUp.run w).result with
    | error fault =>
        rw [Call.route_eq_error_iff.mpr ⟨hconsults, hlook⟩] at hroute
        cases hroute
    | ok own =>
        exact IdentitySource.errors_lookUp hlook
  · rfl

/-- A call ends with its look-up, or goes on with an exchange in a world with the same endings
in store. -/
theorem query_course :
    (∃ fault w', call.route (c.source.lookUp.run w).result = .error fault ∧
      (c.query call).run w = ⟨.error fault, w', c.consultation call w⟩) ∨
    (∃ towards w', call.route (c.source.lookUp.run w).result = .ok towards ∧
      w'.reactions = w.reactions ∧
      (c.query call).run w =
        let after := (c.exchange call.write towards).run w'
        ⟨after.result, after.state, c.consultation call w ++ after.events⟩) := by
  have hreactions := (c.source.lookUp_reactions w).1
  rw [query_eq, Action.run_bind, run_destination]
  cases hroute : call.route (c.source.lookUp.run w).result with
  | error fault =>
      exact .inl ⟨fault, _, rfl, rfl⟩
  | ok towards =>
      refine .inr ⟨towards, _, rfl, ?_, rfl⟩
      split
      · exact hreactions
      · rfl

end Calls

/-- An exchange makes no contact but its request. -/
theorem contacts_exchange
    (c : Client)
    (write : Bool)
    (towards : Option Address)
    (w : World) :
    Event.contacts ((c.exchange write towards).run w).events =
      match c.request towards with
      | .error _ => []
      | .ok r => [.requested r (r.met w.reactions.next.offer) w.afterRequest.clock] := by
  cases hrequest : c.request towards with
  | error fault =>
      rw [exchange_unsent hrequest]
      simp
  | ok r =>
      rw [exchange_sent hrequest]
      simp

/-- An exchange after events among which there are no requests and no error lines. -/
theorem exchanged_after
    (c : Client)
    (write : Bool)
    (towards : Option Address)
    (w : World)
    {before : List Event}
    (hrequests : Event.requests before = [])
    (herrors : Event.errors before = []) :
    let after := (c.exchange write towards).run w
    c.Exchanged write towards w.reactions.next.offer
      ⟨after.result, after.state, before ++ after.events⟩ := by
  have hcontacts := c.contacts_exchange write towards w
  cases hrequest : c.request towards with
  | error fault =>
      rw [hrequest] at hcontacts
      rw [exchange_unsent hrequest] at hcontacts ⊢
      refine exchanged_of_unsent hrequest rfl ?_ (by simp [herrors])
      rw [Event.requests_append, hrequests]
      exact Event.requests_of_contacts hcontacts
  | ok r =>
      rw [hrequest] at hcontacts
      rw [exchange_sent hrequest] at hcontacts ⊢
      refine
        exchanged_of_sent hrequest rfl ?_ w.afterRequest.clock (fun r' ending time' => ?_)
          (by simp [herrors])
      · rw [Event.requests_append, hrequests]
        exact Event.requests_of_contacts hcontacts
      · have hbefore := Event.not_requested_of_requests hrequests r' ending time'
        rw [List.mem_append, or_iff_right hbefore, ← Event.requested_mem_contacts_iff, hcontacts,
          List.mem_singleton, Event.requested.injEq]

/-- The whole of a call in a world. -/
structure Settled (c : Client) (call : Call) (w : World) (o : Outcome World Text) : Prop where
  /-- The own address is looked up if the call consults, once and before anything is sent. -/
  contacts : ∃ sent,
    Event.contacts o.events =
      (if call.Consults then [.lookedUp (c.source.lookUp.run w).result] else []) ++ sent ∧
    Event.lookups sent = []
  /-- A fault of the look-up is passed on as it is, and nothing is sent. -/
  lost : ∀ fault,
    call.Consults → (c.source.lookUp.run w).result = .error fault →
      o.result = .error fault ∧ Event.requests o.events = []
  exchanged : ∀ towards,
    call.route (c.source.lookUp.run w).result = .ok towards →
      c.Exchanged call.write towards w.reactions.next.offer o
  /-- A read is the same call whatever address it is given. -/
  read : call.write = false → o = (c.query {}).run w

end Client
end FloatingAddress
