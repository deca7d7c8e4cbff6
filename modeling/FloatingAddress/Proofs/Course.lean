import FloatingAddress.Proofs.Exchange

/-!
# The courses of the typed operations

A read goes through four stages: a request is made of the call, an answer is handed on,
the answer is decoded to a failover record, and the own address is looked up; then the two
addresses are compared. A write looks up the own address first. Each operation ends at the
first stage that fails. `RefreshCourse` and `ClaimCourse` say for each stage what the
operation ends with, which situation it leaves, and which contacts it made; everything
else that is known of the two operations follows from these courses.

* `Keeper.refresh_course`, `Keeper.claim_course`: every run takes one of the courses.
-/

namespace FloatingAddress

open Provider

/-- The failover record in a body; the provider's own error is a failure. -/
def Provider.recordIn (body : Text) : Except Fault FailoverRecord :=
  (Reply.decode body).bind Keeper.expectFailover

/-- A body holds a failover record exactly if it decodes to that record. -/
theorem Provider.recordIn_eq_ok_iff
    (body : Text)
    (record : FailoverRecord) :
    recordIn body = .ok record ↔ Reply.decode body = .ok (.failover record) := by
  cases h : Reply.decode body with
  | error fault =>
      simp [recordIn, h, Except.bind]
  | ok reply =>
      cases reply <;> simp [recordIn, h, Except.bind, Keeper.expectFailover]

/-- The log line of an answer that decodes; there is none otherwise. -/
def Provider.noted : Except Fault Reply → List Event
  | .ok reply => [.logged ⟨reply.severity, .words reply.summary⟩]
  | .error _ => []

@[simp] theorem Provider.contacts_noted
    (result : Except Fault Reply) :
    Event.contacts (noted result) = [] := by
  cases result <;> rfl

/-- Decoding changes nothing; what it does besides is log. -/
theorem Provider.run_decode
    {σ : Type}
    (body : Text)
    (s : σ) :
    (decode body).run s = ⟨Reply.decode body, s, noted (Reply.decode body)⟩ := by
  unfold decode logReply
  cases Reply.decode body <;> rfl

/-- A fault that belongs to the family of failures. -/
def Fault.IsFailure : Fault → Prop
  | failure _ => True
  | _ => False

instance (fault : Fault) : Decidable fault.IsFailure := by
  cases fault <;> unfold Fault.IsFailure <;> infer_instance

namespace Situation

/-- The situation with another belief. -/
def believing (s : Situation) (belief : Belief) : Situation :=
  { s with status := { s.status with belief } }

/-- The situation after a fault: a failure leaves no belief behind, any other fault leaves
the belief as it is. -/
def afterFault (s : Situation) : Fault → Situation
  | .failure _ => s.believing .unknown
  | _ => s

/-- The situation after a request whose answer was refused. -/
def refused (s : Situation) : Situation :=
  { s with world := s.world.afterRequest }

/-- The situation after a request whose answer was handed on: the provider has answered. -/
def answered (s : Situation) : Situation :=
  { status := { s.status with checkedAt := some s.world.afterRequest.clock }
    world := s.world.afterRequest }

/-- How a request that is sent in a situation ends. -/
def ending (s : Situation) (r : Request) : Ending :=
  r.met s.world.reactions.next.offer

/-- The contact that a request makes in a situation. -/
def contact (s : Situation) (r : Request) : Event :=
  .requested r (s.ending r) s.world.afterRequest.clock

@[simp] theorem belief_believing
    (s : Situation)
    (belief : Belief) :
    (s.believing belief).status.belief = belief :=
  rfl

@[simp] theorem checkedAt_believing
    (s : Situation)
    (belief : Belief) :
    (s.believing belief).status.checkedAt = s.status.checkedAt :=
  rfl

@[simp] theorem world_believing
    (s : Situation)
    (belief : Belief) :
    (s.believing belief).world = s.world :=
  rfl

@[simp] theorem checkedAt_afterFault
    (s : Situation)
    (fault : Fault) :
    (s.afterFault fault).status.checkedAt = s.status.checkedAt := by
  cases fault <;> rfl

/-- A failure leaves no belief behind. -/
theorem belief_afterFault_of_failure
    {fault : Fault}
    (h : fault.IsFailure)
    (s : Situation) :
    (s.afterFault fault).status.belief = .unknown := by
  cases fault with
  | failure f =>
      rfl
  | _ =>
      exact h.elim

/-- A fault that is no failure leaves the belief as it is. -/
theorem belief_afterFault_of_other
    {fault : Fault}
    (h : ¬fault.IsFailure)
    (s : Situation) :
    (s.afterFault fault).status.belief = s.status.belief := by
  cases fault with
  | failure f =>
      exact absurd trivial h
  | _ =>
      rfl

@[simp] theorem world_afterFault
    (s : Situation)
    (fault : Fault) :
    (s.afterFault fault).world = s.world := by
  cases fault <;> rfl

end Situation

namespace Event

/-- A contact whose answer is handed on is an answer. -/
theorem answers_contact
    {s : Situation}
    {r : Request}
    {body : Text}
    (hbody : (s.ending r).handedOn? = some body)
    (rest : List Event) :
    answers (s.contact r :: rest) = (body, s.world.afterRequest.clock) :: answers rest :=
  answers_requested_of_handedOn hbody _ _

/-- A contact whose answer is refused is none. -/
theorem answers_refused
    {s : Situation}
    {r : Request}
    (hrefused : (s.ending r).handedOn? = none)
    (rest : List Event) :
    answers (s.contact r :: rest) = answers rest :=
  answers_requested_of_refused hrefused _ _

end Event

namespace Keeper

/-! ## Parts of the operations -/

theorem run_outside
    {α : Type}
    (a : Action World α)
    (s : Situation) :
    (outside a).run s =
      ⟨(a.run s.world).result, { s with world := (a.run s.world).state },
        (a.run s.world).events⟩ :=
  rfl

@[simp] theorem run_believe
    (belief : Belief)
    (s : Situation) :
    (believe belief).run s = ⟨.ok (), s.believing belief, []⟩ :=
  rfl

/-- Forgetting changes what is believed after a failure, and nothing else. -/
theorem run_forgetting
    {α : Type}
    (a : Action Situation α)
    (s : Situation) :
    (forgetting a).run s =
      ⟨(a.run s).result,
        (match (a.run s).result with
          | .error fault => (a.run s).state.afterFault fault
          | .ok _ => (a.run s).state),
        (a.run s).events⟩ := by
  rw [forgetting, Action.run_recover]
  rcases a.run s with ⟨result, s', events⟩
  cases result with
  | ok v =>
      rfl
  | error fault =>
      cases fault <;> simp [Situation.afterFault, Action.run_bind]

section Ask

variable {k : Keeper} {call : Call} {towards : Option Address}

theorem ask_unsent
    (hdestination : k.client.destination call = pure towards)
    {fault : Fault}
    (hrequest : k.client.request towards = .error fault)
    (s : Situation) :
    ∃ events,
      (k.ask call).run s = ⟨.error fault, s, events⟩ ∧
      Event.contacts events = [] := by
  obtain ⟨events, hquery, hcontacts⟩ :=
    Client.query_unsent hdestination hrequest s.world
  exact ⟨events, by simp [ask, Action.run_bind, run_outside, hquery], hcontacts⟩

theorem ask_refused
    (hdestination : k.client.destination call = pure towards)
    {r : Request}
    (hrequest : k.client.request towards = .ok r)
    {s : Situation}
    {fault : Fault}
    (hverdict : k.client.verdict call.write (s.ending r) = .error fault) :
    ∃ events,
      (k.ask call).run s = ⟨.error fault, s.refused, events⟩ ∧
      Event.contacts events = [s.contact r] := by
  obtain ⟨events, hquery, hcontacts⟩ :=
    Client.query_sent hdestination hrequest s.world
  rw [show r.met s.world.reactions.next.offer = s.ending r from rfl, hverdict] at hquery
  exact
    ⟨events, by simp [ask, Action.run_bind, run_outside, hquery, Situation.refused],
      hcontacts⟩

theorem ask_answered
    (hdestination : k.client.destination call = pure towards)
    {r : Request}
    (hrequest : k.client.request towards = .ok r)
    {s : Situation}
    {body : Text}
    (hbody : (s.ending r).handedOn? = some body) :
    ∃ events,
      (k.ask call).run s = ⟨recordIn body, s.answered, events⟩ ∧
      Event.contacts events = [s.contact r] := by
  obtain ⟨queried, hquery, hcontacts⟩ :=
    Client.query_sent hdestination hrequest s.world
  rw [show r.met s.world.reactions.next.offer = s.ending r from rfl,
    (k.client.verdict_eq_ok_iff call.write _ body).mpr hbody] at hquery
  have hmark :
      markChecked.run s.refused = ⟨.ok (), s.answered, []⟩ :=
    rfl
  have hboth : Event.contacts (queried ++ noted (Reply.decode body)) = [s.contact r] := by
    simp [hcontacts, Situation.contact, Situation.ending]
  refine ⟨queried ++ noted (Reply.decode body), ?_, hboth⟩
  rw [ask, Action.run_bind, run_outside, hquery]
  simp only [Action.run_bind]
  rw [show ({ status := s.status, world := s.world.afterRequest } : Situation) = s.refused
    from rfl, hmark]
  simp only [run_decode, List.nil_append]
  cases hreply : Reply.decode body with
  | error fault =>
      simp [recordIn, hreply, Except.bind]
  | ok reply =>
      simp [recordIn, hreply, Except.bind]

end Ask

/-! ## Looking up the own address -/

/-- What a look-up of the own address gives in a situation. -/
def identity (k : Keeper) (s : Situation) : Except Fault Address :=
  (k.source.lookUp.run s.world).result

/-- The situation after a look-up of the own address. -/
def afterLookUp (k : Keeper) (s : Situation) : Situation :=
  { s with world := (k.source.lookUp.run s.world).state }

theorem lookUp_run
    (k : Keeper)
    (s : Situation) :
    ∃ events,
      k.lookUp.run s = ⟨k.identity s, k.afterLookUp s, events⟩ ∧
      Event.contacts events = [.lookedUp (k.identity s)] :=
  ⟨(k.source.lookUp.run s.world).events, rfl, k.source.lookUp_contacts s.world⟩

/-! ## The courses -/

/-- The courses of a read, by the stage that ends it. -/
inductive RefreshCourse
    (k : Keeper)
    (s : Situation)
    (o : Outcome Situation FailoverRecord) : Prop
  /-- No request can be made. -/
  | unsent {fault : Fault}
      (hrequest : k.client.request none = .error fault)
      (hresult : o.result = .error fault)
      (hstate : o.state = s.afterFault fault)
      (hcontacts : Event.contacts o.events = [])
  /-- No answer is handed on. -/
  | refused {r : Request} {fault : Fault}
      (hrequest : k.client.request none = .ok r)
      (hverdict : k.client.verdict false (s.ending r) = .error fault)
      (hresult : o.result = .error fault)
      (hstate : o.state = s.refused.afterFault fault)
      (hcontacts : Event.contacts o.events = [s.contact r])
  /-- The answer holds no failover record. -/
  | undecoded {r : Request} {body : Text} {fault : Fault}
      (hrequest : k.client.request none = .ok r)
      (hbody : (s.ending r).handedOn? = some body)
      (hrecord : recordIn body = .error fault)
      (hresult : o.result = .error fault)
      (hstate : o.state = s.answered.afterFault fault)
      (hcontacts : Event.contacts o.events = [s.contact r])
  /-- The own address is not found. -/
  | unidentified {r : Request} {body : Text} {record : FailoverRecord} {fault : Fault}
      (hrequest : k.client.request none = .ok r)
      (hbody : (s.ending r).handedOn? = some body)
      (hrecord : recordIn body = .ok record)
      (hidentity : k.identity s.answered = .error fault)
      (hresult : o.result = .error fault)
      (hstate : o.state = (k.afterLookUp s.answered).afterFault fault)
      (hcontacts : Event.contacts o.events = [s.contact r, .lookedUp (.error fault)])
  /-- The record is compared with the own address. -/
  | compared {r : Request} {body : Text} {record : FailoverRecord} {own : Address}
      (hrequest : k.client.request none = .ok r)
      (hbody : (s.ending r).handedOn? = some body)
      (hrecord : recordIn body = .ok record)
      (hidentity : k.identity s.answered = .ok own)
      (hresult : o.result = .ok record)
      (hstate : o.state = (k.afterLookUp s.answered).believing
        (if record.activeServerIp = own then .configured else .released))
      (hcontacts : Event.contacts o.events = [s.contact r, .lookedUp (.ok own)])

/-- The courses of a write, by the stage that ends it. -/
inductive ClaimCourse
    (k : Keeper)
    (s : Situation)
    (o : Outcome Situation FailoverRecord) : Prop
  | unidentified {fault : Fault}
      (hidentity : k.identity s = .error fault)
      (hresult : o.result = .error fault)
      (hstate : o.state = (k.afterLookUp s).afterFault fault)
      (hcontacts : Event.contacts o.events = [.lookedUp (.error fault)])
  | unsent {own : Address} {fault : Fault}
      (hidentity : k.identity s = .ok own)
      (hrequest : k.client.request (some own) = .error fault)
      (hresult : o.result = .error fault)
      (hstate : o.state = (k.afterLookUp s).afterFault fault)
      (hcontacts : Event.contacts o.events = [.lookedUp (.ok own)])
  | refused {own : Address} {r : Request} {fault : Fault}
      (hidentity : k.identity s = .ok own)
      (hrequest : k.client.request (some own) = .ok r)
      (hverdict : k.client.verdict true ((k.afterLookUp s).ending r) = .error fault)
      (hresult : o.result = .error fault)
      (hstate : o.state = (k.afterLookUp s).refused.afterFault fault)
      (hcontacts : Event.contacts o.events =
        [.lookedUp (.ok own), (k.afterLookUp s).contact r])
  | undecoded {own : Address} {r : Request} {body : Text} {fault : Fault}
      (hidentity : k.identity s = .ok own)
      (hrequest : k.client.request (some own) = .ok r)
      (hbody : ((k.afterLookUp s).ending r).handedOn? = some body)
      (hrecord : recordIn body = .error fault)
      (hresult : o.result = .error fault)
      (hstate : o.state = (k.afterLookUp s).answered.afterFault fault)
      (hcontacts : Event.contacts o.events =
        [.lookedUp (.ok own), (k.afterLookUp s).contact r])
  | elsewhere {own : Address} {r : Request} {body : Text} {record : FailoverRecord}
      (hidentity : k.identity s = .ok own)
      (hrequest : k.client.request (some own) = .ok r)
      (hbody : ((k.afterLookUp s).ending r).handedOn? = some body)
      (hrecord : recordIn body = .ok record)
      (hother : record.activeServerIp ≠ own)
      (hresult : o.result =
        .error (.failure (.ownershipMismatch own.text record.activeServerIp.text)))
      (hstate : o.state = (k.afterLookUp s).answered.believing .unknown)
      (hcontacts : Event.contacts o.events =
        [.lookedUp (.ok own), (k.afterLookUp s).contact r])
  | confirmed {own : Address} {r : Request} {body : Text} {record : FailoverRecord}
      (hidentity : k.identity s = .ok own)
      (hrequest : k.client.request (some own) = .ok r)
      (hbody : ((k.afterLookUp s).ending r).handedOn? = some body)
      (hrecord : recordIn body = .ok record)
      (hown : record.activeServerIp = own)
      (hresult : o.result = .ok record)
      (hstate : o.state = (k.afterLookUp s).answered.believing .configured)
      (hcontacts : Event.contacts o.events =
        [.lookedUp (.ok own), (k.afterLookUp s).contact r])

/-- Every read takes one of its courses. -/
theorem refresh_course
    (k : Keeper)
    (s : Situation) :
    RefreshCourse k s (k.refresh.run s) := by
  have hread : k.client.destination {} = pure none := rfl
  rw [refresh, run_forgetting]
  simp only [Action.run_bind]
  cases hrequest : k.client.request none with
  | error fault =>
      obtain ⟨events, hask, hcontacts⟩ := ask_unsent hread hrequest s
      rw [hask]
      exact .unsent hrequest rfl rfl hcontacts
  | ok r =>
      cases hverdict : k.client.verdict false (s.ending r) with
      | error fault =>
          obtain ⟨events, hask, hcontacts⟩ := ask_refused hread hrequest hverdict
          rw [hask]
          exact .refused hrequest hverdict rfl rfl hcontacts
      | ok body =>
          have hbody := (k.client.verdict_eq_ok_iff false _ body).mp hverdict
          obtain ⟨asked, hask, hasked⟩ := ask_answered hread hrequest hbody
          rw [hask]
          cases hrecord : recordIn body with
          | error fault =>
              exact .undecoded hrequest hbody hrecord rfl rfl hasked
          | ok record =>
              obtain ⟨looked, hlook, hlooked⟩ := k.lookUp_run s.answered
              simp only [hlook]
              cases hidentity : k.identity s.answered with
              | error fault =>
                  refine .unidentified hrequest hbody hrecord hidentity rfl rfl ?_
                  rw [hidentity] at hlooked
                  simp [hasked, hlooked]
              | ok own =>
                  refine .compared hrequest hbody hrecord hidentity rfl rfl ?_
                  rw [hidentity] at hlooked
                  simp [hasked, hlooked]

/-- Every write takes one of its courses. -/
theorem claim_course
    (k : Keeper)
    (s : Situation) :
    ClaimCourse k s (k.claim.run s) := by
  rw [claim, run_forgetting]
  simp only [Action.run_bind]
  obtain ⟨looked, hlook, hlooked⟩ := k.lookUp_run s
  rw [hlook]
  cases hidentity : k.identity s with
  | error fault =>
      rw [hidentity] at hlooked
      exact .unidentified hidentity rfl rfl hlooked
  | ok own =>
      rw [hidentity] at hlooked
      have hwrite :
          k.client.destination { write := true, towards := some own } = pure (some own) :=
        rfl
      cases hrequest : k.client.request (some own) with
      | error fault =>
          obtain ⟨events, hask, hcontacts⟩ := ask_unsent hwrite hrequest (k.afterLookUp s)
          simp only [hask]
          exact .unsent hidentity hrequest rfl rfl (by simp [hlooked, hcontacts])
      | ok r =>
          cases hverdict : k.client.verdict true ((k.afterLookUp s).ending r) with
          | error fault =>
              obtain ⟨events, hask, hcontacts⟩ := ask_refused hwrite hrequest hverdict
              simp only [hask]
              exact
                .refused hidentity hrequest hverdict rfl rfl (by simp [hlooked, hcontacts])
          | ok body =>
              have hbody := (k.client.verdict_eq_ok_iff true _ body).mp hverdict
              obtain ⟨asked, hask, hasked⟩ := ask_answered hwrite hrequest hbody
              simp only [hask]
              cases hrecord : recordIn body with
              | error fault =>
                  exact
                    .undecoded hidentity hrequest hbody hrecord rfl rfl
                      (by simp [hlooked, hasked])
              | ok record =>
                  by_cases hown : record.activeServerIp = own
                  · refine .confirmed hidentity hrequest hbody hrecord hown ?_ ?_ ?_
                    all_goals simp [hown, hlooked, hasked, Action.run_map, Except.map]
                  · refine .elsewhere hidentity hrequest hbody hrecord hown ?_ ?_ ?_
                    all_goals simp [hown, hlooked, hasked, Situation.afterFault]

end Keeper

end FloatingAddress
