import FloatingAddress.Proofs.Arrivals
import FloatingAddress.Proofs.Calls
import FloatingAddress.Proofs.Classification

/-!
# Reading and writing on the same answer

A read judges the answer first and the own address after it; a write begins with the own
address. Hence the two may end in different failures where both the answer and the look-up
fail. They also differ where the answer names another address: a read tells so by its belief,
a write fails.

* `Provider.said`: what an answer says, or the failure that it is;
* `Provider.Routes`: an answer that says where the address is routed, in the words of a text;
* `Keeper.Hears`: a request is answered with a body;
* `Keeper.ReadOutcome`, `Keeper.WriteOutcome`: how the two operations end;
* `Keeper.typed_outcomes`: they end so whatever is believed before.
-/

namespace FloatingAddress

open Provider

section Failures

variable {α : Type} {result : Except Failure α}

theorem mapError_failure_eq_ok_iff
    {v : α} :
    result.mapError Fault.failure = .ok v ↔ result = .ok v := by
  cases result <;> simp [Except.mapError]

theorem mapError_failure_eq_error_iff
    {fault : Fault} :
    result.mapError Fault.failure = .error fault ↔
      ∃ f, result = .error f ∧ .failure f = fault := by
  cases result <;> simp [Except.mapError]

end Failures

/-! ## What an answer says -/

namespace Provider

/-- What an answer says: a failover record, or a failure. -/
def said : Except BodyProblem Reply → Except Failure FailoverRecord
  | .error problem => .error (.malformedResponse problem)
  | .ok (.error e) => .error (.provider e.status e.code e.message)
  | .ok (.failover record) => .ok record

/-- A body is decoded to a record of either kind, or refused as malformed. -/
def Decodes (body : Text) (found : Except BodyProblem Reply) : Prop :=
  Reply.decode body = found.mapError fun problem => .failure (.malformedResponse problem)

/-- A body says that the failover address is routed to the address that a text denotes. -/
def Routes (body posted : Text) : Prop :=
  ∃ members fields : Json.Members,
    Json.read body = .ok (.object members) ∧
    members.get? "failover" = some (.object fields) ∧
    fields.get? "active_server_ip" = some (.string posted)

variable {body : Text} {found : Except BodyProblem Reply}

theorem recordIn_of_decodes
    (h : Decodes body found) :
    recordIn body = (said found).mapError .failure := by
  unfold Decodes at h
  unfold recordIn
  rw [h]
  cases found with
  | error problem =>
      rfl
  | ok reply =>
      cases reply <;> rfl

/-- Where a value is taken for a failover record, its member is. -/
theorem taken_of_classified
    {members : Json.Members}
    {v : Json.Value}
    {record : FailoverRecord}
    (h : Classified (.object members) (.ok (.failover record)))
    (hheld : Held members "failover" v) :
    Taken FailoverRecord.declared FailoverRecord.ReadFrom v (.ok record) := by
  generalize hfound : (.ok (.failover record) : Except BodyProblem Reply) = found at h
  cases h with
  | notObject hv =>
      cases hfound
  | @error _ w taken herror htaken =>
      cases taken <;> cases hfound
  | neither hnone hneither =>
      cases hfound
  | @failover _ w taken hnone hheld' htaken =>
      obtain rfl : w = v := Option.some.inj (hheld'.1.symm.trans hheld.1)
      cases taken with
      | error defects =>
          cases hfound
      | ok record' =>
          cases hfound
          exact htaken

/-- A failover record holds the address that the body says. -/
theorem activeServerIp_of_routes
    {record : FailoverRecord}
    {posted : Text}
    {a : Address}
    (hdecode : Reply.decode body = .ok (.failover record))
    (hroutes : Routes body posted)
    (hposted : Address.read? posted = some a) :
    record.activeServerIp = a := by
  obtain ⟨members, fields, hread, hfailover, hactive⟩ := hroutes
  have hvalue : Reply.ofValue (.object members) = .ok (.failover record) := by
    rw [Reply.decode, hread] at hdecode
    dsimp only at hdecode
    split at hdecode
    · cases hdecode
    · next reply hreply =>
      cases hdecode
      exact hreply
  have hheld : Held members "failover" (.object fields) :=
    ⟨hfailover, by intro h; cases h⟩
  cases taken_of_classified ((Reply.ofValue_eq_iff _ _).mp hvalue) hheld with
  | record hr =>
      obtain ⟨v, hv, haddress⟩ := hr.activeServerIp
      rw [hactive] at hv
      cases hv
      simpa [addressOf, hposted] using haddress.symm

end Provider

namespace Keeper

/-! ## The outcomes -/

/-- A request is answered with a body, by a status below 500. -/
def Hears (k : Keeper) (s : Situation) (towards : Option Address) (body : Text) : Prop :=
  ∃ r, k.client.request towards = .ok r ∧
    ∃ status, s.ending r = .answered status body ∧ status < 500

/-- How a read ends, given what the answer says and how the look-up of the own address ends. -/
structure ReadOutcome
    (s : Situation)
    (answer : Except Failure FailoverRecord)
    (identity : Except Failure Address)
    (o : Outcome Situation FailoverRecord) : Prop where
  /-- The answer is a failure, and the own address is not looked up. -/
  refused : ∀ f, answer = .error f →
    o.result = .error (.failure f) ∧
    o.state.status.belief = .unknown ∧
    Event.lookups o.events = []
  unidentified : ∀ record f, answer = .ok record → identity = .error f →
    o.result = .error (.failure f) ∧
    o.state.status.belief = .unknown
  compared : ∀ record own, answer = .ok record → identity = .ok own →
    o.result = .ok record ∧
    o.state.status.belief = if record.activeServerIp = own then .configured else .released
  checkedAt : o.state.status.checkedAt = some s.world.afterRequest.clock

/-- How a write ends, given what the answer says and how the look-up of the own address ends. -/
structure WriteOutcome
    (s : Situation)
    (answer : Except Failure FailoverRecord)
    (identity : Except Failure Address)
    (o : Outcome Situation FailoverRecord) : Prop where
  /-- The look-up is a failure, and nothing is sent. -/
  unidentified : ∀ f, identity = .error f →
    o.result = .error (.failure f) ∧
    o.state.status.belief = .unknown ∧
    o.state.status.checkedAt = s.status.checkedAt ∧
    Event.requests o.events = []
  refused : ∀ own f, identity = .ok own → answer = .error f →
    o.result = .error (.failure f) ∧
    o.state.status.belief = .unknown
  confirmed : ∀ own record, identity = .ok own → answer = .ok record →
    record.activeServerIp = own →
    o.result = .ok record ∧
    o.state.status.belief = .configured
  elsewhere : ∀ own record, identity = .ok own → answer = .ok record →
    record.activeServerIp ≠ own →
    o.result = .error (.failure (.ownershipMismatch own.text record.activeServerIp.text)) ∧
    o.state.status.belief = .unknown
  /-- The own address is posted, once. -/
  posted : ∀ own, identity = .ok own →
    (∃ r, Event.requests o.events = [r] ∧ r.Carries (some own)) ∧
    o.state.status.checkedAt = some s.world.afterRequest.clock

section Outcomes

variable
  {k : Keeper} {s : Situation} {body : Text} {found : Except BodyProblem Reply}
  {identity : Except Failure Address}

/-- A look-up finds the same before and after a request. -/
theorem identity_answered
    (k : Keeper)
    (s : Situation) :
    k.identity s.answered = k.identity s := by
  unfold Keeper.identity
  cases k.source <;> rfl

/-- What the provider answers is what is handed on. -/
theorem Hears.handedOn_iff
    {towards : Option Address}
    (h : k.Hears s towards body)
    {r : Request}
    (hrequest : k.client.request towards = .ok r)
    {body' : Text} :
    (s.ending r).handedOn? = some body' ↔ body' = body := by
  obtain ⟨r', hrequest', status, hanswer, hstatus⟩ := h
  rw [hrequest] at hrequest'
  cases hrequest'
  have hbody := Ending.handedOn?_eq_some_iff.mpr ⟨status, hanswer, hstatus⟩
  rw [hbody, Option.some.injEq, eq_comm]

theorem refresh_outcome
    (hread : k.Hears s none body)
    (hfound : Decodes body found)
    (hidentity : k.identity s = identity.mapError .failure) :
    ReadOutcome s (said found) identity (k.refresh.run s) := by
  have hrecordIn := recordIn_of_decodes hfound
  cases k.refresh_course s with
  | unsent hrequest hresult hstate hcontacts =>
      obtain ⟨r, hok, -⟩ := hread
      rw [hrequest] at hok
      cases hok
  | refused hrequest hverdict hresult hstate hcontacts =>
      have hnone := Client.handedOn_of_verdict_error hverdict
      rw [(hread.handedOn_iff hrequest).mpr rfl] at hnone
      cases hnone
  | undecoded hrequest hbody hrecord hresult hstate hcontacts =>
      obtain rfl := (hread.handedOn_iff hrequest).mp hbody
      rw [hrecordIn, mapError_failure_eq_error_iff] at hrecord
      obtain ⟨f, hsaid, rfl⟩ := hrecord
      rw [hsaid]
      refine ⟨?_, by simp, by simp, by rw [hstate]; rfl⟩
      rintro _ ⟨⟩
      exact ⟨hresult, by rw [hstate]; rfl, Event.lookups_of_contacts hcontacts⟩
  | unidentified hrequest hbody hrecord hlost hresult hstate hcontacts =>
      obtain rfl := (hread.handedOn_iff hrequest).mp hbody
      rw [hrecordIn, mapError_failure_eq_ok_iff] at hrecord
      rw [identity_answered, hidentity, mapError_failure_eq_error_iff] at hlost
      obtain ⟨f, hlook, rfl⟩ := hlost
      rw [hrecord, hlook]
      refine ⟨by simp, ?_, by simp, by rw [hstate]; rfl⟩
      rintro _ _ ⟨⟩ ⟨⟩
      exact ⟨hresult, by rw [hstate]; rfl⟩
  | compared hrequest hbody hrecord hown hresult hstate hcontacts =>
      obtain rfl := (hread.handedOn_iff hrequest).mp hbody
      rw [hrecordIn, mapError_failure_eq_ok_iff] at hrecord
      rw [identity_answered, hidentity, mapError_failure_eq_ok_iff] at hown
      rw [hrecord, hown]
      refine ⟨by simp, by simp, ?_, by rw [hstate]; rfl⟩
      rintro _ _ ⟨⟩ ⟨⟩
      exact ⟨hresult, by rw [hstate]; rfl⟩

/-- A write goes out after the look-up, and meets the same answer. -/
theorem Hears.afterLookUp
    {towards : Option Address}
    (h : k.Hears s towards body) :
    k.Hears (k.afterLookUp s) towards body := by
  obtain ⟨r, hrequest, status, hanswer, hstatus⟩ := h
  refine ⟨r, hrequest, status, ?_, hstatus⟩
  rw [Situation.ending, reactions_afterLookUp]
  exact hanswer

theorem posted_of_contacts
    {own : Address}
    {r : Request}
    {events : List Event}
    (hrequest : k.client.request (some own) = .ok r)
    (hcontacts : Event.contacts events = [.lookedUp (.ok own), s.contact r]) :
    ∃ r, Event.requests events = [r] ∧ r.Carries (some own) :=
  ⟨r, Event.requests_of_contacts hcontacts, Client.carries_of_request hrequest⟩

theorem claim_outcome
    (hwrite : ∀ own, identity = .ok own → k.Hears s (some own) body)
    (hfound : Decodes body found)
    (hidentity : k.identity s = identity.mapError .failure) :
    WriteOutcome s (said found) identity (k.claim.run s) := by
  have hrecordIn := recordIn_of_decodes hfound
  have hclock := clock_afterRequest_afterLookUp k s
  cases k.claim_course s with
  | unidentified hlost hresult hstate hcontacts =>
      rw [hidentity, mapError_failure_eq_error_iff] at hlost
      obtain ⟨f, hlook, rfl⟩ := hlost
      rw [hlook]
      refine ⟨?_, by simp, by simp, by simp, by simp⟩
      rintro _ ⟨⟩
      exact
        ⟨hresult, by rw [hstate]; rfl, by rw [hstate]; rfl,
          Event.requests_of_contacts hcontacts⟩
  | unsent hown hrequest hresult hstate hcontacts =>
      rw [hidentity, mapError_failure_eq_ok_iff] at hown
      obtain ⟨r, hok, -⟩ := hwrite _ hown
      rw [hrequest] at hok
      cases hok
  | refused hown hrequest hverdict hresult hstate hcontacts =>
      rw [hidentity, mapError_failure_eq_ok_iff] at hown
      have hnone := Client.handedOn_of_verdict_error hverdict
      rw [((hwrite _ hown).afterLookUp.handedOn_iff hrequest).mpr rfl] at hnone
      cases hnone
  | undecoded hown hrequest hbody hrecord hresult hstate hcontacts =>
      rw [hidentity, mapError_failure_eq_ok_iff] at hown
      obtain rfl := ((hwrite _ hown).afterLookUp.handedOn_iff hrequest).mp hbody
      rw [hrecordIn, mapError_failure_eq_error_iff] at hrecord
      obtain ⟨f, hsaid, rfl⟩ := hrecord
      rw [hown, hsaid]
      refine ⟨by simp, ?_, by simp, by simp, ?_⟩
      · rintro _ _ ⟨⟩ ⟨⟩
        exact ⟨hresult, by rw [hstate]; rfl⟩
      · rintro _ ⟨⟩
        exact ⟨posted_of_contacts hrequest hcontacts, by rw [hstate, ← hclock]; rfl⟩
  | elsewhere hown hrequest hbody hrecord hother hresult hstate hcontacts =>
      rw [hidentity, mapError_failure_eq_ok_iff] at hown
      obtain rfl := ((hwrite _ hown).afterLookUp.handedOn_iff hrequest).mp hbody
      rw [hrecordIn, mapError_failure_eq_ok_iff] at hrecord
      rw [hown, hrecord]
      refine ⟨by simp, by simp, ?_, ?_, ?_⟩
      · rintro _ _ ⟨⟩ ⟨⟩ hsame
        exact absurd hsame hother
      · rintro _ _ ⟨⟩ ⟨⟩ -
        exact ⟨hresult, by rw [hstate]; rfl⟩
      · rintro _ ⟨⟩
        exact ⟨posted_of_contacts hrequest hcontacts, by rw [hstate, ← hclock]; rfl⟩
  | confirmed hown hrequest hbody hrecord hsame hresult hstate hcontacts =>
      rw [hidentity, mapError_failure_eq_ok_iff] at hown
      obtain rfl := ((hwrite _ hown).afterLookUp.handedOn_iff hrequest).mp hbody
      rw [hrecordIn, mapError_failure_eq_ok_iff] at hrecord
      rw [hown, hrecord]
      refine ⟨by simp, by simp, ?_, ?_, ?_⟩
      · rintro _ _ ⟨⟩ ⟨⟩ -
        exact ⟨hresult, by rw [hstate]; rfl⟩
      · rintro _ _ ⟨⟩ ⟨⟩ hother
        exact absurd hsame hother
      · rintro _ ⟨⟩
        exact ⟨posted_of_contacts hrequest hcontacts, by rw [hstate, ← hclock]; rfl⟩

/-- A provider that names the address that is posted to it confirms the claim. -/
theorem WriteOutcome.echoed
    {o : Outcome Situation FailoverRecord}
    (h : WriteOutcome s (said found) identity o)
    (hfound : Decodes body found)
    {own : Address}
    {record : FailoverRecord}
    (hown : identity = .ok own)
    (hsaid : said found = .ok record)
    {r : Request}
    {posted : Text}
    (hr : r ∈ Event.requests o.events)
    (hposted : Form.decode? r.body = some [(("active_server_ip" : Text), posted)])
    (hroutes : Routes body posted) :
    o.result = .ok record ∧ o.state.status.belief = .configured := by
  obtain ⟨⟨r', hrequests, hcarries⟩, -⟩ := h.posted own hown
  rw [hrequests, List.mem_singleton] at hr
  subst hr
  have htext : posted = own.text := by
    have hboth := hposted.symm.trans hcarries.2
    simpa using hboth
  have hdecode : Reply.decode body = .ok (.failover record) := by
    rw [← recordIn_eq_ok_iff, recordIn_of_decodes hfound, hsaid]
    rfl
  refine h.confirmed own record hown hsaid ?_
  exact activeServerIp_of_routes hdecode hroutes (by rw [htext, Address.read?_text])

/-- How a read and a write end on the same answer, whatever is believed before. -/
theorem typed_outcomes
    (hfound : Decodes body found)
    (hidentity : k.identity s = identity.mapError .failure) :
    (k.Hears s none body →
      ReadOutcome s (said found) identity (k.refresh.run s)) ∧
    ((∀ own, identity = .ok own → k.Hears s (some own) body) →
      WriteOutcome s (said found) identity (k.claim.run s) ∧
      ∀ own record posted,
        identity = .ok own →
        said found = .ok record →
        (∃ r ∈ Event.requests (k.claim.run s).events,
          Form.decode? r.body = some [(("active_server_ip" : Text), posted)]) →
        Routes body posted →
        (k.claim.run s).result = .ok record ∧
        (k.claim.run s).state.status.belief = .configured) := by
  constructor
  · intro hread
    exact refresh_outcome hread hfound hidentity
  · intro hwrite
    have hclaim := claim_outcome hwrite hfound hidentity
    refine ⟨hclaim, ?_⟩
    rintro own record posted hown hsaid ⟨r, hr, hposted⟩ hroutes
    exact hclaim.echoed hfound hown hsaid hr hposted hroutes

end Outcomes

/-- The record in the first answer of the sample world. -/
def sampleRecord : FailoverRecord where
  ip := "198.51.100.7"
  netmask := "255.255.255.255"
  serverIp := "203.0.113.10"
  serverNumber := 42
  activeServerIp := .v4 (.ofNat 0xCB00710A)

/-- The sample keeper finds the address routed to its own node, and claims it. -/
theorem typed_outcomes_sample :
    let s := Situation.fresh (sampleWorld [])
    ((sample.refresh.run s).result = .ok sampleRecord ∧
      (sample.refresh.run s).state.status.belief = .configured) ∧
    (sample.claim.run s).result = .ok sampleRecord ∧
    (sample.claim.run s).state.status.belief = .configured := by
  intro s
  let identity : Except Failure Address := .ok (.v4 (.ofNat 0xCB00710A))
  have hidentity : sample.identity s = identity.mapError .failure := rfl
  obtain ⟨body, hanswer⟩ : ∃ body, s.world.reactions.next.offer = .answered 200 body :=
    ⟨_, rfl⟩
  have hfound : Decodes body (.ok (.failover sampleRecord)) := by
    have hdecoded :
        (s.world.reactions.next.offer.handedOn?.any fun body =>
          (Reply.decode body).toOption.any fun reply => reply = .failover sampleRecord) =
        true := by
      decide +kernel
    rw [hanswer] at hdecoded
    obtain ⟨reply, hreply, hrecord⟩ := exists_ok_of_toOption hdecoded
    rw [Decodes, hreply, of_decide_eq_true hrecord]
    rfl
  obtain ⟨r, hrequest, habsolute⟩ := sample_request
  have hread : sample.Hears s none body :=
    ⟨r, hrequest, 200, Request.met_eq_answered_iff.mpr ⟨habsolute, hanswer⟩, by decide⟩
  have hwrite (own : Address) (hown : identity = .ok own) :
      sample.Hears s (some own) body := by
    obtain rfl := Except.ok.inj hown
    obtain ⟨form, hform⟩ := Client.exists_formFor_v4 (.ofNat 0xCB00710A)
    have hposted : sample.client.request _ = _ := Client.request_of_form hform
    rw [hrequest] at hposted
    exact
      ⟨_, hposted, 200, Request.met_eq_answered_iff.mpr ⟨habsolute, hanswer⟩, by decide⟩
  obtain ⟨hrefresh, hclaim⟩ := typed_outcomes hfound hidentity
  constructor
  · exact (hrefresh hread).compared sampleRecord _ rfl rfl
  · exact (hclaim hwrite).1.confirmed _ sampleRecord rfl rfl rfl

end Keeper
end FloatingAddress
