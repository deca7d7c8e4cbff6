import FloatingAddress.Proofs.Sending
import FloatingAddress.Proofs.Surroundings

/-!
# What an operation says to the outside

An operation makes at most two contacts. Reading comes before looking up the own address,
and only an answer that holds a failover record is compared; writing comes after it, and
names the address that was found.

* `Keeper.Traffic`: the contacts that an operation may make;
* `RefreshCourse.traffic`, `ClaimCourse.traffic`: those of the typed operations;
* `Keeper.perform_traffic`: those of any one operation;
* `Keeper.run_traffic`: those of the operations of a session.
-/

namespace FloatingAddress

open Provider

namespace Keeper

/-- The contacts that an operation may make, in order. -/
inductive Traffic : Operation → List Event → Prop
  /-- None; a write at least looks up the own address. -/
  | silent {operation : Operation}
      (hread : operation ∉ [.claim, .configure]) :
      Traffic operation []
  /-- A request without a body. -/
  | read {operation : Operation} {r : Request} {ending : Ending} {time : Float}
      (hread : operation ∈ [.query, .refresh])
      (hmethod : methodName r.write = ("GET" : Text))
      (hbody : r.body = []) :
      Traffic operation [.requested r ending time]
  /-- A request without a body whose answer holds a failover record, and then a look-up. -/
  | compared {operation : Operation} {r : Request} {ending : Ending} {time : Float}
      {answer : Text} {record : FailoverRecord} {result : Except Fault Address}
      (hread : operation ∈ [.query, .refresh])
      (hmethod : methodName r.write = ("GET" : Text))
      (hbody : r.body = [])
      (hanswer : ending.handedOn? = some answer)
      (hrecord : Reply.decode answer = .ok (.failover record)) :
      Traffic operation [.requested r ending time, .lookedUp result]
  /-- A look-up that finds nothing, or after which nothing can be sent. -/
  | unsent {operation : Operation} {result : Except Fault Address}
      (hwrite : operation ∈ [.claim, .configure]) :
      Traffic operation [.lookedUp result]
  /-- A look-up, and then a form that names the address it found. -/
  | written {operation : Operation} {own : Address} {r : Request} {ending : Ending}
      {time : Float}
      (hwrite : operation ∈ [.claim, .configure])
      (hmethod : methodName r.write = ("POST" : Text))
      (hform : Form.decode? r.body = some [(("active_server_ip" : Text), own.text)]) :
      Traffic operation [.lookedUp (.ok own), .requested r ending time]

theorem RefreshCourse.traffic
    {k : Keeper}
    {s : Situation}
    {o : Outcome Situation FailoverRecord}
    (h : RefreshCourse k s o)
    {operation : Operation}
    (hread : operation ∈ [.query, .refresh]) :
    Traffic operation (Event.contacts o.events) := by
  have hsilent : operation ∉ [.claim, .configure] := by
    cases operation <;> simp_all
  cases h with
  | unsent hrequest hresult hstate hcontacts =>
      rw [hcontacts]
      exact .silent hsilent
  | refused hrequest hverdict hresult hstate hcontacts =>
      obtain ⟨hmethod, hbody⟩ := Client.request_read hrequest
      rw [hcontacts]
      exact .read hread hmethod hbody
  | undecoded hrequest hbody hrecord hresult hstate hcontacts =>
      obtain ⟨hmethod, hempty⟩ := Client.request_read hrequest
      rw [hcontacts]
      exact .read hread hmethod hempty
  | @unidentified r body record fault hrequest hbody hrecord hidentity hresult hstate
      hcontacts =>
      obtain ⟨hmethod, hempty⟩ := Client.request_read hrequest
      rw [hcontacts]
      exact .compared hread hmethod hempty hbody ((recordIn_eq_ok_iff body record).mp hrecord)
  | @compared r body record own hrequest hbody hrecord hidentity hresult hstate hcontacts =>
      obtain ⟨hmethod, hempty⟩ := Client.request_read hrequest
      rw [hcontacts]
      exact .compared hread hmethod hempty hbody ((recordIn_eq_ok_iff body record).mp hrecord)

theorem ClaimCourse.traffic
    {k : Keeper}
    {s : Situation}
    {o : Outcome Situation FailoverRecord}
    (h : ClaimCourse k s o)
    {operation : Operation}
    (hwrite : operation ∈ [.claim, .configure]) :
    Traffic operation (Event.contacts o.events) := by
  cases h with
  | unidentified hidentity hresult hstate hcontacts =>
      rw [hcontacts]
      exact .unsent hwrite
  | unsent hidentity hrequest hresult hstate hcontacts =>
      rw [hcontacts]
      exact .unsent hwrite
  | refused hidentity hrequest hverdict hresult hstate hcontacts =>
      obtain ⟨hmethod, hform⟩ := Client.request_written hrequest
      rw [hcontacts]
      exact .written hwrite hmethod hform
  | undecoded hidentity hrequest hbody hrecord hresult hstate hcontacts =>
      obtain ⟨hmethod, hform⟩ := Client.request_written hrequest
      rw [hcontacts]
      exact .written hwrite hmethod hform
  | elsewhere hidentity hrequest hbody hrecord hother hresult hstate hcontacts =>
      obtain ⟨hmethod, hform⟩ := Client.request_written hrequest
      rw [hcontacts]
      exact .written hwrite hmethod hform
  | confirmed hidentity hrequest hbody hrecord hown hresult hstate hcontacts =>
      obtain ⟨hmethod, hform⟩ := Client.request_written hrequest
      rw [hcontacts]
      exact .written hwrite hmethod hform

/-- What any operation says to the outside. -/
theorem perform_traffic
    (k : Keeper)
    (operation : Operation)
    (s : Situation) :
    Traffic operation (Event.contacts ((k.perform operation).run s).events) := by
  cases k.perform_course operation s with
  | silent hoperation hends hstate hcontacts =>
      have hread : operation ∉ [.claim, .configure] := by
        cases operation <;> simp_all
      rw [hcontacts]
      exact .silent hread
  | givenUp hoperation hends hstate hcontacts =>
      have hread : operation ∉ [.claim, .configure] := by
        rw [hoperation]
        decide
      rw [hcontacts]
      exact .silent hread
  | read hoperation hcourse hends hstate hcontacts =>
      rw [hcontacts]
      exact hcourse.traffic hoperation
  | write hoperation hcourse hends hstate hcontacts =>
      rw [hcontacts]
      exact hcourse.traffic hoperation

theorem Traffic.requests_length
    {operation : Operation}
    {events : List Event}
    (h : Traffic operation events) :
    (Event.requests events).length ≤ 1 := by
  cases h <;> simp [Event.requests]

theorem Traffic.lookups_length
    {operation : Operation}
    {events : List Event}
    (h : Traffic operation events) :
    (Event.lookups events).length ≤ 1 := by
  cases h <;> simp [Event.lookups]

/-- The operations of a session each send at most one request, look up the own address at
most once, and say to the outside what they may. -/
theorem run_traffic
    (k : Keeper)
    (s : Situation)
    (steps : List SessionStep) :
    ∀ r ∈ (k.run s steps).1,
      (Event.requests r.outcome.events).length ≤ 1 ∧
      (Event.lookups r.outcome.events).length ≤ 1 ∧
      Traffic r.operation (Event.contacts r.outcome.events) := by
  intro r hr
  obtain ⟨older, newer, hreports⟩ := List.append_of_mem hr
  obtain ⟨-, hreport⟩ := (k.run_history s steps).before hreports
  have htraffic : Traffic r.operation (Event.contacts r.outcome.events) := by
    rw [hreport]
    exact k.perform_traffic r.operation r.before
  refine ⟨?_, ?_, htraffic⟩
  · rw [← Event.requests_contacts]
    exact htraffic.requests_length
  · rw [← Event.lookups_contacts]
    exact htraffic.lookups_length

/-- A claim of the sample keeper. -/
theorem run_traffic_sample :
    sample.report .claim (.fresh (sampleWorld [])) ∈
        (sample.run (.fresh (sampleWorld [])) [.perform .claim]).1 ∧
      Traffic .claim
        (Event.contacts (sample.report .claim (.fresh (sampleWorld []))).outcome.events) := by
  have hmem :
      sample.report .claim (.fresh (sampleWorld [])) ∈
        (sample.run (.fresh (sampleWorld [])) [.perform .claim]).1 := by
    rw [run_perform]
    exact List.mem_cons_self
  exact ⟨hmem, (run_traffic sample _ _ _ hmem).2.2⟩

end Keeper

end FloatingAddress
