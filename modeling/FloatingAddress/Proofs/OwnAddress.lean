import FloatingAddress.Proofs.Containment
import FloatingAddress.Proofs.Probing
import FloatingAddress.Proofs.Traffic

/-!
# The own address in a session

The keeper for a configuration finds its own address by a probe. An operation probes at most
once, with the socket that the world has in store, and leaves that socket closed. A form is
sent only if the socket reported an address of version 4 other than `0.0.0.0`, and it names
that address.

* `Action.SparesSockets`, `Action.ProbesOnce`: what an action does with the sockets in store,
  with rules for composed actions;
* `Keeper.perform_probesOnce`: any operation;
* `Keeper.perform_posted`: the address that a form names;
* `Report.Probed`: both, for one operation of a session;
* `own_address_probed`: every probe, and every operation of every session.
-/

namespace FloatingAddress

open Provider

/-! ## Actions and sockets -/

namespace Action

section

variable {σ α β : Type} {sockets : σ → Script SocketBehaviour} {p : Probe}
  {a : Action σ α} {f : α → Action σ β}

/-- An action makes no step of a socket and leaves the sockets to come alone. -/
def SparesSockets (sockets : σ → Script SocketBehaviour) (a : Action σ α) : Prop :=
  ∀ s, Event.socketSteps (a.run s).events = [] ∧ sockets (a.run s).state = sockets s

/-- An action makes no step of a socket, or those of a probe with the next socket. -/
def ProbesOnce (sockets : σ → Script SocketBehaviour) (p : Probe) (a : Action σ α) : Prop :=
  ∀ s,
    Event.socketSteps (a.run s).events = [] ∨
    Event.socketSteps (a.run s).events = (p.run (sockets s).next).steps

theorem SparesSockets.pure
    (v : α) :
    (Pure.pure v : Action σ α).SparesSockets sockets :=
  fun _ => ⟨rfl, rfl⟩

theorem SparesSockets.ofExcept
    (result : Except Fault α) :
    (ofExcept result : Action σ α).SparesSockets sockets :=
  fun _ => ⟨rfl, rfl⟩

theorem SparesSockets.raise
    (fault : Fault) :
    (raise fault : Action σ α).SparesSockets sockets :=
  fun _ => ⟨rfl, rfl⟩

theorem SparesSockets.modify
    {g : σ → σ}
    (hsockets : ∀ s, sockets (g s) = sockets s) :
    (modify g).SparesSockets sockets :=
  fun s => ⟨rfl, hsockets s⟩

theorem SparesSockets.bind
    (ha : a.SparesSockets sockets)
    (hf : ∀ v, (f v).SparesSockets sockets) :
    (a >>= f).SparesSockets sockets := by
  intro s
  obtain ⟨hsteps, hsockets⟩ := ha s
  rw [run_bind]
  generalize a.run s = o at hsteps hsockets ⊢
  obtain ⟨result, s', events⟩ := o
  cases result with
  | error fault =>
      exact ⟨hsteps, hsockets⟩
  | ok v =>
      obtain ⟨hmore, hleft⟩ := hf v s'
      exact ⟨by simp [hsteps, hmore], hleft.trans hsockets⟩

/-- What comes before a probe spares the sockets. -/
theorem ProbesOnce.after
    (ha : a.SparesSockets sockets)
    (hf : ∀ v, (f v).ProbesOnce sockets p) :
    (a >>= f).ProbesOnce sockets p := by
  intro s
  obtain ⟨hsteps, hsockets⟩ := ha s
  rw [run_bind]
  generalize a.run s = o at hsteps hsockets ⊢
  obtain ⟨result, s', events⟩ := o
  cases result with
  | error fault =>
      exact .inl hsteps
  | ok v =>
      have hmore := hf v s'
      rw [hsockets] at hmore
      simpa [hsteps] using hmore

/-- What comes after a probe spares the sockets. -/
theorem ProbesOnce.before
    (ha : a.ProbesOnce sockets p)
    (hf : ∀ v, (f v).SparesSockets sockets) :
    (a >>= f).ProbesOnce sockets p := by
  intro s
  have hsteps := ha s
  rw [run_bind]
  generalize a.run s = o at hsteps ⊢
  obtain ⟨result, s', events⟩ := o
  cases result with
  | error fault =>
      exact hsteps
  | ok v =>
      simpa [(hf v s').1] using hsteps

end

end Action

namespace Event

@[simp] theorem socketSteps_requested
    (r : Request)
    (ending : Ending)
    (time : Float)
    (events : List Event) :
    socketSteps (requested r ending time :: events) = socketSteps events :=
  rfl

theorem socketSteps_map_socket
    (steps : List SocketStep) :
    socketSteps (steps.map socket) = steps := by
  rw [socketSteps, List.filterMap_map]
  exact List.filterMap_some

end Event

/-! ## A call -/

namespace Client

section Notes

variable (c : Client) (towards : Option Address) (write : Bool) (ending : Ending)

@[simp] theorem socketSteps_routingNotes :
    Event.socketSteps (c.routingNotes towards) = [] := by
  cases towards <;> rfl

@[simp] theorem socketSteps_requestNotes :
    Event.socketSteps (c.requestNotes towards) = [] := by
  unfold requestNotes
  split <;> rfl

@[simp] theorem socketSteps_answerNotes :
    Event.socketSteps (c.answerNotes ending) = [] := by
  unfold answerNotes echoes
  split
  · cases ending.handedOn? <;> rfl
  · rfl

@[simp] theorem socketSteps_refusalNotes :
    Event.socketSteps (c.refusalNotes write ending) = [] := by
  unfold refusalNotes
  split
  · rfl
  · rfl
  · split <;> rfl

end Notes

/-- A call whose address is known makes no step of a socket. -/
theorem query_sparesSockets
    {c : Client}
    {call : Call}
    {towards : Option Address}
    (hdestination : c.destination call = pure towards) :
    (c.query call).SparesSockets World.sockets := by
  intro w
  rw [query_eq, hdestination, pure_bind]
  cases hrequest : c.request towards with
  | error fault =>
      rw [exchange_unsent hrequest]
      simp
  | ok r =>
      rw [exchange_sent hrequest]
      exact ⟨by simp, rfl⟩

end Client

namespace IdentitySource

/-- A look-up by a probe makes the steps of the probe. -/
theorem lookUp_probesOnce
    (p : Probe) :
    (probed p).lookUp.ProbesOnce World.sockets p := by
  intro w
  refine .inr ?_
  have hlogged (lines : List Text) :
      Event.socketSteps (lines.map fun line => .logged ⟨.error, .words line⟩) = [] := by
    induction lines with
    | nil =>
        rfl
    | cons line lines ih =>
        exact ih
  simp only [lookUp, Action.run, probeEvents, Event.socketSteps_append,
    Event.socketSteps_map_socket, hlogged, List.append_nil]
  exact List.append_nil _

end IdentitySource

/-- The sockets that a situation has in store. -/
def Situation.sockets (s : Situation) : Script SocketBehaviour :=
  s.world.sockets

@[simp] theorem Situation.sockets_believing
    (s : Situation)
    (belief : Belief) :
    (s.believing belief).sockets = s.sockets :=
  rfl

namespace Keeper

variable {k : Keeper} {p : Probe}

theorem outside_sparesSockets
    {α : Type}
    {a : Action World α}
    (ha : a.SparesSockets World.sockets) :
    (outside a).SparesSockets Situation.sockets :=
  fun s => ha s.world

theorem outside_probesOnce
    {α : Type}
    {a : Action World α}
    (ha : a.ProbesOnce World.sockets p) :
    (outside a).ProbesOnce Situation.sockets p :=
  fun s => ha s.world

theorem believe_sparesSockets
    (belief : Belief) :
    (believe belief).SparesSockets Situation.sockets :=
  .modify fun _ => rfl

theorem markChecked_sparesSockets :
    markChecked.SparesSockets Situation.sockets :=
  .modify fun _ => rfl

theorem decode_sparesSockets
    (body : Text) :
    (decode body : Action Situation Reply).SparesSockets Situation.sockets := by
  intro s
  rw [run_decode]
  refine ⟨?_, rfl⟩
  cases Reply.decode body <;> rfl

theorem ask_sparesSockets
    {call : Call}
    {towards : Option Address}
    (hdestination : k.client.destination call = pure towards) :
    (k.ask call).SparesSockets Situation.sockets :=
  (outside_sparesSockets (Client.query_sparesSockets hdestination)).bind fun _ =>
    markChecked_sparesSockets.bind fun _ =>
      (decode_sparesSockets _).bind fun _ => .ofExcept _

theorem lookUp_probesOnce
    (hsource : k.source = .probed p) :
    k.lookUp.ProbesOnce Situation.sockets p := by
  rw [lookUp, hsource]
  exact outside_probesOnce (IdentitySource.lookUp_probesOnce p)

theorem forgetting_probesOnce
    {α : Type}
    {a : Action Situation α}
    (ha : a.ProbesOnce Situation.sockets p) :
    (forgetting a).ProbesOnce Situation.sockets p := by
  intro s
  rw [run_forgetting]
  exact ha s

theorem refresh_probesOnce
    (hsource : k.source = .probed p) :
    k.refresh.ProbesOnce Situation.sockets p :=
  forgetting_probesOnce <|
    .after (ask_sparesSockets rfl) fun _ =>
      .before (lookUp_probesOnce hsource) fun _ =>
        (believe_sparesSockets _).bind fun _ => .pure _

theorem claim_probesOnce
    (hsource : k.source = .probed p) :
    k.claim.ProbesOnce Situation.sockets p := by
  refine forgetting_probesOnce (.before (lookUp_probesOnce hsource) fun own => ?_)
  refine (ask_sparesSockets rfl).bind fun record => ?_
  split
  · exact (believe_sparesSockets _).bind fun _ => .pure _
  · exact .raise _

/-! ## The operations -/

@[simp] theorem socketSteps_staleNotes
    (k : Keeper)
    (s : Situation) :
    Event.socketSteps (k.staleNotes s) = [] := by
  unfold staleNotes
  split <;> rfl

@[simp] theorem socketSteps_doubtNotes
    (k : Keeper)
    (result : Except Fault FailoverRecord) :
    Event.socketSteps (k.doubtNotes result) = [] := by
  unfold doubtNotes
  split <;> rfl

@[simp] theorem socketSteps_grantNotes
    (k : Keeper)
    (result : Except Fault FailoverRecord) :
    Event.socketSteps (k.grantNotes result) = [] := by
  unfold grantNotes refusalNotes
  split
  · rfl
  · split <;> rfl
  · rfl

/-- Any operation makes no step of a socket, or those of a probe with the next socket. -/
theorem perform_probesOnce
    (hsource : k.source = .probed p)
    (operation : Operation) :
    (k.perform operation).ProbesOnce Situation.sockets p := by
  intro s
  cases operation with
  | query =>
      by_cases hcached : k.AnswersFromCache s
      · rw [perform_query_of_cached hcached]
        exact .inl rfl
      · rw [perform_query_of_uncached hcached]
        simpa using refresh_probesOnce hsource (s.believing .unknown)
  | refresh =>
      rw [perform_refresh]
      exact refresh_probesOnce hsource s
  | claim =>
      rw [perform_claim]
      exact claim_probesOnce hsource s
  | configure =>
      rw [perform_configure]
      simpa using claim_probesOnce hsource s
  | deconfigure | cleanup | status =>
      exact .inl rfl

/-- A write looks up the own address before all else. -/
theorem ClaimCourse.exists_contacts
    {s : Situation}
    {o : Outcome Situation FailoverRecord}
    (h : ClaimCourse k s o) :
    ∃ rest, Event.contacts o.events = .lookedUp (k.identity s) :: rest := by
  cases h with
  | unidentified hidentity hresult hstate hcontacts =>
      exact ⟨_, by rw [hcontacts, hidentity]⟩
  | unsent hidentity hrequest hresult hstate hcontacts =>
      exact ⟨_, by rw [hcontacts, hidentity]⟩
  | refused hidentity hrequest hverdict hresult hstate hcontacts =>
      exact ⟨_, by rw [hcontacts, hidentity]⟩
  | undecoded hidentity hrequest hbody hrecord hresult hstate hcontacts =>
      exact ⟨_, by rw [hcontacts, hidentity]⟩
  | elsewhere hidentity hrequest hbody hrecord hother hresult hstate hcontacts =>
      exact ⟨_, by rw [hcontacts, hidentity]⟩
  | confirmed hidentity hrequest hbody hrecord hown hresult hstate hcontacts =>
      exact ⟨_, by rw [hcontacts, hidentity]⟩

/-- A form names the address that is found by the same operation. -/
theorem perform_posted
    (k : Keeper)
    (operation : Operation)
    (s : Situation)
    {request : Request}
    (hmem : request ∈ Event.requests ((k.perform operation).run s).events)
    (hpost : methodName request.write = ("POST" : Text)) :
    ∃ own,
      k.identity s = .ok own ∧
      Form.decode? request.body = some [(("active_server_ip" : Text), own.text)] := by
  have hget : (("GET" : Text) = "POST") = False := by
    decide
  have hcourse := k.perform_course operation s
  have htraffic := k.perform_traffic operation s
  rw [← Event.requests_contacts] at hmem
  generalize hcontacts : Event.contacts ((k.perform operation).run s).events = contacts
    at htraffic hmem
  cases htraffic with
  | silent hread =>
      simp [Event.requests] at hmem
  | read hread hmethod hbody =>
      obtain rfl : request = _ := by simpa [Event.requests] using hmem
      rw [hmethod, hget] at hpost
      exact hpost.elim
  | compared hread hmethod hbody hanswer hrecord =>
      obtain rfl : request = _ := by simpa [Event.requests] using hmem
      rw [hmethod, hget] at hpost
      exact hpost.elim
  | unsent hwrite =>
      simp [Event.requests] at hmem
  | @written own r ending time hwrite hmethod hform =>
      obtain rfl : request = r := by simpa [Event.requests] using hmem
      refine ⟨own, ?_, hform⟩
      cases hcourse with
      | silent hoperation hends hstate hnone =>
          rw [hcontacts] at hnone
          cases hnone
      | givenUp hoperation hends hstate hnone =>
          rw [hcontacts] at hnone
          cases hnone
      | read hoperation =>
          cases operation <;> simp_all
      | write hoperation hclaim hends hstate hsame =>
          obtain ⟨rest, hfirst⟩ := hclaim.exists_contacts
          rw [← hsame, hcontacts] at hfirst
          obtain ⟨hlookedUp, -⟩ := List.cons.inj hfirst
          cases hidentity : k.identity s <;> simp_all

end Keeper

/-! ## Sessions -/

/-- What the own address was in an operation that found it by a probe. -/
structure Report.Probed (r : Report) : Prop where
  /-- A form names the address of version 4 that the socket reported in the same operation,
  which is not `0.0.0.0`. -/
  posted {request : Request}
      (hmem : request ∈ Event.requests r.outcome.events)
      (hpost : methodName request.write = ("POST" : Text)) :
    ∃ a : V4,
      r.before.world.sockets.next = .reports a.text ∧
      a.text ≠ "0.0.0.0" ∧
      Form.decode? request.body = some [(("active_server_ip" : Text), a.text)]
  /-- No socket was used, or the next one, which is left closed. -/
  tidy :
    Event.socketSteps r.outcome.events = [] ∨
    r.before.world.sockets.next.Tidy (Event.socketSteps r.outcome.events)

theorem Keeper.probed_report
    {k : Keeper}
    {p : Probe}
    (hsource : k.source = .probed p)
    (operation : Operation)
    (s : Situation) :
    (k.report operation s).Probed where
  posted {request} hmem hpost := by
    obtain ⟨own, hidentity, hform⟩ := k.perform_posted operation s hmem hpost
    have hfound : IdentitySource.found (p.run s.world.sockets.next).result = .ok own := by
      rw [← hidentity, identity, hsource]
      rfl
    cases hresult : (p.run s.world.sockets.next).result with
    | error fault =>
        rw [hresult] at hfound
        cases hfound
    | ok a =>
        rw [hresult] at hfound
        cases hfound
        obtain ⟨hreports, hspecified⟩ := Probe.run_eq_ok_iff.mp hresult
        exact ⟨a, hreports, hspecified, hform⟩
  tidy := by
    rcases perform_probesOnce hsource operation s with hnone | hsteps
    · exact .inl hnone
    · refine .inr ?_
      rw [report, hsteps]
      exact p.tidy_run s.world.sockets.next

/-- Every probe comes to what its socket does, and leaves the socket closed. In every session
of the keeper for a configuration, every form names the address of version 4 that the socket
of the same operation reported, which is not `0.0.0.0`, and every socket is left closed. -/
theorem own_address_probed :
    (∀ (p : Probe) (b : SocketBehaviour), p.Account b (p.run b)) ∧
    (∀ (c : Config) (k : Keeper) (s : Situation) (steps : List SessionStep),
      c.keeper = .ok k →
      ∀ r ∈ (k.run s steps).1, r.Probed) := by
  refine ⟨Probe.account_run, ?_⟩
  intro c k s steps hkeeper r hr
  rw [Keeper.report_of_mem_run hr]
  exact Keeper.probed_report (Config.source_of_keeper hkeeper) r.operation r.before

/-- A probe that the operating system refuses, and a claim that is posted. -/
theorem own_address_probed_sample :
    (({} : Probe).run (.failsToConnect (.system "[Errno 101] Network is unreachable"))).result =
      .error (.failure (.noRoute "8.8.8.8:80" "[Errno 101] Network is unreachable")) ∧
    ∃ k, (Keeper.sampleConfig defaultBaseUrl).keeper = .ok k ∧
      (∃ request ∈
          Event.requests (k.report .claim (.fresh (Keeper.sampleWorld []))).outcome.events,
        methodName request.write = ("POST" : Text)) ∧
      (k.report .claim (.fresh (Keeper.sampleWorld []))).Probed := by
  constructor
  · have hforeign : ∀ step fault,
        SocketBehaviour.troubleAt?
            (.failsToConnect (.system "[Errno 101] Network is unreachable")) step =
          some (.other fault) →
        ¬fault.IsFailure := by
      intro step fault h
      cases step <;> cases h
    have hprobe : ("8.8.8.8:80" : Text) =
        ({} : Probe).host ++ ":" ++ Numeral.ofInt ({} : Probe).port := by
      decide +kernel
    exact
      ((own_address_probed.1 {} _).lost hforeign _ _).mpr
        ⟨hprobe, @SocketBehaviour.ShowsNoRoute.refused _ (.connecting [] 0) _ rfl⟩
  · have hmade :
        (Keeper.sampleConfig defaultBaseUrl).keeper.toOption.any
          (fun k =>
            (Event.requests
              (k.report .claim (.fresh (Keeper.sampleWorld []))).outcome.events).any
              fun request => methodName request.write = ("POST" : Text)) = true := by
      decide +kernel
    obtain ⟨k, hkeeper, hposts⟩ := exists_ok_of_toOption hmade
    obtain ⟨request, hmem, hpost⟩ := List.any_eq_true.mp hposts
    have hreport :
        k.report .claim (.fresh (Keeper.sampleWorld [])) ∈
          (k.run (.fresh (Keeper.sampleWorld [])) [.perform .claim]).1 := by
      rw [Keeper.run_perform]
      exact List.mem_cons_self
    exact
      ⟨k, hkeeper, ⟨request, hmem, of_decide_eq_true hpost⟩,
        own_address_probed.2 _ k _ _ hkeeper _ hreport⟩

end FloatingAddress
