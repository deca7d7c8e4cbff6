import FloatingAddress.Proofs.History
import FloatingAddress.Proofs.Sending

/-!
# Verbosity is observation

A verbose client does what a quiet one does, and logs more. What it logs more is laid down by
what the quiet one does: a line for the request just before it, or at the end where none can
be made, and a line with the body of an answer that is handed on just after it. All else stays
as it is, in the same order.

* `Event.aloud`: a trace with the lines of a verbose client, which are laid down by
  `Client.requestLine` and `Client.echoes`;
* `Client.attempt?`, `Keeper.attempt?`: the request that a call or an operation attempts;
* `Outcome.Voiced` and its rules: outcomes of a quiet and a verbose action;
* `verbosity_observes`: sessions and sequences of calls of a verbose client are those of the
  quiet one with these lines.
-/

namespace FloatingAddress

open Provider

/-! ## Lines in a trace -/

namespace Event

/-- What a trace holds beside log lines. -/
def unlogged (events : List Event) : List Event :=
  events.filter fun
    | .logged _ => false
    | _ => true

/-- A trace with the lines of a verbose client: what it announces stands just before the
request, or at the end if there is none, and an answer that is handed on is echoed just after
the request has ended. -/
def aloud (announced : Event) : List Event → List Event
  | [] => [announced]
  | .requested r ending time :: rest =>
      announced :: .requested r ending time :: (Client.echoes ending ++ rest)
  | e :: rest => e :: aloud announced rest

/-- What happens before the request stays as it is. -/
theorem aloud_append
    {before : List Event}
    (h : requests before = [])
    (announced : Event)
    (rest : List Event) :
    aloud announced (before ++ rest) = before ++ aloud announced rest := by
  induction before with
  | nil =>
      rfl
  | cons e before ih =>
      cases e with
      | requested r ending time =>
          cases h
      | _ =>
          exact congrArg _ (ih h)

/-- What happens after the request stays as it is. -/
theorem aloud_append_of_requests
    {events : List Event}
    (h : requests events ≠ [])
    (announced : Event)
    (after : List Event) :
    aloud announced (events ++ after) = aloud announced events ++ after := by
  induction events with
  | nil =>
      exact absurd rfl h
  | cons e events ih =>
      cases e with
      | requested r ending time =>
          simp [aloud]
      | _ =>
          exact congrArg _ (ih h)

/-- Only log lines are put in. -/
theorem unlogged_aloud
    (entry : LogEntry)
    (events : List Event) :
    unlogged (aloud (.logged entry) events) = unlogged events := by
  induction events with
  | nil =>
      rfl
  | cons e events ih =>
      cases e with
      | requested r ending time =>
          cases hbody : ending.handedOn? <;> simp [aloud, Client.echoes, hbody, unlogged]
      | logged entry =>
          exact ih
      | socket step =>
          exact congrArg (List.cons (.socket step)) ih
      | lookedUp result =>
          exact congrArg (List.cons (.lookedUp result)) ih

end Event

/-! ## Outcomes of a quiet and of a verbose action -/

section Voiced

variable {σ α β : Type} {announced : Event}

/-- An outcome with the lines of a verbose client. -/
def Outcome.aloud (announced : Event) (o : Outcome σ α) : Outcome σ α :=
  { o with events := Event.aloud announced o.events }

/-- The outcome of a verbose action beside that of a quiet one that attempts a request. If
none is sent the action ends by a fault that nobody handles, so that nothing follows. -/
structure Outcome.Voiced (announced : Event) (o o' : Outcome σ α) : Prop where
  aloud : o' = o.aloud announced
  sent : o.EndsAsExpected → Event.requests o.events ≠ []

namespace Outcome.Voiced

/-- What follows an action that ends as expected is the same for both. -/
theorem followed
    {o o' : Outcome σ α}
    (h : o.Voiced announced o')
    (hexpected : o.EndsAsExpected)
    (after : Outcome σ β) :
    Voiced announced
      ⟨after.result, after.state, o.events ++ after.events⟩
      ⟨after.result, after.state, o'.events ++ after.events⟩ := by
  obtain ⟨rfl, hsent⟩ := h
  have hrequests := hsent hexpected
  refine ⟨?_, fun _ hnone => ?_⟩
  · simp only [Outcome.aloud, Event.aloud_append_of_requests hrequests]
  · simp only [Event.requests_append, List.append_eq_nil_iff] at hnone
    exact hrequests hnone.1

theorem bind
    {a a' : Action σ α}
    {s : σ}
    (h : (a.run s).Voiced announced (a'.run s))
    (f : α → Action σ β) :
    ((a >>= f).run s).Voiced announced ((a' >>= f).run s) := by
  rw [Action.run_bind, Action.run_bind]
  generalize a.run s = o, a'.run s = o' at h
  obtain rfl := h.aloud
  obtain ⟨result, t, events⟩ := o
  cases result with
  | error fault =>
      exact ⟨rfl, h.sent⟩
  | ok v =>
      -- a result means that the request has been sent, so what follows stands after it
      exact h.followed trivial ((f v).run t)

/-- What comes before the attempt is the same for both. -/
theorem preceded
    {o o' : Outcome σ α}
    (h : o.Voiced announced o')
    {before : List Event}
    (hnone : Event.requests before = []) :
    Voiced announced
      ⟨o.result, o.state, before ++ o.events⟩
      ⟨o'.result, o'.state, before ++ o'.events⟩ := by
  obtain ⟨rfl, hsent⟩ := h
  refine ⟨?_, ?_⟩
  · simp only [Outcome.aloud, Event.aloud_append hnone]
  · simp only [Event.requests_append, hnone, List.nil_append]
    exact hsent

theorem after
    {a : Action σ α}
    {f f' : α → Action σ β}
    {s s' : σ}
    {v : α}
    {events : List Event}
    (hfirst : a.run s = ⟨.ok v, s', events⟩)
    (hnone : Event.requests events = [])
    (h : ((f v).run s').Voiced announced ((f' v).run s')) :
    ((a >>= f).run s).Voiced announced ((a >>= f').run s) := by
  rw [Action.run_bind, Action.run_bind, hfirst]
  exact h.preceded hnone

theorem recover
    {a a' : Action σ α}
    {s : σ}
    (h : (a.run s).Voiced announced (a'.run s))
    (handle : Failure → Action σ α) :
    ((a.recover handle).run s).Voiced announced ((a'.recover handle).run s) := by
  rw [Action.run_recover, Action.run_recover]
  generalize a.run s = o, a'.run s = o' at h
  obtain rfl := h.aloud
  obtain ⟨result, t, events⟩ := o
  cases result with
  | ok v =>
      exact ⟨rfl, h.sent⟩
  | error fault =>
      cases fault with
      | failure f =>
          exact h.followed trivial ((handle f).run t)
      | _ =>
          exact ⟨rfl, h.sent⟩

theorem map
    {a a' : Action σ α}
    {s : σ}
    (h : (a.run s).Voiced announced (a'.run s))
    (f : α → β) :
    ((f <$> a).run s).Voiced announced ((f <$> a').run s) := by
  rw [← bind_pure_comp, ← bind_pure_comp]
  exact h.bind fun v => pure (f v)

theorem outside
    {a a' : Action World α}
    {s : Situation}
    (h : (a.run s.world).Voiced announced (a'.run s.world)) :
    ((Keeper.outside a).run s).Voiced announced ((Keeper.outside a').run s) := by
  obtain ⟨haloud, hsent⟩ := h
  rw [Keeper.run_outside, Keeper.run_outside, haloud]
  exact ⟨rfl, hsent⟩

end Outcome.Voiced
end Voiced

/-! ## Calls -/

/-- A call of a client, the world that it began in, and its outcome. -/
structure CallReport where
  call : Call
  /-- The world that the call began in. -/
  before : World
  outcome : Outcome World Text

namespace Client

/-- The report of a call in a world. -/
def report (c : Client) (call : Call) (w : World) : CallReport :=
  ⟨call, w, (c.query call).run w⟩

/-- The reports of calls one after the other. -/
def reports (c : Client) (w : World) : List Call → List CallReport
  | [] => []
  | call :: calls => c.report call w :: c.reports (c.report call w).outcome.state calls

/-- The reports of calls hold their outcomes. -/
theorem run_eq_reports
    (c : Client)
    (w : World)
    (calls : List Call) :
    c.run w calls = (c.reports w calls).map CallReport.outcome := by
  induction calls generalizing w with
  | nil =>
      rfl
  | cons call calls ih =>
      rw [run, reports, List.map_cons, ih]
      rfl

variable {c : Client}

/-- The client, verbose or quiet. -/
def speaking (c : Client) (verbose : Bool) : Client :=
  { c with verbose }

/-- The address towards which a call attempts a request, none for a read; nothing where the
own address would have to be known and is not. -/
def attempt? (c : Client) (call : Call) (w : World) : Option (Option Address) :=
  (call.route (c.source.lookUp.run w).result).toOption

/-- A report with the lines of a verbose client. -/
def voiced (c : Client) (r : CallReport) : CallReport :=
  match c.attempt? r.call r.before with
  | some towards => { r with outcome := r.outcome.aloud (c.announced towards) }
  | none => r

@[simp] theorem state_voiced
    (c : Client)
    (r : CallReport) :
    (c.voiced r).outcome.state = r.outcome.state := by
  unfold voiced
  split <;> rfl

/-- A call when the address that it routes to is known. -/
theorem exchange_voiced
    (c : Client)
    (write : Bool)
    (towards : Option Address)
    (w : World) :
    (((c.speaking false).exchange write towards).run w).Voiced (c.announced towards)
      (((c.speaking true).exchange write towards).run w) := by
  have hrouting : Event.requests (c.routingNotes towards) = [] := by
    cases towards <;> rfl
  cases hrequest : c.request towards with
  | error fault =>
      have hquiet : (c.speaking false).request towards = .error fault := hrequest
      have hverbose : (c.speaking true).request towards = .error fault := hrequest
      -- nothing is sent, and the announcement ends the trace
      have haloud := Event.aloud_append hrouting (c.announced towards) []
      rw [exchange_unsent hquiet, exchange_unsent hverbose]
      exact
        ⟨congrArg (Outcome.mk _ _) haloud.symm,
          fun hfailure => absurd hfailure (not_isFailure_of_request hrequest)⟩
  | ok r =>
      have hquiet : (c.speaking false).request towards = .ok r := hrequest
      have hverbose : (c.speaking true).request towards = .ok r := hrequest
      have haloud :=
        Event.aloud_append hrouting (c.announced towards)
          (.requested r (r.met w.reactions.next.offer) w.afterRequest.clock ::
            c.refusalNotes write (r.met w.reactions.next.offer))
      rw [exchange_sent hquiet, exchange_sent hverbose]
      simp only [List.append_assoc]
      refine ⟨congrArg (Outcome.mk _ _) haloud.symm, fun _ hnone => ?_⟩
      rw [Event.requests_append, List.append_eq_nil_iff] at hnone
      exact absurd hnone.2 (List.cons_ne_nil _ _)

/-- A call that attempts a request. -/
theorem query_voiced
    {call : Call}
    {w : World}
    {towards : Option Address}
    (h : call.route (c.source.lookUp.run w).result = .ok towards) :
    (((c.speaking false).query call).run w).Voiced (c.announced towards)
      (((c.speaking true).query call).run w) := by
  have hdestination := c.run_destination call w
  rw [h] at hdestination
  exact
    .after hdestination (c.requests_consultation call w)
      (c.exchange_voiced call.write towards _)

/-- A call that attempts none is the same for both. -/
theorem query_speaking
    {call : Call}
    {w : World}
    {fault : Fault}
    (h : call.route (c.source.lookUp.run w).result = .error fault) :
    ((c.speaking true).query call).run w = ((c.speaking false).query call).run w := by
  have hdestination (verbose : Bool) := (c.speaking verbose).run_destination call w
  have hroute (verbose : Bool) :
      call.route ((c.speaking verbose).source.lookUp.run w).result = .error fault := h
  simp only [query_eq, Action.run_bind, hdestination, hroute]
  rfl

/-- A call of the verbose client is the call of the quiet one with its lines. -/
theorem report_speaking
    (c : Client)
    (call : Call)
    (w : World) :
    (c.speaking true).report call w = c.voiced ((c.speaking false).report call w) := by
  unfold voiced
  cases hroute : call.route (c.source.lookUp.run w).result with
  | error fault =>
      have hattempt : c.attempt? call w = none := by
        rw [attempt?, hroute]
        rfl
      simp only [report, hattempt, query_speaking hroute]
  | ok towards =>
      have hattempt : c.attempt? call w = some towards := by
        rw [attempt?, hroute]
        rfl
      simp only [report, hattempt]
      exact congrArg (CallReport.mk _ _) (query_voiced hroute).aloud

/-- Calls of the verbose client are those of the quiet one with its lines. -/
theorem reports_speaking
    (c : Client)
    (w : World)
    (calls : List Call) :
    (c.speaking true).reports w calls = ((c.speaking false).reports w calls).map c.voiced := by
  induction calls generalizing w with
  | nil =>
      rfl
  | cons call calls ih =>
      simp only [reports, List.map_cons, ih, c.report_speaking call w, state_voiced]

end Client

/-! ## Sessions -/

namespace Keeper

/-- The keeper, with a verbose or a quiet client. -/
def speaking (k : Keeper) (verbose : Bool) : Keeper :=
  { k with client := k.client.speaking verbose }

/-- The address towards which an operation attempts a request, none for a read; nothing where
the cache answers or the own address would have to be known and is not. -/
def attempt? (k : Keeper) (s : Situation) : Operation → Option (Option Address)
  | .query => if k.AnswersFromCache s then none else some none
  | .refresh => some none
  | .claim | .configure =>
      match k.identity s with
      | .ok own => some (some own)
      | .error _ => none
  | .deconfigure | .cleanup | .status => none

/-- A report with the lines of a verbose client. -/
def voiced (k : Keeper) (r : Report) : Report :=
  match k.attempt? r.before r.operation with
  | some towards => { r with outcome := r.outcome.aloud (k.client.announced towards) }
  | none => r

@[simp] theorem state_voiced
    (k : Keeper)
    (r : Report) :
    (k.voiced r).outcome.state = r.outcome.state := by
  unfold voiced
  split <;> rfl

theorem ask_voiced
    (k : Keeper)
    {call : Call}
    {s : Situation}
    {towards : Option Address}
    (hroute : call.route (k.client.source.lookUp.run s.world).result = .ok towards) :
    (((k.speaking false).ask call).run s).Voiced (k.client.announced towards)
      (((k.speaking true).ask call).run s) :=
  (k.client.query_voiced hroute).outside.bind _

theorem refresh_voiced
    (k : Keeper)
    (s : Situation) :
    ((k.speaking false).refresh.run s).Voiced (k.client.announced none)
      ((k.speaking true).refresh.run s) :=
  ((k.ask_voiced rfl).bind _).recover _

theorem recheck_voiced
    (k : Keeper)
    (s : Situation) :
    ((k.speaking false).recheck.run s).Voiced (k.client.announced none)
      ((k.speaking true).recheck.run s) :=
  ((k.refresh_voiced s).bind _).recover _

/-- A query that is not answered from the cache. -/
theorem query_voiced
    {k : Keeper}
    {s : Situation}
    (h : ¬k.AnswersFromCache s) :
    ((k.speaking false).query.run s).Voiced (k.client.announced none)
      ((k.speaking true).query.run s) := by
  have hquiet : ¬(k.speaking false).AnswersFromCache s := h
  have hverbose : ¬(k.speaking true).AnswersFromCache s := h
  have hnone : Event.requests (k.staleNotes s) = [] := by
    rw [← Event.requests_contacts, contacts_staleNotes]
    rfl
  have hrecheck := k.recheck_voiced (s.believing .unknown)
  rw [recheck_eq, recheck_eq] at hrecheck
  rw [query_of_uncached hquiet, query_of_uncached hverbose]
  exact hrecheck.preceded hnone

/-- A write when the own address is known. -/
theorem claim_voiced
    {k : Keeper}
    {s : Situation}
    {own : Address}
    (h : k.identity s = .ok own) :
    ((k.speaking false).claim.run s).Voiced (k.client.announced (some own))
      ((k.speaking true).claim.run s) := by
  obtain ⟨events, hlookUp, hcontacts⟩ := k.lookUp_run s
  have hnone : Event.requests events = [] := by
    rw [← Event.requests_contacts, hcontacts]
    rfl
  rw [h] at hlookUp
  refine Outcome.Voiced.recover ?_ _
  exact .after hlookUp hnone ((k.ask_voiced rfl).bind _)

/-- Without the own address there is no write to be verbose about. -/
theorem claim_speaking
    {k : Keeper}
    {s : Situation}
    {fault : Fault}
    (h : k.identity s = .error fault) :
    (k.speaking true).claim.run s = (k.speaking false).claim.run s := by
  obtain ⟨events, hlookUp, -⟩ := k.lookUp_run s
  rw [h] at hlookUp
  have hrun (verbose : Bool) :
      (k.speaking verbose).lookUp.run s = ⟨.error fault, k.afterLookUp s, events⟩ :=
    hlookUp
  simp only [claim, forgetting, Action.run_recover, Action.run_bind, hrun]

/-- An operation of the verbose keeper is that of the quiet one with its lines. -/
theorem report_speaking
    (k : Keeper)
    (operation : Operation)
    (s : Situation) :
    (k.speaking true).report operation s = k.voiced ((k.speaking false).report operation s) := by
  cases operation with
  | query =>
      by_cases hcached : k.AnswersFromCache s
      · have hquiet : (k.speaking false).AnswersFromCache s := hcached
        have hverbose : (k.speaking true).AnswersFromCache s := hcached
        have hattempt : k.attempt? s .query = none := if_pos hcached
        simp only [voiced, report, hattempt, perform_query_of_cached hquiet,
          perform_query_of_cached hverbose]
      · have hattempt : k.attempt? s .query = some none := if_neg hcached
        simp only [voiced, report, hattempt]
        exact congrArg (Report.mk _ _) ((query_voiced hcached).map _).aloud
  | refresh =>
      exact congrArg (Report.mk _ _) ((k.refresh_voiced s).map _).aloud
  | claim =>
      cases hown : k.identity s with
      | ok own =>
          simp only [voiced, report, attempt?, hown]
          exact congrArg (Report.mk _ _) ((claim_voiced hown).map _).aloud
      | error fault =>
          simp only [voiced, report, attempt?, hown, perform_claim, claim_speaking hown]
  | configure =>
      cases hown : k.identity s with
      | ok own =>
          simp only [voiced, report, attempt?, hown]
          exact
            congrArg (Report.mk _ _) ((((claim_voiced hown).bind _).recover _).map _).aloud
      | error fault =>
          simp only [voiced, report, attempt?, hown, perform_configure, claim_speaking hown]
          rfl
  | deconfigure =>
      rfl
  | cleanup =>
      rfl
  | status =>
      rfl

/-- A session of the verbose keeper is that of the quiet one with its lines. -/
theorem run_speaking
    (k : Keeper)
    (s : Situation)
    (steps : List SessionStep) :
    (k.speaking true).run s steps =
      (((k.speaking false).run s steps).1.map k.voiced, ((k.speaking false).run s steps).2) := by
  induction steps generalizing s with
  | nil =>
      rfl
  | cons step steps ih =>
      cases step with
      | perform operation =>
          have hreport := k.report_speaking operation s
          have hfollow (k : Keeper) :
              k.follow s (.perform operation) =
                (some (k.report operation s), (k.report operation s).outcome.state) :=
            rfl
          simp only [run, hfollow, ih, hreport, state_voiced, Option.toList_some,
            List.map_append, List.map_cons, List.map_nil]
      | advance seconds =>
          exact ih _
      | setClock time =>
          exact ih _

end Keeper

/-- Verbosity is observation: sessions and sequences of calls of a verbose client are those of
the quiet one, step by step with the same results and states, and in their traces there is
nothing more than the line of each request that is attempted, just before it, and the body of
each answer that is handed on, just after it. As only log is put in, requests, look-ups and
sockets are the same. -/
theorem verbosity_observes :
    (∀ (k : Keeper) (s : Situation) (steps : List SessionStep),
      (k.speaking true).run s steps =
        (((k.speaking false).run s steps).1.map k.voiced,
          ((k.speaking false).run s steps).2)) ∧
    (∀ (c : Client) (w : World) (calls : List Call),
      (c.speaking true).run w calls =
        (((c.speaking false).reports w calls).map c.voiced).map CallReport.outcome) ∧
    (∀ (c : Client) (towards : Option Address) (events : List Event),
      Event.unlogged (Event.aloud (c.announced towards) events) = Event.unlogged events) := by
  refine ⟨Keeper.run_speaking, fun c w calls => ?_, fun _ _ => Event.unlogged_aloud _⟩
  rw [Client.run_eq_reports, Client.reports_speaking]

end FloatingAddress
