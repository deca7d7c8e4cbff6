import FloatingAddress.Proofs.History

/-!
# Where the belief comes from

The belief of a keeper is settled by the last decisive operation of its history, and by
nothing else: it is that the address is routed to this node exactly if the provider's
answer in that operation named the address that was looked up there.

* `RefreshCourse.settlement`, `ClaimCourse.settlement`: what a typed operation believes;
* `Keeper.belief_of_decisive`, `Keeper.belief_of_not_decisive`: the belief after any one
  operation;
* `Keeper.run_belief`: the belief after a session.
-/

namespace FloatingAddress

open Provider

namespace Event

theorem confirms_congr
    {events events' : List Event}
    (h : contacts events = contacts events') :
    Confirms events ↔ Confirms events' := by
  simp only [Confirms, records, found, answers_congr h, lookups_congr h]

theorem refutes_congr
    {events events' : List Event}
    (h : contacts events = contacts events') :
    Refutes events ↔ Refutes events' := by
  simp only [Refutes, records, found, answers_congr h, lookups_congr h]

/-- Without a failover record nothing is confirmed or refuted. -/
theorem undecided_of_records
    {events : List Event}
    (h : records events = []) :
    ¬Confirms events ∧ ¬Refutes events := by
  simp [Confirms, Refutes, h]

theorem undecided_of_found
    {events : List Event}
    (h : found events = []) :
    ¬Confirms events ∧ ¬Refutes events := by
  simp [Confirms, Refutes, h]

/-- A failover record and an own address are compared. -/
theorem decided_of_record
    {events : List Event}
    {record : FailoverRecord}
    {own : Address}
    (hrecords : records events = [record])
    (hfound : found events = [own]) :
    (Confirms events ↔ record.activeServerIp = own) ∧
    (Refutes events ↔ record.activeServerIp ≠ own) := by
  simp [Confirms, Refutes, hrecords, hfound]

theorem records_of_answer
    {events : List Event}
    {body : Text}
    {time : Float}
    {record : FailoverRecord}
    (hanswers : answers events = [(body, time)])
    (hrecord : recordIn body = .ok record) :
    records events = [record] := by
  simp [records, hanswers, (recordIn_eq_ok_iff body record).mp hrecord]

theorem records_of_unreadable
    {events : List Event}
    {body : Text}
    {time : Float}
    {fault : Fault}
    (hanswers : answers events = [(body, time)])
    (hrecord : recordIn body = .error fault) :
    records events = [] := by
  cases hreply : Reply.decode body with
  | error fault' =>
      simp [records, hanswers, hreply]
  | ok reply =>
      cases reply with
      | error record =>
          simp [records, hanswers, hreply]
      | failover record =>
          rw [(recordIn_eq_ok_iff body record).mpr hreply] at hrecord
          cases hrecord

theorem found_of_contacts
    {events events' : List Event}
    (h : contacts events = events') :
    found events = found events' := by
  rw [found, lookups_of_contacts h, found]

theorem records_of_no_answer
    {events : List Event}
    (h : answers events = []) :
    records events = [] := by
  simp [records, h]

end Event

/-! ## The belief after a typed operation -/

namespace Keeper

/-- How a typed operation settles the belief; where it finds the address routed elsewhere,
`other` is what it believes. -/
inductive Settlement
    (other : Belief)
    (s : Situation)
    (o : Outcome Situation FailoverRecord) : Prop
  /-- A fault ends it before two addresses are compared. -/
  | undecided {before : Situation} {fault : Fault}
      (hresult : o.result = .error fault)
      (hstate : o.state = before.afterFault fault)
      (hbefore : before.status.belief = s.status.belief)
      (hundecided : ¬Event.Confirms o.events ∧ ¬Event.Refutes o.events)
  /-- Two addresses are compared. -/
  | compared {record : FailoverRecord} {own : Address}
      (hends : o.EndsAsExpected)
      (hbelief : o.state.status.belief =
        if record.activeServerIp = own then .configured else other)
      (hrecords : Event.records o.events = [record])
      (hfound : Event.found o.events = [own])

/-- A read settles the belief. -/
theorem RefreshCourse.settlement
    {k : Keeper}
    {s : Situation}
    {o : Outcome Situation FailoverRecord}
    (h : RefreshCourse k s o) :
    Settlement .released s o := by
  cases h with
  | unsent hrequest hresult hstate hcontacts =>
      refine .undecided hresult hstate rfl (Event.undecided_of_records ?_)
      exact Event.records_of_no_answer (Event.answers_of_contacts hcontacts)
  | refused hrequest hverdict hresult hstate hcontacts =>
      have hrefused := Client.handedOn_of_verdict_error hverdict
      refine .undecided hresult hstate rfl (Event.undecided_of_records ?_)
      exact Event.records_of_no_answer
        ((Event.answers_of_contacts hcontacts).trans (Event.answers_refused hrefused _))
  | undecoded hrequest hbody hrecord hresult hstate hcontacts =>
      refine .undecided hresult hstate rfl (Event.undecided_of_records ?_)
      exact Event.records_of_unreadable
        ((Event.answers_of_contacts hcontacts).trans (Event.answers_contact hbody _)) hrecord
  | unidentified hrequest hbody hrecord hidentity hresult hstate hcontacts =>
      refine .undecided hresult hstate rfl (Event.undecided_of_found ?_)
      exact Event.found_of_contacts hcontacts
  | compared hrequest hbody hrecord hidentity hresult hstate hcontacts =>
      refine .compared (Outcome.endsAsExpected_of_ok hresult) (by rw [hstate]; rfl) ?_ ?_
      · exact Event.records_of_answer
          ((Event.answers_of_contacts hcontacts).trans (Event.answers_contact hbody _)) hrecord
      · exact Event.found_of_contacts hcontacts

theorem ClaimCourse.settlement
    {k : Keeper}
    {s : Situation}
    {o : Outcome Situation FailoverRecord}
    (h : ClaimCourse k s o) :
    Settlement .unknown s o := by
  cases h with
  | unidentified hidentity hresult hstate hcontacts =>
      refine .undecided hresult hstate rfl (Event.undecided_of_found ?_)
      exact Event.found_of_contacts hcontacts
  | unsent hidentity hrequest hresult hstate hcontacts =>
      refine .undecided hresult hstate rfl (Event.undecided_of_records ?_)
      exact Event.records_of_no_answer (Event.answers_of_contacts hcontacts)
  | refused hidentity hrequest hverdict hresult hstate hcontacts =>
      have hrefused := Client.handedOn_of_verdict_error hverdict
      refine .undecided hresult hstate rfl (Event.undecided_of_records ?_)
      exact Event.records_of_no_answer
        ((Event.answers_of_contacts hcontacts).trans (Event.answers_refused hrefused _))
  | undecoded hidentity hrequest hbody hrecord hresult hstate hcontacts =>
      refine .undecided hresult hstate rfl (Event.undecided_of_records ?_)
      exact Event.records_of_unreadable
        ((Event.answers_of_contacts hcontacts).trans (Event.answers_contact hbody _)) hrecord
  | @elsewhere own r body record hidentity hrequest hbody hrecord hother hresult hstate
      hcontacts =>
      have hbelief :
          o.state.status.belief =
            if record.activeServerIp = own then .configured else .unknown := by
        rw [hstate, if_neg hother]
        rfl
      refine .compared ((Outcome.endsAsExpected_of_error hresult).mpr trivial) hbelief ?_ ?_
      · exact Event.records_of_answer
          ((Event.answers_of_contacts hcontacts).trans (Event.answers_contact hbody _)) hrecord
      · exact Event.found_of_contacts hcontacts
  | @confirmed own r body record hidentity hrequest hbody hrecord hown hresult hstate
      hcontacts =>
      have hbelief :
          o.state.status.belief =
            if record.activeServerIp = own then .configured else .unknown := by
        rw [hstate, if_pos hown]
        rfl
      refine .compared (Outcome.endsAsExpected_of_ok hresult) hbelief ?_ ?_
      · exact Event.records_of_answer
          ((Event.answers_of_contacts hcontacts).trans (Event.answers_contact hbody _)) hrecord
      · exact Event.found_of_contacts hcontacts

/-- The belief after a typed operation that ends as expected. -/
theorem Settlement.belief
    {other : Belief}
    {s : Situation}
    {o : Outcome Situation FailoverRecord}
    (h : Settlement other s o)
    (hother : other ≠ .configured)
    (hends : o.EndsAsExpected) :
    (o.state.status.belief = .configured ↔ Event.Confirms o.events) ∧
    (o.state.status.belief = .released ↔ other = .released ∧ Event.Refutes o.events) := by
  cases h with
  | undecided hresult hstate hbefore hundecided =>
      have hfailure := (Outcome.endsAsExpected_of_error hresult).mp hends
      rw [hstate, Situation.belief_afterFault_of_failure hfailure]
      simp [hundecided]
  | @compared record own _ hbelief hrecords hfound =>
      obtain ⟨hconfirms, hrefutes⟩ := Event.decided_of_record hrecords hfound
      rw [hbelief, hconfirms, hrefutes]
      by_cases hown : record.activeServerIp = own
      · simp [hown]
      · simp [hown, hother]

/-- A typed operation that ends by an unexpected fault decides nothing and keeps the
belief. -/
theorem Settlement.kept
    {other : Belief}
    {s : Situation}
    {o : Outcome Situation FailoverRecord}
    (h : Settlement other s o)
    (hends : ¬o.EndsAsExpected) :
    o.state.status.belief = s.status.belief ∧
    ¬Event.Confirms o.events ∧ ¬Event.Refutes o.events := by
  cases h with
  | undecided hresult hstate hbefore hundecided =>
      have hother := mt (Outcome.endsAsExpected_of_error hresult).mpr hends
      refine ⟨?_, hundecided⟩
      rw [hstate, Situation.belief_afterFault_of_other hother, hbefore]
  | compared hends' =>
      exact absurd hends' hends

/-! ## The belief after any operation -/

/-- A query that is not answered from the cache settles the belief, even if it ends by an
unexpected fault. -/
theorem belief_of_uncached
    {k : Keeper}
    {s : Situation}
    (h : ¬k.AnswersFromCache s) :
    let o := (k.perform .query).run s
    (o.state.status.belief = .configured ↔ Event.Confirms o.events) ∧
    (o.state.status.belief = .released ↔ Event.Refutes o.events) := by
  have hread := (k.refresh_course (s.believing .unknown)).settlement
  have hcontacts := contacts_query h
  have hstate :
      ((k.perform .query).run s).state = (k.refresh.run (s.believing .unknown)).state := by
    rw [perform_query_of_uncached h]
  simp only [hstate, Event.confirms_congr hcontacts, Event.refutes_congr hcontacts]
  -- the belief is forgotten before the read, so an unexpected fault leaves none behind
  by_cases hends : (k.refresh.run (s.believing .unknown)).EndsAsExpected
  · simpa using hread.belief (by decide) hends
  · obtain ⟨hbelief, hundecided⟩ := hread.kept hends
    simp [hbelief, hundecided]

/-- After a decisive operation the belief is what the operation found out. -/
theorem belief_of_decisive
    {k : Keeper}
    {operation : Operation}
    {s : Situation}
    (h : k.Decisive (k.report operation s)) :
    let r := k.report operation s
    (r.outcome.state.status.belief = .configured ↔ r.ShowsConfigured) ∧
    (r.outcome.state.status.belief = .released ↔ r.ShowsReleased) := by
  cases operation with
  | query =>
      simpa [report, Report.ShowsConfigured, Report.ShowsReleased, Report.Confirms,
        Report.Refutes] using belief_of_uncached h
  | refresh =>
      have hread := (k.refresh_course s).settlement
      simp only [Decisive, report, perform_refresh, endsAsExpected_map] at h
      simpa [report, Report.ShowsConfigured, Report.ShowsReleased, Report.Confirms,
        Report.Refutes, perform_refresh] using
        hread.belief (by decide) h
  | claim =>
      have hwrite := (k.claim_course s).settlement
      simp only [Decisive, report, perform_claim, endsAsExpected_map] at h
      simpa [report, Report.ShowsConfigured, Report.ShowsReleased, Report.Confirms,
        Report.Refutes, perform_claim] using
        hwrite.belief (by decide) h
  | configure =>
      have hwrite := (k.claim_course s).settlement
      have hbelief := hwrite.belief (by decide) (endsAsExpected_configure.mp h)
      rw [← Event.confirms_congr (k.contacts_configure s)] at hbelief
      simpa [report, Report.ShowsConfigured, Report.ShowsReleased, Report.Confirms,
        Report.Refutes, perform_configure] using hbelief
  | deconfigure =>
      simp [report, Report.ShowsConfigured, Report.ShowsReleased, perform_deconfigure]
  | cleanup =>
      exact h.elim
  | status =>
      exact h.elim

/-- An operation that is not decisive keeps the belief. -/
theorem belief_of_not_decisive
    {k : Keeper}
    {operation : Operation}
    {s : Situation}
    (h : ¬k.Decisive (k.report operation s)) :
    (k.report operation s).outcome.state.status.belief = s.status.belief := by
  cases operation with
  | query =>
      simp only [Decisive, report, Decidable.not_not] at h
      simp [report, perform_query_of_cached h]
  | refresh =>
      simp only [Decisive, report, perform_refresh, endsAsExpected_map] at h
      simpa [report, perform_refresh] using ((k.refresh_course s).settlement.kept h).1
  | claim =>
      simp only [Decisive, report, perform_claim, endsAsExpected_map] at h
      simpa [report, perform_claim] using ((k.claim_course s).settlement.kept h).1
  | configure =>
      have hends := mt endsAsExpected_configure.mpr h
      simpa [report, perform_configure] using ((k.claim_course s).settlement.kept hends).1
  | deconfigure =>
      exact absurd trivial h
  | cleanup =>
      rfl
  | status =>
      rfl

theorem not_confirms_of_unexpected
    {k : Keeper}
    {operation : Operation}
    {s : Situation}
    (hends : ¬(k.report operation s).outcome.EndsAsExpected) :
    ¬(k.report operation s).Confirms := by
  cases k.perform_course operation s with
  | silent hoperation hexpected hstate hcontacts =>
      exact absurd hexpected hends
  | givenUp hoperation hexpected hstate hcontacts =>
      exact absurd hexpected hends
  | read hoperation hcourse hexpected hstate hcontacts =>
      rw [Report.Confirms, report, Event.confirms_congr hcontacts]
      exact (hcourse.settlement.kept (mt hexpected.mpr hends)).2.1
  | write hoperation hcourse hexpected hstate hcontacts =>
      rw [Report.Confirms, report, Event.confirms_congr hcontacts]
      exact (hcourse.settlement.kept (mt hexpected.mpr hends)).2.1

/-- An operation that hands on an answer and ends as expected is decisive. -/
theorem decisive_of_answered
    {k : Keeper}
    {operation : Operation}
    {s : Situation}
    (hanswers : (k.report operation s).answers ≠ [])
    (hends : (k.report operation s).outcome.EndsAsExpected) :
    k.Decisive (k.report operation s) := by
  cases operation with
  | query =>
      intro (hcached : k.AnswersFromCache s)
      rw [Report.answers, report, perform_query_of_cached hcached] at hanswers
      exact hanswers rfl
  | refresh =>
      exact hends
  | claim =>
      exact hends
  | configure =>
      exact hends
  | deconfigure =>
      exact absurd rfl hanswers
  | cleanup =>
      exact absurd rfl hanswers
  | status =>
      exact absurd rfl hanswers

/-- The belief that a history leads to is settled by its last decisive operation; without
one nothing is believed. -/
theorem History.belief
    {k : Keeper}
    {w : World}
    {reports : List Report}
    {s : Situation}
    (h : k.History (.fresh w) reports s) :
    (s.status.belief = .configured ↔
      ∃ r, k.lastDecisive? reports = some r ∧ r.ShowsConfigured) ∧
    (s.status.belief = .released ↔
      ∃ r, k.lastDecisive? reports = some r ∧ r.ShowsReleased) := by
  -- the belief and the last decisive report change together or not at all
  induction h with
  | start =>
      simp [Situation.fresh, lastDecisive?]
  | clock h time ih =>
      exact ih
  | @perform reports s' h operation ih =>
      by_cases hdecisive : k.Decisive (k.report operation s')
      · simpa [lastDecisive?_concat_of_decisive hdecisive] using belief_of_decisive hdecisive
      · rw [lastDecisive?_concat_of_not_decisive hdecisive,
          belief_of_not_decisive hdecisive]
        exact ih

/-- The belief after a session of a keeper that starts out fresh comes from the last
decisive operation; it is that the address is routed to this node exactly if that operation
shows so, that it is routed elsewhere exactly if it shows that, and nothing is believed
otherwise, also if no operation was decisive. -/
theorem run_belief
    (k : Keeper)
    (w : World)
    (steps : List SessionStep) :
    let reports := (k.run (.fresh w) steps).1
    let belief := (k.run (.fresh w) steps).2.status.belief
    (belief = .configured ↔
      ∃ r, k.lastDecisive? reports = some r ∧ r.ShowsConfigured) ∧
    (belief = .released ↔
      ∃ r, k.lastDecisive? reports = some r ∧ r.ShowsReleased) ∧
    (belief = .unknown ↔
      ∀ r, k.lastDecisive? reports = some r → ¬r.ShowsConfigured ∧ ¬r.ShowsReleased) := by
  intro reports belief
  obtain ⟨hconfigured, hreleased⟩ := (k.run_history (.fresh w) steps).belief
  refine ⟨hconfigured, hreleased, ?_⟩
  have hunknown : belief = .unknown ↔ belief ≠ .configured ∧ belief ≠ .released := by
    cases belief <;> simp
  rw [hunknown, ne_eq, ne_eq, hconfigured, hreleased]
  constructor
  · rintro ⟨hkept, hlost⟩ r hlast
    constructor
    · intro hr
      exact hkept ⟨r, hlast, hr⟩
    · intro hr
      exact hlost ⟨r, hlast, hr⟩
  · intro h
    constructor
    · rintro ⟨r, hlast, hr⟩
      exact (h r hlast).1 hr
    · rintro ⟨r, hlast, hr⟩
      exact (h r hlast).2 hr

end Keeper

end FloatingAddress
