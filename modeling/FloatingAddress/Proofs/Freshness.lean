import FloatingAddress.Proofs.Limits
import FloatingAddress.Proofs.Surroundings

/-!
# How fresh a yes from the cache is

The time of the provider's last answer is that of the last answer that was handed on, and a
query is answered from the cache only as long as that answer is trusted. The belief beside
the time was found out from the same answer, unless the operation that got the answer ended
by an unexpected fault: then the time is renewed and an older belief stays.

* `Keeper.perform_stamped`: the time after any one operation;
* `Keeper.run_cached_yes`: what is known when a query says yes without asking;
* `Keeper.query_after_limit`: an answer that exceeds a limit of the reader renews an older
  yes.
-/

namespace FloatingAddress

open Provider

namespace Keeper

/-- What an operation does to the time of the provider's last answer. -/
inductive Stamped
    {α : Type}
    (s : Situation)
    (o : Outcome Situation α) : Prop
  /-- No answer is handed on, and the time stays. -/
  | silent
      (hanswers : Event.answers o.events = [])
      (hchecked : o.state.status.checkedAt = s.status.checkedAt)
  /-- One answer is handed on, and the time is that of its arrival. -/
  | answered {body : Text} {time : Float}
      (hanswers : Event.answers o.events = [(body, time)])
      (hchecked : o.state.status.checkedAt = some time)

theorem RefreshCourse.stamped
    {k : Keeper}
    {s : Situation}
    {o : Outcome Situation FailoverRecord}
    (h : RefreshCourse k s o) :
    Stamped s o := by
  cases h with
  | unsent hrequest hresult hstate hcontacts =>
      refine .silent (Event.answers_of_contacts hcontacts) ?_
      rw [hstate, Situation.checkedAt_afterFault]
  | refused hrequest hverdict hresult hstate hcontacts =>
      have hrefused := Client.handedOn_of_verdict_error hverdict
      refine .silent
        ((Event.answers_of_contacts hcontacts).trans (Event.answers_refused hrefused _)) ?_
      rw [hstate, Situation.checkedAt_afterFault]
      rfl
  | undecoded hrequest hbody hrecord hresult hstate hcontacts =>
      refine .answered
        ((Event.answers_of_contacts hcontacts).trans (Event.answers_contact hbody _)) ?_
      rw [hstate, Situation.checkedAt_afterFault]
      rfl
  | unidentified hrequest hbody hrecord hidentity hresult hstate hcontacts =>
      refine .answered
        ((Event.answers_of_contacts hcontacts).trans (Event.answers_contact hbody _)) ?_
      rw [hstate, Situation.checkedAt_afterFault]
      rfl
  | compared hrequest hbody hrecord hidentity hresult hstate hcontacts =>
      refine .answered
        ((Event.answers_of_contacts hcontacts).trans (Event.answers_contact hbody _)) ?_
      rw [hstate]
      rfl

theorem ClaimCourse.stamped
    {k : Keeper}
    {s : Situation}
    {o : Outcome Situation FailoverRecord}
    (h : ClaimCourse k s o) :
    Stamped s o := by
  cases h with
  | unidentified hidentity hresult hstate hcontacts =>
      refine .silent (Event.answers_of_contacts hcontacts) ?_
      rw [hstate, Situation.checkedAt_afterFault]
      rfl
  | unsent hidentity hrequest hresult hstate hcontacts =>
      refine .silent (Event.answers_of_contacts hcontacts) ?_
      rw [hstate, Situation.checkedAt_afterFault]
      rfl
  | refused hidentity hrequest hverdict hresult hstate hcontacts =>
      have hrefused := Client.handedOn_of_verdict_error hverdict
      refine .silent
        ((Event.answers_of_contacts hcontacts).trans (Event.answers_refused hrefused _)) ?_
      rw [hstate, Situation.checkedAt_afterFault]
      rfl
  | undecoded hidentity hrequest hbody hrecord hresult hstate hcontacts =>
      refine .answered
        ((Event.answers_of_contacts hcontacts).trans (Event.answers_contact hbody _)) ?_
      rw [hstate, Situation.checkedAt_afterFault]
      rfl
  | elsewhere hidentity hrequest hbody hrecord hother hresult hstate hcontacts =>
      refine .answered
        ((Event.answers_of_contacts hcontacts).trans (Event.answers_contact hbody _)) ?_
      rw [hstate]
      rfl
  | confirmed hidentity hrequest hbody hrecord hown hresult hstate hcontacts =>
      refine .answered
        ((Event.answers_of_contacts hcontacts).trans (Event.answers_contact hbody _)) ?_
      rw [hstate]
      rfl

theorem Stamped.congr
    {α β : Type}
    {s s' : Situation}
    {o : Outcome Situation α}
    {o' : Outcome Situation β}
    (h : Stamped s o)
    (hcontacts : Event.contacts o'.events = Event.contacts o.events)
    (hbefore : s.status.checkedAt = s'.status.checkedAt)
    (hstate : o'.state = o.state) :
    Stamped s' o' := by
  have hsame := Event.answers_congr hcontacts
  cases h with
  | silent hanswers hchecked =>
      exact .silent (hsame.trans hanswers) (by rw [hstate, hchecked, hbefore])
  | answered hanswers hchecked =>
      exact .answered (hsame.trans hanswers) (by rw [hstate, hchecked])

/-- What any operation does to the time of the provider's last answer. -/
theorem perform_stamped
    (k : Keeper)
    (operation : Operation)
    (s : Situation) :
    Stamped s ((k.perform operation).run s) := by
  cases k.perform_course operation s with
  | silent hoperation hends hstate hcontacts =>
      exact .silent (Event.answers_of_contacts hcontacts) (by rw [hstate])
  | givenUp hoperation hends hstate hcontacts =>
      refine .silent (Event.answers_of_contacts hcontacts) ?_
      rw [hstate, Situation.checkedAt_believing]
  | read hoperation hcourse hends hstate hcontacts =>
      exact hcourse.stamped.congr hcontacts rfl hstate
  | write hoperation hcourse hends hstate hcontacts =>
      exact hcourse.stamped.congr hcontacts rfl hstate

/-! ## Yes from the cache -/

/-- An operation that hands on no answer does not come to believe that the address is
routed to this node. -/
theorem belief_before_of_silent
    {k : Keeper}
    {operation : Operation}
    {s : Situation}
    (hanswers : (k.report operation s).answers = [])
    (hbelief : (k.report operation s).outcome.state.status.belief = .configured) :
    s.status.belief = .configured := by
  by_cases hdecisive : k.Decisive (k.report operation s)
  · have hconfirms := ((belief_of_decisive hdecisive).1.mp hbelief).2
    have hrecords := Event.records_of_no_answer hanswers
    exact absurd hconfirms (Event.undecided_of_records hrecords).1
  · rwa [belief_of_not_decisive hdecisive] at hbelief

/-- An operation that hands on an answer, and after which the address is believed to be
routed to this node, confirms that exactly if it ends as expected. -/
theorem confirms_iff_of_answered
    {k : Keeper}
    {operation : Operation}
    {s : Situation}
    (hanswers : (k.report operation s).answers ≠ [])
    (hbelief : (k.report operation s).outcome.state.status.belief = .configured) :
    (k.report operation s).Confirms ↔ (k.report operation s).outcome.EndsAsExpected := by
  constructor
  · intro hconfirms
    exact Decidable.byContradiction fun hends => not_confirms_of_unexpected hends hconfirms
  · intro hends
    exact ((belief_of_decisive (decisive_of_answered hanswers hends)).1.mp hbelief).2

/-- The belief that the address is routed to this node is as old as the last answer, and
was found out from it if the operation that got it ended as expected. -/
theorem History.yes
    {k : Keeper}
    {w : World}
    {reports : List Report}
    {s : Situation}
    (h : k.History (.fresh w) reports s)
    (hbelief : s.status.belief = .configured) :
    ∃ e body time,
      lastAnswered? reports = some e ∧
      e.answers = [(body, time)] ∧
      s.status.checkedAt = some time ∧
      (e.Confirms ↔ e.outcome.EndsAsExpected) := by
  -- an answer that is handed on replaces both the time and the report it came from
  induction h with
  | start =>
      cases hbelief
  | clock h time ih =>
      exact ih hbelief
  | @perform reports s' h operation ih =>
      cases k.perform_stamped operation s' with
      | silent hanswers hchecked =>
          rw [lastAnswered?_concat_of_not_answered (r := k.report operation s') hanswers]
          obtain ⟨e, body, time, hlast, he, htime, hconfirms⟩ :=
            ih (belief_before_of_silent hanswers hbelief)
          exact ⟨e, body, time, hlast, he, hchecked.trans htime, hconfirms⟩
      | @answered body time hanswers hchecked =>
          have hanswered : (k.report operation s').answers ≠ [] := by
            rw [Report.answers, report, hanswers]
            exact List.cons_ne_nil _ _
          exact
            ⟨k.report operation s', body, time,
              lastAnswered?_concat_of_answered hanswered reports, hanswers, hchecked,
              confirms_iff_of_answered hanswered hbelief⟩

/-- A query that says yes without a request is answered from the cache. -/
theorem cached_of_silent_yes
    {k : Keeper}
    {s : Situation}
    (hyes : ((k.perform .query).run s).result = .ok (.decision true))
    (hsilent : Event.requests ((k.perform .query).run s).events = []) :
    k.AnswersFromCache s := by
  refine Decidable.byContradiction fun hcached => ?_
  rw [← Event.requests_contacts, contacts_query hcached] at hsilent
  rw [perform_query_of_uncached hcached] at hyes
  cases k.refresh_course (s.believing .unknown) with
  | @unsent fault hrequest hresult hstate hcontacts =>
      cases fault <;> simp [decision, hresult, Except.map] at hyes
  | refused hrequest hverdict hresult hstate hcontacts =>
      simp [hcontacts, Event.requests, Situation.contact] at hsilent
  | undecoded hrequest hbody hrecord hresult hstate hcontacts =>
      simp [hcontacts, Event.requests, Situation.contact] at hsilent
  | unidentified hrequest hbody hrecord hidentity hresult hstate hcontacts =>
      simp [hcontacts, Event.requests, Situation.contact] at hsilent
  | compared hrequest hbody hrecord hidentity hresult hstate hcontacts =>
      simp [hcontacts, Event.requests, Situation.contact] at hsilent

/-- The situation after a first query of the sample keeper. -/
def sampleAsked (later : List Reaction) : Situation :=
  (sample.report .query (.fresh (sampleWorld later))).outcome.state

/-- What is known when a query of a session says yes without asking: an answer was handed
on before, the last one is still trusted, and it named the address that was looked up in the
operation that got it, unless that operation ended by an unexpected fault. -/
theorem run_cached_yes
    {k : Keeper}
    {w : World}
    {steps : List SessionStep}
    {older newer : List Report}
    {r : Report}
    (hreports : (k.run (.fresh w) steps).1 = older ++ r :: newer)
    (hquery : r.operation = .query)
    (hyes : r.outcome.result = .ok (.decision true))
    (hsilent : Event.requests r.outcome.events = []) :
    ∃ e body time,
      lastAnswered? older = some e ∧
      e.answers = [(body, time)] ∧
      ¬k.ttl.IsReachedBy (r.before.world.clock - time) ∧
      (e.Confirms ↔ e.outcome.EndsAsExpected) := by
  obtain ⟨hbefore, hr⟩ := (k.run_history (.fresh w) steps).before hreports
  rw [hquery] at hr
  rw [hr] at hyes hsilent
  have hcached := cached_of_silent_yes hyes hsilent
  have hbelief : r.before.status.belief = .configured := by
    simpa [report, perform_query_of_cached hcached] using hyes
  obtain ⟨e, body, time, hlast, hanswers, htime, hconfirms⟩ := hbefore.yes hbelief
  refine ⟨e, body, time, hlast, hanswers, ?_, hconfirms⟩
  intro hreached
  refine hcached.1 ?_
  unfold Expired
  rw [htime]
  exact hreached

/-- A second query of the sample keeper is answered from the cache. -/
theorem run_cached_yes_sample :
    ∃ e body time,
      lastAnswered? [sample.report .query (.fresh (sampleWorld []))] = some e ∧
      e.answers = [(body, time)] ∧
      ¬sample.ttl.IsReachedBy ((sampleAsked []).world.clock - time) ∧
      (e.Confirms ↔ e.outcome.EndsAsExpected) := by
  have hreports :
      (sample.run (.fresh (sampleWorld [])) [.perform .query, .perform .query]).1 =
        [sample.report .query (.fresh (sampleWorld []))]
          ++ sample.report .query (sampleAsked []) :: [] := by
    rw [run_perform, run_perform, sampleAsked]
    simp [run]
  have hcached : sample.AnswersFromCache (sampleAsked []) := by
    decide +kernel
  have hbelief : (sampleAsked []).status.belief = .configured := by
    decide +kernel
  have hquery := perform_query_of_cached hcached
  rw [hbelief] at hquery
  have hyes :
      (sample.report .query (sampleAsked [])).outcome.result = .ok (.decision true) := by
    rw [report, hquery, decide_eq_true rfl]
  have hsilent :
      Event.requests (sample.report .query (sampleAsked [])).outcome.events = [] := by
    rw [report, hquery]
    rfl
  have h := run_cached_yes hreports rfl hyes hsilent
  rwa [before_report] at h

/-! ## An answer that renews an older yes -/

/-- A read whose answer exceeds a limit of the reader ends by an unexpected fault; it
renews the time and leaves the belief as it is. -/
theorem refresh_of_exceedsLimit
    {k : Keeper}
    {s : Situation}
    {r : Request}
    {body : Text}
    (hrequest : k.client.request none = .ok r)
    (hbody : (s.ending r).handedOn? = some body)
    (hlimit : Json.ExceedsLimit body) :
    (k.refresh.run s).state = s.answered ∧
    ¬(k.refresh.run s).EndsAsExpected ∧
    Event.answers (k.refresh.run s).events = [(body, s.world.afterRequest.clock)] := by
  obtain ⟨fault, hfault, hother⟩ := recordIn_of_exceedsLimit hlimit
  have hread : k.client.destination {} = pure none := rfl
  obtain ⟨events, hask, hcontacts⟩ := ask_answered hread hrequest hbody
  rw [hfault] at hask
  have hrun : k.refresh.run s = ⟨.error fault, s.answered.afterFault fault, events⟩ := by
    rw [refresh, run_forgetting, Action.run_bind, hask]
  rw [hrun]
  refine ⟨?_, ?_, ?_⟩
  · cases fault with
    | failure f =>
        exact absurd trivial hother
    | _ =>
        rfl
  · exact mt (Outcome.endsAsExpected_of_error rfl).mp hother
  · exact (Event.answers_of_contacts hcontacts).trans (Event.answers_contact hbody [])

/-- An answer that exceeds a limit of the reader renews an older yes: as long as that answer
is trusted a query says yes without asking, whatever the routing is. -/
theorem query_after_limit
    {k : Keeper}
    {s : Situation}
    {r : Request}
    {body : Text}
    (hbelief : s.status.belief = .configured)
    (hrequest : k.client.request none = .ok r)
    (hbody : (s.ending r).handedOn? = some body)
    (hlimit : Json.ExceedsLimit body)
    (time : Float)
    (htrusted : ¬k.ttl.IsReachedBy (time - s.world.afterRequest.clock)) :
    let s' := (k.refresh.run s).state.withClock time
    (k.perform .query).run s' = ⟨.ok (.decision true), s', []⟩ := by
  intro s'
  have hs' : s' = s.answered.withClock time := by
    rw [← (refresh_of_exceedsLimit hrequest hbody hlimit).1]
  have hcached : k.AnswersFromCache (s.answered.withClock time) := by
    refine ⟨htrusted, ?_⟩
    simp [Situation.withClock, Situation.answered, hbelief]
  rw [hs', perform_query_of_cached hcached]
  simp [Situation.withClock, Situation.answered, hbelief]

/-- Every session that has led to a yes can be renewed by an answer that exceeds a limit of
the reader: a query after it says yes without asking, and the last answer confirmed
nothing. -/
theorem run_renewed_yes
    {k : Keeper}
    {w : World}
    {steps : List SessionStep}
    {s : Situation}
    (hs : (k.run (.fresh w) steps).2 = s)
    (hbelief : s.status.belief = .configured)
    {r : Request}
    {body : Text}
    (hrequest : k.client.request none = .ok r)
    (hbody : (s.ending r).handedOn? = some body)
    (hlimit : Json.ExceedsLimit body)
    {time : Float}
    (htrusted : ¬k.ttl.IsReachedBy (time - s.world.afterRequest.clock)) :
    ∃ older last yes,
      (k.run (.fresh w) (steps ++ [.perform .refresh, .setClock time, .perform .query])).1 =
        older ++ yes :: [] ∧
      yes.operation = .query ∧
      yes.outcome.result = .ok (.decision true) ∧
      Event.requests yes.outcome.events = [] ∧
      lastAnswered? older = some last ∧
      ¬last.Confirms := by
  obtain ⟨hstate, hends, hanswers⟩ := refresh_of_exceedsLimit hrequest hbody hlimit
  have hquery := query_after_limit hbelief hrequest hbody hlimit time htrusted
  have hreport :
      (k.report .refresh s).outcome.state = (k.refresh.run s).state := by
    rw [report, perform_refresh]
  have hreports :
      (k.run (.fresh w) (steps ++ [.perform .refresh, .setClock time, .perform .query])).1 =
        (k.run (.fresh w) steps).1 ++ [k.report .refresh s]
          ++ k.report .query ((k.refresh.run s).state.withClock time) :: [] := by
    rw [run_append, hs, run_perform, hreport]
    simp [run, follow, report]
  have hanswered : (k.report .refresh s).answers ≠ [] := by
    rw [Report.answers, report, perform_refresh, hanswers]
    exact List.cons_ne_nil _ _
  have hunexpected : ¬(k.report .refresh s).outcome.EndsAsExpected := by
    rwa [report, perform_refresh, endsAsExpected_map]
  refine
    ⟨(k.run (.fresh w) steps).1 ++ [k.report .refresh s], k.report .refresh s,
      k.report .query ((k.refresh.run s).state.withClock time), hreports, rfl, ?_, ?_,
      lastAnswered?_concat_of_answered hanswered _, not_confirms_of_unexpected hunexpected⟩
  · rw [report, hquery]
  · rw [report, hquery]
    rfl

/-- An answer that is an integer with one digit too many. -/
def longInteger : Text :=
  List.replicate (Numeral.maxDigits + 1) ('1' : CodePoint)

theorem exceedsLimit_longInteger :
    Json.ExceedsLimit longInteger := by
  have hdigits :
      ∀ d ∈ List.replicate Numeral.maxDigits ('1' : CodePoint), d.isDigit = true := by
    intro d hd
    rw [List.eq_of_mem_replicate hd]
    decide
  rw [longInteger, List.replicate_succ]
  exact Json.exceedsLimit_of_digits (by decide) (by decide) hdigits (by simp)

/-- After its first query the sample keeper gets the answers that follow. -/
theorem reactions_sampleAsked
    (later : List Reaction) :
    (sampleAsked later).world.reactions = (sampleWorld later).reactions.advance := by
  obtain ⟨r, hrequest, -⟩ := sample_request
  have huncached : ¬sample.AnswersFromCache (.fresh (sampleWorld later)) :=
    fun h => h.2 rfl
  rw [sampleAsked, reactions_query_of_uncached huncached hrequest, Situation.fresh]

/-- The situation of the sample keeper when its first answer is 3000 seconds old, an integer
that is too long being the next answer. -/
def sampleWaiting : Situation :=
  let s := sampleAsked [⟨0, .answered 200 longInteger⟩]
  s.withClock (s.world.clock + 3000)

/-- A yes from the cache whose last answer confirmed nothing: the sample keeper asks, reads
an integer that is too long after 3000 seconds, and says yes after 3000 more. -/
theorem cached_yes_unconfirmed :
    ¬∀ (k : Keeper) (w : World) (steps : List SessionStep) (older newer : List Report)
        (r : Report),
        (k.run (.fresh w) steps).1 = older ++ r :: newer →
        r.operation = .query →
        r.outcome.result = .ok (.decision true) →
        Event.requests r.outcome.events = [] →
        ∃ e body time,
          lastAnswered? older = some e ∧
          e.answers = [(body, time)] ∧
          e.Confirms ∧
          ¬k.ttl.IsReachedBy (r.before.world.clock - time) := by
  intro h
  have hs :
      (sample.run (.fresh (sampleWorld [⟨0, .answered 200 longInteger⟩]))
        [.perform .query, .advance 3000]).2 = sampleWaiting := by
    rw [sampleWaiting, sampleAsked]
    simp [run, follow, report]
  have hbelief : sampleWaiting.status.belief = .configured := by
    decide +kernel
  obtain ⟨r, hrequest, habsolute⟩ := sample_request
  have hnext :
      sampleWaiting.world.reactions =
        (sampleWorld [⟨0, .answered 200 longInteger⟩]).reactions.advance := by
    rw [sampleWaiting, ← reactions_sampleAsked, Situation.withClock]
  have hbody : (sampleWaiting.ending r).handedOn? = some longInteger := by
    rw [Situation.ending, hnext]
    simp [sampleWorld, Script.advance, Request.met, habsolute, Ending.handedOn?]
  have htrusted :
      ¬sample.ttl.IsReachedBy (16000 - sampleWaiting.world.afterRequest.clock) := by
    decide +kernel
  obtain ⟨older, last, yes, hreports, hquery, hyes, hsilent, hlast, hunconfirmed⟩ :=
    run_renewed_yes hs hbelief hrequest hbody exceedsLimit_longInteger htrusted
  obtain ⟨e, body, time, he, -, hconfirms, -⟩ :=
    h sample _ _ older [] yes hreports hquery hyes hsilent
  rw [hlast] at he
  cases he
  exact hunconfirmed hconfirms

end Keeper

end FloatingAddress
