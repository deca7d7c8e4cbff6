import FloatingAddress.Proofs.Freshness
import FloatingAddress.Proofs.Traffic

/-!
# When the provider last answered

The time that a keeper holds is the reading of its clock at which the last answer with a
status below 500 arrived. Reads and writes renew it alike, whatever the answer says and
however the operation ends; an operation without such an answer leaves it alone.

* `Report.AnsweredAt`: when an answer with a status below 500 arrived;
* `Report.exists_last_answered`: the last operation that got one;
* `Keeper.Unanswered`, `Keeper.unanswered_iff`: the operations without one, by their causes;
* `Keeper.time_of_requested`: an answer arrives when the world has laid down;
* `Keeper.History.checkedAt`: the time that a history leads to;
* `Keeper.run_checkedAt`: the time after a session.
-/

namespace FloatingAddress

namespace Event

/-- The answers of a trace are those with a status below 500. -/
theorem mem_answers_iff
    {events : List Event}
    {body : Text}
    {time : Float} :
    (body, time) ∈ answers events ↔
      ∃ request status,
        requested request (.answered status body) time ∈ events ∧ status < 500 := by
  rw [answers, List.mem_filterMap]
  constructor
  · rintro ⟨e, he, hview⟩
    cases e with
    | requested request ending time' =>
        obtain ⟨body', hbody, hpair⟩ := Option.map_eq_some_iff.mp hview
        cases hpair
        obtain ⟨status, rfl, hstatus⟩ := Ending.handedOn?_eq_some_iff.mp hbody
        exact ⟨request, status, he, hstatus⟩
    | logged entry | socket step | lookedUp result =>
        cases hview
  · rintro ⟨request, status, he, hstatus⟩
    exact ⟨_, he, by simp [Ending.handedOn?_eq_some_iff.mpr ⟨status, rfl, hstatus⟩]⟩

end Event

namespace Report

/-- An answer with a status below 500 arrived during the operation, at a time. -/
def AnsweredAt (r : Report) (time : Float) : Prop :=
  ∃ request status body,
    Event.requested request (.answered status body) time ∈ r.outcome.events ∧ status < 500

theorem answeredAt_iff
    {r : Report}
    {time : Float} :
    r.AnsweredAt time ↔ ∃ body, (body, time) ∈ r.answers := by
  simp only [AnsweredAt, answers, Event.mem_answers_iff]
  constructor
  · rintro ⟨request, status, body, he, hstatus⟩
    exact ⟨body, request, status, he, hstatus⟩
  · rintro ⟨body, request, status, he, hstatus⟩
    exact ⟨request, status, body, he, hstatus⟩

theorem answers_eq_nil_iff
    {r : Report} :
    r.answers = [] ↔ ∀ time, ¬r.AnsweredAt time := by
  rw [List.eq_nil_iff_forall_not_mem]
  constructor
  · intro h time htime
    obtain ⟨body, hbody⟩ := answeredAt_iff.mp htime
    exact h _ hbody
  · rintro h ⟨body, time⟩ hbody
    exact h time (answeredAt_iff.mpr ⟨body, hbody⟩)

/-- Among reports of which some got an answer there is a last one that did. -/
theorem exists_last_answered
    {reports : List Report}
    (h : ¬∀ r ∈ reports, ∀ time, ¬r.AnsweredAt time) :
    ∃ older r newer time,
      reports = older ++ r :: newer ∧
      r.AnsweredAt time ∧
      ∀ r' ∈ newer, ∀ time', ¬r'.AnsweredAt time' := by
  induction reports with
  | nil =>
      exact absurd (by simp) h
  | cons r reports ih =>
      by_cases hrest : ∀ r' ∈ reports, ∀ time, ¬r'.AnsweredAt time
      · obtain ⟨time, htime⟩ : ∃ time, r.AnsweredAt time := by
          by_contra hnone
          exact h (List.forall_mem_cons.mpr ⟨not_exists.mp hnone, hrest⟩)
        exact ⟨[], r, reports, time, rfl, htime, hrest⟩
      · obtain ⟨older, last, newer, time, hreports, htime, hnewer⟩ := ih hrest
        exact ⟨r :: older, last, newer, time, by rw [hreports]; rfl, htime, hnewer⟩

end Report

namespace Keeper

/-! ## When an answer arrives -/

/-- A look-up does not delay the requests after it. -/
theorem clock_afterRequest_afterLookUp
    (k : Keeper)
    (s : Situation) :
    (k.afterLookUp s).world.afterRequest.clock = s.world.afterRequest.clock := by
  obtain ⟨hreactions, hclock⟩ := k.source.lookUp_reactions s.world
  simp only [afterLookUp, World.afterRequest, hreactions, hclock]

section Course

variable {k : Keeper} {s : Situation} {o : Outcome Situation Provider.FailoverRecord}
  {r request : Request} {ending : Ending} {time : Float}

theorem time_of_contact
    (h : Event.requested request ending time = s.contact r) :
    time = s.world.afterRequest.clock := by
  unfold Situation.contact at h
  cases h
  rfl

theorem RefreshCourse.time_of_requested
    (h : RefreshCourse k s o)
    (hmem : Event.requested request ending time ∈ Event.contacts o.events) :
    time = s.world.afterRequest.clock := by
  cases h with
  | unsent hrequest hresult hstate hcontacts =>
      rw [hcontacts] at hmem
      cases hmem
  | refused hrequest hverdict hresult hstate hcontacts =>
      rw [hcontacts] at hmem
      exact time_of_contact (List.mem_singleton.mp hmem)
  | undecoded hrequest hbody hrecord hresult hstate hcontacts =>
      rw [hcontacts] at hmem
      exact time_of_contact (List.mem_singleton.mp hmem)
  | unidentified hrequest hbody hrecord hidentity hresult hstate hcontacts =>
      rw [hcontacts] at hmem
      exact time_of_contact (by simpa using hmem)
  | compared hrequest hbody hrecord hidentity hresult hstate hcontacts =>
      rw [hcontacts] at hmem
      exact time_of_contact (by simpa using hmem)

theorem ClaimCourse.time_of_requested
    (h : ClaimCourse k s o)
    (hmem : Event.requested request ending time ∈ Event.contacts o.events) :
    time = s.world.afterRequest.clock := by
  rw [← k.clock_afterRequest_afterLookUp s]
  cases h with
  | unidentified hidentity hresult hstate hcontacts =>
      simp [hcontacts] at hmem
  | unsent hidentity hrequest hresult hstate hcontacts =>
      simp [hcontacts] at hmem
  | refused hidentity hrequest hverdict hresult hstate hcontacts =>
      rw [hcontacts] at hmem
      exact time_of_contact (by simpa using hmem)
  | undecoded hidentity hrequest hbody hrecord hresult hstate hcontacts =>
      rw [hcontacts] at hmem
      exact time_of_contact (by simpa using hmem)
  | elsewhere hidentity hrequest hbody hrecord hother hresult hstate hcontacts =>
      rw [hcontacts] at hmem
      exact time_of_contact (by simpa using hmem)
  | confirmed hidentity hrequest hbody hrecord hown hresult hstate hcontacts =>
      rw [hcontacts] at hmem
      exact time_of_contact (by simpa using hmem)

end Course

/-- A request of any operation ends when the delay that the world has laid down for it has
gone by. -/
theorem time_of_requested
    {k : Keeper}
    {operation : Operation}
    {s : Situation}
    {request : Request}
    {ending : Ending}
    {time : Float}
    (h : Event.requested request ending time ∈ ((k.perform operation).run s).events) :
    time = s.world.reactions.next.delay.after s.world.clock := by
  rw [← Event.requested_mem_contacts_iff] at h
  cases k.perform_course operation s with
  | silent hoperation hends hstate hcontacts =>
      simp [hcontacts] at h
  | givenUp hoperation hends hstate hcontacts =>
      simp [hcontacts] at h
  | read hoperation hcourse hends hstate hcontacts =>
      rw [hcontacts] at h
      exact hcourse.time_of_requested h
  | write hoperation hcourse hends hstate hcontacts =>
      rw [hcontacts] at h
      exact hcourse.time_of_requested h

/-! ## Operations without an answer -/

/-- Why no answer with a status below 500 arrives during an operation. -/
inductive Unanswered (k : Keeper) (r : Report) : Prop
  /-- The operation never asks. -/
  | idle
      (hoperation : r.operation ∈ [.deconfigure, .cleanup, .status])
  /-- The belief is the answer. -/
  | cached
      (hquery : r.operation = .query)
      (hcached : k.AnswersFromCache r.before)
  /-- The own address is not found before a write. -/
  | unidentified {fault : Fault}
      (hwrite : r.operation ∈ [.claim, .configure])
      (hfault : .lookedUp (.error fault) ∈ r.outcome.events)
  /-- Nothing is sent. -/
  | unsent
      (hrequests : Event.requests r.outcome.events = [])
  /-- A request ends in an error of the connection, in a fault from outside, or in an answer
  with a status of 500 or above. -/
  | refused {request : Request} {ending : Ending} {time : Float}
      (hrequest : .requested request ending time ∈ r.outcome.events)
      (hending : ∀ status body, ending = .answered status body → 500 ≤ status)

/-- An operation sends at most one request, which has one ending. -/
theorem Traffic.ending_unique
    {operation : Operation}
    {events : List Event}
    (h : Traffic operation events)
    {request request' : Request}
    {ending ending' : Ending}
    {time time' : Float}
    (hmem : .requested request ending time ∈ events)
    (hmem' : .requested request' ending' time' ∈ events) :
    ending = ending' := by
  cases h <;> simp at hmem hmem'
  all_goals rw [hmem.2.1, hmem'.2.1]

/-- Without the own address nothing is written. -/
theorem Traffic.contacts_of_unidentified
    {operation : Operation}
    {events : List Event}
    (h : Traffic operation events)
    (hwrite : operation ∈ [.claim, .configure])
    {fault : Fault}
    (hfault : .lookedUp (.error fault) ∈ events) :
    events = [.lookedUp (.error fault)] := by
  have hother : operation ∉ [.query, .refresh] := by
    cases operation <;> simp_all
  cases h with
  | silent hread =>
      exact absurd hwrite hread
  | read hread =>
      exact absurd hread hother
  | compared hread =>
      exact absurd hread hother
  | unsent =>
      rw [List.mem_singleton.mp hfault]
  | written =>
      simp at hfault

/-- Only a read or a write says anything to the outside. -/
theorem Traffic.contacts_of_idle
    {operation : Operation}
    {events : List Event}
    (h : Traffic operation events)
    (hidle : operation ∈ [.deconfigure, .cleanup, .status]) :
    events = [] := by
  have hread : operation ∉ [.query, .refresh] := by
    cases operation <;> simp_all
  have hwrite : operation ∉ [.claim, .configure] := by
    cases operation <;> simp_all
  cases h with
  | silent =>
      rfl
  | read hoperation =>
      exact absurd hoperation hread
  | compared hoperation =>
      exact absurd hoperation hread
  | unsent hoperation =>
      exact absurd hoperation hwrite
  | written hoperation =>
      exact absurd hoperation hwrite

/-- The causes are all there are: without one of them an answer arrives, and with one of them
none does. -/
theorem unanswered_iff
    (k : Keeper)
    (operation : Operation)
    (s : Situation) :
    k.Unanswered (k.report operation s) ↔
      ∀ time, ¬(k.report operation s).AnsweredAt time := by
  have htraffic := k.perform_traffic operation s
  constructor
  · intro h time
    rintro ⟨request, status, body, hanswer, hstatus⟩
    have hcontact := Event.requested_mem_contacts_iff.mpr hanswer
    cases h with
    | idle hoperation =>
        rw [report, htraffic.contacts_of_idle hoperation] at hcontact
        cases hcontact
    | cached hquery hcached =>
        obtain rfl : operation = .query := hquery
        rw [before_report] at hcached
        rw [report, perform_query_of_cached hcached] at hanswer
        cases hanswer
    | unidentified hwrite hfault =>
        have hlookedUp := Event.lookedUp_mem_contacts_iff.mpr hfault
        rw [report, htraffic.contacts_of_unidentified hwrite hlookedUp] at hcontact
        simp at hcontact
    | unsent hrequests =>
        have hmem : request ∈ Event.requests (k.report operation s).outcome.events :=
          List.mem_filterMap.mpr ⟨_, hanswer, rfl⟩
        rw [hrequests] at hmem
        cases hmem
    | refused hrequest hending =>
        have hother := Event.requested_mem_contacts_iff.mpr hrequest
        have hbound := hending status body (htraffic.ending_unique hother hcontact)
        omega
  · intro h
    cases hrequests : Event.requests (k.report operation s).outcome.events with
    | nil =>
        exact .unsent hrequests
    | cons request rest =>
        have hmem : request ∈ Event.requests (k.report operation s).outcome.events := by
          rw [hrequests]
          exact List.mem_cons_self
        obtain ⟨e, he, hview⟩ := List.mem_filterMap.mp hmem
        cases e with
        | requested request' ending time =>
            refine .refused he ?_
            rintro status body rfl
            exact Int.not_lt.mp fun hstatus => h time ⟨request', status, body, he, hstatus⟩
        | logged entry =>
            cases hview
        | socket step =>
            cases hview
        | lookedUp result =>
            cases hview

/-! ## The time along a history -/

/-- The time that a history leads to is that of the last answer in it. -/
theorem History.checkedAt
    {k : Keeper}
    {w : World}
    {reports : List Report}
    {s : Situation}
    (h : k.History (.fresh w) reports s) :
    s.status.checkedAt = ((reports.flatMap Report.answers).getLast?).map Prod.snd := by
  -- an operation adds one answer and its time, or neither
  induction h with
  | start =>
      rfl
  | clock h time ih =>
      exact ih
  | @perform reports s' h operation ih =>
      cases k.perform_stamped operation s' with
      | silent hanswers hchecked =>
          have hnone : (k.report operation s').answers = [] :=
            hanswers
          rw [List.flatMap_append, List.flatMap_singleton, hnone, List.append_nil, ← ih]
          exact hchecked
      | @answered body time hanswers hchecked =>
          have hone : (k.report operation s').answers = [(body, time)] :=
            hanswers
          rw [List.flatMap_append, List.flatMap_singleton, hone, List.getLast?_concat]
          exact hchecked

/-- An operation gets at most one answer. -/
theorem answers_of_answeredAt
    {k : Keeper}
    {operation : Operation}
    {s : Situation}
    {time : Float}
    (h : (k.report operation s).AnsweredAt time) :
    ∃ body, (k.report operation s).answers = [(body, time)] := by
  obtain ⟨body, hbody⟩ := Report.answeredAt_iff.mp h
  cases k.perform_stamped operation s with
  | silent hanswers hchecked =>
      rw [Report.answers, report, hanswers] at hbody
      cases hbody
  | @answered body' time' hanswers hchecked =>
      rw [Report.answers, report, hanswers, List.mem_singleton] at hbody
      cases hbody
      exact ⟨body, hanswers⟩

/-- An operation without an answer leaves the time alone. -/
theorem checkedAt_of_unanswered
    {k : Keeper}
    {operation : Operation}
    {s : Situation}
    (h : k.Unanswered (k.report operation s)) :
    (k.report operation s).outcome.state.status.checkedAt = s.status.checkedAt := by
  have hnone := Report.answers_eq_nil_iff.mpr ((k.unanswered_iff operation s).mp h)
  cases k.perform_stamped operation s with
  | silent hanswers hchecked =>
      exact hchecked
  | answered hanswers hchecked =>
      rw [Report.answers, report, hanswers] at hnone
      cases hnone

/-- Where the last answer of a history arrived, its time is the time that is held. -/
theorem History.checkedAt_of_last
    {k : Keeper}
    {w : World}
    {reports older newer : List Report}
    {s : Situation}
    {r : Report}
    {time : Float}
    (h : k.History (.fresh w) reports s)
    (hreports : reports = older ++ r :: newer)
    (htime : r.AnsweredAt time)
    (hnewer : ∀ r' ∈ newer, ∀ time', ¬r'.AnsweredAt time') :
    s.status.checkedAt = some time := by
  obtain ⟨-, hr⟩ := h.before hreports
  rw [hr] at htime
  obtain ⟨body, hbody⟩ := answers_of_answeredAt htime
  rw [← hr] at hbody
  have hrest : newer.flatMap Report.answers = [] := by
    rw [List.flatMap_eq_nil_iff]
    intro r' hr'
    exact Report.answers_eq_nil_iff.mpr (hnewer r' hr')
  have hanswers : reports.flatMap Report.answers =
      older.flatMap Report.answers ++ [(body, time)] := by
    rw [hreports, List.flatMap_append, List.flatMap_cons, hbody, hrest, List.append_nil]
  rw [h.checkedAt, hanswers, List.getLast?_concat]
  rfl

/-- The time after a session of a keeper that starts out fresh: none if no answer with a
status below 500 has arrived, otherwise the time at which the last one did. An answer arrives
when the delay of its request has gone by on the clock. An operation during which none
arrives, for one of the causes there are, leaves the time alone. -/
theorem run_checkedAt
    (k : Keeper)
    (w : World)
    (steps : List SessionStep) :
    let reports := (k.run (.fresh w) steps).1
    let checkedAt := (k.run (.fresh w) steps).2.status.checkedAt
    (checkedAt = none ↔ ∀ r ∈ reports, ∀ time, ¬r.AnsweredAt time) ∧
    (∀ time, checkedAt = some time ↔
      ∃ older r newer,
        reports = older ++ r :: newer ∧
        r.AnsweredAt time ∧
        ∀ r' ∈ newer, ∀ time', ¬r'.AnsweredAt time') ∧
    (∀ r ∈ reports, ∀ time, r.AnsweredAt time →
      time = r.before.world.reactions.next.delay.after r.before.world.clock) ∧
    (∀ r ∈ reports,
      (k.Unanswered r ↔ ∀ time, ¬r.AnsweredAt time) ∧
      (k.Unanswered r → r.outcome.state.status.checkedAt = r.before.status.checkedAt)) := by
  intro reports checkedAt
  have hhistory := k.run_history (.fresh w) steps
  have hnone : checkedAt = none ↔ ∀ r ∈ reports, ∀ time, ¬r.AnsweredAt time := by
    have hchecked : checkedAt = ((reports.flatMap Report.answers).getLast?).map Prod.snd :=
      hhistory.checkedAt
    rw [hchecked, Option.map_eq_none_iff, List.getLast?_eq_none_iff, List.flatMap_eq_nil_iff]
    simp only [Report.answers_eq_nil_iff]
  refine ⟨hnone, ?_, ?_, ?_⟩
  · intro time
    constructor
    · intro hsome
      have hanswered : ¬∀ r ∈ reports, ∀ time, ¬r.AnsweredAt time := by
        rw [← hnone, hsome]
        exact Option.some_ne_none time
      obtain ⟨older, r, newer, time', hreports, htime', hnewer⟩ :=
        Report.exists_last_answered hanswered
      have hlast : checkedAt = some time' := hhistory.checkedAt_of_last hreports htime' hnewer
      obtain rfl : time = time' := Option.some.inj (hsome.symm.trans hlast)
      exact ⟨older, r, newer, hreports, htime', hnewer⟩
    · rintro ⟨older, r, newer, hreports, htime, hnewer⟩
      exact hhistory.checkedAt_of_last hreports htime hnewer
  · rintro r hr time ⟨request, status, body, hanswer, -⟩
    rw [report_of_mem_run hr] at hanswer
    exact time_of_requested hanswer
  · intro r hr
    rw [report_of_mem_run hr]
    exact ⟨k.unanswered_iff _ _, checkedAt_of_unanswered⟩

/-- After a first query the sample keeper holds the time of its answer. -/
theorem run_checkedAt_sample :
    ∃ r ∈ (sample.run (.fresh (sampleWorld [])) [.perform .query]).1, ∃ time,
      r.AnsweredAt time ∧
      (sample.run (.fresh (sampleWorld [])) [.perform .query]).2.status.checkedAt =
        some time := by
  have hchecked :
      (sample.run (.fresh (sampleWorld [])) [.perform .query]).2.status.checkedAt.isSome =
        true := by
    decide +kernel
  obtain ⟨time, htime⟩ := Option.isSome_iff_exists.mp hchecked
  obtain ⟨-, hlast, -, -⟩ := run_checkedAt sample (sampleWorld []) [.perform .query]
  obtain ⟨older, r, newer, hreports, hr, -⟩ := (hlast time).mp htime
  have hmem : r ∈ (sample.run (.fresh (sampleWorld [])) [.perform .query]).1 := by
    rw [hreports]
    exact List.mem_append_right older List.mem_cons_self
  exact ⟨r, hmem, time, hr, htime⟩

end Keeper

end FloatingAddress
