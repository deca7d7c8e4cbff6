import FloatingAddress.Proofs.Surroundings

/-!
# The quiet window

While the provider's last answer is trusted and something is believed, a keeper that is only
queried, told to give the address up, or shown says nothing to anybody: it sends nothing,
looks nothing up, logs nothing and takes nothing from the world, however the clock moves
from one operation to the next. Its queries repeat one answer until the address is given up,
and say no from then on.

* `Operation.IsLocal`: the operations that may stay inside the node;
* `Keeper.LocalCourse`, `Keeper.perform_local`: what such an operation does in the window;
* `Keeper.History.undisturbed`: what holds wherever the window leads;
* `Keeper.run_quiet`: a session in the window.
-/

namespace FloatingAddress

/-- The operations that may stay inside the node: all but those that always ask. -/
def Operation.IsLocal (operation : Operation) : Prop :=
  operation ∈ [.query, .deconfigure, .cleanup, .status]

instance (operation : Operation) : Decidable operation.IsLocal :=
  inferInstanceAs (Decidable (_ ∈ _))

namespace Keeper

/-- What a local operation does if a query is answered from the cache. -/
inductive LocalCourse
    (operation : Operation)
    (s : Situation)
    (o : Outcome Situation Answer) : Prop
  /-- The belief is told. -/
  | told
      (hquery : operation = .query)
      (hrun : o = ⟨.ok (.decision (decide (s.status.belief = .configured))), s, []⟩)
  /-- The address is given up. -/
  | givenUp
      (hdeconfigure : operation = .deconfigure)
      (hrun : o = ⟨.ok (.decision true), s.believing .released, []⟩)
  /-- Nothing is done. -/
  | idle
      (hidle : operation ∈ [.cleanup, .status])
      (hrun : o = ⟨.ok .nothing, s, []⟩)

theorem perform_local
    {k : Keeper}
    {operation : Operation}
    {s : Situation}
    (hlocal : operation.IsLocal)
    (hcached : operation = .query → k.AnswersFromCache s) :
    LocalCourse operation s ((k.perform operation).run s) := by
  cases operation with
  | query =>
      exact .told rfl (perform_query_of_cached (hcached rfl))
  | deconfigure =>
      exact .givenUp rfl (k.perform_deconfigure s)
  | cleanup =>
      exact .idle (by decide) rfl
  | status =>
      exact .idle (by decide) rfl
  | refresh =>
      exact absurd hlocal (by decide)
  | claim =>
      exact absurd hlocal (by decide)
  | configure =>
      exact absurd hlocal (by decide)

theorem LocalCourse.events
    {operation : Operation}
    {s : Situation}
    {o : Outcome Situation Answer}
    (h : LocalCourse operation s o) :
    o.events = [] := by
  cases h with
  | told hquery hrun =>
      rw [hrun]
  | givenUp hdeconfigure hrun =>
      rw [hrun]
  | idle hidle hrun =>
      rw [hrun]

/-- What a local operation leaves behind. -/
theorem LocalCourse.state
    {operation : Operation}
    {s : Situation}
    {o : Outcome Situation Answer}
    (h : LocalCourse operation s o) :
    o.state = if operation = .deconfigure then s.believing .released else s := by
  cases h with
  | told hquery hrun =>
      rw [hrun, hquery]
      rfl
  | givenUp hdeconfigure hrun =>
      rw [hrun, if_pos hdeconfigure]
  | idle hidle hrun =>
      have hother : operation ≠ .deconfigure := by
        rintro rfl
        exact absurd hidle (by decide)
      rw [hrun, if_neg hother]

/-- What holds in the window: the time of the provider's last answer stays, the belief stays
until the address is given up, and of the world only the clock has moved. -/
structure Undisturbed
    (t : Float)
    (s : Situation)
    (reports : List Report)
    (s' : Situation) : Prop where
  checkedAt : s'.status.checkedAt = some t
  belief : s'.status.belief =
    if ∃ r ∈ reports, r.operation = .deconfigure then .released else s.status.belief
  world : s'.world = { s.world with clock := s'.world.clock }

/-- In the window a query is answered from the cache as long as the time is trusted. -/
theorem Undisturbed.answersFromCache
    {k : Keeper}
    {t : Float}
    {s s' : Situation}
    {reports : List Report}
    (h : Undisturbed t s reports s')
    (hbelief : s.status.belief ≠ .unknown)
    (htrusted : ¬k.ttl.IsReachedBy (s'.world.clock - t)) :
    k.AnswersFromCache s' := by
  refine ⟨?_, ?_⟩
  · rwa [Expired, h.checkedAt]
  · rw [h.belief]
    split
    · decide
    · exact hbelief

/-- The window stays open over a local operation. -/
theorem Undisturbed.perform
    {k : Keeper}
    {t : Float}
    {s s' : Situation}
    {reports : List Report}
    {operation : Operation}
    (h : Undisturbed t s reports s')
    (hcourse : LocalCourse operation s' ((k.perform operation).run s')) :
    Undisturbed t s (reports ++ [k.report operation s'])
      (k.report operation s').outcome.state := by
  have hstate : (k.report operation s').outcome.state = _ := hcourse.state
  have hgivenUp :
      (∃ r ∈ reports ++ [k.report operation s'], r.operation = .deconfigure) ↔
        (∃ r ∈ reports, r.operation = .deconfigure) ∨ operation = .deconfigure := by
    simp [List.mem_append, or_and_right, exists_or, report]
  rw [hstate]
  by_cases hdeconfigure : operation = .deconfigure
  · rw [if_pos hdeconfigure]
    refine ⟨h.checkedAt, ?_, h.world⟩
    rw [if_pos (hgivenUp.mpr (.inr hdeconfigure)), Situation.belief_believing]
  · rw [if_neg hdeconfigure]
    refine ⟨h.checkedAt, ?_, h.world⟩
    simpa only [hgivenUp, hdeconfigure, or_false] using h.belief

/-- Where local operations lead from a situation with a trusted belief. -/
theorem History.undisturbed
    {k : Keeper}
    {t : Float}
    {s s' : Situation}
    {reports : List Report}
    (h : k.History s reports s')
    (hbelief : s.status.belief ≠ .unknown)
    (hchecked : s.status.checkedAt = some t)
    (hlocal : ∀ r ∈ reports, r.operation.IsLocal)
    (htrusted : ∀ r ∈ reports, r.operation = .query →
      ¬k.ttl.IsReachedBy (r.before.world.clock - t)) :
    Undisturbed t s reports s' := by
  -- the queries before a query are in the window, so it finds the cache as it was
  induction h with
  | start =>
      exact ⟨hchecked, by simp, rfl⟩
  | clock h time ih =>
      obtain ⟨hchecked', hbelief', hworld'⟩ := ih hlocal htrusted
      refine ⟨hchecked', hbelief', ?_⟩
      simp only [Situation.withClock]
      rw [hworld']
  | @perform reports s' h operation ih =>
      simp only [List.forall_mem_append, List.forall_mem_singleton] at hlocal htrusted
      have hbefore := ih hlocal.1 htrusted.1
      exact hbefore.perform <| perform_local hlocal.2 fun hquery =>
        hbefore.answersFromCache hbelief (htrusted.2 hquery)

/-- The operations that are reported are those of the session. -/
theorem perform_mem_of_mem_run
    {k : Keeper}
    {s : Situation}
    {steps : List SessionStep}
    {r : Report}
    (h : r ∈ (k.run s steps).1) :
    .perform r.operation ∈ steps := by
  induction steps generalizing s with
  | nil =>
      cases h
  | cons step steps ih =>
      rcases List.mem_append.mp h with hfirst | hrest
      · cases step with
        | perform operation =>
            obtain rfl := List.mem_singleton.mp hfirst
            exact List.mem_cons_self
        | advance seconds =>
            cases hfirst
        | setClock time =>
            cases hfirst
      · exact List.mem_cons_of_mem _ (ih hrest)

/-- A session of local operations that begins with a belief and an answer of the provider,
and in which that answer is still trusted at every query, is quiet: its operations have no
events and keep the time of the answer; its queries repeat the belief until the address is
given up, and say no after it; of the world only the clock is moved. -/
theorem run_quiet
    {k : Keeper}
    {s : Situation}
    {t : Float}
    {steps : List SessionStep}
    (hbelief : s.status.belief ≠ .unknown)
    (hchecked : s.status.checkedAt = some t)
    (hlocal : ∀ operation, .perform operation ∈ steps → operation.IsLocal)
    (htrusted : ∀ r ∈ (k.run s steps).1, r.operation = .query →
      ¬k.ttl.IsReachedBy (r.before.world.clock - t)) :
    (∀ older r newer, (k.run s steps).1 = older ++ r :: newer →
      r.outcome.events = [] ∧
      r.outcome.state.status.checkedAt = some t ∧
      (r.operation = .query → (∀ r' ∈ older, r'.operation ≠ .deconfigure) →
        r.outcome.result = .ok (.decision (decide (s.status.belief = .configured)))) ∧
      (r.operation = .query → (∃ r' ∈ older, r'.operation = .deconfigure) →
        r.outcome.result = .ok (.decision false))) ∧
    (k.run s steps).2.status.checkedAt = some t ∧
    (k.run s steps).2.world =
      { s.world with clock := (k.run s steps).2.world.clock } := by
  have hhistory := k.run_history s steps
  have hreported : ∀ r ∈ (k.run s steps).1, r.operation.IsLocal :=
    fun r hr => hlocal _ (perform_mem_of_mem_run hr)
  have hend := hhistory.undisturbed hbelief hchecked hreported htrusted
  refine ⟨?_, hend.checkedAt, hend.world⟩
  intro older r newer hreports
  rw [hreports] at hreported htrusted
  simp only [List.forall_mem_append, List.forall_mem_cons] at hreported htrusted
  obtain ⟨hbefore, hr⟩ := hhistory.before hreports
  have hwindow := hbefore.undisturbed hbelief hchecked hreported.1 htrusted.1
  have hcourse : LocalCourse r.operation r.before r.outcome := by
    rw [hr]
    exact perform_local hreported.2.1 fun hquery =>
      hwindow.answersFromCache hbelief (htrusted.2.1 hquery)
  have hafter : Undisturbed t s (older ++ [r]) r.outcome.state := by
    rw [hr] at hcourse ⊢
    exact hwindow.perform hcourse
  have htold : r.operation = .query →
      r.outcome.result = .ok (.decision (decide (r.before.status.belief = .configured))) := by
    intro hquery
    rw [hr, hquery, report, perform_query_of_cached
      (hwindow.answersFromCache hbelief (htrusted.2.1 hquery))]
  refine ⟨hcourse.events, hafter.checkedAt, ?_, ?_⟩
  · intro hquery hkept
    have hnone : ¬∃ r' ∈ older, r'.operation = .deconfigure := by
      rintro ⟨r', hr', hdeconfigure⟩
      exact hkept r' hr' hdeconfigure
    rw [htold hquery, hwindow.belief, if_neg hnone]
  · intro hquery hgivenUp
    rw [htold hquery, hwindow.belief, if_pos hgivenUp]
    rfl

/-- The sample keeper stays quiet when its answer is 100 seconds old, and gives the address
up between two queries. -/
theorem run_quiet_sample :
    let s : Situation := ⟨⟨.configured, some 10000⟩, sampleWorld []⟩
    let steps : List SessionStep :=
      [.advance 100, .perform .query, .perform .deconfigure, .perform .query]
    (∀ r ∈ (sample.run s steps).1, r.operation = .query →
      ¬sample.ttl.IsReachedBy (r.before.world.clock - 10000)) ∧
    (sample.run s steps).2.status.checkedAt = some 10000 ∧
    (sample.run s steps).2.world =
      { s.world with clock := (sample.run s steps).2.world.clock } := by
  intro s steps
  have hlocal : ∀ operation, .perform operation ∈ steps → operation.IsLocal := by
    intro operation hoperation
    simp only [steps, List.mem_cons, List.not_mem_nil, SessionStep.perform.injEq,
      reduceCtorEq, false_or, or_false] at hoperation
    rcases hoperation with rfl | rfl | rfl <;> decide
  have htrusted : ∀ r ∈ (sample.run s steps).1, r.operation = .query →
      ¬sample.ttl.IsReachedBy (r.before.world.clock - 10000) := by
    decide +kernel
  have hbelief : s.status.belief ≠ .unknown := by
    decide
  obtain ⟨-, hchecked, hworld⟩ := run_quiet hbelief rfl hlocal htrusted
  exact ⟨htrusted, hchecked, hworld⟩

end Keeper

end FloatingAddress
