import FloatingAddress.Proofs.History
import Mathlib.Data.List.Forall2

/-!
# Two keepers side by side

Two actions that are run side by side are alike if an observer cannot tell them apart: they
end in the same way, leave states that belong together, and of their traces the observer
sees the same. What is alike stays alike when it is put together, so that keepers whose
clients and look-ups are alike are alike in all they do.

* `Action.Alike` and its rules: actions that an observer cannot tell apart;
* `Keeper.Twins`: keepers whose parts are alike;
* `Keeper.Twins.perform`: so is any one operation of theirs;
* `Keeper.Twins.run`: and any session.
-/

namespace FloatingAddress

open Provider

variable {σ α β γ : Type} {view : Event → Option γ} {R : σ → σ → Prop}

/-- Two outcomes that an observer cannot tell apart. Of each event the observer has a view,
or none at all. -/
structure Outcome.Alike
    (view : Event → Option γ)
    (R : σ → σ → Prop)
    (o o' : Outcome σ α) : Prop where
  result : o.result = o'.result
  state : R o.state o'.state
  events : o.events.filterMap view = o'.events.filterMap view

/-- Two actions whose outcomes an observer cannot tell apart, wherever they are run. -/
def Action.Alike
    (view : Event → Option γ)
    (R : σ → σ → Prop)
    (a a' : Action σ α) : Prop :=
  ∀ s s', R s s' → (a.run s).Alike view R (a'.run s')

namespace Action

/-! ## Putting actions together -/

theorem Alike.refl
    (a : Action σ α) :
    Alike view Eq a a := by
  rintro s _ rfl
  exact ⟨rfl, rfl, rfl⟩

theorem Alike.pure
    (v : α) :
    Alike view R (Pure.pure v) (Pure.pure v) :=
  fun _ _ h => ⟨rfl, h, rfl⟩

theorem Alike.raise
    (fault : Fault) :
    Alike view R (raise fault : Action σ α) (raise fault) :=
  fun _ _ h => ⟨rfl, h, rfl⟩

theorem Alike.ofExcept
    (result : Except Fault α) :
    Alike view R (ofExcept result) (ofExcept result) :=
  fun _ _ h => ⟨rfl, h, rfl⟩

theorem Alike.log
    (severity : Severity)
    (t : Text) :
    Alike view R (log severity t) (log severity t) :=
  fun _ _ h => ⟨rfl, h, rfl⟩

theorem Alike.modify
    {f f' : σ → σ}
    (h : ∀ s s', R s s' → R (f s) (f' s')) :
    Alike view R (modify f) (modify f') :=
  fun s s' hs => ⟨rfl, h s s' hs, rfl⟩

theorem Alike.bind
    {a a' : Action σ α}
    {f f' : α → Action σ β}
    (h : Alike view R a a')
    (hnext : ∀ v, Alike view R (f v) (f' v)) :
    Alike view R (a >>= f) (a' >>= f') := by
  intro s s' hs
  have ho := h s s' hs
  rw [run_bind, run_bind]
  generalize a.run s = o, a'.run s' = o' at ho
  obtain ⟨result, t, events⟩ := o
  obtain ⟨result', t', events'⟩ := o'
  obtain ⟨hresult, hstate, hevents⟩ := ho
  obtain rfl : result = result' := hresult
  cases result with
  | error fault =>
      exact ⟨rfl, hstate, hevents⟩
  | ok v =>
      have hrest := hnext v t t' hstate
      refine ⟨hrest.result, hrest.state, ?_⟩
      simp only [List.filterMap_append, hrest.events]
      rw [hevents]

theorem Alike.recover
    {a a' : Action σ α}
    {handle handle' : Failure → Action σ α}
    (h : Alike view R a a')
    (hhandle : ∀ f, Alike view R (handle f) (handle' f)) :
    Alike view R (a.recover handle) (a'.recover handle') := by
  intro s s' hs
  have ho := h s s' hs
  rw [run_recover, run_recover]
  generalize a.run s = o, a'.run s' = o' at ho
  obtain ⟨result, t, events⟩ := o
  obtain ⟨result', t', events'⟩ := o'
  obtain ⟨hresult, hstate, hevents⟩ := ho
  obtain rfl : result = result' := hresult
  cases result with
  | ok v =>
      exact ⟨rfl, hstate, hevents⟩
  | error fault =>
      cases fault with
      | failure f =>
          have hrest := hhandle f t t' hstate
          refine ⟨hrest.result, hrest.state, ?_⟩
          simp only [List.filterMap_append, hrest.events]
          rw [hevents]
      | _ =>
          exact ⟨rfl, hstate, hevents⟩

theorem Alike.map
    {a a' : Action σ α}
    (h : Alike view R a a')
    (f : α → β) :
    Alike view R (f <$> a) (f <$> a') := by
  rw [← bind_pure_comp, ← bind_pure_comp]
  exact h.bind fun v => .pure (f v)

end Action

/-! ## Keepers -/

/-- Situations with the same status, in worlds that belong together. -/
structure Situation.Linked (W : World → World → Prop) (s s' : Situation) : Prop where
  status : s.status = s'.status
  world : W s.world s'.world

/-- Reports of one operation that an observer cannot tell apart. -/
structure Report.Alike
    (view : Event → Option γ)
    (W : World → World → Prop)
    (r r' : Report) : Prop where
  operation : r.operation = r'.operation
  before : Situation.Linked W r.before r'.before
  outcome : r.outcome.Alike view (Situation.Linked W) r'.outcome

namespace Keeper

variable {W : World → World → Prop} {k k' : Keeper} {s s' : Situation}

/-- Two keepers whose clients and look-ups an observer cannot tell apart, in worlds that
show the same time when they belong together. -/
structure Twins
    (view : Event → Option γ)
    (W : World → World → Prop)
    (k k' : Keeper) : Prop where
  ttl : k.ttl = k'.ttl
  address : k.client.address = k'.client.address
  endpoint : k.client.endpoint = k'.client.endpoint
  clock : ∀ w w', W w w' → w.clock = w'.clock
  withClock : ∀ w w' time, W w w' → W { w with clock := time } { w' with clock := time }
  calls : ∀ call, Action.Alike view W (k.client.query call) (k'.client.query call)
  lookUps : Action.Alike view W k.source.lookUp k'.source.lookUp

theorem outside_alike
    {a a' : Action World α}
    (h : Action.Alike view W a a') :
    Action.Alike view (Situation.Linked W) (outside a) (outside a') := by
  intro s s' hs
  obtain ⟨hresult, hstate, hevents⟩ := h s.world s'.world hs.world
  exact ⟨hresult, ⟨hs.status, hstate⟩, hevents⟩

theorem believe_alike
    (belief : Belief) :
    Action.Alike view (Situation.Linked W) (believe belief) (believe belief) := by
  refine .modify fun s s' hs => ⟨?_, hs.world⟩
  rw [hs.status]

theorem forgetting_alike
    {a a' : Action Situation α}
    (h : Action.Alike view (Situation.Linked W) a a') :
    Action.Alike view (Situation.Linked W) (forgetting a) (forgetting a') :=
  h.recover fun f => (believe_alike .unknown).bind fun _ => .raise (.failure f)

theorem decode_alike
    (body : Text) :
    Action.Alike view R (decode body) (decode body) :=
  (Action.Alike.ofExcept _).bind fun _ => (Action.Alike.log _ _).bind fun _ => .pure _

namespace Twins

theorem markChecked
    (h : Twins view W k k') :
    Action.Alike view (Situation.Linked W) markChecked markChecked := by
  refine .modify fun s s' hs => ⟨?_, hs.world⟩
  rw [hs.status, h.clock _ _ hs.world]

theorem ask
    (h : Twins view W k k')
    (call : Call) :
    Action.Alike view (Situation.Linked W) (k.ask call) (k'.ask call) :=
  (outside_alike (h.calls call)).bind fun body =>
    h.markChecked.bind fun _ =>
      (decode_alike body).bind fun _ => .ofExcept _

theorem refresh
    (h : Twins view W k k') :
    Action.Alike view (Situation.Linked W) k.refresh k'.refresh :=
  forgetting_alike <| (h.ask {}).bind fun _ =>
    (outside_alike h.lookUps).bind fun _ =>
      (believe_alike _).bind fun _ => .pure _

theorem claim
    (h : Twins view W k k') :
    Action.Alike view (Situation.Linked W) k.claim k'.claim := by
  refine forgetting_alike <| (outside_alike h.lookUps).bind fun own =>
    (h.ask { write := true, towards := some own }).bind fun record => ?_
  by_cases hown : record.activeServerIp = own
  · simp only [if_pos hown]
    exact (believe_alike .configured).bind fun _ => .pure record
  · simp only [if_neg hown]
    exact .raise _

/-- The cache of one has expired where that of the other has. -/
theorem expired_iff
    (h : Twins view W k k')
    (hs : Situation.Linked W s s') :
    k.Expired s.status s.world.clock ↔ k'.Expired s'.status s'.world.clock := by
  unfold Expired
  rw [hs.status, h.clock _ _ hs.world, h.ttl]

theorem answersFromCache_iff
    (h : Twins view W k k')
    (hs : Situation.Linked W s s') :
    k.AnswersFromCache s ↔ k'.AnswersFromCache s' := by
  rw [AnswersFromCache, AnswersFromCache, h.expired_iff hs, hs.status]

theorem staleNotes_eq
    (h : Twins view W k k')
    (hs : Situation.Linked W s s') :
    k.staleNotes s = k'.staleNotes s' := by
  have hexpired := h.expired_iff hs
  rw [hs.status] at hexpired
  simp only [staleNotes, hexpired, hs.status]

theorem doubtNotes_eq
    (h : Twins view W k k')
    (result : Except Fault FailoverRecord) :
    k.doubtNotes result = k'.doubtNotes result := by
  simp only [doubtNotes, h.address, h.endpoint]

theorem query
    (h : Twins view W k k') :
    Action.Alike view (Situation.Linked W) k.query k'.query := by
  intro s s' hs
  by_cases hcached : k.AnswersFromCache s
  · rw [query_of_cached hcached, query_of_cached ((h.answersFromCache_iff hs).mp hcached),
      hs.status]
    exact ⟨rfl, hs, rfl⟩
  · have hforgotten : Situation.Linked W (s.believing .unknown) (s'.believing .unknown) := by
      refine ⟨?_, hs.world⟩
      rw [Situation.believing, Situation.believing, hs.status]
    obtain ⟨hresult, hstate, hevents⟩ := h.refresh _ _ hforgotten
    rw [query_of_uncached hcached,
      query_of_uncached (mt (h.answersFromCache_iff hs).mpr hcached)]
    refine ⟨?_, hstate, ?_⟩
    · simp only [decision, hresult, hstate.status]
    · simp only [List.filterMap_append, hevents, hresult, h.staleNotes_eq hs, h.doubtNotes_eq]

theorem configure
    (h : Twins view W k k') :
    Action.Alike view (Situation.Linked W) k.configure k'.configure := by
  intro s s' hs
  obtain ⟨hresult, hstate, hevents⟩ := h.claim s s' hs
  rw [configure_eq, configure_eq]
  refine ⟨?_, hstate, ?_⟩
  · simp only [hresult]
  · simp only [List.filterMap_append, hevents, hresult, grantNotes, refusalNotes, h.address]

theorem deconfigure :
    Action.Alike view (Situation.Linked W) deconfigure deconfigure :=
  (believe_alike .released).bind fun _ => .pure true

/-- Any one operation of theirs. -/
theorem perform
    (h : Twins view W k k')
    (operation : Operation) :
    Action.Alike view (Situation.Linked W) (k.perform operation) (k'.perform operation) := by
  cases operation with
  | query =>
      exact h.query.map _
  | refresh =>
      exact h.refresh.map _
  | claim =>
      exact h.claim.map _
  | configure =>
      exact h.configure.map _
  | deconfigure =>
      exact deconfigure.map _
  | cleanup =>
      exact .pure _
  | status =>
      exact .pure _

/-- Their sessions, report by report. -/
theorem run
    (h : Twins view W k k')
    (hs : Situation.Linked W s s')
    (steps : List SessionStep) :
    List.Forall₂ (Report.Alike view W) (k.run s steps).1 (k'.run s' steps).1 ∧
    Situation.Linked W (k.run s steps).2 (k'.run s' steps).2 := by
  induction steps generalizing s s' with
  | nil =>
      exact ⟨.nil, hs⟩
  | cons step steps ih =>
      cases step with
      | perform operation =>
          have hfirst := h.perform operation s s' hs
          obtain ⟨hreports, hafter⟩ := ih hfirst.state
          exact ⟨.cons ⟨rfl, hs, hfirst⟩ hreports, hafter⟩
      | advance seconds =>
          simp only [Keeper.run, follow, h.clock _ _ hs.world]
          exact ih ⟨hs.status, h.withClock _ _ _ hs.world⟩
      | setClock time =>
          exact ih ⟨hs.status, h.withClock _ _ _ hs.world⟩

end Twins
end Keeper

end FloatingAddress
