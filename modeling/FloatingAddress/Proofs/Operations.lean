import FloatingAddress.Proofs.Leader
import FloatingAddress.Session

/-!
# The operations by their names

An operation does nothing, or gives the address up, or reads, or writes. `OperationCourse`
says for each of these what it leaves behind; what a read or a write does follows from its
own course.

* `Outcome.EndsAsExpected`: an operation ends with a result or a failure;
* `Keeper.perform_course`: every operation takes one of the courses.
-/

namespace FloatingAddress

open Provider

/-- An action ends with a result or with a failure; other faults are not expected. -/
def Outcome.EndsAsExpected {σ α : Type} (o : Outcome σ α) : Prop :=
  match o.result with
  | .ok _ => True
  | .error fault => fault.IsFailure

instance {σ α : Type} (o : Outcome σ α) : Decidable o.EndsAsExpected := by
  unfold Outcome.EndsAsExpected
  split <;> infer_instance

theorem Outcome.endsAsExpected_of_ok
    {σ α : Type}
    {o : Outcome σ α}
    {v : α}
    (h : o.result = .ok v) :
    o.EndsAsExpected := by
  simp [EndsAsExpected, h]

theorem Outcome.endsAsExpected_of_error
    {σ α : Type}
    {o : Outcome σ α}
    {fault : Fault}
    (h : o.result = .error fault) :
    o.EndsAsExpected ↔ fault.IsFailure := by
  simp [EndsAsExpected, h]

namespace Keeper

/-! ## What each operation comes to -/

theorem perform_refresh
    (k : Keeper)
    (s : Situation) :
    (k.perform .refresh).run s =
      ⟨(k.refresh.run s).result.map .record, (k.refresh.run s).state,
        (k.refresh.run s).events⟩ :=
  Action.run_map _ _ _

theorem perform_claim
    (k : Keeper)
    (s : Situation) :
    (k.perform .claim).run s =
      ⟨(k.claim.run s).result.map .record, (k.claim.run s).state,
        (k.claim.run s).events⟩ :=
  Action.run_map _ _ _

theorem perform_configure
    (k : Keeper)
    (s : Situation) :
    (k.perform .configure).run s =
      ⟨(grant (k.claim.run s).result).map .decision, (k.claim.run s).state,
        (k.claim.run s).events ++ k.grantNotes (k.claim.run s).result⟩ := by
  rw [perform, Action.run_map, configure_eq]

theorem perform_query_of_cached
    {k : Keeper}
    {s : Situation}
    (h : k.AnswersFromCache s) :
    (k.perform .query).run s =
      ⟨.ok (.decision (decide (s.status.belief = .configured))), s, []⟩ := by
  rw [perform, Action.run_map, query_of_cached h]
  rfl

theorem perform_query_of_uncached
    {k : Keeper}
    {s : Situation}
    (h : ¬k.AnswersFromCache s) :
    (k.perform .query).run s =
      let o := k.refresh.run (s.believing .unknown)
      ⟨(decision o).map .decision, o.state,
        k.staleNotes s ++ (o.events ++ k.doubtNotes o.result)⟩ := by
  rw [perform, Action.run_map, query_of_uncached h]

theorem perform_deconfigure
    (k : Keeper)
    (s : Situation) :
    (k.perform .deconfigure).run s =
      ⟨.ok (.decision true), s.believing .released, []⟩ :=
  rfl

theorem contacts_query
    {k : Keeper}
    {s : Situation}
    (h : ¬k.AnswersFromCache s) :
    Event.contacts ((k.perform .query).run s).events =
      Event.contacts (k.refresh.run (s.believing .unknown)).events := by
  rw [perform_query_of_uncached h]
  simp

theorem contacts_configure
    (k : Keeper)
    (s : Situation) :
    Event.contacts ((k.perform .configure).run s).events =
      Event.contacts (k.claim.run s).events := by
  rw [perform_configure]
  simp

theorem endsAsExpected_configure
    {k : Keeper}
    {s : Situation} :
    ((k.perform .configure).run s).EndsAsExpected ↔ (k.claim.run s).EndsAsExpected := by
  rw [perform_configure]
  rcases k.claim.run s with ⟨result, s', events⟩
  cases result with
  | ok record =>
      exact Iff.rfl
  | error fault =>
      cases fault <;> exact Iff.rfl

theorem endsAsExpected_query
    {k : Keeper}
    {s : Situation}
    (h : ¬k.AnswersFromCache s) :
    ((k.perform .query).run s).EndsAsExpected ↔
      (k.refresh.run (s.believing .unknown)).EndsAsExpected := by
  rw [perform_query_of_uncached h]
  rcases k.refresh.run (s.believing .unknown) with ⟨result, s', events⟩
  cases result with
  | ok record =>
      exact Iff.rfl
  | error fault =>
      cases fault <;> exact Iff.rfl

theorem endsAsExpected_map
    {σ α β : Type}
    (f : α → β)
    (result : Except Fault α)
    (s : σ)
    (events : List Event) :
    (⟨result.map f, s, events⟩ : Outcome σ β).EndsAsExpected ↔
      (⟨result, s, events⟩ : Outcome σ α).EndsAsExpected := by
  cases result <;> exact Iff.rfl

/-! ## The courses -/

/-- The courses of an operation. -/
inductive OperationCourse
    (k : Keeper)
    (operation : Operation)
    (s : Situation)
    (o : Outcome Situation Answer) : Prop
  /-- Nothing is done: a query that is answered from the cache, and what does nothing at
  all. -/
  | silent
      (hoperation : operation ∈ [.query, .cleanup, .status])
      (hends : o.EndsAsExpected)
      (hstate : o.state = s)
      (hcontacts : Event.contacts o.events = [])
  /-- The address is given up. -/
  | givenUp
      (hoperation : operation = .deconfigure)
      (hends : o.EndsAsExpected)
      (hstate : o.state = s.believing .released)
      (hcontacts : Event.contacts o.events = [])
  /-- A read; a query forgets its belief before it. -/
  | read {belief : Belief} {o' : Outcome Situation FailoverRecord}
      (hoperation : operation ∈ [.query, .refresh])
      (hcourse : RefreshCourse k (s.believing belief) o')
      (hends : o.EndsAsExpected ↔ o'.EndsAsExpected)
      (hstate : o.state = o'.state)
      (hcontacts : Event.contacts o.events = Event.contacts o'.events)
  /-- A write. -/
  | write {o' : Outcome Situation FailoverRecord}
      (hoperation : operation ∈ [.claim, .configure])
      (hcourse : ClaimCourse k s o')
      (hends : o.EndsAsExpected ↔ o'.EndsAsExpected)
      (hstate : o.state = o'.state)
      (hcontacts : Event.contacts o.events = Event.contacts o'.events)

/-- Every operation takes one of its courses. -/
theorem perform_course
    (k : Keeper)
    (operation : Operation)
    (s : Situation) :
    OperationCourse k operation s ((k.perform operation).run s) := by
  cases operation with
  | query =>
      by_cases hcached : k.AnswersFromCache s
      · rw [perform_query_of_cached hcached]
        exact .silent (by decide) trivial rfl rfl
      · refine
          .read (by decide) (k.refresh_course (s.believing .unknown))
            (endsAsExpected_query hcached) ?_ (contacts_query hcached)
        rw [perform_query_of_uncached hcached]
  | refresh =>
      have hcourse := k.refresh_course (s.believing s.status.belief)
      rw [perform_refresh]
      exact .read (by decide) hcourse (endsAsExpected_map _ _ _ _) rfl rfl
  | claim =>
      rw [perform_claim]
      exact .write (by decide) (k.claim_course s) (endsAsExpected_map _ _ _ _) rfl rfl
  | configure =>
      refine
        .write (by decide) (k.claim_course s) endsAsExpected_configure ?_
          (k.contacts_configure s)
      rw [perform_configure]
  | deconfigure =>
      exact .givenUp rfl trivial rfl rfl
  | cleanup =>
      exact .silent (by decide) trivial rfl rfl
  | status =>
      exact .silent (by decide) trivial rfl rfl

end Keeper

end FloatingAddress
