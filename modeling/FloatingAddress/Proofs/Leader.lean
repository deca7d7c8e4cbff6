import FloatingAddress.Proofs.Course

/-!
# The leader's operations and the typed ones

A query is answered from the cache, or it is a read of which only yes or no is told; a
configuration is a write of which only yes or no is told. Beside the contacts of the typed
operation there is nothing but log.

* `Keeper.query_of_cached`, `Keeper.query_of_uncached`: the two ways of a query;
* `Keeper.configure_eq`: a configuration.
-/

namespace FloatingAddress

open Provider

namespace Keeper

/-- The belief is the answer: the provider's last answer is still trusted, and something is
believed. -/
def AnswersFromCache (k : Keeper) (s : Situation) : Prop :=
  ¬k.Expired s.status s.world.clock ∧ s.status.belief ≠ .unknown

instance (k : Keeper) (s : Situation) : Decidable (k.AnswersFromCache s) :=
  inferInstanceAs (Decidable (_ ∧ _))

/-- What a query tells of a read. -/
def decision (o : Outcome Situation FailoverRecord) : Except Fault Bool :=
  match o.result with
  | .ok _ => .ok (decide (o.state.status.belief = .configured))
  | .error (.failure _) => .ok false
  | .error fault => .error fault

/-- What a configuration tells of a write. -/
def grant : Except Fault FailoverRecord → Except Fault Bool
  | .ok _ => .ok true
  | .error (.failure _) => .ok false
  | .error fault => .error fault

/-- The log of a query before its read: the provider's last answer is too old. -/
def staleNotes (k : Keeper) (s : Situation) : List Event :=
  if k.Expired s.status s.world.clock ∧ s.status.checkedAt.isSome then
    [.logged ⟨.info, .words "Cached failover state was too old, rechecking"⟩]
  else []

/-- The log of a query after its read: a failure was turned into a no. -/
def doubtNotes (k : Keeper) : Except Fault FailoverRecord → List Event
  | .error (.failure f) =>
      [.logged ⟨.warning, .words ("Could not verify ownership of " ++ k.client.address.text
        ++ " via " ++ k.client.endpoint ++ ": " ++ f.message)⟩]
  | _ => []

/-- The log of a claim that failed. -/
def refusalNotes (k : Keeper) : Failure → List Event
  | .ownershipMismatch expected actual =>
      [.logged ⟨.warning, .words
        ("The failover command was issued, but the current failover destination (" ++ actual
          ++ ") is different from what it should be (" ++ expected ++ ").")⟩]
  | f =>
      [.logged ⟨.error, .words ("Error while configuring failover IP " ++ k.client.address.text
        ++ ": " ++ f.message)⟩,
        .logged ⟨.debug, .trace f⟩]

/-- The log of a configuration after its write. -/
def grantNotes (k : Keeper) : Except Fault FailoverRecord → List Event
  | .ok _ =>
      [.logged ⟨.info, .words ("Failover of " ++ k.client.address.text
        ++ " was successfully executed!")⟩]
  | .error (.failure f) => k.refusalNotes f
  | .error _ => []

@[simp] theorem contacts_staleNotes
    (k : Keeper)
    (s : Situation) :
    Event.contacts (k.staleNotes s) = [] := by
  unfold staleNotes
  split <;> rfl

@[simp] theorem contacts_doubtNotes
    (k : Keeper)
    (result : Except Fault FailoverRecord) :
    Event.contacts (k.doubtNotes result) = [] := by
  unfold doubtNotes
  split <;> rfl

@[simp] theorem contacts_grantNotes
    (k : Keeper)
    (result : Except Fault FailoverRecord) :
    Event.contacts (k.grantNotes result) = [] := by
  unfold grantNotes refusalNotes
  split
  · rfl
  · split <;> rfl
  · rfl

/-- A query that is answered from the cache does nothing but answer. -/
theorem query_of_cached
    {k : Keeper}
    {s : Situation}
    (h : k.AnswersFromCache s) :
    k.query.run s = ⟨.ok (decide (s.status.belief = .configured)), s, []⟩ := by
  obtain ⟨hfresh, hbelief⟩ := h
  rw [query, Action.run_bind, Action.run_get]
  simp only [if_neg hfresh]
  cases hcase : s.status.belief with
  | unknown =>
      exact absurd hcase hbelief
  | configured =>
      simp
  | released =>
      simp

/-- Asking the provider is a read of which yes or no is told. -/
theorem recheck_eq
    (k : Keeper)
    (s : Situation) :
    k.recheck.run s =
      ⟨decision (k.refresh.run s), (k.refresh.run s).state,
        (k.refresh.run s).events ++ k.doubtNotes (k.refresh.run s).result⟩ := by
  rw [recheck, Action.run_recover, Action.run_bind]
  rcases k.refresh.run s with ⟨result, s', events⟩
  cases result with
  | ok record =>
      simp [decision, doubtNotes, Action.run_map, Except.map]
  | error fault =>
      cases fault <;> simp [decision, doubtNotes, Action.run_map, Except.map]

/-- A query that is not answered from the cache is a read without a belief. -/
theorem query_of_uncached
    {k : Keeper}
    {s : Situation}
    (h : ¬k.AnswersFromCache s) :
    k.query.run s =
      let o := k.refresh.run (s.believing .unknown)
      ⟨decision o, o.state, k.staleNotes s ++ (o.events ++ k.doubtNotes o.result)⟩ := by
  rw [query, Action.run_bind, Action.run_get]
  by_cases hexpired : k.Expired s.status s.world.clock
  · by_cases hchecked : s.status.checkedAt.isSome = true
    · simp [hexpired, hchecked, staleNotes, Action.run_bind, recheck_eq]
    · simp [hexpired, hchecked, staleNotes, Action.run_bind, recheck_eq]
  · -- nothing is believed, and to forget it changes nothing
    have hbelief : s.status.belief = .unknown :=
      Decidable.of_not_not fun hbelief => h ⟨hexpired, hbelief⟩
    have hsame : s.believing .unknown = s := by
      rw [Situation.believing, ← hbelief]
    simp [hexpired, hbelief, hsame, staleNotes, recheck_eq]

/-- A configuration is a write of which yes or no is told. -/
theorem configure_eq
    (k : Keeper)
    (s : Situation) :
    k.configure.run s =
      ⟨grant (k.claim.run s).result, (k.claim.run s).state,
        (k.claim.run s).events ++ k.grantNotes (k.claim.run s).result⟩ := by
  rw [configure, Action.run_recover, Action.run_bind]
  rcases k.claim.run s with ⟨result, s', events⟩
  cases result with
  | ok record =>
      simp [grant, grantNotes, Action.run_map, Except.map]
  | error fault =>
      cases fault with
      | failure f =>
          cases f <;>
            simp [grant, grantNotes, refusalNotes, logRefusal, Action.run_bind,
              Action.run_map, Except.map]
      | _ =>
          simp [grant, grantNotes]

end Keeper

end FloatingAddress
