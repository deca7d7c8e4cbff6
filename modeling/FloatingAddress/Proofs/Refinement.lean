import FloatingAddress.Proofs.Surroundings

/-!
# The leader's operations refine the typed ones

A query that the cache answers does nothing. Any other query is a read that begins without a
belief, and a configuration is a write: each leaves what the typed operation leaves, makes
its contacts and logs something around it. Yes and no are told of its result alone, and what
is no failure passes through.

* `Keeper.answersFromCache_iff`: when the cache answers;
* `Keeper.Tells`: a leader's operation beside a typed one;
* `Keeper.decision_tells`, `Keeper.grant_tells`: what is told of a read and of a write;
* `Keeper.leader_tells`: the leader's operations, in every situation.
-/

namespace FloatingAddress

open Provider

namespace Keeper

/-- The cache answers exactly if an answer of the provider is still trusted and something is
believed. -/
theorem answersFromCache_iff
    (k : Keeper)
    (s : Situation) :
    k.AnswersFromCache s ↔
      ∃ t, s.status.checkedAt = some t ∧
        ¬k.ttl.IsReachedBy (s.world.clock - t) ∧
        s.status.belief ≠ .unknown := by
  obtain ⟨⟨belief, checkedAt⟩, w⟩ := s
  cases checkedAt with
  | none =>
      simp [AnswersFromCache, Expired]
  | some t =>
      simp [AnswersFromCache, Expired]

/-- A leader's operation beside a typed one. It leaves the same situation, makes the same
contacts and traces what the typed operation traces, with entries of the log before and
after it. Its answers are yes and no under conditions on the typed operation; a fault that
is no failure ends both. -/
structure Tells
    (yes no : Prop)
    (before after : List Event)
    (typed : Outcome Situation FailoverRecord)
    (told : Outcome Situation Bool) : Prop where
  state : told.state = typed.state
  events : told.events = before ++ typed.events ++ after
  contacts : Event.contacts told.events = Event.contacts typed.events
  yes_iff : told.result = .ok true ↔ yes
  no_iff : told.result = .ok false ↔ no
  fault_iff : ∀ fault,
    told.result = .error fault ↔ typed.result = .error fault ∧ ¬fault.IsFailure

/-- A read that succeeds knows where the address is routed. -/
theorem RefreshCourse.belief_of_ok
    {k : Keeper}
    {s : Situation}
    {o : Outcome Situation FailoverRecord}
    {record : FailoverRecord}
    (h : RefreshCourse k s o)
    (hok : o.result = .ok record) :
    o.state.status.belief = .configured ∨ o.state.status.belief = .released := by
  cases h with
  | unsent hrequest hresult hstate hcontacts =>
      rw [hok] at hresult
      cases hresult
  | refused hrequest hverdict hresult hstate hcontacts =>
      rw [hok] at hresult
      cases hresult
  | undecoded hrequest hbody hrecord hresult hstate hcontacts =>
      rw [hok] at hresult
      cases hresult
  | unidentified hrequest hbody hrecord hidentity hresult hstate hcontacts =>
      rw [hok] at hresult
      cases hresult
  | compared hrequest hbody hrecord hidentity hresult hstate hcontacts =>
      rw [hstate, Situation.belief_believing]
      split
      · exact .inl rfl
      · exact .inr rfl

/-- What a query tells of a read: yes if the read found the address routed to this node, no
if it found the address routed elsewhere or ended by a failure. -/
theorem decision_tells
    {k : Keeper}
    {s : Situation}
    {o : Outcome Situation FailoverRecord}
    (h : RefreshCourse k s o)
    {before : List Event}
    (hbefore : Event.contacts before = []) :
    Tells
      ((∃ record, o.result = .ok record) ∧ o.state.status.belief = .configured)
      ((∃ record, o.result = .ok record) ∧ o.state.status.belief = .released ∨
        ∃ f, o.result = .error (.failure f))
      before (k.doubtNotes o.result) o
      ⟨decision o, o.state, before ++ o.events ++ k.doubtNotes o.result⟩ := by
  have hbelief : ∀ record, o.result = .ok record →
      o.state.status.belief = .configured ∨ o.state.status.belief = .released :=
    fun _ => h.belief_of_ok
  refine ⟨rfl, rfl, by simp [hbefore], ?_, ?_, ?_⟩
  all_goals
    cases hresult : o.result with
    | ok record =>
        rcases hbelief record hresult with hcase | hcase <;>
          simp [decision, hresult, hcase]
    | error fault =>
        cases fault <;> simp [decision, hresult, Fault.IsFailure]

/-- What a configuration tells of a write: yes if the write succeeds, no if it ends by a
failure. -/
theorem grant_tells
    (k : Keeper)
    (o : Outcome Situation FailoverRecord) :
    Tells
      (∃ record, o.result = .ok record)
      (∃ f, o.result = .error (.failure f))
      [] (k.grantNotes o.result) o
      ⟨grant o.result, o.state, o.events ++ k.grantNotes o.result⟩ := by
  refine ⟨rfl, rfl, by simp, ?_, ?_, ?_⟩
  all_goals
    cases hresult : o.result with
    | ok record =>
        simp [grant]
    | error fault =>
        cases fault <;> simp [grant, Fault.IsFailure]

/-- The leader's operations in any situation. As long as the provider's last answer is
trusted, a belief is the answer of a query, which does nothing else. Otherwise a query tells
of a read that begins without a belief: it logs first whether an answer was too old, and
last a failure that it turned into a no. A configuration always tells of a write. -/
theorem leader_tells
    (k : Keeper)
    (s : Situation) :
    let cached := ∃ t, s.status.checkedAt = some t ∧
      ¬k.ttl.IsReachedBy (s.world.clock - t) ∧ s.status.belief ≠ .unknown
    let read := k.refresh.run (s.believing .unknown)
    let write := k.claim.run s
    (cached → k.query.run s = ⟨.ok (decide (s.status.belief = .configured)), s, []⟩) ∧
    (¬cached →
      Tells
        ((∃ record, read.result = .ok record) ∧ read.state.status.belief = .configured)
        ((∃ record, read.result = .ok record) ∧ read.state.status.belief = .released ∨
          ∃ f, read.result = .error (.failure f))
        (k.staleNotes s) (k.doubtNotes read.result) read (k.query.run s)) ∧
    Tells
      (∃ record, write.result = .ok record)
      (∃ f, write.result = .error (.failure f))
      [] (k.grantNotes write.result) write (k.configure.run s) := by
  intro cached read write
  have hcached : k.AnswersFromCache s ↔ cached :=
    k.answersFromCache_iff s
  refine ⟨?_, ?_, ?_⟩
  · intro h
    exact query_of_cached (hcached.mpr h)
  · intro h
    rw [query_of_uncached (mt hcached.mp h)]
    simp only [← List.append_assoc]
    exact decision_tells (k.refresh_course _) (k.contacts_staleNotes s)
  · rw [configure_eq]
    exact k.grant_tells write

/-- The sample keeper answers from the cache as soon as it believes something, and reads if
it has not done anything yet. -/
theorem leader_tells_sample :
    let trusted : Situation := ⟨⟨.configured, some 10000⟩, sampleWorld []⟩
    let started : Situation := .fresh (sampleWorld [])
    sample.query.run trusted =
      ⟨.ok (decide (trusted.status.belief = .configured)), trusted, []⟩ ∧
    (sample.query.run started).state =
      (sample.refresh.run (started.believing .unknown)).state := by
  intro trusted started
  have hcached : ∃ t, trusted.status.checkedAt = some t ∧
      ¬sample.ttl.IsReachedBy (trusted.world.clock - t) ∧
      trusted.status.belief ≠ .unknown :=
    ⟨10000, rfl, by decide +kernel, by decide⟩
  have huncached : ¬∃ t, started.status.checkedAt = some t ∧
      ¬sample.ttl.IsReachedBy (started.world.clock - t) ∧
      started.status.belief ≠ .unknown := by
    rintro ⟨t, -, -, hbelief⟩
    exact hbelief rfl
  obtain ⟨hquery, -, -⟩ := leader_tells sample trusted
  obtain ⟨-, hread, -⟩ := leader_tells sample started
  exact ⟨hquery hcached, (hread huncached).state⟩

end Keeper

end FloatingAddress
