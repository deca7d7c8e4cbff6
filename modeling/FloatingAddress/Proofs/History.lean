import FloatingAddress.Proofs.Operations

/-!
# The history of a session

What has happened in a session up to a situation, as the list of its reports. A history
grows at its end, one report for each operation, while the clock may move in between; what
every operation preserves therefore holds along every session, by induction on histories.

* `Keeper.History`: the histories that lead from one situation to another;
* `Keeper.run_history`: every session has its history;
* `Keeper.History.before`: any report of a history was made after the reports before it;
* `Keeper.lastDecisive?`, `Keeper.lastAnswered?`: the reports that the belief and the time
  of the last answer come from.
-/

namespace FloatingAddress

open Provider

/-- The situation of a keeper that has not done anything yet. -/
def Situation.fresh (w : World) : Situation :=
  ⟨{}, w⟩

namespace Keeper

/-- The report of an operation in a situation. -/
def report (k : Keeper) (operation : Operation) (s : Situation) : Report :=
  ⟨operation, s, (k.perform operation).run s⟩

@[simp] theorem before_report
    (k : Keeper)
    (operation : Operation)
    (s : Situation) :
    (k.report operation s).before = s :=
  rfl

/-- A session that begins with an operation. -/
theorem run_perform
    (k : Keeper)
    (s : Situation)
    (operation : Operation)
    (steps : List SessionStep) :
    (k.run s (.perform operation :: steps)).1 =
      k.report operation s :: (k.run (k.report operation s).outcome.state steps).1 :=
  rfl

/-- A session goes on where it was. -/
theorem run_append
    (k : Keeper)
    (s : Situation)
    (steps more : List SessionStep) :
    (k.run s (steps ++ more)).1 =
      (k.run s steps).1 ++ (k.run (k.run s steps).2 more).1 := by
  induction steps generalizing s with
  | nil =>
      rfl
  | cons step steps ih =>
      simp [run, ih]

/-- The reports that lead from one situation to another, in order. -/
inductive History (k : Keeper) (s : Situation) : List Report → Situation → Prop
  | start :
      History k s [] s
  | perform {reports : List Report} {s' : Situation}
      (h : History k s reports s')
      (operation : Operation) :
      History k s (reports ++ [k.report operation s']) (k.report operation s').outcome.state
  | clock {reports : List Report} {s' : Situation}
      (h : History k s reports s')
      (time : Float) :
      History k s reports (s'.withClock time)

/-- A run continues the history that it starts from. -/
theorem History.run
    {k : Keeper}
    {s s' : Situation}
    {reports : List Report}
    (h : k.History s reports s')
    (steps : List SessionStep) :
    k.History s (reports ++ (k.run s' steps).1) (k.run s' steps).2 := by
  induction steps generalizing reports s' with
  | nil =>
      simpa [Keeper.run] using h
  | cons step steps ih =>
      cases step with
      | perform operation =>
          simpa [Keeper.run, follow, report] using ih (h.perform operation)
      | advance seconds =>
          simpa [Keeper.run, follow] using ih (h.clock (s'.world.clock + seconds))
      | setClock time =>
          simpa [Keeper.run, follow] using ih (h.clock time)

/-- Every session has its history. -/
theorem run_history
    (k : Keeper)
    (s : Situation)
    (steps : List SessionStep) :
    k.History s (k.run s steps).1 (k.run s steps).2 := by
  simpa using History.start.run (k := k) (s := s) steps

/-- A report of a history tells of an operation in a situation that the reports before it
led to. -/
theorem History.before
    {k : Keeper}
    {s s' : Situation}
    {reports older newer : List Report}
    {r : Report}
    (h : k.History s reports s')
    (hreports : reports = older ++ r :: newer) :
    k.History s older r.before ∧ r = k.report r.operation r.before := by
  induction h generalizing newer with
  | start =>
      simp at hreports
  | clock h time ih =>
      exact ih hreports
  | @perform reports s' h operation ih =>
      -- the report is the one that has just been added, or an older one
      rcases List.eq_nil_or_concat newer with rfl | ⟨rest, last, rfl⟩
      · obtain ⟨rfl, hr⟩ := List.append_inj' hreports rfl
        obtain rfl := List.singleton_inj.mp hr
        exact ⟨h, rfl⟩
      · rw [List.concat_eq_append, ← List.cons_append, ← List.append_assoc] at hreports
        exact ih (List.append_inj' hreports rfl).1

theorem report_of_mem_run
    {k : Keeper}
    {s : Situation}
    {steps : List SessionStep}
    {r : Report}
    (h : r ∈ (k.run s steps).1) :
    r = k.report r.operation r.before := by
  obtain ⟨older, newer, hreports⟩ := List.append_of_mem h
  exact ((k.run_history s steps).before hreports).2

end Keeper

/-! ## What a trace tells of the routing -/

namespace Event

/-- The failover records that the answers of a trace hold. -/
def records (events : List Event) : List FailoverRecord :=
  (answers events).filterMap fun answer =>
    match Reply.decode answer.1 with
    | .ok (.failover record) => some record
    | _ => none

/-- The addresses that the look-ups of a trace found. -/
def found (events : List Event) : List Address :=
  (lookups events).filterMap fun
    | .ok own => some own
    | .error _ => none

/-- An answer names the address that was looked up. -/
def Confirms (events : List Event) : Prop :=
  ∃ record ∈ records events, ∃ own ∈ found events, record.activeServerIp = own

/-- An answer names another address than the one that was looked up. -/
def Refutes (events : List Event) : Prop :=
  ∃ record ∈ records events, ∃ own ∈ found events, record.activeServerIp ≠ own

end Event

namespace Report

/-- The answers that the operation got and handed on. -/
def answers (r : Report) : List (Text × Float) :=
  Event.answers r.outcome.events

/-- The provider's answer names the address that was looked up in the same operation. -/
def Confirms (r : Report) : Prop :=
  Event.Confirms r.outcome.events

/-- The provider's answer names another address than the one that was looked up in the same
operation. -/
def Refutes (r : Report) : Prop :=
  Event.Refutes r.outcome.events

/-- The operation asked the provider, whose answer names the address looked up in it. -/
def ShowsConfigured (r : Report) : Prop :=
  r.operation ∈ [.query, .refresh, .claim, .configure] ∧ r.Confirms

/-- The operation gave the address up, or it read an answer that names another address
than the one looked up in it. -/
def ShowsReleased (r : Report) : Prop :=
  r.operation = .deconfigure ∨ r.operation ∈ [.query, .refresh] ∧ r.Refutes

end Report

namespace Keeper

/-- An operation decides what is believed after it: giving the address up; a query that is
not answered from the cache; a typed operation or a configuration that ends as expected. -/
def Decisive (k : Keeper) (r : Report) : Prop :=
  match r.operation with
  | .deconfigure => True
  | .query => ¬k.AnswersFromCache r.before
  | .refresh | .claim | .configure => r.outcome.EndsAsExpected
  | .cleanup | .status => False

instance (k : Keeper) : DecidablePred k.Decisive := by
  intro r
  unfold Decisive
  split <;> infer_instance

/-- The last decisive operation. -/
def lastDecisive? (k : Keeper) (reports : List Report) : Option Report :=
  (reports.filter fun r => decide (k.Decisive r)).getLast?

theorem lastDecisive?_concat_of_decisive
    {k : Keeper}
    {r : Report}
    (h : k.Decisive r)
    (reports : List Report) :
    k.lastDecisive? (reports ++ [r]) = some r := by
  simp [lastDecisive?, h]

theorem lastDecisive?_concat_of_not_decisive
    {k : Keeper}
    {r : Report}
    (h : ¬k.Decisive r)
    (reports : List Report) :
    k.lastDecisive? (reports ++ [r]) = k.lastDecisive? reports := by
  simp [lastDecisive?, h]

/-- The last operation that got an answer and handed it on. -/
def lastAnswered? (reports : List Report) : Option Report :=
  (reports.filter fun r => !r.answers.isEmpty).getLast?

theorem lastAnswered?_concat_of_answered
    {r : Report}
    (h : r.answers ≠ [])
    (reports : List Report) :
    lastAnswered? (reports ++ [r]) = some r := by
  simp [lastAnswered?, h]

theorem lastAnswered?_concat_of_not_answered
    {r : Report}
    (h : r.answers = [])
    (reports : List Report) :
    lastAnswered? (reports ++ [r]) = lastAnswered? reports := by
  simp [lastAnswered?, h]

end Keeper

end FloatingAddress
