import FloatingAddress.Proofs.Addresses
import FloatingAddress.Proofs.Course

/-!
# What a probe comes to

A probe makes the steps of its plan up to the first that fails, and closes the socket that it
has opened. The local name of a socket that works is the own address if it is the written form
of an address of version 4 other than `0.0.0.0`. A refusal by the operating system and any
other local name mean that there is no route; all other troubles stay what they are.

* `SocketBehaviour.troubleAt?`: the trouble that a step meets;
* `SocketBehaviour.use`: a plan carried out with a socket that is closed at the end;
* `SocketBehaviour.Tidy`, `SocketBehaviour.tidy_use`: how such a socket is treated, whatever
  the plan;
* `Probe.steps_run`: the steps of a probe;
* `Probe.run_course`: the ways in which it ends;
* `Probe.run_eq_ok_iff`, `Probe.run_eq_error_iff`: its result;
* `Probe.account_run`: all of it.
-/

namespace FloatingAddress

/-! ## Plans for a socket -/

namespace SocketBehaviour

/-- The trouble that a step of a socket meets. -/
def troubleAt? : SocketBehaviour → SocketStep → Option SocketTrouble
  | failsToOpen trouble, .opening
  | failsToLimit trouble, .limiting _
  | failsToConnect trouble, .connecting _ _
  | failsToName trouble, .naming => some trouble
  | _, _ => none

/-- The steps of a plan up to the first that fails. -/
def attempt (b : SocketBehaviour) : List SocketStep → List SocketStep
  | [] => []
  | step :: plan => if (b.troubleAt? step).isSome then [step] else step :: b.attempt plan

/-- A socket that was opened is closed. -/
def release (b : SocketBehaviour) : List SocketStep :=
  if (b.troubleAt? .opening).isSome then [] else [.closing]

/-- The steps of a plan as far as they succeed, and the closing of the socket. -/
def use (b : SocketBehaviour) (plan : List SocketStep) : List SocketStep :=
  b.attempt plan ++ b.release

/-- How a socket is treated. -/
structure Tidy (b : SocketBehaviour) (steps : List SocketStep) : Prop where
  /-- A socket that was opened is closed once, after its last use. -/
  closed (hopened : b.troubleAt? .opening = none) :
    ∃ uses, steps = uses ++ [.closing] ∧ .closing ∉ uses
  /-- A socket that could not be opened is not closed. -/
  unopened (hfailed : b.troubleAt? .opening ≠ none) :
    .closing ∉ steps
  /-- After a step that failed the socket is closed at most. -/
  stopped {before after : List SocketStep} {step : SocketStep}
      (hsteps : steps = before ++ step :: after)
      (hfailed : b.troubleAt? step ≠ none) :
    after = [] ∨ after = [.closing]
  /-- Nothing is sent. -/
  unsent (octets : List UInt8) :
    .sending octets ∉ steps

variable {b : SocketBehaviour} {plan : List SocketStep}

theorem attempt_subset
    (b : SocketBehaviour)
    (plan : List SocketStep) :
    b.attempt plan ⊆ plan := by
  induction plan with
  | nil =>
      exact List.nil_subset _
  | cons step plan ih =>
      rw [attempt]
      split
      · exact List.cons_subset_cons step (List.nil_subset _)
      · exact List.cons_subset_cons step ih

/-- A step that fails is the last one. -/
theorem attempt_stops
    {before after : List SocketStep}
    {step : SocketStep}
    (hsteps : b.attempt plan = before ++ step :: after)
    (hfailed : b.troubleAt? step ≠ none) :
    after = [] := by
  rw [← Option.isSome_iff_ne_none] at hfailed
  induction plan generalizing before with
  | nil =>
      simp [attempt] at hsteps
  | cons first plan ih =>
      rw [attempt] at hsteps
      by_cases hfirst : (b.troubleAt? first).isSome
      · -- the attempt ends with the first step, so it is the one that failed
        rw [if_pos hfirst] at hsteps
        rcases before with _ | ⟨first', before⟩
        · exact (List.cons.inj hsteps).2.symm
        · simp at hsteps
      · rw [if_neg hfirst] at hsteps
        rcases before with _ | ⟨first', before⟩
        · obtain ⟨rfl, -⟩ := List.cons.inj hsteps
          exact absurd hfailed hfirst
        · exact ih (List.cons.inj hsteps).2

theorem eq_closing_of_mem_release
    {step : SocketStep}
    (h : step ∈ b.release) :
    step = .closing := by
  unfold release at h
  split at h
  · cases h
  · exact List.mem_singleton.mp h

/-- Whatever the plan, a socket is closed exactly if it was opened, and not used any more
after a step that failed. -/
theorem tidy_use
    (hclosing : .closing ∉ plan)
    (hsending : ∀ octets, .sending octets ∉ plan) :
    b.Tidy (b.use plan) where
  closed hopened := by
    refine ⟨b.attempt plan, ?_, fun h => hclosing (attempt_subset b plan h)⟩
    simp [use, release, hopened]
  unopened hfailed := by
    have hnothing : b.release = [] := by
      rw [release, if_pos (Option.isSome_iff_ne_none.mpr hfailed)]
    rw [use, hnothing, List.append_nil]
    exact fun h => hclosing (attempt_subset b plan h)
  stopped := by
    intro before after step hsteps hfailed
    -- closing itself never fails, so the step is one of the plan
    have hplanned : ¬step ∈ b.release := by
      intro hmem
      obtain rfl := eq_closing_of_mem_release hmem
      exact hfailed (by cases b <;> rfl)
    rcases List.append_eq_append_iff.mp hsteps with ⟨rest, -, hrelease⟩ | ⟨rest, hattempt, hrest⟩
    · exact absurd (by simp [hrelease]) hplanned
    · rcases rest with _ | ⟨step', rest⟩
      · rw [List.nil_append] at hrest
        exact absurd (by simp [← hrest]) hplanned
      · rw [List.cons_append, List.cons.injEq] at hrest
        obtain ⟨rfl, rfl⟩ := hrest
        rw [attempt_stops hattempt hfailed, List.nil_append, release]
        split
        · exact .inl rfl
        · exact .inr rfl
  unsent octets := by
    intro hmem
    rcases List.mem_append.mp hmem with hmem | hmem
    · exact hsending octets (attempt_subset b plan hmem)
    · cases eq_closing_of_mem_release hmem

/-- A socket that meets no trouble reports a name. -/
theorem trouble_or_reports
    (b : SocketBehaviour) :
    (∃ step trouble, b.troubleAt? step = some trouble) ∨ ∃ name, b = .reports name := by
  cases b with
  | failsToOpen trouble =>
      exact .inl ⟨.opening, trouble, rfl⟩
  | failsToLimit trouble =>
      exact .inl ⟨.limiting (.whole 0), trouble, rfl⟩
  | failsToConnect trouble =>
      exact .inl ⟨.connecting [] 0, trouble, rfl⟩
  | failsToName trouble =>
      exact .inl ⟨.naming, trouble, rfl⟩
  | reports name =>
      exact .inr ⟨name, rfl⟩

/-- Why there is no route, in words. -/
inductive ShowsNoRoute : SocketBehaviour → Text → Prop
  /-- The operating system refuses a step. -/
  | refused {b : SocketBehaviour} {step : SocketStep} {message : Text}
      (hrefused : b.troubleAt? step = some (.system message)) :
      ShowsNoRoute b message
  /-- The local name is no address of version 4. -/
  | unexpected {name : Text}
      (hname : ∀ a : V4, name ≠ a.text) :
      ShowsNoRoute (.reports name) ("unexpected local address " ++ name.quoted)
  /-- The local name is the address that names no host. -/
  | unspecified :
      ShowsNoRoute (.reports "0.0.0.0") "routing table selected no source address"

/-- An address of version 6 is no address of version 4. -/
theorem showsNoRoute_of_v6
    {name : Text}
    {a : V6}
    (h : V6.read? name = some a) :
    ShowsNoRoute (.reports name) ("unexpected local address " ++ name.quoted) := by
  refine .unexpected fun a' hname => ?_
  have hfour : V4.read? name = none := V4.read?_eq_none (V6.colon_mem_of_read? h)
  rw [V4.read?_eq_some_iff.mpr hname] at hfour
  cases hfour

end SocketBehaviour

theorem V4.text_zero :
    (V4.ofNat 0).text = "0.0.0.0" := by
  decide +kernel

/-- The address that names no host is written `0.0.0.0`. -/
theorem V4.isUnspecified_iff
    {a : V4} :
    a.IsUnspecified ↔ a.text = "0.0.0.0" := by
  rw [eq_comm, ← V4.read?_eq_some_iff, ← text_zero, read?_text, Option.some.injEq]
  constructor
  · intro h
    have hoctets : a.octets = (V4.ofNat 0).octets :=
      List.eq_replicate_iff.mpr ⟨a.length_eq, h⟩
    cases a
    cases hoctets
    rfl
  · rintro rfl
    decide +kernel

/-! ## Probes -/

namespace Probe

variable {p : Probe} {b : SocketBehaviour}

/-- What a probe does with a socket. -/
def plan (p : Probe) : List SocketStep :=
  [.opening, .limiting p.timeout, .connecting p.host p.port, .naming]

/-- The fault that a trouble becomes. -/
def faultOf (p : Probe) : SocketTrouble → Fault
  | .system message => p.noRoute message
  | .other fault => fault

theorem steps_fail
    (p : Probe)
    (steps : List SocketStep)
    (trouble : SocketTrouble) :
    (p.fail steps trouble).steps = steps := by
  cases trouble <;> rfl

theorem result_fail
    (p : Probe)
    (steps : List SocketStep)
    (trouble : SocketTrouble) :
    (p.fail steps trouble).result = .error (p.faultOf trouble) := by
  cases trouble <;> rfl

/-- A probe carries its plan out with a socket that is closed at the end. -/
theorem steps_run
    (p : Probe)
    (b : SocketBehaviour) :
    (p.run b).steps = b.use p.plan := by
  cases b with
  | failsToOpen trouble | failsToLimit trouble | failsToConnect trouble | failsToName trouble =>
      exact p.steps_fail _ trouble
  | reports name =>
      rfl

theorem tidy_run
    (p : Probe)
    (b : SocketBehaviour) :
    b.Tidy (p.run b).steps := by
  rw [p.steps_run b]
  exact SocketBehaviour.tidy_use (by simp [plan]) (by simp [plan])

/-- A trouble ends a probe, whichever step meets it. -/
theorem result_of_trouble
    {step : SocketStep}
    {trouble : SocketTrouble}
    (h : b.troubleAt? step = some trouble) :
    (p.run b).result = .error (p.faultOf trouble) := by
  unfold SocketBehaviour.troubleAt? at h
  split at h
  · cases h
    exact p.result_fail _ _
  · cases h
    exact p.result_fail _ _
  · cases h
    exact p.result_fail _ _
  · cases h
    exact p.result_fail _ _
  · cases h

theorem result_reports
    (p : Probe)
    (name : Text) :
    (p.run (.reports name)).result = p.readName name :=
  rfl

theorem readName_of_unexpected
    {name : Text}
    (h : ∀ a : V4, name ≠ a.text) :
    p.readName name = .error (p.noRoute ("unexpected local address " ++ name.quoted)) := by
  have hread : V4.read? name = none := by
    rw [Option.eq_none_iff_forall_ne_some]
    exact fun a ha => h a (V4.read?_eq_some_iff.mp ha)
  rw [readName, hread]

theorem readName_text
    (p : Probe)
    (a : V4) :
    p.readName a.text =
      if a.text = "0.0.0.0" then .error (p.noRoute "routing table selected no source address")
      else .ok a := by
  rw [readName, a.read?_text]
  simp only [V4.isUnspecified_iff]

/-- A probe finds the address that is its local name, or there is no route, or a step meets
another fault. -/
theorem run_course
    (p : Probe)
    (b : SocketBehaviour) :
    (∃ a : V4,
      b = .reports a.text ∧ a.text ≠ "0.0.0.0" ∧ (p.run b).result = .ok a) ∨
    (∃ reason,
      b.ShowsNoRoute reason ∧ (p.run b).result = .error (p.noRoute reason)) ∨
    (∃ step fault,
      b.troubleAt? step = some (.other fault) ∧ (p.run b).result = .error fault) := by
  rcases b.trouble_or_reports with ⟨step, trouble, htrouble⟩ | ⟨name, rfl⟩
  · have hresult := result_of_trouble (p := p) htrouble
    cases trouble with
    | system message =>
        exact .inr (.inl ⟨message, .refused htrouble, hresult⟩)
    | other fault =>
        exact .inr (.inr ⟨step, fault, htrouble, hresult⟩)
  · rw [result_reports]
    by_cases hname : ∃ a : V4, name = a.text
    · obtain ⟨a, rfl⟩ := hname
      rw [readName_text]
      by_cases hunspecified : a.text = "0.0.0.0"
      · rw [if_pos hunspecified, hunspecified]
        exact .inr (.inl ⟨_, .unspecified, rfl⟩)
      · rw [if_neg hunspecified]
        exact .inl ⟨a, rfl, hunspecified, rfl⟩
    · have hunexpected : ∀ a : V4, name ≠ a.text := not_exists.mp hname
      rw [readName_of_unexpected hunexpected]
      exact .inr (.inl ⟨_, .unexpected hunexpected, rfl⟩)

/-- A probe finds an address exactly if all steps succeed and the local name is the written
form of that address, other than `0.0.0.0`. -/
theorem run_eq_ok_iff
    {a : V4} :
    (p.run b).result = .ok a ↔ b = .reports a.text ∧ a.text ≠ "0.0.0.0" := by
  constructor
  · intro h
    rcases p.run_course b with ⟨a', hreports, hspecified, hresult⟩ | ⟨_, _, hresult⟩ |
      ⟨_, _, _, hresult⟩
    · rw [h] at hresult
      cases hresult
      exact ⟨hreports, hspecified⟩
    · rw [h] at hresult
      cases hresult
    · rw [h] at hresult
      cases hresult
  · rintro ⟨rfl, hspecified⟩
    rw [result_reports, readName_text, if_neg hspecified]

/-- A probe ends by a fault exactly if there is no route, or a step meets that very fault. -/
theorem run_eq_error_iff
    {fault : Fault} :
    (p.run b).result = .error fault ↔
      (∃ reason, b.ShowsNoRoute reason ∧ fault = p.noRoute reason) ∨
      ∃ step, b.troubleAt? step = some (.other fault) := by
  constructor
  · intro h
    rcases p.run_course b with ⟨a, -, -, hresult⟩ | ⟨reason, hreason, hresult⟩ |
      ⟨step, fault', htrouble, hresult⟩
    · rw [h] at hresult
      cases hresult
    · rw [h] at hresult
      cases hresult
      exact .inl ⟨reason, hreason, rfl⟩
    · rw [h] at hresult
      cases hresult
      exact .inr ⟨step, htrouble⟩
  · rintro (⟨reason, hreason, rfl⟩ | ⟨step, htrouble⟩)
    · cases hreason with
      | refused htrouble =>
          exact result_of_trouble htrouble
      | unexpected hname =>
          exact readName_of_unexpected hname
      | unspecified =>
          rw [result_reports, ← V4.text_zero, readName_text, if_pos V4.text_zero]
    · exact result_of_trouble htrouble

/-- What a probe comes to with a socket. -/
structure Account (p : Probe) (b : SocketBehaviour) (run : ProbeRun) : Prop where
  /-- An address is found exactly if all steps succeed and the local name is the written form
  of that address, other than `0.0.0.0`. -/
  found (a : V4) :
    run.result = .ok a ↔ b = .reports a.text ∧ a.text ≠ "0.0.0.0"
  /-- There is no route towards the host and port of the probe exactly if the socket shows so;
  no socket meets such a failure of its own. -/
  lost (hforeign : ∀ step fault, b.troubleAt? step = some (.other fault) → ¬fault.IsFailure)
      (probe reason : Text) :
    run.result = .error (.failure (.noRoute probe reason)) ↔
      probe = p.host ++ ":" ++ Numeral.ofInt p.port ∧ b.ShowsNoRoute reason
  /-- An address of version 6 shows no route. -/
  otherVersion {name : Text} {a : V6} (hreports : b = .reports name)
      (hname : V6.read? name = some a) :
    b.ShowsNoRoute ("unexpected local address " ++ name.quoted)
  /-- Any other fault is one that a step has met. -/
  passed (fault : Fault) (hother : ∀ reason, fault ≠ p.noRoute reason) :
    run.result = .error fault ↔ ∃ step, b.troubleAt? step = some (.other fault)
  /-- The steps are those of the plan, up to the first that fails, and the closing. -/
  steps :
    run.steps =
      b.use [.opening, .limiting p.timeout, .connecting p.host p.port, .naming]
  /-- The socket is left closed, and nothing is sent with it. -/
  tidy :
    b.Tidy run.steps

/-- Every probe comes to what its socket does. -/
theorem account_run
    (p : Probe)
    (b : SocketBehaviour) :
    p.Account b (p.run b) where
  found _ := run_eq_ok_iff
  lost hforeign probe reason := by
    rw [run_eq_error_iff]
    constructor
    · rintro (⟨_, hreason, heq⟩ | ⟨step, htrouble⟩)
      · cases heq
        exact ⟨rfl, hreason⟩
      · exact absurd trivial (hforeign step _ htrouble)
    · rintro ⟨rfl, hreason⟩
      exact .inl ⟨reason, hreason, rfl⟩
  otherVersion hreports hname := by
    rw [hreports]
    exact SocketBehaviour.showsNoRoute_of_v6 hname
  passed fault hother := by
    rw [run_eq_error_iff]
    refine or_iff_right ?_
    rintro ⟨reason, -, heq⟩
    exact hother reason heq
  steps := p.steps_run b
  tidy := p.tidy_run b

end Probe
end FloatingAddress
