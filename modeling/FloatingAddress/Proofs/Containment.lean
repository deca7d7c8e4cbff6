import FloatingAddress.Proofs.Endpoints
import FloatingAddress.Proofs.Limits
import FloatingAddress.Proofs.Probing
import FloatingAddress.Proofs.Sending
import FloatingAddress.Proofs.Surroundings

/-!
# What the leader's loop is told

An ordinary world has answers and failures of the connection in store for requests, and its
sockets work or are refused by the operating system. There a query or a configuration says yes
or no, unless it asks the provider in vain: no request can be made, the answer in store cannot
be taken, or it exceeds a limit of the reader. Where a socket meets any other trouble, such as
a time limit that it refuses, a configuration says neither.

* `World.IsOrdinary`: what the world has in store;
* `Client.Upset`: the three ways to ask in vain;
* `RefreshCourse.endsAsExpected_iff`, `ClaimCourse.endsAsExpected_iff`: the typed operations;
* `Keeper.perform_decides_iff`: the leader's operations in one situation;
* `Keeper.run_decides_iff`: the leader's operations at every point of a session;
* `Keeper.run_decides`: when they say yes or no throughout;
* `Keeper.undecided_of_trouble`: a configuration outside an ordinary world.
-/

namespace FloatingAddress

open Provider

/-! ## Ordinary worlds -/

/-- An answer, or a failure of the connection. -/
def Ending.IsOrdinary : Ending → Prop
  | answered _ _ | broken _ _ => True
  | raised _ => False

/-- The operating system refuses a step. -/
def SocketTrouble.IsOrdinary : SocketTrouble → Prop
  | system _ => True
  | other _ => False

/-- A socket works, or the operating system refuses a step. -/
def SocketBehaviour.IsOrdinary : SocketBehaviour → Prop
  | failsToOpen trouble | failsToLimit trouble | failsToConnect trouble | failsToName trouble =>
      trouble.IsOrdinary
  | reports _ => True

theorem SocketBehaviour.IsOrdinary.trouble
    {b : SocketBehaviour}
    (h : b.IsOrdinary)
    {step : SocketStep}
    {trouble : SocketTrouble}
    (htrouble : b.troubleAt? step = some trouble) :
    trouble.IsOrdinary := by
  unfold troubleAt? at htrouble
  split at htrouble <;> cases htrouble <;> exact h

/-- An answer within the limits of the reader, or a failure of the connection. -/
def Ending.IsReadable : Ending → Prop
  | answered status body => status < 500 → ¬Json.ExceedsLimit body
  | broken _ _ => True
  | raised _ => False

theorem Ending.IsReadable.isOrdinary
    {ending : Ending}
    (h : ending.IsReadable) :
    ending.IsOrdinary := by
  cases ending with
  | answered status body =>
      trivial
  | broken e message =>
      trivial
  | raised fault =>
      exact h

/-- Nothing out of the ordinary is in store. -/
def World.IsOrdinary (w : World) : Prop :=
  w.Offers Ending.IsOrdinary SocketBehaviour.IsOrdinary

/-- A probe with an ordinary socket finds an address of version 4 or ends by a failure. -/
theorem Probe.run_of_ordinary
    {p : Probe}
    {socket : SocketBehaviour}
    (h : socket.IsOrdinary) :
    (∃ a, (p.run socket).result = .ok a) ∨
    (∃ fault, (p.run socket).result = .error fault ∧ fault.IsFailure) := by
  rcases p.run_course socket with ⟨a, -, -, hfound⟩ | ⟨reason, -, hlost⟩ |
    ⟨step, fault, htrouble, -⟩
  · exact .inl ⟨a, hfound⟩
  · exact .inr ⟨_, hlost, trivial⟩
  · exact (h.trouble htrouble).elim

/-- A keeper with a probe finds an address of version 4 or meets a failure. -/
theorem Keeper.identity_of_probed
    {k : Keeper}
    {p : Probe}
    {s : Situation}
    (hsource : k.source = .probed p)
    (hsocket : s.world.sockets.next.IsOrdinary) :
    (∃ a, k.identity s = .ok (.v4 a)) ∨
    (∃ fault, k.identity s = .error fault ∧ fault.IsFailure) := by
  have hidentity : k.identity s = IdentitySource.found (p.run s.world.sockets.next).result := by
    rw [Keeper.identity, hsource]
    rfl
  rw [hidentity]
  rcases p.run_of_ordinary hsocket with ⟨a, ha⟩ | ⟨fault, hfault, hfailure⟩
  · exact .inl ⟨a, by rw [ha]; rfl⟩
  · exact .inr ⟨fault, by rw [hfault]; rfl, hfailure⟩

/-! ## Asking in vain -/

namespace Client

/-- A call is made in vain, given the ending that is in store for its request. -/
inductive Upset (c : Client) : Ending → Prop
  /-- No request can be made. -/
  | unsendable {fault : Fault} {ending : Ending}
      (hrequest : c.request none = .error fault) :
      Upset c ending
  /-- The URL does not tell where an answer comes from. -/
  | homeless {r : Request} {status : Int} {body : Text}
      (hrequest : c.request none = .ok r)
      (hrelative : ¬r.url.IsAbsolute) :
      Upset c (.answered status body)
  /-- The answer is handed on and exceeds a limit of the reader. -/
  | exceeding {r : Request} {status : Int} {body : Text}
      (hrequest : c.request none = .ok r)
      (hstatus : status < 500)
      (hlimit : Json.ExceedsLimit body) :
      Upset c (.answered status body)

variable {c : Client} {towards : Option Address} {form : Text} {r : Request} {ending : Ending}

theorem upset_of_unsendable
    (hform : formFor towards = .ok form)
    {fault : Fault}
    (h : c.request towards = .error fault) :
    c.Upset ending := by
  rw [request_of_form hform] at h
  cases hread : c.request none with
  | error fault' =>
      exact .unsendable hread
  | ok r =>
      rw [hread] at h
      cases h

/-- How a call of which a request can be made is in vain. -/
theorem upset_iff_of_request
    (hform : formFor towards = .ok form)
    (h : c.request towards = .ok r) :
    c.Upset ending ↔
      ∃ status body, ending = .answered status body ∧
        (¬r.url.IsAbsolute ∨ status < 500 ∧ Json.ExceedsLimit body) := by
  rw [request_of_form hform] at h
  cases hread : c.request none with
  | error fault =>
      rw [hread] at h
      cases h
  | ok r' =>
      rw [hread] at h
      cases h
      constructor
      · intro hupset
        cases hupset with
        | unsendable hrequest =>
            rw [hread] at hrequest
            cases hrequest
        | @homeless _ status body hrequest hrelative =>
            rw [hread] at hrequest
            cases hrequest
            exact ⟨status, body, rfl, .inl hrelative⟩
        | @exceeding _ status body hrequest hstatus hlimit =>
            exact ⟨status, body, rfl, .inr ⟨hstatus, hlimit⟩⟩
      · rintro ⟨status, body, rfl, hrelative | ⟨hstatus, hlimit⟩⟩
        · exact .homeless hread hrelative
        · exact .exceeding hread hstatus hlimit

/-- An answer is handed on if its status is below 500 and the URL tells where it comes
from. -/
theorem handedOn_met_iff
    {body : Text} :
    (r.met ending).handedOn? = some body ↔
      ∃ status, ending = .answered status body ∧ r.url.IsAbsolute ∧ status < 500 := by
  simp only [Ending.handedOn?_eq_some_iff, Request.met_eq_answered_iff]
  constructor
  · rintro ⟨status, ⟨habsolute, hanswer⟩, hstatus⟩
    exact ⟨status, hanswer, habsolute, hstatus⟩
  · rintro ⟨status, hanswer, habsolute, hstatus⟩
    exact ⟨status, ⟨habsolute, hanswer⟩, hstatus⟩

/-- A call is in vain if no answer is handed on and that is no failure. -/
theorem isFailure_iff_of_refused
    (hform : formFor towards = .ok form)
    (h : c.request towards = .ok r)
    (hordinary : ending.IsOrdinary)
    {write : Bool}
    {fault : Fault}
    (hverdict : c.verdict write (r.met ending) = .error fault) :
    fault.IsFailure ↔ ¬c.Upset ending := by
  rw [upset_iff_of_request hform h]
  cases ending with
  | answered status body =>
      by_cases habsolute : r.url.IsAbsolute
      · by_cases hstatus : 500 ≤ status
        · simp only [Request.met, if_pos habsolute, verdict, if_pos hstatus] at hverdict
          cases hverdict
          refine iff_of_true trivial ?_
          rintro ⟨_, _, hanswer, hrelative | ⟨hbelow, -⟩⟩
          · exact hrelative habsolute
          · cases hanswer
            omega
        · simp [Request.met, habsolute, verdict, hstatus] at hverdict
      · -- the answer is given up for a fault that is no failure
        simp only [Request.met, if_neg habsolute, verdict] at hverdict
        cases hverdict
        exact iff_of_false id (not_not_intro ⟨status, body, rfl, .inl habsolute⟩)
  | broken e message =>
      cases hverdict
      refine iff_of_true trivial ?_
      rintro ⟨_, _, hanswer, -⟩
      cases hanswer
  | raised fault =>
      exact hordinary.elim

/-- An answer that is handed on is in vain if it exceeds a limit of the reader. -/
theorem upset_iff_of_handedOn
    (hform : formFor towards = .ok form)
    (h : c.request towards = .ok r)
    {body : Text}
    (hbody : (r.met ending).handedOn? = some body) :
    c.Upset ending ↔ Json.ExceedsLimit body := by
  obtain ⟨status, rfl, habsolute, hstatus⟩ := handedOn_met_iff.mp hbody
  rw [upset_iff_of_request hform h]
  constructor
  · rintro ⟨_, _, hanswer, hrelative | ⟨-, hlimit⟩⟩
    · exact absurd habsolute hrelative
    · cases hanswer
      exact hlimit
  · intro hlimit
    exact ⟨status, body, rfl, .inr ⟨hstatus, hlimit⟩⟩

end Client

theorem Provider.not_exceedsLimit_of_recordIn
    {body : Text}
    {record : FailoverRecord}
    (h : recordIn body = .ok record) :
    ¬Json.ExceedsLimit body := by
  intro hlimit
  obtain ⟨fault, hfault, -⟩ := recordIn_of_exceedsLimit hlimit
  rw [h] at hfault
  cases hfault

namespace Keeper

/-! ## The typed operations -/

theorem RefreshCourse.endsAsExpected_iff
    {k : Keeper}
    {s : Situation}
    {o : Outcome Situation FailoverRecord}
    (h : RefreshCourse k s o)
    {p : Probe}
    (hsource : k.source = .probed p)
    (hordinary : s.world.IsOrdinary) :
    o.EndsAsExpected ↔ ¬k.client.Upset s.world.reactions.next.offer := by
  have hform : Client.formFor none = .ok [] := rfl
  cases h with
  | unsent hrequest hresult hstate hcontacts =>
      rw [Outcome.endsAsExpected_of_error hresult]
      exact
        iff_of_false (Client.not_isFailure_of_request hrequest)
          (not_not_intro (Client.upset_of_unsendable hform hrequest))
  | refused hrequest hverdict hresult hstate hcontacts =>
      rw [Outcome.endsAsExpected_of_error hresult]
      exact Client.isFailure_iff_of_refused hform hrequest hordinary.reactions.1 hverdict
  | undecoded hrequest hbody hrecord hresult hstate hcontacts =>
      rw [Outcome.endsAsExpected_of_error hresult,
        Client.upset_iff_of_handedOn hform hrequest hbody]
      exact recordIn_isFailure_iff hrecord
  | unidentified hrequest hbody hrecord hidentity hresult hstate hcontacts =>
      rw [Outcome.endsAsExpected_of_error hresult,
        Client.upset_iff_of_handedOn hform hrequest hbody]
      refine iff_of_true ?_ (not_exceedsLimit_of_recordIn hrecord)
      rcases identity_of_probed (s := s.answered) hsource hordinary.sockets.1 with
        ⟨a, ha⟩ | ⟨fault, hfault, hfailure⟩
      · rw [hidentity] at ha
        cases ha
      · rw [hidentity] at hfault
        cases hfault
        exact hfailure
  | compared hrequest hbody hrecord hidentity hresult hstate hcontacts =>
      rw [Client.upset_iff_of_handedOn hform hrequest hbody]
      exact
        iff_of_true (Outcome.endsAsExpected_of_ok hresult)
          (not_exceedsLimit_of_recordIn hrecord)

/-- A write ends by the fault of its look-up. -/
theorem ClaimCourse.result_of_lost
    {k : Keeper}
    {s : Situation}
    {o : Outcome Situation FailoverRecord}
    (h : ClaimCourse k s o)
    {fault : Fault}
    (hlost : k.identity s = .error fault) :
    o.result = .error fault := by
  cases h with
  | unidentified hidentity hresult hstate hcontacts =>
      obtain rfl := Except.error.inj (hidentity.symm.trans hlost)
      exact hresult
  | unsent hidentity | refused hidentity | undecoded hidentity | elsewhere hidentity
  | confirmed hidentity =>
      rw [hlost] at hidentity
      cases hidentity

/-- A write ends as expected unless the own address is found and it is made in vain. -/
theorem ClaimCourse.endsAsExpected_iff
    {k : Keeper}
    {s : Situation}
    {o : Outcome Situation FailoverRecord}
    (h : ClaimCourse k s o)
    {p : Probe}
    (hsource : k.source = .probed p)
    (hordinary : s.world.IsOrdinary) :
    o.EndsAsExpected ↔
      ¬((∃ own, k.identity s = .ok own) ∧
        k.client.Upset s.world.reactions.next.offer) := by
  have hprobed := identity_of_probed hsource hordinary.sockets.1
  -- the look-up leaves the endings to come alone, so the write meets the next one
  have hnext : (k.afterLookUp s).world.reactions.next.offer.IsOrdinary := by
    rw [reactions_afterLookUp]
    exact hordinary.reactions.1
  rw [← k.reactions_afterLookUp s]
  rcases hprobed with ⟨a, ha⟩ | ⟨fault, hfault, hfailure⟩
  · obtain ⟨form, hform⟩ := Client.exists_formFor_v4 a
    have hfound : ∃ own, k.identity s = .ok own := ⟨_, ha⟩
    simp only [hfound, true_and]
    cases h with
    | unidentified hidentity hresult hstate hcontacts =>
        rw [hidentity] at ha
        cases ha
    | unsent hidentity hrequest hresult hstate hcontacts =>
        obtain rfl := Except.ok.inj (hidentity.symm.trans ha)
        rw [Outcome.endsAsExpected_of_error hresult]
        exact
          iff_of_false (Client.not_isFailure_of_request hrequest)
            (not_not_intro (Client.upset_of_unsendable hform hrequest))
    | refused hidentity hrequest hverdict hresult hstate hcontacts =>
        obtain rfl := Except.ok.inj (hidentity.symm.trans ha)
        rw [Outcome.endsAsExpected_of_error hresult]
        exact Client.isFailure_iff_of_refused hform hrequest hnext hverdict
    | undecoded hidentity hrequest hbody hrecord hresult hstate hcontacts =>
        obtain rfl := Except.ok.inj (hidentity.symm.trans ha)
        rw [Outcome.endsAsExpected_of_error hresult,
          Client.upset_iff_of_handedOn hform hrequest hbody]
        exact recordIn_isFailure_iff hrecord
    | elsewhere hidentity hrequest hbody hrecord hother hresult hstate hcontacts =>
        obtain rfl := Except.ok.inj (hidentity.symm.trans ha)
        rw [Outcome.endsAsExpected_of_error hresult,
          Client.upset_iff_of_handedOn hform hrequest hbody]
        exact iff_of_true trivial (not_exceedsLimit_of_recordIn hrecord)
    | confirmed hidentity hrequest hbody hrecord hown hresult hstate hcontacts =>
        obtain rfl := Except.ok.inj (hidentity.symm.trans ha)
        rw [Client.upset_iff_of_handedOn hform hrequest hbody]
        exact
          iff_of_true (Outcome.endsAsExpected_of_ok hresult)
            (not_exceedsLimit_of_recordIn hrecord)
  · have hlost : ¬∃ own, k.identity s = .ok own := by
      simp [hfault]
    simp only [hlost, false_and, not_false_eq_true, iff_true]
    exact (Outcome.endsAsExpected_of_error (h.result_of_lost hfault)).mpr hfailure

/-! ## The leader's operations -/

theorem decision_eq_ok_iff
    (o : Outcome Situation FailoverRecord) :
    (∃ yes, decision o = .ok yes) ↔ o.EndsAsExpected := by
  unfold decision Outcome.EndsAsExpected
  cases o.result with
  | ok record =>
      simp
  | error fault =>
      cases fault <;> simp [Fault.IsFailure]

theorem grant_eq_ok_iff
    (o : Outcome Situation FailoverRecord) :
    (∃ yes, grant o.result = .ok yes) ↔ o.EndsAsExpected := by
  unfold grant Outcome.EndsAsExpected
  cases o.result with
  | ok record =>
      simp
  | error fault =>
      cases fault <;> simp [Fault.IsFailure]

/-- An operation says yes or no. -/
def Decides (k : Keeper) (operation : Operation) (s : Situation) : Prop :=
  ∃ yes, ((k.perform operation).run s).result = .ok (.decision yes)

theorem map_decision_eq_ok_iff
    (result : Except Fault Bool) :
    (∃ yes, result.map Answer.decision = .ok (.decision yes)) ↔ ∃ yes, result = .ok yes := by
  cases result <;> simp [Except.map]

/-- One of the leader's operations asks the provider: a query unless it is answered from the
cache, a configuration if the own address is found. -/
def Asks (k : Keeper) : Operation → Situation → Prop
  | .query, s => ¬k.AnswersFromCache s
  | .configure, s => ∃ own, k.identity s = .ok own
  | _, _ => False

/-- In an ordinary situation the leader's operations say yes or no unless they ask in
vain. -/
theorem perform_decides_iff
    {k : Keeper}
    {p : Probe}
    {s : Situation}
    (hsource : k.source = .probed p)
    (hordinary : s.world.IsOrdinary)
    {operation : Operation}
    (hleader : operation ∈ [.query, .configure]) :
    k.Decides operation s ↔
      ¬(k.Asks operation s ∧ k.client.Upset s.world.reactions.next.offer) := by
  cases operation with
  | query =>
      by_cases hcached : k.AnswersFromCache s
      · refine iff_of_true ?_ fun h => h.1 hcached
        rw [Decides, perform_query_of_cached hcached]
        exact ⟨_, rfl⟩
      · have hread := k.refresh_course (s.believing .unknown)
        rw [Decides, perform_query_of_uncached hcached]
        simp only [map_decision_eq_ok_iff, decision_eq_ok_iff, Asks, hcached,
          not_false_eq_true, true_and]
        exact hread.endsAsExpected_iff hsource hordinary
  | configure =>
      rw [Decides, perform_configure]
      simp only [map_decision_eq_ok_iff, grant_eq_ok_iff, Asks]
      exact (k.claim_course s).endsAsExpected_iff hsource hordinary
  | _ =>
      simp at hleader

end Keeper

/-- A configuration for which there is a keeper makes a client for the address that it
names, and learns the own address by the probe that it describes. -/
theorem Config.exists_make_of_keeper
    {c : Config}
    {k : Keeper}
    (h : c.keeper = .ok k) :
    ∃ (a : Address) (client : Client),
      Client.make c.user c.password a.text c.clientOptions = .ok client ∧
      k = { client, ttl := c.statusTtl, source := .probed c.probe } := by
  obtain ⟨-, a, -, rfl⟩ := keeper_eq_ok_iff.mp h
  exact ⟨a, _, Client.make_text c.user c.password a c.clientOptions, rfl⟩

theorem Config.source_of_keeper
    {c : Config}
    {k : Keeper}
    (h : c.keeper = .ok k) :
    k.source = .probed c.probe := by
  obtain ⟨a, client, -, rfl⟩ := exists_make_of_keeper h
  rfl

namespace Keeper

/-- A call of which a request can be made, to a URL that tells where an answer comes from, is
not in vain if its answer is readable. -/
theorem not_upset_of_readable
    {c : Client}
    {r : Request}
    {ending : Ending}
    (hrequest : c.request none = .ok r)
    (habsolute : r.url.IsAbsolute)
    (hreadable : ending.IsReadable) :
    ¬c.Upset ending := by
  have hform : Client.formFor none = .ok [] := rfl
  rw [Client.upset_iff_of_request hform hrequest]
  rintro ⟨status, body, rfl, hrelative | ⟨hstatus, hlimit⟩⟩
  · exact hrelative habsolute
  · exact hreadable hstatus hlimit

/-- The leader's operations always say yes or no if requests can be made, to a URL that tells
where an answer comes from, and all answers to come are readable. -/
theorem run_decides
    {c : Config}
    {k : Keeper}
    {w : World}
    {r : Request}
    (hkeeper : c.keeper = .ok k)
    (hrequest : k.client.request none = .ok r)
    (habsolute : r.url.IsAbsolute)
    (hreadable : w.Offers Ending.IsReadable SocketBehaviour.IsOrdinary)
    (steps : List SessionStep)
    {operation : Operation}
    (hleader : operation ∈ [.query, .configure]) :
    k.Decides operation (k.run (.fresh w) steps).2 := by
  have hworld := (k.run_history (.fresh w) steps).offers hreadable
  have hordinary : (k.run (.fresh w) steps).2.world.IsOrdinary :=
    ⟨hworld.reactions.imp fun _ h => h.isOrdinary, hworld.sockets⟩
  refine
    (perform_decides_iff (Config.source_of_keeper hkeeper) hordinary hleader).mpr ?_
  rintro ⟨-, hupset⟩
  exact not_upset_of_readable hrequest habsolute hworld.reactions.1 hupset

/-- A trouble of the socket that is neither of the operating system nor a failure ends a
configuration as it is, whichever step meets it. -/
theorem undecided_of_trouble
    {c : Config}
    {k : Keeper}
    {s : Situation}
    {step : SocketStep}
    {fault : Fault}
    (hkeeper : c.keeper = .ok k)
    (htrouble : s.world.sockets.next.troubleAt? step = some (.other fault))
    (hother : ¬fault.IsFailure) :
    ((k.perform .configure).run s).result = .error fault := by
  have hlost : k.identity s = .error fault := by
    rw [identity, Config.source_of_keeper hkeeper]
    exact congrArg IdentitySource.found (Probe.result_of_trouble htrouble)
  rw [perform_configure, (k.claim_course s).result_of_lost hlost]
  cases fault with
  | failure f =>
      exact absurd trivial hother
  | _ =>
      rfl

/-- A configuration with the web service at a given place, and all else usable. -/
def sampleConfig (baseUrl : Text) : Config where
  address := "198.51.100.7"
  user := "robot-user"
  password := "s3cret-pass"
  baseUrl := baseUrl

theorem isOrdinary_sampleWorld :
    (sampleWorld []).IsOrdinary :=
  ⟨⟨trivial, by simp [sampleWorld]⟩, ⟨trivial, by simp [sampleWorld]⟩⟩

/-- The leader's operations, at every point of a session in an ordinary world, of the keeper
for a configuration: they say yes or no unless they ask in vain. -/
theorem run_decides_iff
    {c : Config}
    {k : Keeper}
    {w : World}
    (hkeeper : c.keeper = .ok k)
    (hordinary : w.IsOrdinary)
    (steps : List SessionStep)
    {operation : Operation}
    (hleader : operation ∈ [.query, .configure]) :
    let s := (k.run (.fresh w) steps).2
    k.Decides operation s ↔
      ¬(k.Asks operation s ∧ k.client.Upset s.world.reactions.next.offer) := by
  have hworld := (k.run_history (.fresh w) steps).offers hordinary
  exact perform_decides_iff (Config.source_of_keeper hkeeper) hworld hleader

/-- The keeper for a usable configuration says whether it could claim the address. -/
theorem run_decides_iff_sample :
    ∃ k, (sampleConfig defaultBaseUrl).keeper = .ok k ∧
      (sampleWorld []).IsOrdinary ∧
      (k.Decides .configure (.fresh (sampleWorld [])) ↔
        ¬(k.Asks .configure (.fresh (sampleWorld [])) ∧
          k.client.Upset (sampleWorld []).reactions.next.offer)) := by
  have hmade : (sampleConfig defaultBaseUrl).keeper.toOption.isSome = true := by
    decide +kernel
  cases hkeeper : (sampleConfig defaultBaseUrl).keeper with
  | error fault =>
      rw [hkeeper] at hmade
      cases hmade
  | ok k =>
      have hleader : Operation.configure ∈ [.query, .configure] := by
        decide
      have h := run_decides_iff hkeeper isOrdinary_sampleWorld [] hleader
      exact ⟨k, rfl, isOrdinary_sampleWorld, h⟩

/-- A configuration is accepted although no request can be made of it: the port of its web
service is no number. The first query ends by a fault. -/
theorem accepted_and_undecided :
    ¬∀ (c : Config) (k : Keeper) (w : World) (steps : List SessionStep)
        (operation : Operation),
        c.keeper = .ok k →
        w.IsOrdinary →
        operation ∈ [.query, .configure] →
        k.Decides operation (k.run (.fresh w) steps).2 := by
  intro h
  have hmade :
      (sampleConfig "https://robot-ws.your-server.de:port").keeper.toOption.any
        (fun k => !(k.client.request none).toOption.isSome) = true := by
    decide +kernel
  cases hkeeper : (sampleConfig "https://robot-ws.your-server.de:port").keeper with
  | error fault =>
      rw [hkeeper] at hmade
      cases hmade
  | ok k =>
      rw [hkeeper] at hmade
      cases hrequest : k.client.request none with
      | ok r =>
          simp [Except.toOption, hrequest] at hmade
      | error fault =>
          have hsource := Config.source_of_keeper hkeeper
          have hdecides : k.Decides .query (.fresh (sampleWorld [])) :=
            h _ k (sampleWorld []) [] .query hkeeper isOrdinary_sampleWorld (by decide)
          refine
            (perform_decides_iff hsource isOrdinary_sampleWorld (by decide)).mp hdecides ?_
          exact ⟨fun hcached => hcached.2 rfl, .unsendable hrequest⟩

end Keeper

end FloatingAddress
