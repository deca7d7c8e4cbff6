import FloatingAddress.Proofs.Containment
import FloatingAddress.Proofs.SideBySide

/-!
# What can be learned of a password

The password of a client goes into the authorization of its requests. To an observer who does
not see that field, two passwords look the same, in single calls, in sessions, and from a
configuration on: as long as both can be encoded. A password with a surrogate makes every
call end by a fault that carries it, if the name of the user can be encoded.

* `Event.veiled`: what the observer sees of an event;
* `Client.seen`, `Keeper.seen`, `Config.seen`: what the observer sees of calls and sessions;
* `Interchangeable`: the passwords that cannot be told apart;
* `Client.seen_eq_iff`, `Keeper.seen_eq_iff`, `Config.seen_eq_iff`: they are these exactly;
* `password_unseen_iff`: the three together.
-/

namespace FloatingAddress

/-! ## What is seen -/

/-- A request without its authorization. -/
def Request.veiled (r : Request) : Request :=
  { r with authorization := [] }

/-- An event without the authorization of its request. -/
def Event.veiled : Event → Event
  | .requested r ending time => .requested r.veiled ending time
  | e => e

/-- An outcome without the authorization of its requests. -/
def Outcome.veiled {σ α : Type} (o : Outcome σ α) : Outcome σ α :=
  { o with events := o.events.map Event.veiled }

/-- A report without the authorization of its requests. -/
def Report.veiled (r : Report) : Report :=
  { r with outcome := r.outcome.veiled }

/-- What is seen of calls: all but the authorization of requests. -/
def Client.seen (c : Client) (w : World) (calls : List Call) : List (Outcome World Text) :=
  (c.run w calls).map Outcome.veiled

/-- What is seen of a session: all but the authorization of requests. -/
def Keeper.seen (k : Keeper) (s : Situation) (steps : List SessionStep) :
    List Report × Situation :=
  ((k.run s steps).1.map Report.veiled, (k.run s steps).2)

/-- What is seen of the session of a configured keeper, or why there is no keeper. -/
def Config.seen (c : Config) (s : Situation) (steps : List SessionStep) :
    Except Fault (List Report × Situation) :=
  c.keeper.map fun k => k.seen s steps

/-- The client with another password. -/
def Client.withPassword (c : Client) (password : Text) : Client :=
  { c with password }

/-- The keeper whose client has another password. -/
def Keeper.withPassword (k : Keeper) (password : Text) : Keeper :=
  { k with client := k.client.withPassword password }

/-- The configuration with another password. -/
def Config.withPassword (c : Config) (password : Text) : Config :=
  { c with password }

theorem Client.seen_single
    (c : Client)
    (w : World)
    (call : Call) :
    c.seen w [call] = [((c.query call).run w).veiled] :=
  rfl

theorem Keeper.seen_single
    (k : Keeper)
    (s : Situation)
    (operation : Operation) :
    (k.seen s [.perform operation]).1 = [(k.report operation s).veiled] :=
  rfl

/-- Outcomes that are alike to one who does not see authorizations, and leave the same
state, look the same. -/
theorem Outcome.veiled_eq_of_alike
    {σ α : Type}
    {R : σ → σ → Prop}
    {o o' : Outcome σ α}
    (h : o.Alike (some ∘ Event.veiled) R o')
    (hR : ∀ s s', R s s' → s = s') :
    o.veiled = o'.veiled := by
  have hevents := h.events
  rw [List.filterMap_eq_map] at hevents
  simp only [veiled, h.result, hR _ _ h.state, hevents]

theorem Situation.eq_of_linked
    {s s' : Situation}
    (h : Situation.Linked Eq s s') :
    s = s' := by
  obtain ⟨status, w⟩ := s
  obtain ⟨status', w'⟩ := s'
  obtain ⟨hstatus, hworld⟩ := h
  obtain rfl : status = status' := hstatus
  obtain rfl : w = w' := hworld
  rfl

theorem Report.veiled_eq_of_alike
    {r r' : Report}
    (h : r.Alike (some ∘ Event.veiled) Eq r') :
    r.veiled = r'.veiled := by
  simp only [veiled, h.operation, Situation.eq_of_linked h.before,
    Outcome.veiled_eq_of_alike h.outcome fun _ _ => Situation.eq_of_linked]

/-! ## Passwords and the authorization -/

/-- A text that UTF-8 has bytes for: it holds no surrogate. -/
def Text.IsEncodable (t : Text) : Prop :=
  ∀ c ∈ t, c.isSurrogate = false

instance (t : Text) : Decidable t.IsEncodable :=
  inferInstanceAs (Decidable (∀ c ∈ t, _))

/-- Two passwords of a user that cannot be told apart: they are the same, or the name of the
user is refused before either is looked at, or both can be encoded. -/
def Interchangeable (user p q : Text) : Prop :=
  p = q ∨ ¬user.IsEncodable ∨ p.IsEncodable ∧ q.IsEncodable

instance (user p q : Text) : Decidable (Interchangeable user p q) :=
  inferInstanceAs (Decidable (_ ∨ _))

theorem Utf8.encode_of_isEncodable
    {t : Text}
    (h : t.IsEncodable) :
    encode t = .ok (t.flatMap encodePoint) := by
  have hnone : Encoding.utf8.unencodable? t = none :=
    (Encoding.utf8.unencodable?_eq_none_iff t).mpr h
  rw [encode, hnone]

/-- The fault of a text with a surrogate carries the text. -/
theorem Utf8.exists_encode_error
    {t : Text}
    (h : ¬t.IsEncodable) :
    ∃ run, encode t = .error run ∧ run.text = t := by
  cases hrun : Encoding.utf8.unencodable? t with
  | none =>
      exact absurd ((Encoding.utf8.unencodable?_eq_none_iff t).mp hrun) h
  | some run =>
      refine ⟨run, by rw [encode, hrun], ?_⟩
      rw [Encoding.unencodable?] at hrun
      split at hrun
      · cases hrun
      · cases hrun
        rfl

section Authorization

variable {user p q : Text}

theorem basicAuthorization_of_isEncodable
    (huser : user.IsEncodable)
    (hp : p.IsEncodable) :
    ∃ authorization, basicAuthorization user p = .ok authorization := by
  rw [basicAuthorization, Utf8.encode_of_isEncodable huser, Utf8.encode_of_isEncodable hp]
  exact ⟨_, rfl⟩

/-- The name of the user is encoded first, and refused whatever the password is. -/
theorem basicAuthorization_of_user
    (huser : ¬user.IsEncodable) :
    ∃ run, ∀ p, basicAuthorization user p = .error run := by
  obtain ⟨run, hrun, -⟩ := Utf8.exists_encode_error huser
  refine ⟨run, fun p => ?_⟩
  rw [basicAuthorization, hrun]
  rfl

/-- A password that is refused goes with the fault. -/
theorem basicAuthorization_of_password
    (huser : user.IsEncodable)
    (hp : ¬p.IsEncodable) :
    ∃ run, basicAuthorization user p = .error run ∧ run.text = p := by
  obtain ⟨run, hrun, htext⟩ := Utf8.exists_encode_error hp
  refine ⟨run, ?_, htext⟩
  rw [basicAuthorization, Utf8.encode_of_isEncodable huser, hrun]
  rfl

theorem text_of_basicAuthorization
    {run : Unencodable}
    (huser : user.IsEncodable)
    (h : basicAuthorization user p = .error run) :
    run.text = p := by
  by_cases hp : p.IsEncodable
  · obtain ⟨authorization, hok⟩ := basicAuthorization_of_isEncodable huser hp
    rw [hok] at h
    cases h
  · obtain ⟨run', hrun', htext⟩ := basicAuthorization_of_password huser hp
    rw [hrun'] at h
    cases h
    exact htext

/-- Passwords are interchangeable exactly if the same is wrong with both, or nothing is. -/
theorem interchangeable_iff :
    Interchangeable user p q ↔
      ∀ run,
        basicAuthorization user p = .error run ↔ basicAuthorization user q = .error run := by
  constructor
  · rintro (rfl | huser | ⟨hp, hq⟩) run
    · exact Iff.rfl
    · obtain ⟨run', hrun'⟩ := basicAuthorization_of_user huser
      rw [hrun', hrun']
    · by_cases huser : user.IsEncodable
      · obtain ⟨a, ha⟩ := basicAuthorization_of_isEncodable huser hp
        obtain ⟨b, hb⟩ := basicAuthorization_of_isEncodable huser hq
        simp [ha, hb]
      · obtain ⟨run', hrun'⟩ := basicAuthorization_of_user huser
        rw [hrun', hrun']
  · intro h
    by_cases huser : user.IsEncodable
    · by_cases hp : p.IsEncodable
      · by_cases hq : q.IsEncodable
        · exact .inr (.inr ⟨hp, hq⟩)
        · obtain ⟨run, hrun, htext⟩ := basicAuthorization_of_password huser hq
          exact .inl ((text_of_basicAuthorization huser ((h run).mpr hrun)).symm.trans htext)
      · obtain ⟨run, hrun, htext⟩ := basicAuthorization_of_password huser hp
        exact .inl (htext.symm.trans (text_of_basicAuthorization huser ((h run).mp hrun)))
    · exact .inr (.inl huser)

/-- Two outcomes that look the same tell that the passwords are interchangeable, if each
tells what is wrong with its own. -/
theorem interchangeable_of_veiled
    {σ α : Type}
    {o o' : Outcome σ α}
    (h : o.veiled = o'.veiled)
    (hp : ∀ run,
      o.result = .error (.unencodable run) ↔ basicAuthorization user p = .error run)
    (hq : ∀ run,
      o'.result = .error (.unencodable run) ↔ basicAuthorization user q = .error run) :
    Interchangeable user p q := by
  have hresult : o.veiled.result = o'.veiled.result := by
    rw [h]
  change o.result = o'.result at hresult
  rw [interchangeable_iff]
  intro run
  rw [← hp run, hresult, hq run]

end Authorization

/-! ## Calls -/

namespace Client

variable {c : Client} {p q : Text}

/-- A request that is made with one of two interchangeable passwords is made with the other,
and differs in its authorization only. -/
theorem request_veiled
    (h : Interchangeable c.user p q)
    (towards : Option Address) :
    ((c.withPassword p).request towards).map Request.veiled =
      ((c.withPassword q).request towards).map Request.veiled := by
  rw [interchangeable_iff] at h
  unfold request
  simp only [withPassword]
  cases hp : basicAuthorization c.user p with
  | error run =>
      rw [(h run).mp hp]
      rfl
  | ok a =>
      cases hq : basicAuthorization c.user q with
      | error run =>
          rw [(h run).mpr hq] at hp
          cases hp
      | ok b =>
          have hendpoint :
              endpoint { c with password := p } = endpoint { c with password := q } :=
            rfl
          rw [hendpoint]
          cases Url.requested (endpoint { c with password := q }) with
          | error problem =>
              rfl
          | ok url =>
              cases formFor towards with
              | error run =>
                  rfl
              | ok body =>
                  simp only [Except.mapError, bind, Except.bind]
                  cases url.checkHost <;> rfl

theorem request_unencodable_iff
    {run : Unencodable} :
    c.request none = .error (.unencodable run) ↔
      basicAuthorization c.user c.password = .error run := by
  unfold request
  cases basicAuthorization c.user c.password with
  | error run' =>
      simp [Except.mapError, bind, Except.bind]
  | ok a =>
      cases Url.requested c.endpoint with
      | error problem =>
          simp [Except.mapError, bind, Except.bind]
      | ok url =>
          simp only [Except.mapError, bind, Except.bind, formFor]
          cases url.checkHost <;> simp [pure, Except.pure]

/-- Sending two requests that look the same looks the same. -/
theorem send_alike
    {r r' : Request}
    (h : r.veiled = r'.veiled) :
    Action.Alike (some ∘ Event.veiled) Eq (send r) (send r') := by
  rintro w _ rfl
  have hurl : r.veiled.url = r'.veiled.url := by
    rw [h]
  change r.url = r'.url at hurl
  have hmet : ∀ ending, r.met ending = r'.met ending := by
    intro ending
    cases ending <;> simp only [Request.met, hurl]
  refine ⟨?_, rfl, ?_⟩
  · simp only [send, Action.run, hmet]
  · simp [send, Action.run, hmet, Event.veiled, h]

/-- A call with one of two interchangeable passwords looks like one with the other. -/
theorem query_alike
    (h : Interchangeable c.user p q)
    (call : Call) :
    Action.Alike (some ∘ Event.veiled) Eq
      ((c.withPassword p).query call) ((c.withPassword q).query call) := by
  -- what is done before and after the request does not know the password
  refine .bind (.refl (c.destination call)) fun towards =>
    .bind (.refl (c.announce towards)) fun _ => ?_
  have hrequest := request_veiled h towards
  cases hp : (c.withPassword p).request towards with
  | error fault =>
      cases hq : (c.withPassword q).request towards with
      | error fault' =>
          rw [hp, hq] at hrequest
          cases hrequest
          exact .refl _
      | ok r =>
          rw [hp, hq] at hrequest
          cases hrequest
  | ok r =>
      cases hq : (c.withPassword q).request towards with
      | error fault =>
          rw [hp, hq] at hrequest
          cases hrequest
      | ok r' =>
          rw [hp, hq] at hrequest
          have hsend := send_alike (Except.ok.inj hrequest)
          exact hsend.bind fun ending => .refl (c.receive call.write ending)

/-- Where nobody can be reached, a text that cannot be encoded ends a read exactly if it is
one of the credentials. -/
theorem query_unencodable_iff
    {w : World}
    {error : ConnectionError}
    {message : Text}
    (hbroken : w.reactions.next.offer = .broken error message)
    (run : Unencodable) :
    ((c.query {}).run w).result = .error (.unencodable run) ↔
      basicAuthorization c.user c.password = .error run := by
  have hread : c.destination {} = pure none := rfl
  rw [← request_unencodable_iff]
  cases hrequest : c.request none with
  | error fault =>
      obtain ⟨events, hquery, -⟩ := query_unsent hread hrequest w
      rw [hquery]
      simp
  | ok r =>
      obtain ⟨events, hquery, -⟩ := query_sent hread hrequest w
      rw [hquery, hbroken]
      simp [Request.met, verdict, unreached]

/-- Calls with one of two interchangeable passwords look like calls with the other. -/
theorem seen_of_interchangeable
    (h : Interchangeable c.user p q)
    (w : World)
    (calls : List Call) :
    (c.withPassword p).seen w calls = (c.withPassword q).seen w calls := by
  induction calls generalizing w with
  | nil =>
      rfl
  | cons call calls ih =>
      have hcall := query_alike h call w w rfl
      have hrest := ih (((c.withPassword p).query call).run w).state
      simp only [seen, run, List.map_cons] at hrest ⊢
      rw [Outcome.veiled_eq_of_alike hcall fun _ _ => id, hrest, hcall.state]

end Client

/-- A world in which nobody can be reached. -/
def World.deserted : World where
  clock := 0
  reactions := ⟨⟨0, .broken .connect []⟩, []⟩
  identities := ⟨.ok (.v4 (.ofNat 0xCB00710A)), []⟩
  sockets := ⟨.reports "203.0.113.10", []⟩

/-- Calls of a client look the same with two passwords exactly if these are
interchangeable. -/
theorem Client.seen_eq_iff
    (c : Client)
    (p q : Text) :
    (∀ w calls, (c.withPassword p).seen w calls = (c.withPassword q).seen w calls) ↔
      Interchangeable c.user p q := by
  constructor
  · intro h
    have hseen := h .deserted [{}]
    rw [seen_single, seen_single, List.singleton_inj] at hseen
    exact interchangeable_of_veiled hseen
      (query_unencodable_iff (c := c.withPassword p) (w := .deserted) rfl)
      (query_unencodable_iff (c := c.withPassword q) (w := .deserted) rfl)
  · intro h w calls
    exact seen_of_interchangeable h w calls

/-! ## Sessions -/

namespace Keeper

variable {k : Keeper} {p q : Text}

theorem withPassword_twins
    (h : Interchangeable k.client.user p q) :
    Twins (some ∘ Event.veiled) Eq (k.withPassword p) (k.withPassword q) where
  ttl := rfl
  address := rfl
  endpoint := rfl
  clock := by
    rintro w _ rfl
    rfl
  withClock := by
    rintro w _ time rfl
    rfl
  calls := Client.query_alike h
  lookUps := .refl k.source.lookUp

/-- A session with one of two interchangeable passwords looks like one with the other. -/
theorem seen_of_interchangeable
    (h : Interchangeable k.client.user p q)
    (s : Situation)
    (steps : List SessionStep) :
    (k.withPassword p).seen s steps = (k.withPassword q).seen s steps := by
  obtain ⟨hreports, hafter⟩ := (withPassword_twins h).run (s := s) ⟨rfl, rfl⟩ steps
  refine Prod.ext ?_ (Situation.eq_of_linked hafter)
  rw [seen, seen, ← List.forall₂_eq_eq_eq, List.forall₂_map_left_iff,
    List.forall₂_map_right_iff]
  exact hreports.imp fun _ _ => Report.veiled_eq_of_alike

theorem perform_unencodable_iff
    {s : Situation}
    {error : ConnectionError}
    {message : Text}
    (hbroken : s.world.reactions.next.offer = .broken error message)
    (run : Unencodable) :
    ((k.perform .refresh).run s).result = .error (.unencodable run) ↔
      basicAuthorization k.client.user k.client.password = .error run := by
  rw [← Client.request_unencodable_iff, perform_refresh]
  cases k.refresh_course s with
  | unsent hrequest hresult hstate hcontacts =>
      simp [hresult, hrequest, Except.map]
  | refused hrequest hverdict hresult hstate hcontacts =>
      simp only [Situation.ending, hbroken, Request.met, Client.verdict, Client.unreached,
        Except.error.injEq] at hverdict
      simp [hresult, hrequest, ← hverdict, Except.map]
  | undecoded hrequest hbody hrecord hresult hstate hcontacts =>
      simp [Situation.ending, hbroken, Request.met, Ending.handedOn?] at hbody
  | unidentified hrequest hbody hrecord hidentity hresult hstate hcontacts =>
      simp [Situation.ending, hbroken, Request.met, Ending.handedOn?] at hbody
  | compared hrequest hbody hrecord hidentity hresult hstate hcontacts =>
      simp [Situation.ending, hbroken, Request.met, Ending.handedOn?] at hbody

/-- Sessions of a keeper look the same with two passwords exactly if these are
interchangeable. -/
theorem seen_eq_iff
    (k : Keeper)
    (p q : Text) :
    (∀ s steps, (k.withPassword p).seen s steps = (k.withPassword q).seen s steps) ↔
      Interchangeable k.client.user p q := by
  constructor
  · intro h
    have hseen := congrArg Prod.fst (h (.fresh .deserted) [.perform .refresh])
    rw [seen_single, seen_single, List.singleton_inj] at hseen
    exact interchangeable_of_veiled (congrArg Report.outcome hseen)
      (perform_unencodable_iff (k := k.withPassword p) (s := .fresh .deserted) rfl)
      (perform_unencodable_iff (k := k.withPassword q) (s := .fresh .deserted) rfl)
  · intro h s steps
    exact seen_of_interchangeable h s steps

end Keeper

/-! ## Configurations -/

namespace Config

variable {c : Config} {p q : Text}

/-- Of a password it is only checked whether it is there. -/
theorem validate_withPassword
    (hp : p ≠ [])
    (hq : q ≠ []) :
    (c.withPassword p).validate = (c.withPassword q).validate := by
  have hmissing : (c.user = [] ∨ p = []) = (c.user = [] ∨ q = []) := by
    simp [hp, hq]
  unfold validate readAddress readHosting withPassword
  simp only [hmissing]

theorem make_withPassword
    (user p q address : Text)
    (options : ClientOptions) :
    Client.make user q address options =
      (Client.make user p address options).map fun client => client.withPassword q := by
  unfold Client.make
  cases Address.read? address <;> rfl

/-- Configurations that differ in a password only make keepers that differ in it only. -/
theorem keeper_withPassword
    (hp : p ≠ [])
    (hq : q ≠ []) :
    (c.withPassword q).keeper =
      (c.withPassword p).keeper.map fun k => k.withPassword q := by
  have hhosting : (c.withPassword q).readHosting = (c.withPassword p).readHosting := rfl
  have haddress : (c.withPassword q).readAddress = (c.withPassword p).readAddress := rfl
  have hmake (a : Address) :
      Client.make (c.withPassword q).user (c.withPassword q).password a.text
          (c.withPassword q).clientOptions =
        (Client.make (c.withPassword p).user (c.withPassword p).password a.text
          (c.withPassword p).clientOptions).map fun client => client.withPassword q :=
    make_withPassword c.user p q a.text c.clientOptions
  unfold keeper
  rw [validate_withPassword hq hp, hhosting, haddress]
  simp only [hmake]
  cases refuse (c.withPassword p).validate with
  | error fault =>
      rfl
  | ok _ =>
      cases refuse (c.withPassword p).readHosting with
      | error fault =>
          rfl
      | ok hosting =>
          cases hosting with
          | basic =>
              rfl
          | hetzner =>
              cases refuse (c.withPassword p).readAddress with
              | error fault =>
                  rfl
              | ok a =>
                  simp only [bind, Except.bind]
                  cases Client.make (c.withPassword p).user (c.withPassword p).password a.text
                    (c.withPassword p).clientOptions <;> rfl

theorem user_of_keeper
    {k : Keeper}
    (h : c.keeper = .ok k) :
    k.client.user = c.user := by
  obtain ⟨-, a, -, rfl⟩ := keeper_eq_ok_iff.mp h
  rfl

/-- Configurations that differ in a password only, which is there, look the same exactly if
the two passwords are interchangeable, or if there is no keeper for them. -/
theorem seen_eq_iff
    (c : Config)
    (hp : p ≠ [])
    (hq : q ≠ []) :
    (∀ s steps, (c.withPassword p).seen s steps = (c.withPassword q).seen s steps) ↔
      ∀ k, (c.withPassword p).keeper = .ok k → Interchangeable c.user p q := by
  have hsame := keeper_withPassword (c := c) hp hp
  unfold seen
  rw [keeper_withPassword hp hq]
  cases hkeeper : (c.withPassword p).keeper with
  | error fault =>
      simp [Except.map]
  | ok k =>
      rw [hkeeper] at hsame
      have hown : k = k.withPassword p := Except.ok.inj hsame
      have huser : k.client.user = (c.withPassword p).user := user_of_keeper hkeeper
      have hiff := k.seen_eq_iff p q
      rw [← hown, huser] at hiff
      simpa [Except.map, withPassword] using hiff

end Config

/-! ## Both together -/

/-- Two passwords look the same in the calls of any client, in the sessions of any keeper, and
from any configuration on in which they are there, exactly if they are interchangeable or
there is no keeper. -/
theorem password_unseen_iff
    (p q : Text) :
    (∀ c : Client,
      (∀ w calls, (c.withPassword p).seen w calls = (c.withPassword q).seen w calls) ↔
        Interchangeable c.user p q) ∧
    (∀ k : Keeper,
      (∀ s steps, (k.withPassword p).seen s steps = (k.withPassword q).seen s steps) ↔
        Interchangeable k.client.user p q) ∧
    (∀ c : Config, p ≠ [] → q ≠ [] →
      ((∀ s steps, (c.withPassword p).seen s steps = (c.withPassword q).seen s steps) ↔
        ∀ k, (c.withPassword p).keeper = .ok k → Interchangeable c.user p q)) :=
  ⟨fun c => c.seen_eq_iff p q, fun k => k.seen_eq_iff p q,
    fun c hp hq => c.seen_eq_iff hp hq⟩

/-- Two passwords of the sample keeper that look the same. -/
theorem password_unseen_sample :
    Interchangeable Keeper.sample.client.user "s3cret-pass" "other-pass" ∧
    (Keeper.sample.withPassword "s3cret-pass").seen (.fresh (Keeper.sampleWorld []))
        [.perform .query, .perform .claim] =
      (Keeper.sample.withPassword "other-pass").seen (.fresh (Keeper.sampleWorld []))
        [.perform .query, .perform .claim] := by
  have hsame : Interchangeable Keeper.sample.client.user "s3cret-pass" "other-pass" := by
    decide
  obtain ⟨-, hkeeper, -⟩ := password_unseen_iff "s3cret-pass" "other-pass"
  exact ⟨hsame, (hkeeper Keeper.sample).mpr hsame _ _⟩

/-- A password with a byte that is no UTF-8, which stands in it as a surrogate. -/
def surrogatePassword : Text :=
  ['g', 'r', (⟨0xDCFC, by decide⟩ : CodePoint), 'n']

/-- A password with a surrogate does not look like others: not in a call, not in a session,
and not from a configuration on. -/
theorem surrogatePassword_seen :
    (¬∀ (c : Client) (p q : Text) (w : World) (calls : List Call),
      (c.withPassword p).seen w calls = (c.withPassword q).seen w calls) ∧
    (¬∀ (k : Keeper) (p q : Text) (s : Situation) (steps : List SessionStep),
      (k.withPassword p).seen s steps = (k.withPassword q).seen s steps) ∧
    (¬∀ (c : Config) (p q : Text) (s : Situation) (steps : List SessionStep),
      p ≠ [] → q ≠ [] →
      (c.withPassword p).seen s steps = (c.withPassword q).seen s steps) := by
  have hother : ¬Interchangeable "robot-user" "s3cret-pass" surrogatePassword := by
    decide
  refine ⟨fun h => hother ?_, fun h => hother ?_, fun h => hother ?_⟩
  · exact (Keeper.sample.client.seen_eq_iff _ _).mp (h _ _ _)
  · exact (Keeper.sample.seen_eq_iff _ _).mp (h _ _ _)
  · have hmade :
        ((Keeper.sampleConfig defaultBaseUrl).withPassword "s3cret-pass").keeper.toOption.isSome =
          true := by
      decide +kernel
    cases hkeeper : ((Keeper.sampleConfig defaultBaseUrl).withPassword "s3cret-pass").keeper with
    | error fault =>
        rw [hkeeper] at hmade
        cases hmade
    | ok k =>
        have hp : ("s3cret-pass" : Text) ≠ [] := by decide
        have hq : surrogatePassword ≠ [] := by decide
        exact (Config.seen_eq_iff _ hp hq).mp (fun s steps => h _ _ _ s steps hp hq) k hkeeper

end FloatingAddress
