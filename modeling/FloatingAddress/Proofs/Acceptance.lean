import FloatingAddress.Proofs.Endpoints
import FloatingAddress.Proofs.History
import FloatingAddress.Proofs.Sending

/-!
# Which configurations are accepted

A configuration is valid if none of its possible problems is one; the first that is one, in
the order of their urgency, is the reason why it is refused. There is a keeper for a valid
configuration unless the node is to move the address itself. The keeper takes its settings
from the configuration, which stays as it is, believes nothing at first, and therefore asks
the provider when it is queried for the first time.

* `Config.IsUsable`, `Config.IsLocal`: the configurations that are valid;
* `Config.Has`, `Config.suspects`, `Config.firstOf`: the problems of a configuration and
  their order;
* `Config.validate_eq`, `Config.keeper_eq_error_iff`: the reasons of a refusal;
* `Config.run_appoint`: the keeper that is appointed for the configuration at hand;
* `Keeper.Serves`, `Keeper.Consults`: what is known of that keeper;
* `Config.appointed_if_usable`: all of it.
-/

namespace FloatingAddress

open Provider

namespace Config

variable {c : Config} {k : Keeper}

/-! ## Problems of a configuration -/

/-- All that a keeper needs is given, and the routing is left to the provider. -/
structure IsUsable (c : Config) : Prop where
  address : ∃ a, Address.read? c.address = some a
  hosting : c.hosting = "hetzner"
  user : c.user ≠ []
  password : c.password ≠ []
  timeout : ¬c.timeout.IsNonPositive

/-- The node is to move the address itself, for which it needs no credentials. -/
structure IsLocal (c : Config) : Prop where
  address : ∃ a, Address.read? c.address = some a
  hosting : c.hosting = "basic"
  timeout : ¬c.timeout.IsNonPositive

/-- A problem is one of the configuration. -/
def Has (c : Config) : ConfigProblem → Prop
  | .addressMissing => c.address = []
  | .addressUnreadable t => c.address = t ∧ Address.read? t = none
  | .hostingUnknown word => c.hosting = word ∧ word ≠ "hetzner" ∧ word ≠ "basic"
  | .credentialsMissing => c.hosting = "hetzner" ∧ (c.user = [] ∨ c.password = [])
  | .timeoutNotPositive => c.timeout.IsNonPositive
  | .hostingNotProvided hosting => c.hosting = hosting.word ∧ hosting ≠ .hetzner
  | .stated _ => False

instance (c : Config) : DecidablePred c.Has
  | .addressMissing => inferInstanceAs (Decidable (c.address = []))
  | .addressUnreadable t => inferInstanceAs (Decidable (c.address = t ∧ _ = none))
  | .hostingUnknown word => inferInstanceAs (Decidable (c.hosting = word ∧ _ ≠ _ ∧ _ ≠ _))
  | .credentialsMissing => inferInstanceAs (Decidable (_ = _ ∧ (c.user = [] ∨ c.password = [])))
  | .timeoutNotPositive => inferInstanceAs (Decidable c.timeout.IsNonPositive)
  | .hostingNotProvided hosting => inferInstanceAs (Decidable (_ = hosting.word ∧ hosting ≠ _))
  | .stated _ => inferInstanceAs (Decidable False)

/-- The problems that make a configuration invalid, the most urgent one first. -/
def suspects (c : Config) : List ConfigProblem :=
  [.addressMissing, .addressUnreadable c.address, .hostingUnknown c.hosting,
    .credentialsMissing, .timeoutNotPositive]

/-- The first of some problems that the configuration has. -/
def firstOf (c : Config) (problems : List ConfigProblem) : Option ConfigProblem :=
  problems.find? fun problem => c.Has problem

theorem firstOf_eq_none_iff
    {problems : List ConfigProblem} :
    c.firstOf problems = none ↔ ∀ problem ∈ problems, ¬c.Has problem := by
  simp [firstOf]

section

variable {problem : ConfigProblem}

theorem firstOf_cons_of_has
    (h : c.Has problem)
    (problems : List ConfigProblem) :
    c.firstOf (problem :: problems) = some problem :=
  List.find?_cons_of_pos (decide_eq_true h)

theorem firstOf_cons_of_not
    (h : ¬c.Has problem)
    (problems : List ConfigProblem) :
    c.firstOf (problem :: problems) = c.firstOf problems :=
  List.find?_cons_of_neg (by simpa using h)

/-- A hosting type is told by its word. -/
theorem readHosting_eq_ok_iff
    {hosting : Hosting} :
    c.readHosting = .ok hosting ↔ c.hosting = hosting.word := by
  have hwords : Hosting.choices.find? hosting.word = some hosting := by
    cases hosting <;> decide
  constructor
  · intro h
    unfold readHosting at h
    split at h
    · rename_i hfound
      cases h
      have hword := List.find?_some hfound
      exact (of_decide_eq_true hword).symm
    · cases h
  · intro h
    rw [readHosting, h, hwords]

/-- A word that tells no hosting type is refused. -/
theorem readHosting_eq_error_iff :
    c.readHosting = .error problem ↔
      problem = .hostingUnknown c.hosting ∧ c.Has (.hostingUnknown c.hosting) := by
  have hunknown : c.Has (.hostingUnknown c.hosting) ↔
      ∀ hosting, c.readHosting ≠ .ok hosting := by
    simp only [ne_eq, readHosting_eq_ok_iff]
    constructor
    · rintro ⟨-, hprovider, hlocal⟩ (_ | _)
      · exact hprovider
      · exact hlocal
    · exact fun h => ⟨rfl, h .hetzner, h .basic⟩
  rw [hunknown]
  unfold readHosting
  split <;> simp [eq_comm]

/-- Of a known hosting type, the credentials and the time limit are left to be checked. -/
theorem firstOf_of_hosting
    {hosting : Hosting}
    (h : c.readHosting = .ok hosting) :
    (if hosting = .hetzner ∧ (c.user = [] ∨ c.password = []) then
        Except.error ConfigProblem.credentialsMissing
      else if c.timeout.IsNonPositive then .error .timeoutNotPositive
      else .ok ()) =
    (c.firstOf [.credentialsMissing, .timeoutNotPositive]).elim (.ok ()) .error := by
  have hprovider : c.hosting = "hetzner" ↔ hosting = .hetzner := by
    rw [readHosting_eq_ok_iff.mp h]
    cases hosting <;> decide
  by_cases hcredentials : c.Has .credentialsMissing
  · rw [firstOf_cons_of_has hcredentials, if_pos ⟨hprovider.mp hcredentials.1, hcredentials.2⟩]
    rfl
  · rw [firstOf_cons_of_not hcredentials,
      if_neg fun hmissing => hcredentials ⟨hprovider.mpr hmissing.1, hmissing.2⟩]
    by_cases htimeout : c.Has .timeoutNotPositive
    · rw [firstOf_cons_of_has htimeout, if_pos (show c.timeout.IsNonPositive from htimeout)]
      rfl
    · rw [firstOf_cons_of_not htimeout, if_neg (show ¬c.timeout.IsNonPositive from htimeout)]
      rfl

/-- A configuration is refused for the most urgent of its problems. -/
theorem validate_eq
    (c : Config) :
    c.validate = (c.firstOf c.suspects).elim (.ok ()) .error := by
  unfold suspects
  by_cases hmissing : c.Has .addressMissing
  · rw [firstOf_cons_of_has hmissing, validate, if_pos (show c.address = [] from hmissing)]
    rfl
  rw [firstOf_cons_of_not hmissing, validate, if_neg (show ¬c.address = [] from hmissing)]
  by_cases hunreadable : c.Has (.addressUnreadable c.address)
  · rw [firstOf_cons_of_has hunreadable, readAddress, hunreadable.2]
    rfl
  rw [firstOf_cons_of_not hunreadable]
  obtain ⟨a, haddress⟩ := Option.ne_none_iff_exists'.mp fun hnone => hunreadable ⟨rfl, hnone⟩
  rw [readAddress, haddress]
  cases hhosting : c.readHosting with
  | error problem =>
      obtain ⟨rfl, hunknown⟩ := readHosting_eq_error_iff.mp hhosting
      rw [firstOf_cons_of_has hunknown]
      rfl
  | ok hosting =>
      have hknown : ¬c.Has (.hostingUnknown c.hosting) := by
        intro hunknown
        rw [readHosting_eq_error_iff.mpr ⟨rfl, hunknown⟩] at hhosting
        cases hhosting
      rw [firstOf_cons_of_not hknown, ← firstOf_of_hosting hhosting]
      simp only [bind, Except.bind]
      split
      · rfl
      · rfl

theorem validate_eq_error_iff :
    c.validate = .error problem ↔ c.firstOf c.suspects = some problem := by
  rw [validate_eq]
  cases c.firstOf c.suspects <;> simp

-- an unknown hosting type is told before a time limit that is none
example :
    let c : Config := { address := "192.0.2.7", hosting := "cloud", timeout := .whole 0 }
    c.Has .timeoutNotPositive ∧ c.firstOf c.suspects = some (.hostingUnknown "cloud") := by
  decide +kernel

theorem validate_eq_ok_iff :
    c.validate = .ok () ↔ c.firstOf c.suspects = none := by
  rw [validate_eq]
  cases c.firstOf c.suspects <;> simp

theorem exists_readHosting_of_validate
    (h : c.validate = .ok ()) :
    ∃ hosting, c.readHosting = .ok hosting := by
  cases hhosting : c.readHosting with
  | error problem =>
      obtain ⟨-, hunknown⟩ := readHosting_eq_error_iff.mp hhosting
      have hnone := firstOf_eq_none_iff.mp (validate_eq_ok_iff.mp h)
      exact absurd hunknown (hnone _ (by simp [suspects]))
  | ok hosting =>
      exact ⟨hosting, rfl⟩

/-- A keeper is refused for the most urgent problem, the last of which is that the node is to
move the address itself. -/
theorem keeper_eq_error_iff
    {fault : Fault} :
    c.keeper = .error fault ↔
      ∃ problem,
        c.firstOf (c.suspects ++ [.hostingNotProvided .basic]) = some problem ∧
        fault = .failure (.config problem) := by
  have hfirst : c.firstOf (c.suspects ++ [.hostingNotProvided .basic]) =
      (c.firstOf c.suspects).or (c.firstOf [.hostingNotProvided .basic]) :=
    List.find?_append
  rw [hfirst]
  cases hvalid : c.validate with
  | error problem =>
      rw [validate_eq_error_iff.mp hvalid]
      simp [keeper, hvalid, refuse, Except.mapError, bind, Except.bind, eq_comm]
  | ok _ =>
      rw [validate_eq_ok_iff.mp hvalid]
      obtain ⟨hosting, hhosting⟩ := exists_readHosting_of_validate hvalid
      have hword := readHosting_eq_ok_iff.mp hhosting
      cases hosting with
      | hetzner =>
          have hprovided : ¬c.Has (.hostingNotProvided .basic) := by
            rintro ⟨hlocal, -⟩
            exact absurd (hword.symm.trans hlocal) (by decide)
          obtain ⟨a, haddress⟩ := exists_readAddress_of_validate hvalid
          rw [firstOf_cons_of_not hprovided,
            keeper_eq_ok_iff.mpr ⟨⟨hvalid, hhosting⟩, a, haddress, rfl⟩]
          simp [firstOf]
      | basic =>
          have hlocal : c.Has (.hostingNotProvided .basic) := ⟨hword, by decide⟩
          rw [firstOf_cons_of_has hlocal]
          simp [keeper, hvalid, hhosting, refuse, Except.mapError, bind, Except.bind, throw,
            throwThe, MonadExceptOf.throw, eq_comm]

end

/-! ## Accepted configurations -/

theorem validate_of_parts
    (haddress : ∃ a, Address.read? c.address = some a)
    (hhosting : ∃ hosting, c.readHosting = .ok hosting)
    (hcredentials : ¬c.Has .credentialsMissing)
    (htimeout : ¬c.timeout.IsNonPositive) :
    c.validate = .ok () := by
  have hempty : Address.read? [] = none := by
    decide
  obtain ⟨a, haddress⟩ := haddress
  obtain ⟨hosting, hhosting⟩ := hhosting
  rw [validate_eq_ok_iff, firstOf_eq_none_iff]
  simp only [suspects, List.forall_mem_cons]
  refine ⟨?_, ?_, ?_, hcredentials, htimeout, by simp⟩
  · intro hmissing
    rw [show c.address = [] from hmissing, hempty] at haddress
    cases haddress
  · rintro ⟨-, hunreadable⟩
    rw [haddress] at hunreadable
    cases hunreadable
  · intro hunknown
    rw [readHosting_eq_error_iff.mpr ⟨rfl, hunknown⟩] at hhosting
    cases hhosting

/-- The valid configurations are those that are usable and those that are local. -/
theorem validate_eq_ok_iff_usable :
    c.validate = .ok () ↔ c.IsUsable ∨ c.IsLocal := by
  constructor
  · intro hvalid
    have h := firstOf_eq_none_iff.mp (validate_eq_ok_iff.mp hvalid)
    have hcredentials := h .credentialsMissing (by simp [suspects])
    have htimeout := h .timeoutNotPositive (by simp [suspects])
    have haddress : ∃ a, Address.read? c.address = some a := by
      obtain ⟨a, ha⟩ := exists_readAddress_of_validate hvalid
      exact ⟨a, readAddress_eq_ok_iff.mp ha⟩
    obtain ⟨hosting, hhosting⟩ := exists_readHosting_of_validate hvalid
    have hword := readHosting_eq_ok_iff.mp hhosting
    cases hosting with
    | hetzner =>
        have huser : c.user ≠ [] := fun hnil => hcredentials ⟨hword, .inl hnil⟩
        have hpassword : c.password ≠ [] := fun hnil => hcredentials ⟨hword, .inr hnil⟩
        exact .inl ⟨haddress, hword, huser, hpassword, htimeout⟩
    | basic =>
        exact .inr ⟨haddress, hword, htimeout⟩
  · rintro (h | h)
    · refine
        validate_of_parts h.address ⟨.hetzner, readHosting_eq_ok_iff.mpr h.hosting⟩ ?_ h.timeout
      rintro ⟨-, hnil | hnil⟩
      · exact h.user hnil
      · exact h.password hnil
    · refine
        validate_of_parts h.address ⟨.basic, readHosting_eq_ok_iff.mpr h.hosting⟩ ?_ h.timeout
      rintro ⟨hprovider, -⟩
      exact absurd (h.hosting.symm.trans hprovider) (by decide)

/-- There is a keeper exactly for the usable configurations. -/
theorem exists_keeper_iff_usable :
    (∃ k, c.keeper = .ok k) ↔ c.IsUsable := by
  constructor
  · rintro ⟨k, hkeeper⟩
    obtain ⟨⟨hvalid, hhosting⟩, -⟩ := keeper_eq_ok_iff.mp hkeeper
    rcases validate_eq_ok_iff_usable.mp hvalid with husable | hlocal
    · exact husable
    · have hword := readHosting_eq_ok_iff.mp hhosting
      exact absurd (hword.symm.trans hlocal.hosting) (by decide)
  · intro h
    obtain ⟨a, ha⟩ := h.address
    have hvalid := validate_eq_ok_iff_usable.mpr (.inl h)
    have hhosting : c.readHosting = .ok .hetzner := readHosting_eq_ok_iff.mpr h.hosting
    exact ⟨_, keeper_eq_ok_iff.mpr ⟨⟨hvalid, hhosting⟩, a, readAddress_eq_ok_iff.mpr ha, rfl⟩⟩

/-! ## Appointing a keeper -/

section

variable {α β : Type}

theorem run_setting_bind
    (read : Config → Except ConfigProblem α)
    (f : α → Action Config β)
    (c : Config) :
    (setting read >>= f).run c =
      match refuse (read c) with
      | .error fault => ⟨.error fault, c, []⟩
      | .ok v => (f v).run c := by
  rw [Action.run_bind, show (setting read).run c = ⟨refuse (read c), c, []⟩ from rfl]
  cases refuse (read c) <;> rfl

theorem run_get_bind
    (f : Config → Action Config β)
    (c : Config) :
    (Action.get >>= f).run c = (f c).run c :=
  rfl

theorem run_ofExcept_bind
    (result : Except Fault α)
    (f : α → Action Config β)
    (c : Config) :
    (Action.ofExcept result >>= f).run c =
      match result with
      | .error fault => ⟨.error fault, c, []⟩
      | .ok v => (f v).run c := by
  cases result <;> rfl

end

/-- Appointing a keeper changes no setting and is noticed nowhere outside; the keeper is the
one for the configuration, and believes nothing at first. -/
theorem run_appoint
    (c : Config) :
    appoint.run c = ⟨c.keeper.map fun k => (k, {}), c, []⟩ := by
  rw [appoint, run_setting_bind, keeper]
  cases refuse c.validate with
  | error fault =>
      rfl
  | ok _ =>
      dsimp only
      rw [run_setting_bind]
      cases refuse c.readHosting with
      | error fault =>
          rfl
      | ok hosting =>
          cases hosting with
          | basic =>
              rfl
          | hetzner =>
              dsimp only
              rw [run_setting_bind]
              cases refuse c.readAddress with
              | error fault =>
                  rfl
              | ok a =>
                  dsimp only
                  rw [run_get_bind, run_ofExcept_bind]
                  simp only [bind, Except.bind]
                  cases Client.make c.user c.password a.text c.clientOptions <;> rfl

end Config

/-! ## The keeper of a configuration -/

namespace Keeper

variable {k : Keeper} {s : Situation}

/-- A keeper does its work as a configuration says. -/
structure Serves (k : Keeper) (c : Config) : Prop where
  address : Address.read? c.address = some k.client.address
  endpoint : c.endpoint = .ok k.client.endpoint
  user : k.client.user = c.user
  password : k.client.password = c.password
  timeout : k.client.timeout = c.timeout
  verbose : k.client.verbose = c.verbose
  ttl : k.ttl = c.statusTtl
  source : k.source =
    .probed { host := c.probeHost, port := c.probePort, timeout := c.probeTimeout }
  /-- The client learns the own address in the same way. -/
  sameSource : k.client.source = k.source

/-- The keeper of a configuration serves it. -/
theorem serves_of_keeper
    {c : Config}
    (h : c.keeper = .ok k) :
    k.Serves c := by
  obtain ⟨-, a, haddress, rfl⟩ := Config.keeper_eq_ok_iff.mp h
  have hread := Config.readAddress_eq_ok_iff.mp haddress
  have hendpoint : c.endpoint = .ok (c.keeperAt a).client.endpoint := by
    rw [Config.endpoint, haddress]
    rfl
  exact
    { address := hread, endpoint := hendpoint, user := rfl, password := rfl, timeout := rfl
      verbose := rfl, ttl := rfl, source := rfl, sameSource := rfl }

/-- A query asks the provider, whatever is believed: it sends the read of the failover address
and no other request, before anything else is contacted. Where that request cannot be made, the
query ends in the fault that says why, and contacts nothing. -/
structure Consults (k : Keeper) (s : Situation) : Prop where
  uncached : ¬k.AnswersFromCache s
  asked {r : Request} :
    k.client.request none = .ok r →
      methodName r.write = ("GET" : Text) ∧
      (Event.contacts ((k.perform .query).run s).events).head? = some (s.contact r) ∧
      Event.requests ((k.perform .query).run s).events = [r]
  unasked {fault : Fault} :
    k.client.request none = .error fault →
      ((k.perform .query).run s).result = .error fault ∧
      Event.contacts ((k.perform .query).run s).events = []

/-- A read begins with its request, and sends no other. -/
theorem RefreshCourse.contacts_of_request
    {o : Outcome Situation FailoverRecord}
    (h : RefreshCourse k s o)
    {r : Request}
    (hrequest : k.client.request none = .ok r) :
    ∃ looked,
      Event.contacts o.events = s.contact r :: looked ∧
      Event.requests looked = [] := by
  cases h with
  | unsent hnone hresult hstate hcontacts =>
      rw [hrequest] at hnone
      cases hnone
  | refused hsome hverdict hresult hstate hcontacts =>
      rw [hrequest] at hsome
      cases hsome
      exact ⟨_, hcontacts, rfl⟩
  | undecoded hsome hbody hrecord hresult hstate hcontacts =>
      rw [hrequest] at hsome
      cases hsome
      exact ⟨_, hcontacts, rfl⟩
  | unidentified hsome hbody hrecord hidentity hresult hstate hcontacts =>
      rw [hrequest] at hsome
      cases hsome
      exact ⟨_, hcontacts, rfl⟩
  | compared hsome hbody hrecord hidentity hresult hstate hcontacts =>
      rw [hrequest] at hsome
      cases hsome
      exact ⟨_, hcontacts, rfl⟩

/-- A read of which no request can be made ends at once. -/
theorem RefreshCourse.unsent_of_request
    {o : Outcome Situation FailoverRecord}
    (h : RefreshCourse k s o)
    {fault : Fault}
    (hrequest : k.client.request none = .error fault) :
    o.result = .error fault ∧ Event.contacts o.events = [] := by
  cases h with
  | unsent hnone hresult hstate hcontacts =>
      rw [hrequest] at hnone
      cases hnone
      exact ⟨hresult, hcontacts⟩
  | refused hsome hverdict hresult hstate hcontacts =>
      rw [hrequest] at hsome
      cases hsome
  | undecoded hsome hbody hrecord hresult hstate hcontacts =>
      rw [hrequest] at hsome
      cases hsome
  | unidentified hsome hbody hrecord hidentity hresult hstate hcontacts =>
      rw [hrequest] at hsome
      cases hsome
  | compared hsome hbody hrecord hidentity hresult hstate hcontacts =>
      rw [hrequest] at hsome
      cases hsome

/-- A query that is not answered from the cache asks the provider. -/
theorem consults_of_uncached
    (h : ¬k.AnswersFromCache s) :
    k.Consults s := by
  have hcourse := k.refresh_course (s.believing .unknown)
  refine ⟨h, ?_, ?_⟩
  · intro r hrequest
    obtain ⟨looked, hcontacts, hlooked⟩ := hcourse.contacts_of_request hrequest
    rw [← contacts_query h] at hcontacts
    refine ⟨(Client.request_read hrequest).1, ?_, ?_⟩
    · rw [hcontacts]
      rfl
    · have hsent : Event.requests ((s.believing .unknown).contact r :: looked) =
          r :: Event.requests looked := rfl
      rw [Event.requests_of_contacts hcontacts, hsent, hlooked]
  · intro fault hrequest
    obtain ⟨hresult, hcontacts⟩ := hcourse.unsent_of_request hrequest
    refine ⟨?_, (contacts_query h).trans hcontacts⟩
    rw [perform_query_of_uncached h]
    -- why no request can be made is no failure, so it is not turned into a no
    have hother := Client.not_isFailure_of_request hrequest
    cases fault with
    | failure f =>
        exact absurd trivial hother
    | _ =>
        simp [decision, hresult, Except.map]

end Keeper

/-! ## Acceptance -/

/-- Which configurations are accepted. There is a keeper exactly for the usable ones; the valid
ones are these and the local ones. Of a configuration that is not accepted the first problem
that it has is told, and nothing else happens. The configuration stays as it is, and its keeper
serves it, begins with no belief and no answer, and asks the provider when it is first
queried. -/
theorem Config.appointed_if_usable
    (c : Config) :
    ((∃ k, c.keeper = .ok k) ↔ c.IsUsable) ∧
    (c.validate = .ok () ↔ c.IsUsable ∨ c.IsLocal) ∧
    (∀ problem,
      c.validate = .error problem ↔ c.firstOf c.suspects = some problem) ∧
    (∀ fault,
      c.keeper = .error fault ↔
        ∃ problem,
          c.firstOf (c.suspects ++ [.hostingNotProvided .basic]) = some problem ∧
          fault = .failure (.config problem)) ∧
    (setting validate).run c = ⟨refuse c.validate, c, []⟩ ∧
    appoint.run c = ⟨c.keeper.map fun k => (k, {}), c, []⟩ ∧
    (∀ k status,
      (appoint.run c).result = .ok (k, status) →
      status.belief = .unknown ∧
      status.checkedAt = none ∧
      k.Serves c ∧
      ∀ w, k.Consults ⟨status, w⟩) := by
  refine
    ⟨exists_keeper_iff_usable, validate_eq_ok_iff_usable, fun _ => validate_eq_error_iff,
      fun _ => keeper_eq_error_iff, rfl, run_appoint c, ?_⟩
  intro k status happointed
  rw [run_appoint] at happointed
  cases hkeeper : c.keeper with
  | error fault =>
      rw [hkeeper] at happointed
      cases happointed
  | ok k' =>
      rw [hkeeper] at happointed
      cases happointed
      refine ⟨rfl, rfl, Keeper.serves_of_keeper hkeeper, ?_⟩
      intro w
      exact Keeper.consults_of_uncached fun hcached => hcached.2 rfl

/-- A scoped address is accepted, credentials given. -/
theorem Config.appointed_if_usable_sample :
    let c := spelled "fe80::1%eth0" defaultBaseUrl
    ∃ k, (appoint.run c).result = .ok (k, {}) ∧ k.Serves c ∧ ∀ w, k.Consults (.fresh w) := by
  intro c
  have haddress : (Address.read? c.address).isSome = true := by
    decide +kernel
  have hrest :
      c.hosting = "hetzner" ∧ c.user ≠ [] ∧ c.password ≠ [] ∧ ¬c.timeout.IsNonPositive := by
    decide +kernel
  have husable : c.IsUsable :=
    ⟨Option.isSome_iff_exists.mp haddress, hrest.1, hrest.2.1, hrest.2.2.1, hrest.2.2.2⟩
  obtain ⟨hkeeper, -, -, -, -, hrun, happointed⟩ := appointed_if_usable c
  obtain ⟨k, hk⟩ := hkeeper.mpr husable
  have hresult : (appoint.run c).result = .ok (k, {}) := by
    rw [hrun, hk]
    rfl
  obtain ⟨-, -, hserves, hconsults⟩ := happointed k {} hresult
  exact ⟨k, hresult, hserves, hconsults⟩

end FloatingAddress
