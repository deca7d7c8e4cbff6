import FloatingAddress.Keeper
import FloatingAddress.Proofs.Addresses

/-!
# Where a keeper finds its address

A configuration tells the place of the failover address at the web service, and so does the
client that is made for it. The client is made for the written form of the address, which it
reads again. The two agree: an address is the one that its written form denotes. Of the way
in which the address and the web service are written, no more matters than which address it
is, and the slashes at the end do not.

* `Client.make_text`: a client can be made for the written form of any address;
* `Config.keeper_eq_ok_iff`: when there is a keeper for a configuration, and which;
* `Text.SameUpToSlashes`: texts that differ in the slashes at their ends;
* `Config.endpoints_agree`: the place of an address, for one configuration and for two.
-/

namespace FloatingAddress

/-! ## Slashes at the end -/

namespace Text

/-- Two texts differ at most in how many slashes stand at their ends. -/
def SameUpToSlashes (t t' : Text) : Prop :=
  ∃ (stem : Text) (m n : Nat),
    t = stem ++ List.replicate m ('/' : CodePoint) ∧
    t' = stem ++ List.replicate n ('/' : CodePoint)

theorem stripEnd_append_replicate
    {drop : CodePoint → Bool}
    {c : CodePoint}
    (hc : drop c)
    (t : Text)
    (n : Nat) :
    stripEnd drop (t ++ List.replicate n c) = stripEnd drop t := by
  induction n with
  | zero =>
      simp
  | succ n ih =>
      rw [List.replicate_succ', ← List.append_assoc]
      unfold stripEnd at ih ⊢
      rw [List.reverse_append, List.reverse_singleton, List.singleton_append,
        List.dropWhile_cons_of_pos hc]
      exact ih

theorem SameUpToSlashes.stripEnd_eq
    {t t' : Text}
    (h : SameUpToSlashes t t') :
    t.stripEnd (fun c => c = '/') = t'.stripEnd (fun c => c = '/') := by
  obtain ⟨stem, m, n, rfl, rfl⟩ := h
  rw [stripEnd_append_replicate (by simp), stripEnd_append_replicate (by simp)]

end Text

/-! ## The client for an address -/

/-- A client for an address. -/
def Client.ofAddress (user password : Text) (a : Address) (options : ClientOptions) : Client where
  user := user
  password := password
  address := a
  baseUrl := options.baseUrl.stripEnd fun c => c = '/'
  timeout := options.timeout
  verbose := options.verbose
  localAddress := options.localAddress
  source := options.source

/-- The written form of an address is read as that address. -/
theorem Client.make_text
    (user password : Text)
    (a : Address)
    (options : ClientOptions) :
    Client.make user password a.text options = .ok (ofAddress user password a options) := by
  rw [make, Address.read?_text]
  rfl

namespace Config

variable {c c' : Config} {k k' : Keeper}

/-- The keeper for a configuration whose failover address is known. -/
def keeperAt (c : Config) (a : Address) : Keeper where
  client := Client.ofAddress c.user c.password a c.clientOptions
  ttl := c.statusTtl
  source := .probed c.probe

/-- A configuration that is valid names an address. -/
theorem exists_readAddress_of_validate
    (h : c.validate = .ok ()) :
    ∃ a, c.readAddress = .ok a := by
  unfold validate at h
  by_cases hmissing : c.address = []
  · rw [if_pos hmissing] at h
    cases h
  · rw [if_neg hmissing] at h
    cases haddress : c.readAddress with
    | error problem =>
        rw [haddress] at h
        cases h
    | ok a =>
        exact ⟨a, rfl⟩

/-- There is a keeper for a configuration exactly if it is valid and leaves the routing to the
provider. -/
theorem keeper_eq_ok_iff :
    c.keeper = .ok k ↔
      (c.validate = .ok () ∧ c.readHosting = .ok .hetzner) ∧
      ∃ a, c.readAddress = .ok a ∧ k = c.keeperAt a := by
  unfold keeper
  cases hvalid : c.validate with
  | error problem =>
      simp [refuse, Except.mapError, bind, Except.bind]
  | ok _ =>
      cases hhosting : c.readHosting with
      | error problem =>
          simp [refuse, Except.mapError, bind, Except.bind]
      | ok hosting =>
          cases hosting with
          | basic =>
              simp [refuse, Except.mapError, bind, Except.bind, throw, throwThe,
                MonadExceptOf.throw]
          | hetzner =>
              cases haddress : c.readAddress with
              | error problem =>
                  simp [refuse, Except.mapError, bind, Except.bind]
              | ok a =>
                  simp [refuse, Except.mapError, bind, Except.bind, Client.make_text, pure,
                    Except.pure, keeperAt, eq_comm]

theorem readAddress_eq_ok_iff
    {a : Address} :
    c.readAddress = .ok a ↔ Address.read? c.address = some a := by
  unfold readAddress
  cases Address.read? c.address <;> simp

/-- At one web service different addresses are found at different places. -/
theorem endpointAt_inj
    (h : c.baseUrl.SameUpToSlashes c'.baseUrl)
    {a a' : Address} :
    endpointAt c.baseUrl a = endpointAt c'.baseUrl a' ↔ a = a' := by
  unfold endpointAt
  rw [h.stripEnd_eq, List.append_cancel_left_eq, Address.text_inj]

/-- A configuration that is accepted has a keeper: making the client does not fail. The client
has the address and the place that the configuration tells. Two keepers at the same web
service look at the same place exactly if the addresses in their configurations are the same,
however they are written. -/
theorem endpoints_agree
    (c : Config) :
    ((∃ k, c.keeper = .ok k) ↔ c.validate = .ok () ∧ c.readHosting = .ok .hetzner) ∧
    (∀ k, c.keeper = .ok k →
      c.readAddress = .ok k.client.address ∧
      Client.make c.user c.password k.client.address.text c.clientOptions = .ok k.client ∧
      c.endpoint = .ok k.client.endpoint) ∧
    (∀ (c' : Config) (k k' : Keeper),
      c.keeper = .ok k →
      c'.keeper = .ok k' →
      c.baseUrl.SameUpToSlashes c'.baseUrl →
      (k.client.endpoint = k'.client.endpoint ↔
        Address.read? c.address = Address.read? c'.address)) := by
  refine ⟨⟨?_, ?_⟩, ?_, ?_⟩
  · rintro ⟨k, hkeeper⟩
    exact (keeper_eq_ok_iff.mp hkeeper).1
  · intro haccepted
    obtain ⟨a, ha⟩ := exists_readAddress_of_validate haccepted.1
    exact ⟨c.keeperAt a, keeper_eq_ok_iff.mpr ⟨haccepted, a, ha, rfl⟩⟩
  · intro k hkeeper
    obtain ⟨-, a, ha, rfl⟩ := keeper_eq_ok_iff.mp hkeeper
    refine ⟨ha, Client.make_text c.user c.password a c.clientOptions, ?_⟩
    rw [endpoint, ha]
    rfl
  · intro c' k k' hkeeper hkeeper' hbase
    obtain ⟨-, a, ha, rfl⟩ := keeper_eq_ok_iff.mp hkeeper
    obtain ⟨-, a', ha', rfl⟩ := keeper_eq_ok_iff.mp hkeeper'
    rw [readAddress_eq_ok_iff] at ha ha'
    rw [ha, ha', Option.some.injEq]
    exact endpointAt_inj hbase

/-- A configuration with credentials. -/
def spelled (address baseUrl : Text) : Config where
  address := address
  user := "robot-user"
  password := "s3cret-pass"
  baseUrl := baseUrl

/-- Two spellings of one address, at a web service with slashes at its end and without. -/
theorem endpoints_agree_sample :
    ∃ k k',
      (spelled "2001:DB8:0:0:0:0:198.51.100.7" (defaultBaseUrl ++ "//")).keeper = .ok k ∧
      (spelled "2001:db8::c633:6407" defaultBaseUrl).keeper = .ok k' ∧
      k.client.endpoint = k'.client.endpoint := by
  let c := spelled "2001:DB8:0:0:0:0:198.51.100.7" (defaultBaseUrl ++ "//")
  let c' := spelled "2001:db8::c633:6407" defaultBaseUrl
  have haccepted :
      (c.validate = .ok () ∧ c.readHosting = .ok .hetzner) ∧
      c'.validate = .ok () ∧ c'.readHosting = .ok .hetzner := by
    decide +kernel
  have hbase : c.baseUrl.SameUpToSlashes c'.baseUrl :=
    ⟨defaultBaseUrl, 2, 0, rfl, by simp [c', spelled]⟩
  have haddress : Address.read? c.address = Address.read? c'.address := by
    decide +kernel
  obtain ⟨hmade, -, hplaces⟩ := endpoints_agree c
  obtain ⟨k, hkeeper⟩ := hmade.mpr haccepted.1
  obtain ⟨k', hkeeper'⟩ := (endpoints_agree c').1.mpr haccepted.2
  exact ⟨k, k', hkeeper, hkeeper', (hplaces c' k k' hkeeper hkeeper' hbase).mpr haddress⟩

end Config
end FloatingAddress
