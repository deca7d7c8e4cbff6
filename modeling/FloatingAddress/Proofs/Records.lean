import FloatingAddress.Proofs.Addresses
import FloatingAddress.Proofs.Classification

/-!
# Decoding undoes encoding

A record of either kind is written as a body: one member that names the kind and holds the
fields in the order of their declaration, with an address in its one written form. The body
decodes to the record that was written. There is one exception that the form cannot carry: two
surrogates in a text that are the halves of a pair are read as one code point.

* `Address.read?_joined_iff`: an address after its text went through a JSON string;
* `Provider.Reply.body`: the body that a record is written as;
* `Provider.Reply.texts`, `Provider.Reply.number`: the texts and the integer of a record;
* `Provider.decode_body`: a record is read back exactly if its texts hold no pair.
-/

namespace FloatingAddress

/-! ## Addresses that went through a JSON text -/

namespace Text

/-- Joining leaves alone what stands in front of the first surrogate. -/
theorem joined_append
    {t : Text}
    (h : ∀ c ∈ t, c.isSurrogate = false)
    (rest : Text) :
    joined (t ++ rest) = t ++ joined rest := by
  induction t with
  | nil =>
      rfl
  | cons c t ih =>
      obtain ⟨hc, ht⟩ := List.forall_mem_cons.mp h
      have htail := ih ht
      cases hnext : t ++ rest with
      | nil =>
          obtain ⟨rfl, rfl⟩ := List.append_eq_nil_iff.mp hnext
          rfl
      | cons low further =>
          have hpair : Json.pair? c.val low.val = none := by
            cases hjoin : Json.pair? c.val low.val with
            | none =>
                rfl
            | some p =>
                rw [(isSurrogate_of_pair? hjoin).1] at hc
                cases hc
          rw [hnext] at htail
          simp [hnext, joined, hpair, htail]

end Text

/-- The text after a percent sign names the scope. -/
theorem V6.scope_of_read?
    {front name : Text}
    {a : V6}
    (hfront : ('%' : CodePoint) ∉ front)
    (h : read? (front ++ ("%" ++ name)) = some a) :
    a.scope.map Scope.name = some name := by
  have hcut : Text.cutAround "%" (front ++ ("%" ++ name)) = some (front, name) :=
    Text.cutAround_mark hfront name
  simp only [read?, hcut] at h
  obtain ⟨scope, hscope, hfound⟩ := Option.bind_eq_some_iff.mp h
  have hname : scope.name = name := by
    unfold readScope? at hscope
    split at hscope
    · rw [← Option.some.inj hscope]
    · cases hscope
  obtain ⟨groups, -, hgroups⟩ := Option.bind_eq_some_iff.mp hfound
  split at hgroups
  · rw [← Option.some.inj hgroups, ← hname]
    rfl
  · cases hgroups

/-- Of the text of an address only the name of a scope may be joined. -/
theorem V6.joined_text
    {a : V6}
    {scope : Scope}
    (h : a.scope = some scope) :
    a.text.joined = groupsText a.groups ++ ("%" ++ scope.name.joined) := by
  have hmark : ∀ c ∈ ("%" : Text), c.isSurrogate = false := by
    decide
  have htext : a.text = groupsText a.groups ++ ("%" ++ scope.name) := by
    rw [text, h, ← List.append_assoc]
  rw [htext, Text.joined_append (isSurrogate_of_mem_groupsText a.groups),
    Text.joined_append hmark]

/-- An address with another scope is another address. -/
theorem V6.isWhole_of_read?_joined
    {a : V6}
    (h : read? a.text.joined = some a) :
    a.text.IsWhole := by
  cases hscope : a.scope with
  | none =>
      have htext : a.text = groupsText a.groups := by
        rw [text, hscope]
      rw [htext]
      exact Text.isWhole_of_scalar (isSurrogate_of_mem_groupsText a.groups)
  | some scope =>
      have hpercent : ('%' : CodePoint) ∉ groupsText a.groups :=
        notMem_groupsText (by decide) (by decide) a.groups
      have hjoined := joined_text hscope
      rw [hjoined] at h
      have hname := scope_of_read? hpercent h
      rw [hscope] at hname
      rw [← Text.joined_eq_self_iff, hjoined, ← Option.some.inj hname, text, hscope,
        ← List.append_assoc]

/-- The text of an address that went through a string denotes that address exactly if it
holds no pair of surrogates. -/
theorem Address.read?_joined_iff
    (a : Address) :
    read? a.text.joined = some a ↔ a.text.IsWhole := by
  constructor
  · intro hread
    cases a with
    | v4 a =>
        exact Text.isWhole_of_scalar a.isSurrogate_of_mem_text
    | v6 a =>
        refine V6.isWhole_of_read?_joined ?_
        unfold read? at hread
        split at hread
        · cases hread
        · simpa [text] using hread
  · intro hwhole
    rw [(Text.joined_eq_self_iff _).mpr hwhole, a.read?_text]

namespace Provider

/-! ## Records as bodies -/

/-- The fields of a record, in the order of their declaration. -/
def FailoverRecord.toValue (r : FailoverRecord) : Json.Value :=
  .object
    [("ip", .string r.ip), ("netmask", .string r.netmask), ("server_ip", .string r.serverIp),
     ("server_number", .integer r.serverNumber),
     ("active_server_ip", .string r.activeServerIp.text)]

/-- The fields of a record, in the order of their declaration. -/
def ErrorRecord.toValue (r : ErrorRecord) : Json.Value :=
  .object
    [("status", .integer r.status), ("code", .string r.code), ("message", .string r.message)]

namespace Reply

/-- The object that holds a record under the name of its kind. -/
def toValue : Reply → Json.Value
  | failover r => .object [("failover", r.toValue)]
  | error r => .object [("error", r.toValue)]

/-- The body that a record is written as. -/
def body (reply : Reply) : Text :=
  reply.toValue.print

/-- The texts of a record, with the written form of an address. -/
def texts : Reply → List Text
  | failover r => [r.ip, r.netmask, r.serverIp, r.activeServerIp.text]
  | error r => [r.code, r.message]

/-- The integer of a record. -/
def number : Reply → Int
  | failover r => r.serverNumber
  | error r => r.status

variable {reply : Reply}

theorem toValue_fits
    (hdigits : (Numeral.ofNat reply.number.natAbs).length ≤ Numeral.maxDigits) :
    reply.toValue.Fits Json.maxDepth := by
  cases reply with
  | failover r =>
      refine .object (List.forall_mem_singleton.mpr ?_)
      refine .object ?_
      simp only [List.forall_mem_cons]
      exact ⟨.string _, .string _, .string _, .integer hdigits, .string _, by simp⟩
  | error r =>
      refine .object (List.forall_mem_singleton.mpr ?_)
      refine .object ?_
      simp only [List.forall_mem_cons]
      exact ⟨.integer hdigits, .string _, .string _, by simp⟩

end Reply

/-- The fields of a record are read back, its address from the text that was read. -/
theorem FailoverRecord.ofValue_joined
    (r : FailoverRecord) :
    ofValue r.toValue.joined =
      match addressOf (.string r.activeServerIp.text.joined) with
      | .ok a => .ok ⟨r.ip.joined, r.netmask.joined, r.serverIp.joined, r.serverNumber, a⟩
      | .error d => .error [("active_server_ip", d)] := by
  obtain ⟨fields, hfields⟩ : ∃ fields, r.toValue.joined = .object fields :=
    ⟨_, rfl⟩
  have hip : textField fields "ip" = .ok r.ip.joined := by
    cases hfields
    rfl
  have hnetmask : textField fields "netmask" = .ok r.netmask.joined := by
    cases hfields
    rfl
  have hserverIp : textField fields "server_ip" = .ok r.serverIp.joined := by
    cases hfields
    rfl
  have hserverNumber : integerField fields "server_number" = .ok r.serverNumber := by
    cases hfields
    rfl
  have haddress :
      addressField fields "active_server_ip" =
        addressOf (.string r.activeServerIp.text.joined) := by
    cases hfields
    rfl
  rw [hfields, ofValue, ofFields, hip, hnetmask, hserverIp, hserverNumber, haddress]
  cases addressOf (.string r.activeServerIp.text.joined) with
  | error d =>
      rfl
  | ok a =>
      rfl

/-- The fields of a record are read back. -/
theorem ErrorRecord.ofValue_joined
    (r : ErrorRecord) :
    ofValue r.toValue.joined = .ok ⟨r.status, r.code.joined, r.message.joined⟩ := by
  rfl

theorem addressOf_string_eq_ok_iff
    (t : Text)
    (a : Address) :
    addressOf (.string t) = .ok a ↔ Address.read? t = some a := by
  cases hread : Address.read? t with
  | none =>
      simp [addressOf, hread]
  | some b =>
      simp [addressOf, hread]

theorem FailoverRecord.ofValue_joined_eq_ok_iff
    (r : FailoverRecord) :
    ofValue r.toValue.joined = .ok r ↔
      r.ip.IsWhole ∧ r.netmask.IsWhole ∧ r.serverIp.IsWhole ∧
        r.activeServerIp.text.IsWhole := by
  rw [ofValue_joined, ← Address.read?_joined_iff, ← addressOf_string_eq_ok_iff]
  simp only [← Text.joined_eq_self_iff]
  cases addressOf (.string r.activeServerIp.text.joined) with
  | error d =>
      simp
  | ok a =>
      obtain ⟨ip, netmask, serverIp, serverNumber, activeServerIp⟩ := r
      simp

theorem ErrorRecord.ofValue_joined_eq_ok_iff
    (r : ErrorRecord) :
    ofValue r.toValue.joined = .ok r ↔ r.code.IsWhole ∧ r.message.IsWhole := by
  rw [ofValue_joined]
  simp only [← Text.joined_eq_self_iff]
  obtain ⟨status, code, message⟩ := r
  simp

/-- A record under the name of its kind is taken for a record of that kind. -/
theorem Reply.ofValue_joined_eq_ok_iff
    (reply : Reply) :
    ofValue reply.toValue.joined = .ok reply ↔ ∀ t ∈ reply.texts, t.IsWhole := by
  cases reply with
  | failover r =>
      have hvalue :
          ofValue (failover r).toValue.joined =
            foundFailover (FailoverRecord.ofValue r.toValue.joined) := by
        have hnone : ∀ w, ¬Held [("failover", r.toValue.joined)] "error" w := by
          intro w hheld
          cases hheld.1
        have hheld : Held [("failover", r.toValue.joined)] "failover" r.toValue.joined :=
          ⟨rfl, by intro h; cases h⟩
        exact ofMembers_of_failover hnone hheld
      have hrecord :
          foundFailover (FailoverRecord.ofValue r.toValue.joined) = .ok (failover r) ↔
            FailoverRecord.ofValue r.toValue.joined = .ok r := by
        cases FailoverRecord.ofValue r.toValue.joined <;> simp [foundFailover]
      rw [hvalue, hrecord, r.ofValue_joined_eq_ok_iff]
      simp [texts]
  | error r =>
      have hvalue :
          ofValue (error r).toValue.joined =
            foundError (ErrorRecord.ofValue r.toValue.joined) := by
        have hheld : Held [("error", r.toValue.joined)] "error" r.toValue.joined :=
          ⟨rfl, by intro h; cases h⟩
        exact ofMembers_of_error hheld
      have hrecord :
          foundError (ErrorRecord.ofValue r.toValue.joined) = .ok (error r) ↔
            ErrorRecord.ofValue r.toValue.joined = .ok r := by
        cases ErrorRecord.ofValue r.toValue.joined <;> simp [foundError]
      rw [hvalue, hrecord, r.ofValue_joined_eq_ok_iff]
      simp [texts]

/-! ## Decoding what was written -/

section Decoding

variable {σ : Type}

/-- A record that is written as a body is decoded to itself if its texts hold no surrogates;
more exactly, if and only if no two surrogates in them are the halves of a pair. -/
theorem decode_body
    (reply : Reply)
    (hdigits : (Numeral.ofNat reply.number.natAbs).length ≤ Numeral.maxDigits)
    (s : σ) :
    ((∀ t ∈ reply.texts, ∀ c ∈ t, c.isSurrogate = false) →
      ((decode reply.body).run s).result = .ok reply) ∧
    (((decode reply.body).run s).result = .ok reply ↔ ∀ t ∈ reply.texts, t.IsWhole) := by
  have hread : Json.read reply.body = .ok reply.toValue.joined :=
    Json.read_print (Reply.toValue_fits hdigits)
  have hresult :
      ((decode reply.body).run s).result = .ok reply ↔ ∀ t ∈ reply.texts, t.IsWhole := by
    rw [run_decode, Reply.decode, hread, ← Reply.ofValue_joined_eq_ok_iff]
    cases hvalue : Reply.ofValue reply.toValue.joined <;> simp [hvalue]
  exact
    ⟨fun h => hresult.mpr fun t ht => Text.isWhole_of_scalar (h t ht), hresult⟩

/-- A link-local address with its scope. -/
def linkLocal : Address :=
  .v6 ⟨[0xFE80, 0, 0, 0, 0, 0, 0, 1], rfl, some ⟨"eth0", by decide, by decide, by decide⟩⟩

/-- A record with a mark, a control character and a code point above plane 0 in its texts. -/
def sampleRecord : FailoverRecord :=
  ⟨[CodePoint.quotationMark, CodePoint.backslash], [⟨0x1F600, by decide⟩],
    [⟨0x07, by decide⟩, ⟨0xE9, by decide⟩], -321, linkLocal⟩

/-- An error whose message is a pair of surrogates. -/
def pairError : ErrorRecord :=
  ⟨403, "FORBIDDEN", [⟨0xD83D, by decide⟩, ⟨0xDE00, by decide⟩]⟩

/-- The sample record is read back, and an error with a pair in its message is not. -/
theorem decode_body_sample :
    ((Numeral.ofNat (Reply.failover sampleRecord).number.natAbs).length ≤ Numeral.maxDigits ∧
      ((decode (Reply.failover sampleRecord).body).run ()).result =
        .ok (.failover sampleRecord)) ∧
    ((Numeral.ofNat (Reply.error pairError).number.natAbs).length ≤ Numeral.maxDigits ∧
      ((decode (Reply.error pairError).body).run ()).result ≠ .ok (.error pairError)) := by
  have hrecord :
      (Numeral.ofNat (Reply.failover sampleRecord).number.natAbs).length ≤
        Numeral.maxDigits := by
    decide
  have herror :
      (Numeral.ofNat (Reply.error pairError).number.natAbs).length ≤ Numeral.maxDigits := by
    decide
  have hscalar :
      ∀ t ∈ (Reply.failover sampleRecord).texts, ∀ c ∈ t, c.isSurrogate = false := by
    decide
  have hpair : ¬Text.IsWhole pairError.message := by
    rintro ⟨hpair, -⟩
    exact absurd hpair (by decide)
  refine ⟨⟨hrecord, (decode_body _ hrecord ()).1 hscalar⟩, herror, fun hread => hpair ?_⟩
  exact (decode_body _ herror ()).2.mp hread _ (by simp [Reply.texts])

end Decoding

end Provider
end FloatingAddress
