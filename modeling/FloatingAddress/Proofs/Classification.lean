import FloatingAddress.Proofs.Course
import FloatingAddress.Proofs.Documents

/-!
# What a body is taken for

A body that can be read at all holds a JSON value, and what it is taken for is a matter of
that value alone. An object is judged by one of its members: by `error` if that is there and
not null, whatever else it holds, else by `failover`. The member is a record if it is an
object in which each declared field is there and valid.

* `Provider.Declared`, `Provider.defectsIn`: the fields that a record declares, and those of
  them that are missing or invalid, each of which is reported once
  (`Provider.map_fst_defectsIn`, `Provider.nodup_map_fst_defectsIn`);
* `Provider.Taken`: what the value of a member is taken for, by either kind of record;
* `Provider.Classified`: what a whole value is taken for;
* `Provider.run_decode_iff`: a body is decoded to what its value is taken for, with one log
  line for a record and none otherwise.
-/

namespace FloatingAddress
namespace Provider

open Json

/-! ## Declared fields -/

/-- The last field with a name is there, and is valid with a value. -/
def Declares {α : Type} (rule : Value → Except Defect α) (fields : Members) (name : Text)
    (a : α) : Prop :=
  ∃ v, fields.get? name = some v ∧ rule v = .ok a

/-- A field that a record declares: its name, and what is wrong with a value for it. -/
structure Declared where
  /-- The name of the field. -/
  name : Text
  /-- What is wrong with a value, none if it is valid. -/
  defect? : Value → Option Defect

/-- A field whose values are read by a rule. -/
def Declared.readBy {α : Type} (name : Text) (rule : Value → Except Defect α) : Declared :=
  ⟨name, fun v =>
    match rule v with
    | .ok _ => none
    | .error d => some d⟩

/-- What is wrong with a declared field, none if it is there and valid. -/
def Declared.defectIn? (field : Declared) (fields : Members) : Option Defect :=
  match fields.get? field.name with
  | none => some .missing
  | some v => field.defect? v

/-- The declared fields that are missing or invalid, in the order of their declaration. -/
def defectsIn (declared : List Declared) (fields : Members) : Defects :=
  declared.filterMap fun field => (field.defectIn? fields).map fun d => (field.name, d)

section Fields

variable {α : Type} {rule : Value → Except Defect α} {fields : Members} {name : Text}

theorem field_eq_ok_iff
    (a : α) :
    field rule fields name = .ok a ↔ Declares rule fields name a := by
  unfold field Declares
  cases fields.get? name with
  | none =>
      simp
  | some v =>
      simp

theorem defectsIn_nil :
    defectsIn [] fields = [] :=
  rfl

/-- The first of the declared fields is defective or not. -/
theorem defectsIn_cons
    (rest : List Declared) :
    defectsIn (.readBy name rule :: rest) fields =
      defect name (field rule fields name) ++ defectsIn rest fields := by
  have hfirst :
      ((Declared.readBy name rule).defectIn? fields).map (fun d => (name, d)) =
        (defect name (field rule fields name)).head? := by
    unfold Declared.defectIn? field
    simp only [Declared.readBy]
    cases fields.get? name with
    | none =>
        rfl
    | some v =>
        simp only
        cases rule v <;> rfl
  cases hfield : field rule fields name with
  | error d =>
      rw [hfield] at hfirst
      exact List.filterMap_cons_some hfirst
  | ok a =>
      rw [hfield] at hfirst
      exact List.filterMap_cons_none hfirst

/-- The names that are reported are those of the defective fields, each as often as it is
declared and in that order. -/
theorem map_fst_defectsIn
    (declared : List Declared)
    (fields : Members) :
    (defectsIn declared fields).map Prod.fst =
      (declared.filter fun field => (field.defectIn? fields).isSome).map Declared.name := by
  induction declared with
  | nil =>
      rfl
  | cons field declared ih =>
      unfold defectsIn at ih ⊢
      cases hdefect : field.defectIn? fields with
      | none =>
          simp [hdefect, ih]
      | some d =>
          simp [hdefect, ih]

end Fields

theorem error_eq_iff
    {α : Type}
    {found defects : Defects}
    (h : found ≠ []) :
    (.error found : Except Defects α) = .error defects ↔ found = defects ∧ defects ≠ [] := by
  constructor
  · rintro ⟨⟩
    exact ⟨rfl, h⟩
  · rintro ⟨rfl, -⟩
    rfl

/-! ## Records -/

namespace ErrorRecord

/-- The fields of an error record. -/
def declared : List Declared :=
  [.readBy "status" integerOf, .readBy "code" textOf, .readBy "message" textOf]

/-- A record holds the values of the fields that it declares. -/
structure ReadFrom (r : ErrorRecord) (fields : Members) : Prop where
  status : Declares integerOf fields "status" r.status
  code : Declares textOf fields "code" r.code
  message : Declares textOf fields "message" r.message

theorem readFrom_iff
    {r : ErrorRecord}
    {fields : Members} :
    r.ReadFrom fields ↔
      integerField fields "status" = .ok r.status ∧
      textField fields "code" = .ok r.code ∧
      textField fields "message" = .ok r.message := by
  simp only [integerField, textField, field_eq_ok_iff]
  exact ⟨fun h => ⟨h.status, h.code, h.message⟩, fun h => ⟨h.1, h.2.1, h.2.2⟩⟩

theorem defectsIn_declared
    (fields : Members) :
    defectsIn declared fields =
      defect "status" (integerField fields "status") ++
        defect "code" (textField fields "code") ++
        defect "message" (textField fields "message") := by
  simp [declared, defectsIn_cons, defectsIn_nil, integerField, textField]

/-- A record is read from fields that are all there and valid. -/
theorem ofFields_eq_ok_iff
    (fields : Members)
    (r : ErrorRecord) :
    ofFields fields = .ok r ↔ r.ReadFrom fields := by
  obtain ⟨status, code, message⟩ := r
  rw [readFrom_iff, ofFields]
  cases integerField fields "status" with
  | error d =>
      simp
  | ok status' =>
      cases textField fields "code" with
      | error d =>
          simp
      | ok code' =>
          cases textField fields "message" with
          | error d =>
              simp
          | ok message' =>
              simp

/-- All defective fields are reported, if there are any. -/
theorem ofFields_eq_error_iff
    (fields : Members)
    (defects : Defects) :
    ofFields fields = .error defects ↔
      defectsIn declared fields = defects ∧ defects ≠ [] := by
  rw [defectsIn_declared, ofFields]
  -- the first defective field settles that something is reported, whatever follows it
  cases integerField fields "status" with
  | error d =>
      exact error_eq_iff (by simp [defect])
  | ok status =>
      cases textField fields "code" with
      | error d =>
          exact error_eq_iff (by simp [defect])
      | ok code =>
          cases textField fields "message" with
          | error d =>
              exact error_eq_iff (by simp [defect])
          | ok message =>
              simp [defect]

end ErrorRecord

namespace FailoverRecord

/-- The fields of a failover record. -/
def declared : List Declared :=
  [.readBy "ip" textOf, .readBy "netmask" textOf, .readBy "server_ip" textOf,
   .readBy "server_number" integerOf, .readBy "active_server_ip" addressOf]

/-- A record holds the values of the fields that it declares. -/
structure ReadFrom (r : FailoverRecord) (fields : Members) : Prop where
  ip : Declares textOf fields "ip" r.ip
  netmask : Declares textOf fields "netmask" r.netmask
  serverIp : Declares textOf fields "server_ip" r.serverIp
  serverNumber : Declares integerOf fields "server_number" r.serverNumber
  activeServerIp : Declares addressOf fields "active_server_ip" r.activeServerIp

theorem readFrom_iff
    {r : FailoverRecord}
    {fields : Members} :
    r.ReadFrom fields ↔
      textField fields "ip" = .ok r.ip ∧
      textField fields "netmask" = .ok r.netmask ∧
      textField fields "server_ip" = .ok r.serverIp ∧
      integerField fields "server_number" = .ok r.serverNumber ∧
      addressField fields "active_server_ip" = .ok r.activeServerIp := by
  simp only [integerField, textField, addressField, field_eq_ok_iff]
  constructor
  · intro h
    exact ⟨h.ip, h.netmask, h.serverIp, h.serverNumber, h.activeServerIp⟩
  · rintro ⟨hip, hnetmask, hserverIp, hserverNumber, hactiveServerIp⟩
    exact ⟨hip, hnetmask, hserverIp, hserverNumber, hactiveServerIp⟩

theorem defectsIn_declared
    (fields : Members) :
    defectsIn declared fields =
      defect "ip" (textField fields "ip") ++
        defect "netmask" (textField fields "netmask") ++
        defect "server_ip" (textField fields "server_ip") ++
        defect "server_number" (integerField fields "server_number") ++
        defect "active_server_ip" (addressField fields "active_server_ip") := by
  simp [declared, defectsIn_cons, defectsIn_nil, integerField, textField, addressField]

/-- A record is read from fields that are all there and valid. -/
theorem ofFields_eq_ok_iff
    (fields : Members)
    (r : FailoverRecord) :
    ofFields fields = .ok r ↔ r.ReadFrom fields := by
  obtain ⟨ip, netmask, serverIp, serverNumber, activeServerIp⟩ := r
  rw [readFrom_iff, ofFields]
  cases textField fields "ip" with
  | error d =>
      simp
  | ok ip =>
      cases textField fields "netmask" with
      | error d =>
          simp
      | ok netmask =>
          cases textField fields "server_ip" with
          | error d =>
              simp
          | ok serverIp =>
              cases integerField fields "server_number" with
              | error d =>
                  simp
              | ok serverNumber =>
                  cases addressField fields "active_server_ip" with
                  | error d =>
                      simp
                  | ok activeServerIp =>
                      simp

/-- All defective fields are reported, if there are any. -/
theorem ofFields_eq_error_iff
    (fields : Members)
    (defects : Defects) :
    ofFields fields = .error defects ↔
      defectsIn declared fields = defects ∧ defects ≠ [] := by
  rw [defectsIn_declared, ofFields]
  -- as for an error record, with two fields more
  cases textField fields "ip" with
  | error d =>
      exact error_eq_iff (by simp [defect])
  | ok ip =>
      cases textField fields "netmask" with
      | error d =>
          exact error_eq_iff (by simp [defect])
      | ok netmask =>
          cases textField fields "server_ip" with
          | error d =>
              exact error_eq_iff (by simp [defect])
          | ok serverIp =>
              cases integerField fields "server_number" with
              | error d =>
                  exact error_eq_iff (by simp [defect])
              | ok serverNumber =>
                  cases addressField fields "active_server_ip" with
                  | error d =>
                      exact error_eq_iff (by simp [defect])
                  | ok activeServerIp =>
                      simp [defect]

end FailoverRecord

/-- No field of either kind of record is reported twice. -/
theorem nodup_map_fst_defectsIn
    (fields : Members) :
    ((defectsIn ErrorRecord.declared fields).map Prod.fst).Nodup ∧
    ((defectsIn FailoverRecord.declared fields).map Prod.fst).Nodup := by
  have hnodup (declared : List Declared) (h : (declared.map Declared.name).Nodup) :
      ((defectsIn declared fields).map Prod.fst).Nodup := by
    rw [map_fst_defectsIn]
    exact h.sublist (List.filter_sublist.map _)
  exact ⟨hnodup _ (by decide), hnodup _ (by decide)⟩

/-! ## The value of a member -/

section Taken

variable {ρ : Type} {declared : List Declared} {ReadFrom : ρ → Members → Prop}

/-- What the value of a member is taken for by one kind of record. -/
inductive Taken (declared : List Declared) (ReadFrom : ρ → Members → Prop) :
    Value → Except Defects ρ → Prop
  | record {fields : Members} {r : ρ}
      (hr : ReadFrom r fields) :
      Taken declared ReadFrom (.object fields) (.ok r)
  | defective {fields : Members}
      (hdefects : defectsIn declared fields ≠ []) :
      Taken declared ReadFrom (.object fields) (.error (defectsIn declared fields))
  | notObject {v : Value}
      (hv : ∀ fields, v ≠ .object fields) :
      Taken declared ReadFrom v (.error [("", .notObject)])

/-- A reader that reads records from their fields takes values for what they are. -/
theorem taken_iff
    {ofFields : Members → Except Defects ρ}
    {ofValue : Value → Except Defects ρ}
    (hok : ∀ fields r, ofFields fields = .ok r ↔ ReadFrom r fields)
    (herror : ∀ fields defects, ofFields fields = .error defects ↔
      defectsIn declared fields = defects ∧ defects ≠ [])
    (hobject : ∀ fields, ofValue (.object fields) = ofFields fields)
    (hother : ∀ v, (∀ fields, v ≠ .object fields) → ofValue v = .error [("", .notObject)])
    (v : Value)
    (taken : Except Defects ρ) :
    ofValue v = taken ↔ Taken declared ReadFrom v taken := by
  constructor
  · rintro rfl
    by_cases hv : ∃ fields, v = .object fields
    · obtain ⟨fields, rfl⟩ := hv
      rw [hobject]
      cases hread : ofFields fields with
      | error defects =>
          obtain ⟨rfl, hdefects⟩ := (herror fields defects).mp hread
          exact .defective hdefects
      | ok r =>
          exact .record ((hok fields r).mp hread)
    · rw [hother v (not_exists.mp hv)]
      exact .notObject (not_exists.mp hv)
  · intro htaken
    cases htaken with
    | record hr =>
        rw [hobject]
        exact (hok _ _).mpr hr
    | defective hdefects =>
        rw [hobject]
        exact (herror _ _).mpr ⟨rfl, hdefects⟩
    | notObject hv =>
        exact hother v hv

end Taken

theorem ErrorRecord.ofValue_eq_iff
    (v : Value)
    (taken : Except Defects ErrorRecord) :
    ofValue v = taken ↔ Taken declared ReadFrom v taken := by
  refine taken_iff ofFields_eq_ok_iff ofFields_eq_error_iff (fun _ => rfl) ?_ v taken
  intro v hv
  cases v with
  | object fields =>
      exact absurd rfl (hv fields)
  | _ =>
      rfl

theorem FailoverRecord.ofValue_eq_iff
    (v : Value)
    (taken : Except Defects FailoverRecord) :
    ofValue v = taken ↔ Taken declared ReadFrom v taken := by
  refine taken_iff ofFields_eq_ok_iff ofFields_eq_error_iff (fun _ => rfl) ?_ v taken
  intro v hv
  cases v with
  | object fields =>
      exact absurd rfl (hv fields)
  | _ =>
      rfl

/-! ## The value of a body -/

/-- A member is there and is not null. -/
def Held (members : Members) (name : Text) (v : Value) : Prop :=
  members.get? name = some v ∧ v ≠ .null

/-- What an `error` member makes of a body. -/
def foundError : Except Defects ErrorRecord → Except BodyProblem Reply
  | .ok r => .ok (.error r)
  | .error defects => .error (.invalidError defects)

/-- What a `failover` member makes of a body. -/
def foundFailover : Except Defects FailoverRecord → Except BodyProblem Reply
  | .ok r => .ok (.failover r)
  | .error defects => .error (.invalidFailover defects)

/-- What the value of a body is taken for. -/
inductive Classified : Value → Except BodyProblem Reply → Prop
  | notObject {v : Value}
      (hv : ∀ members, v ≠ .object members) :
      Classified v (.error (.notObject v.kindName))
  /-- The member decides, whatever else the object holds. -/
  | error {members : Members} {v : Value} {taken : Except Defects ErrorRecord}
      (hheld : Held members "error" v)
      (htaken : Taken ErrorRecord.declared ErrorRecord.ReadFrom v taken) :
      Classified (.object members) (foundError taken)
  | failover {members : Members} {v : Value} {taken : Except Defects FailoverRecord}
      (hnone : ∀ w, ¬Held members "error" w)
      (hheld : Held members "failover" v)
      (htaken : Taken FailoverRecord.declared FailoverRecord.ReadFrom v taken) :
      Classified (.object members) (foundFailover taken)
  | neither {members : Members}
      (hnone : ∀ w, ¬Held members "error" w)
      (hneither : ∀ w, ¬Held members "failover" w) :
      Classified (.object members) (.error .unknownShape)

namespace Reply

theorem present?_eq_some_iff
    (members : Members)
    (name : Text)
    (v : Value) :
    present? members name = some v ↔ Held members name v := by
  unfold present? Held
  cases hget : members.get? name with
  | none =>
      simp
  | some w =>
      cases w with
      | null =>
          simp only [Option.some.injEq]
          constructor
          · intro h
            cases h
          · rintro ⟨rfl, hnull⟩
            exact absurd rfl hnull
      | _ =>
          simp only [Option.some.injEq]
          constructor
          · rintro rfl
            exact ⟨rfl, by intro h; cases h⟩
          · exact And.left

theorem present?_eq_none_iff
    (members : Members)
    (name : Text) :
    present? members name = none ↔ ∀ v, ¬Held members name v := by
  simp only [← present?_eq_some_iff]
  exact Option.eq_none_iff_forall_ne_some

theorem ofMembers_of_error
    {members : Members}
    {v : Value}
    (h : Held members "error" v) :
    ofMembers members = foundError (ErrorRecord.ofValue v) := by
  rw [ofMembers, (present?_eq_some_iff _ _ _).mpr h]
  cases htaken : ErrorRecord.ofValue v <;> simp [htaken, foundError]

theorem ofMembers_of_failover
    {members : Members}
    {v : Value}
    (hnone : ∀ w, ¬Held members "error" w)
    (h : Held members "failover" v) :
    ofMembers members = foundFailover (FailoverRecord.ofValue v) := by
  rw [ofMembers, (present?_eq_none_iff _ _).mpr hnone, (present?_eq_some_iff _ _ _).mpr h]
  cases htaken : FailoverRecord.ofValue v <;> simp [htaken, foundFailover]

theorem ofMembers_of_neither
    {members : Members}
    (hnone : ∀ w, ¬Held members "error" w)
    (hneither : ∀ w, ¬Held members "failover" w) :
    ofMembers members = .error .unknownShape := by
  rw [ofMembers, (present?_eq_none_iff _ _).mpr hnone, (present?_eq_none_iff _ _).mpr hneither]

theorem classified_ofMembers
    (members : Members) :
    Classified (.object members) (ofMembers members) := by
  by_cases herror : ∃ v, Held members "error" v
  · obtain ⟨v, hv⟩ := herror
    rw [ofMembers_of_error hv]
    exact .error hv ((ErrorRecord.ofValue_eq_iff v _).mp rfl)
  · have hnone := not_exists.mp herror
    by_cases hfailover : ∃ v, Held members "failover" v
    · obtain ⟨v, hv⟩ := hfailover
      rw [ofMembers_of_failover hnone hv]
      exact .failover hnone hv ((FailoverRecord.ofValue_eq_iff v _).mp rfl)
    · have hneither := not_exists.mp hfailover
      rw [ofMembers_of_neither hnone hneither]
      exact .neither hnone hneither

/-- A value is taken for what it is classified as, and for nothing else. -/
theorem ofValue_eq_iff
    (v : Value)
    (found : Except BodyProblem Reply) :
    ofValue v = found ↔ Classified v found := by
  constructor
  · rintro rfl
    cases v with
    | object members =>
        exact classified_ofMembers members
    | _ =>
        exact .notObject (by intro members h; cases h)
  · intro h
    cases h with
    | notObject hv =>
        cases v with
        | object members =>
            exact absurd rfl (hv members)
        | _ =>
            rfl
    | error hheld htaken =>
        rw [ofValue, ofMembers_of_error hheld, (ErrorRecord.ofValue_eq_iff _ _).mpr htaken]
    | failover hnone hheld htaken =>
        rw [ofValue, ofMembers_of_failover hnone hheld,
          (FailoverRecord.ofValue_eq_iff _ _).mpr htaken]
    | neither hnone hneither =>
        exact ofMembers_of_neither hnone hneither

end Reply

/-! ## Decoding with its log line -/

section Decoding

variable {σ : Type}

/-- How decoding ends with what the value of a body was taken for. -/
def concluded (s : σ) : Except BodyProblem Reply → Outcome σ Reply
  | .ok (.failover r) =>
      ⟨.ok (.failover r), s, [.logged ⟨.info, .words (Reply.failover r).summary⟩]⟩
  | .ok (.error r) =>
      ⟨.ok (.error r), s, [.logged ⟨.error, .words (Reply.error r).summary⟩]⟩
  | .error problem =>
      ⟨.error (.failure (.malformedResponse problem)), s, []⟩

theorem run_decode_of_read
    {body : Text}
    {v : Value}
    (hread : read body = .ok v)
    (s : σ) :
    (decode body).run s = concluded s (Reply.ofValue v) := by
  rw [run_decode, Reply.decode, hread]
  cases hfound : Reply.ofValue v with
  | error problem =>
      simp [hfound, noted, concluded]
  | ok reply =>
      cases reply <;> simp [hfound, noted, concluded, Reply.severity]

/-- An object with a member of either kind, neither of which is a record. -/
def contested : Value :=
  .object [("error", .integer 0), ("failover", .object [])]

theorem read_contested :
    read contested.print = .ok contested := by
  have hfits : contested.Fits maxDepth := by
    refine .object ?_
    simp only [List.forall_mem_cons]
    exact ⟨.integer (by decide), .object (by simp), by simp⟩
  rw [read_print hfits]
  rfl

end Decoding
end Provider
end FloatingAddress
