import FloatingAddress.Proofs.Records
import Mathlib.Logic.Relation

/-!
# Objects in another arrangement

Of an object only the last value under each of a few names is looked at. Members with
different names may therefore change places, and members that nobody asks for, or that a later
one with their name shadows, may come and go; so may the fields of the two records inside.

* `Json.Members.Edit`: a change that keeps what stands under some names;
* `Json.Members.get?_of_edit`, `Json.Members.get?_joinedMembers`: what stands under a name;
* `Provider.Matches`: values that a record is read from alike;
* `Provider.Change`, `Provider.Rearranged`: one change of a body's members, and any sequence;
* `Provider.decode_rearranged`: bodies in another arrangement are decoded alike.
-/

namespace FloatingAddress

open Json

/-! ## Members under a name -/

/-- A pair stands for a code point above plane 0. -/
theorem Json.le_val_of_pair?
    {high low : Nat}
    {c : CodePoint}
    (h : pair? high low = some c) :
    0x10000 ≤ c.val := by
  unfold pair? CodePoint.ofNat? at h
  split at h
  · split at h
    · rw [← Option.some.inj h]
      exact Nat.le_add_right_of_le (Nat.le_add_right _ _)
    · cases h
  · cases h

/-- Joining makes nothing else into a text of ASCII. -/
theorem Text.joined_eq_iff_of_ascii
    {name : Text}
    (hname : ∀ c ∈ name, c.isAscii = true)
    (t : Text) :
    t.joined = name ↔ t = name := by
  have hascii : ∀ c ∈ name, c.val < 0x80 := fun c hc => of_decide_eq_true (hname c hc)
  constructor
  · rintro rfl
    induction t using joined.induct with
    | case1 =>
        rfl
    | case2 c =>
        rfl
    | case3 high low rest c hpair ih =>
        have hlow : c.val < 0x80 := hascii c (by simp [joined, hpair])
        have hhigh := le_val_of_pair? hpair
        omega
    | case4 high low rest hpair ih =>
        simp only [joined, hpair, List.forall_mem_cons] at hname hascii ⊢
        rw [← ih hname.2 hascii.2]
  · rintro rfl
    refine (joined_eq_self_iff _).mpr (isWhole_of_scalar fun c hc => ?_)
    have hc := hascii c hc
    simp [CodePoint.isSurrogate]
    omega

namespace Json
namespace Members

variable {names : List Text} {name : Text} {members members' : Members}

theorem get?_cons
    (name : Text)
    (m : Text × Value)
    (rest : Members) :
    get? name (m :: rest) = (get? name rest).or (if m.1 = name then some m.2 else none) := by
  rw [get?]
  cases get? name rest <;> rfl

/-- The later members come first. -/
theorem get?_append
    (name : Text)
    (front back : Members) :
    get? name (front ++ back) = (get? name back).or (get? name front) := by
  induction front with
  | nil =>
      simp [get?]
  | cons m front ih =>
      rw [List.cons_append, get?_cons, get?_cons, ih, Option.or_assoc]

theorem get?_eq_none_iff
    (name : Text)
    (members : Members) :
    get? name members = none ↔ name ∉ members.map Prod.fst := by
  induction members with
  | nil =>
      simp [get?]
  | cons m rest ih =>
      rw [get?_cons, Option.or_eq_none_iff, ih]
      by_cases hm : m.1 = name
      · simp [hm]
      · simp [hm, Ne.symm hm]

/-- A change of members that leaves alone what stands under some names: two members with
different names change places, or a member comes in that stands under none of the names, or
that a later one shadows. -/
inductive Edit (names : List Text) : Members → Members → Prop
  | swap (front back : Members) {m m' : Text × Value}
      (h : m.1 ≠ m'.1) :
      Edit names (front ++ m :: m' :: back) (front ++ m' :: m :: back)
  | undeclared (front back : Members) {m : Text × Value}
      (h : m.1 ∉ names) :
      Edit names (front ++ back) (front ++ m :: back)
  | shadowed (front back : Members) {m : Text × Value}
      (h : m.1 ∈ back.map Prod.fst) :
      Edit names (front ++ back) (front ++ m :: back)

/-- What stands under the names stays. -/
theorem get?_of_edit
    (h : Edit names members members')
    (hname : name ∈ names) :
    members.get? name = members'.get? name := by
  cases h with
  | @swap front back m m' hne =>
      simp only [get?_append, get?_cons]
      by_cases hm : m.1 = name
      · have hm' : m'.1 ≠ name := fun hm' => hne (hm.trans hm'.symm)
        simp [hm, hm']
      · simp [hm]
  | @undeclared front back m hm =>
      have hne : m.1 ≠ name := by
        rintro rfl
        exact hm hname
      simp [get?_append, get?_cons, hne]
  | @shadowed front back m hm =>
      simp only [get?_append, get?_cons]
      by_cases hne : m.1 = name
      · cases hback : get? name back with
        | none =>
            rw [hne] at hm
            exact absurd hm ((get?_eq_none_iff name back).mp hback)
        | some v =>
            rfl
      · simp [hne]

/-- What stands under a name of ASCII after the pairs of surrogates have been joined. -/
theorem get?_joinedMembers
    (hname : ∀ c ∈ name, c.isAscii = true)
    (members : Members) :
    get? name (joinedMembers members) = (get? name members).map Value.joined := by
  induction members with
  | nil =>
      rfl
  | cons m rest ih =>
      obtain ⟨key, v⟩ := m
      rw [joinedMembers, get?_cons, get?_cons, ih]
      simp only [Text.joined_eq_iff_of_ascii hname]
      cases get? name rest with
      | some w =>
          rfl
      | none =>
          by_cases hkey : key = name <;> simp [hkey]

end Members

/-- What fits a depth fits any greater depth. -/
theorem Value.Fits.mono
    {depth : Nat}
    {v : Value}
    (h : v.Fits depth)
    {depth' : Nat}
    (hle : depth ≤ depth') :
    v.Fits depth' := by
  induction h generalizing depth' with
  | null =>
      exact .null
  | bool b =>
      exact .bool b
  | integer hdigits =>
      exact .integer hdigits
  | decimal d =>
      exact .decimal d
  | nonFinite word =>
      exact .nonFinite word
  | string t =>
      exact .string t
  | array hitems ih =>
      obtain ⟨below, rfl⟩ := Nat.exists_eq_succ_of_ne_zero (Nat.ne_zero_of_lt hle)
      exact .array fun v hv => ih v hv (Nat.le_of_succ_le_succ hle)
  | object hmembers ih =>
      obtain ⟨below, rfl⟩ := Nat.exists_eq_succ_of_ne_zero (Nat.ne_zero_of_lt hle)
      exact .object fun m hm => ih m hm (Nat.le_of_succ_le_succ hle)

end Json

namespace Provider

/-! ## Records from fields in another arrangement -/

section Fields

variable {fields fields' : Members}

theorem field_congr
    {α : Type}
    {rule : Value → Except Defect α}
    {name : Text}
    (h : fields.get? name = fields'.get? name) :
    field rule fields name = field rule fields' name := by
  rw [field, field, h]

/-- An error record is read from the fields that it declares. -/
theorem ErrorRecord.ofFields_congr
    (h : ∀ name ∈ declared.map Declared.name, fields.get? name = fields'.get? name) :
    ofFields fields = ofFields fields' := by
  have hget (name : Text) (hmem : name ∈ declared.map Declared.name) {α : Type}
      (rule : Value → Except Defect α) : field rule fields name = field rule fields' name :=
    field_congr (h name hmem)
  simp only [ofFields, integerField, textField, hget "status" (by decide),
    hget "code" (by decide), hget "message" (by decide)]

/-- A failover record is read from the fields that it declares. -/
theorem FailoverRecord.ofFields_congr
    (h : ∀ name ∈ declared.map Declared.name, fields.get? name = fields'.get? name) :
    ofFields fields = ofFields fields' := by
  have hget (name : Text) (hmem : name ∈ declared.map Declared.name) {α : Type}
      (rule : Value → Except Defect α) : field rule fields name = field rule fields' name :=
    field_congr (h name hmem)
  simp only [ofFields, integerField, textField, addressField, hget "ip" (by decide),
    hget "netmask" (by decide), hget "server_ip" (by decide),
    hget "server_number" (by decide), hget "active_server_ip" (by decide)]

end Fields

/-- Two values that a record with some fields is read from alike: the same value, or two
objects that hold the same under the names of the fields. -/
inductive Matches (names : List Text) : Value → Value → Prop
  | same (v : Value) :
      Matches names v v
  | object {fields fields' : Members}
      (h : ∀ name ∈ names, fields.get? name = fields'.get? name) :
      Matches names (.object fields) (.object fields')

theorem Matches.joined
    {names : List Text}
    {v v' : Value}
    (h : Matches names v v')
    (hnames : ∀ name ∈ names, ∀ c ∈ name, c.isAscii = true) :
    Matches names v.joined v'.joined := by
  cases h with
  | same v =>
      exact .same v.joined
  | object h =>
      refine .object fun name hname => ?_
      rw [Members.get?_joinedMembers (hnames name hname),
        Members.get?_joinedMembers (hnames name hname), h name hname]

theorem ErrorRecord.ofValue_congr
    {v v' : Value}
    (h : Matches (declared.map Declared.name) v v') :
    ofValue v = ofValue v' := by
  cases h with
  | same v =>
      rfl
  | object h =>
      exact ofFields_congr h

theorem FailoverRecord.ofValue_congr
    {v v' : Value}
    (h : Matches (declared.map Declared.name) v v') :
    ofValue v = ofValue v' := by
  cases h with
  | same v =>
      rfl
  | object h =>
      exact ofFields_congr h

/-! ## Bodies in another arrangement -/

/-- The members of a body that hold records, each with the names of the fields of its
record. -/
def recordFields : List (Text × List Text) :=
  [("error", ErrorRecord.declared.map Declared.name),
   ("failover", FailoverRecord.declared.map Declared.name)]

/-- All names that are asked for are in ASCII. -/
theorem isAscii_of_mem_recordFields
    {name : Text}
    {names : List Text}
    (h : (name, names) ∈ recordFields) :
    (∀ c ∈ name, c.isAscii = true) ∧ ∀ field ∈ names, ∀ c ∈ field, c.isAscii = true := by
  have hall : ∀ record ∈ recordFields,
      (∀ c ∈ record.1, c.isAscii = true) ∧
        ∀ field ∈ record.2, ∀ c ∈ field, c.isAscii = true := by
    decide
  exact hall _ h

/-- There is one kind of record under each name. -/
theorem fields_unique
    {name name' : Text}
    {names names' : List Text}
    (h : (name, names) ∈ recordFields)
    (h' : (name', names') ∈ recordFields)
    (hname : name = name') :
    names = names' := by
  have hall : ∀ record ∈ recordFields, ∀ record' ∈ recordFields,
      record.1 = record'.1 → record.2 = record'.2 := by
    decide
  exact hall _ h _ h' hname

/-- One change of the members of a body: of the members themselves, or of the fields inside a
member that holds a record. -/
inductive Change : Members → Members → Prop
  | members {members members' : Members}
      (h : Members.Edit (recordFields.map Prod.fst) members members') :
      Change members members'
  | fields (front back : Members) {name : Text} {names : List Text} {fields fields' : Members}
      (hrecord : (name, names) ∈ recordFields)
      (h : Members.Edit names fields fields') :
      Change (front ++ (name, .object fields) :: back) (front ++ (name, .object fields') :: back)

/-- Members that come from others by a sequence of changes, made or undone. -/
def Rearranged : Members → Members → Prop :=
  Relation.EqvGen Change

/-- Two bodies that records are read from alike. -/
def Alike (members members' : Members) : Prop :=
  ∀ name names, (name, names) ∈ recordFields →
    Option.Rel (Matches names) (members.get? name) (members'.get? name)

section Bodies

variable {members members' : Members}

theorem rel_refl
    (names : List Text)
    (found : Option Value) :
    Option.Rel (Matches names) found found := by
  cases found with
  | none =>
      exact .none
  | some v =>
      exact .some (.same v)

/-- No change is seen by a record. -/
theorem Change.alike
    (h : Change members members') :
    Alike members members' := by
  intro name names hrecord
  cases h with
  | members h =>
      have hname : name ∈ recordFields.map Prod.fst := List.mem_map_of_mem hrecord
      rw [Members.get?_of_edit h hname]
      exact rel_refl _ _
  | @fields front back other names' fields fields' hother h =>
      simp only [Members.get?_append, Members.get?_cons]
      cases Members.get? name back with
      | some v =>
          exact .some (.same v)
      | none =>
          by_cases hname : other = name
          · obtain rfl := fields_unique hother hrecord hname
            simp only [hname, if_true, Option.none_or, Option.some_or]
            exact .some (.object fun field hfield => Members.get?_of_edit h hfield)
          · simp only [hname, if_false, Option.none_or]
            exact rel_refl _ _

theorem Alike.joined
    (h : Alike members members') :
    Alike (joinedMembers members) (joinedMembers members') := by
  intro name names hrecord
  obtain ⟨hname, hnames⟩ := isAscii_of_mem_recordFields hrecord
  have hfound := h name names hrecord
  rw [Members.get?_joinedMembers hname, Members.get?_joinedMembers hname]
  generalize members.get? name = found, members'.get? name = found' at hfound
  cases hfound with
  | none =>
      exact .none
  | some hmatches =>
      exact .some (hmatches.joined hnames)

theorem present?_rel
    {name : Text}
    {names : List Text}
    (h : Option.Rel (Matches names) (members.get? name) (members'.get? name)) :
    Option.Rel (Matches names) (Reply.present? members name)
      (Reply.present? members' name) := by
  unfold Reply.present?
  generalize members.get? name = found, members'.get? name = found' at h
  cases h with
  | none =>
      exact .none
  | some hmatches =>
      cases hmatches with
      | same v =>
          exact rel_refl _ _
      | object h =>
          exact .some (.object h)

/-- A reply is read from the records alone. -/
theorem Alike.ofMembers
    (h : Alike members members') :
    Reply.ofMembers members = Reply.ofMembers members' := by
  have herror := present?_rel (h "error" _ List.mem_cons_self)
  have hfailover := present?_rel (h "failover" _ (List.mem_cons_of_mem _ List.mem_cons_self))
  unfold Reply.ofMembers
  generalize Reply.present? members "error" = found,
    Reply.present? members' "error" = found' at herror
  generalize Reply.present? members "failover" = other,
    Reply.present? members' "failover" = other' at hfailover
  cases herror with
  | some hmatches =>
      simp only [ErrorRecord.ofValue_congr hmatches]
  | none =>
      cases hfailover with
      | some hmatches =>
          simp only [FailoverRecord.ofValue_congr hmatches]
      | none =>
          rfl

/-- Whatever the sequence of changes, the same reply is read from the members, and also after
the pairs of surrogates in them have been joined. -/
theorem Rearranged.ofMembers
    (h : Rearranged members members') :
    Reply.ofMembers members = Reply.ofMembers members' ∧
    Reply.ofMembers (joinedMembers members) = Reply.ofMembers (joinedMembers members') := by
  induction h with
  | rel members members' hchange =>
      exact ⟨hchange.alike.ofMembers, hchange.alike.joined.ofMembers⟩
  | refl members =>
      exact ⟨rfl, rfl⟩
  | symm members members' _ ih =>
      exact ⟨ih.1.symm, ih.2.symm⟩
  | trans members between members' _ _ hfirst hsecond =>
      exact ⟨hfirst.1.trans hsecond.1, hfirst.2.trans hsecond.2⟩

end Bodies

/-! ## Decoding -/

section Decoding

variable {σ : Type} {members members' : Members}

/-- A body that is written from members which are not nested too deep holds them, with the
pairs of surrogates in them joined. -/
theorem read_print_object
    {depth : Nat}
    (hdepth : depth < maxDepth)
    (hfits : ∀ m ∈ members, m.2.Fits depth) :
    read (Value.object members).print = .ok (.object (joinedMembers members)) := by
  have hobject : (Value.object members).Fits maxDepth := (Value.Fits.object hfits).mono hdepth
  rw [read_print hobject]
  rfl

/-- Bodies that hold the same members in another arrangement are decoded alike, to the same
record or with the same defects, and with the same log line: whatever the spelling of bodies
that hold these members, and in particular for the two that are written from them. -/
theorem decode_rearranged
    (h : Rearranged members members')
    (s : σ) :
    (∀ body body',
      read body = .ok (.object members) →
      read body' = .ok (.object members') →
        (decode body).run s = (decode body').run s) ∧
    (∀ depth < maxDepth,
      (∀ m ∈ members, m.2.Fits depth) →
      (∀ m ∈ members', m.2.Fits depth) →
        (decode (Value.object members).print).run s =
          (decode (Value.object members').print).run s) := by
  obtain ⟨hplain, hjoined⟩ := h.ofMembers
  constructor
  · intro body body' hbody hbody'
    rw [run_decode_of_read hbody, run_decode_of_read hbody', Reply.ofValue, Reply.ofValue, hplain]
  · intro depth hdepth hfits hfits'
    rw [run_decode_of_read (read_print_object hdepth hfits),
      run_decode_of_read (read_print_object hdepth hfits'), Reply.ofValue, Reply.ofValue, hjoined]

/-- Members with two defective fields, and one member that nobody asks for. -/
def defectiveMembers : Members :=
  [("failover", .object [("ip", .integer 1), ("netmask", .null)]), ("note", .null)]

/-- The same without that member, with the fields the other way round, and with a member that
is shadowed. -/
def shadowingMembers : Members :=
  [("failover", .string "lost"), ("failover", .object [("netmask", .null), ("ip", .integer 1)])]

theorem rearranged_defectiveMembers :
    Rearranged defectiveMembers shadowingMembers := by
  have hnote : Change [("failover", .object [("ip", .integer 1), ("netmask", .null)])]
      defectiveMembers :=
    .members (.undeclared [("failover", .object [("ip", .integer 1), ("netmask", .null)])] []
      (by decide))
  have hfields :
      Change [("failover", .object [("ip", .integer 1), ("netmask", .null)])]
        [("failover", .object [("netmask", .null), ("ip", .integer 1)])] :=
    .fields [] [] (List.mem_cons_of_mem _ List.mem_cons_self) (.swap [] [] (by decide))
  have hshadowed : Change [("failover", .object [("netmask", .null), ("ip", .integer 1)])]
      shadowingMembers :=
    .members (.shadowed [] [("failover", .object [("netmask", .null), ("ip", .integer 1)])]
      (by decide))
  exact (Relation.EqvGen.rel _ _ hnote).symm.trans _ _ _
    ((Relation.EqvGen.rel _ _ hfields).trans _ _ _ (.rel _ _ hshadowed))

/-- The bodies written from these members are decoded alike. -/
theorem decode_rearranged_sample :
    Rearranged defectiveMembers shadowingMembers ∧
    (∀ m ∈ defectiveMembers, m.2.Fits 1) ∧
    (∀ m ∈ shadowingMembers, m.2.Fits 1) ∧
    (decode (Value.object defectiveMembers).print).run () =
      (decode (Value.object shadowingMembers).print).run () := by
  have hfirst : ∀ m ∈ defectiveMembers, m.2.Fits 1 := by
    simp only [defectiveMembers, List.forall_mem_cons]
    refine ⟨.object ?_, .null, by simp⟩
    simp only [List.forall_mem_cons]
    exact ⟨.integer (by decide), .null, by simp⟩
  have hsecond : ∀ m ∈ shadowingMembers, m.2.Fits 1 := by
    simp only [shadowingMembers, List.forall_mem_cons]
    refine ⟨.string _, .object ?_, by simp⟩
    simp only [List.forall_mem_cons]
    exact ⟨.null, .integer (by decide), by simp⟩
  obtain ⟨-, hprinted⟩ := decode_rearranged rearranged_defectiveMembers ()
  exact
    ⟨rearranged_defectiveMembers, hfirst, hsecond, hprinted 1 (by decide) hfirst hsecond⟩

end Decoding

end Provider
end FloatingAddress
