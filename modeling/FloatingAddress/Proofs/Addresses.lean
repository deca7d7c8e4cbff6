import FloatingAddress.Address.Printer
import FloatingAddress.Address.Reader
import FloatingAddress.Proofs.Numerals
import Mathlib.Data.List.TakeWhile

/-!
# Reading addresses back

The written form of an address denotes that address. Between the marks of an address of
version 6 stand numerals, so that the first double colon is the one that was written for
zero groups, and the first percent sign the one in front of the scope.

* `forall_mem_intercalate`: what the parts of a text share the whole has;
* `Text.cutAround_mark`, `Text.cutAround_double`: where a text is cut;
* `V4.read?_text`, `V6.read?_text`: the two versions;
* `V4.read?_eq_some_iff`: an address of version 4 has no other written form;
* `Address.read?_text`: any address.
-/

namespace FloatingAddress

/-- What holds of a separator and of the parts holds of the parts joined. -/
theorem forall_mem_intercalate
    {α : Type}
    {p : α → Prop}
    {separator : List α}
    {parts : List (List α)}
    (hseparator : ∀ c ∈ separator, p c)
    (hparts : ∀ part ∈ parts, ∀ c ∈ part, p c) :
    ∀ c ∈ separator.intercalate parts, p c := by
  induction parts with
  | nil =>
      simp
  | cons part parts ih =>
      obtain ⟨hpart, hrest⟩ := List.forall_mem_cons.mp hparts
      rcases parts with _ | ⟨next, rest⟩
      · simpa using hpart
      · rw [List.intercalate_cons_cons]
        simp only [List.mem_append]
        rintro c ((hc | hc) | hc)
        · exact hpart c hc
        · exact hseparator c hc
        · exact ih hrest c hc

/-- Parts that are read back one by one are read back together. -/
theorem mapM_map_eq_some
    {α β : Type}
    {write : α → β}
    {read? : β → Option α}
    (h : ∀ a, read? (write a) = some a)
    (parts : List α) :
    (parts.map write).mapM read? = some parts := by
  induction parts with
  | nil =>
      rfl
  | cons part parts ih =>
      simp [h, ih]

/-- Parts that are read as the values they are written for are the values written. -/
theorem eq_map_of_mapM_eq_some
    {α β : Type}
    {write : α → β}
    {read? : β → Option α}
    (h : ∀ part a, read? part = some a → part = write a)
    {parts : List β}
    {values : List α}
    (hread : parts.mapM read? = some values) :
    parts = values.map write := by
  induction parts generalizing values with
  | nil =>
      obtain rfl : [] = values := by
        simpa using hread
      rfl
  | cons part parts ih =>
      simp only [List.mapM_cons, Option.pure_def, Option.bind_eq_bind,
        Option.bind_eq_some_iff, Option.some.injEq] at hread
      obtain ⟨a, ha, rest, hrest, rfl⟩ := hread
      rw [List.map_cons, ← h part a ha, ← ih hrest]

theorem mapM_eq_none
    {α β : Type}
    {read? : β → Option α}
    {part : β}
    {parts : List β}
    (hmem : part ∈ parts)
    (hpart : read? part = none) :
    parts.mapM read? = none := by
  induction parts with
  | nil =>
      cases hmem
  | cons first parts ih =>
      rcases List.mem_cons.mp hmem with rfl | hrest
      · simp [hpart]
      · simp [ih hrest]

/-! ## Where a text is cut -/

namespace Text

variable {t word before after : Text}

theorem subset_of_after?
    (h : after? word t = some after) :
    after ⊆ t := by
  induction word generalizing t with
  | nil =>
      cases h
      exact List.Subset.refl after
  | cons w word ih =>
      cases t with
      | nil =>
          cases h
      | cons c t =>
          rw [after?] at h
          split at h
          · exact List.subset_cons_of_subset c (ih h)
          · cases h

/-- The two pieces of a text that is cut are parts of it. -/
theorem subset_of_cutAround
    (h : cutAround word t = some (before, after)) :
    before ⊆ t ∧ after ⊆ t := by
  induction t generalizing before with
  | nil =>
      rw [cutAround, Option.map_eq_some_iff] at h
      obtain ⟨rest, hrest, hcut⟩ := h
      cases hcut
      exact ⟨List.nil_subset _, subset_of_after? hrest⟩
  | cons c t ih =>
      rw [cutAround] at h
      cases hafter : after? word (c :: t) with
      | some rest =>
          rw [hafter] at h
          cases h
          exact ⟨List.nil_subset _, subset_of_after? hafter⟩
      | none =>
          rw [hafter, Option.map_eq_some_iff] at h
          obtain ⟨⟨front, rest⟩, hcut, hcons⟩ := h
          cases hcons
          obtain ⟨hfront, hrest⟩ := ih hcut
          exact ⟨List.cons_subset_cons c hfront, List.subset_cons_of_subset c hrest⟩

/-- A text is cut at the first mark of a kind. -/
theorem cutAround_mark
    {mark : CodePoint}
    (h : mark ∉ t)
    (rest : Text) :
    cutAround [mark] (t ++ mark :: rest) = some (t, rest) := by
  induction t with
  | nil =>
      simp [cutAround, after?]
  | cons c t ih =>
      simp only [List.mem_cons, not_or] at h
      simp [cutAround, after?, h.1, ih h.2]

theorem cutAround_mark_eq_none
    {mark : CodePoint}
    (h : mark ∉ t) :
    cutAround [mark] t = none := by
  induction t with
  | nil =>
      rfl
  | cons c t ih =>
      simp only [List.mem_cons, not_or] at h
      simp [cutAround, after?, h.1, ih h.2]

/-- After every colon of a text there is another mark in the text. -/
def ColonsApart : Text → Prop
  | [] => True
  | c :: t => (c = ':' → ∃ d rest, t = d :: rest ∧ d ≠ ':') ∧ ColonsApart t

theorem after?_double_of_colonsApart
    {c : CodePoint}
    (h : ColonsApart (c :: t))
    (rest : Text) :
    after? "::" (c :: t ++ rest) = none := by
  obtain ⟨hnext, -⟩ := h
  by_cases hc : c = ':'
  · obtain ⟨d, tail, rfl, hd⟩ := hnext hc
    have hsecond : after? [':'] (d :: (tail ++ rest)) = none := by
      simp [after?, hd.symm]
    simpa [after?, hc, ofString] using hsecond
  · have hfirst : (':' : CodePoint) ≠ c := fun heq => hc heq.symm
    simp [after?, hfirst, ofString]

/-- A text without a double colon in it is cut at the one that follows it. -/
theorem cutAround_double
    (h : ColonsApart t)
    (rest : Text) :
    cutAround "::" (t ++ "::" ++ rest) = some (t, rest) := by
  induction t with
  | nil =>
      simp [cutAround, after?, ofString]
  | cons c t ih =>
      have hhead := after?_double_of_colonsApart h ("::" ++ rest)
      rw [List.append_assoc] at ih ⊢
      rw [List.cons_append, cutAround]
      rw [List.cons_append] at hhead
      rw [hhead, ih h.2]
      rfl

theorem cutAround_double_eq_none
    (h : ColonsApart t) :
    cutAround "::" t = none := by
  induction t with
  | nil =>
      rfl
  | cons c t ih =>
      have hhead := after?_double_of_colonsApart h []
      rw [List.append_nil] at hhead
      rw [cutAround, hhead, ih h.2]
      rfl

theorem ColonsApart.of_notMem
    (h : (':' : CodePoint) ∉ t) :
    ColonsApart t := by
  induction t with
  | nil =>
      trivial
  | cons c t ih =>
      simp only [List.mem_cons, not_or] at h
      exact ⟨fun hc => absurd hc.symm h.1, ih h.2⟩

/-- A part without a colon may stand in front of a colon that something else follows. -/
theorem ColonsApart.append
    {part rest : Text}
    {c : CodePoint}
    (hpart : (':' : CodePoint) ∉ part)
    (hc : c ≠ ':')
    (h : ColonsApart (c :: rest)) :
    ColonsApart (part ++ (':' : CodePoint) :: c :: rest) := by
  induction part with
  | nil =>
      exact ⟨fun _ => ⟨c, rest, rfl, hc⟩, h⟩
  | cons d part ih =>
      simp only [List.mem_cons, not_or] at hpart
      exact ⟨fun hd => absurd hd.symm hpart.1, ih hpart.2⟩

/-- Parts that are not empty and hold no colon, joined by colons. -/
theorem ColonsApart.intercalate
    {parts : List Text}
    (h : ∀ part ∈ parts, part ≠ [] ∧ (':' : CodePoint) ∉ part) :
    ColonsApart (List.intercalate [(':' : CodePoint)] parts) := by
  induction parts with
  | nil =>
      trivial
  | cons part parts ih =>
      obtain ⟨⟨hne, hpart⟩, hrest⟩ := List.forall_mem_cons.mp h
      rcases parts with _ | ⟨next, parts⟩
      · simpa using ColonsApart.of_notMem hpart
      · obtain ⟨⟨hnext, hcolon⟩, -⟩ := List.forall_mem_cons.mp hrest
        obtain ⟨c, tail, rfl⟩ := List.exists_cons_of_ne_nil hnext
        have hc : c ≠ ':' := by
          rintro rfl
          exact hcolon List.mem_cons_self
        have hjoined := ih hrest
        rw [List.intercalate_cons_cons_left] at hjoined
        rw [List.intercalate_cons_cons, List.intercalate_cons_cons_left, List.append_assoc]
        exact hjoined.append hpart hc

end Text

/-! ## Version 4 -/

namespace V4

theorem readOctet?_ofNat
    (octet : Fin 0x100) :
    readOctet? (Numeral.ofNat octet.val) = some octet := by
  have hall : ∀ octet : Fin 0x100, readOctet? (Numeral.ofNat octet.val) = some octet := by
    decide +kernel
  exact hall octet

/-- The written form of an address of version 4 denotes it. -/
theorem read?_text
    (a : V4) :
    read? a.text = some a := by
  have hpoint : ∀ part ∈ a.octets.map fun octet => Numeral.ofNat octet.val,
      ('.' : CodePoint) ∉ part := by
    intro part hpart hmem
    obtain ⟨octet, -, rfl⟩ := List.mem_map.mp hpart
    exact absurd (Numeral.isDigit_of_mem_ofNat hmem) (by decide)
  have hsome : (a.octets.map fun octet => Numeral.ofNat octet.val) ≠ [] := by
    intro hnil
    have hlength := a.length_eq
    rw [List.map_eq_nil_iff.mp hnil] at hlength
    cases hlength
  have hparts : List.splitOn ('.' : CodePoint) a.text =
      a.octets.map fun octet => Numeral.ofNat octet.val :=
    List.splitOn_intercalate _ hpoint hsome
  simp [read?, hparts, mapM_map_eq_some readOctet?_ofNat, a.length_eq]

/-- An octet has one written form. -/
theorem eq_ofNat_of_readOctet?
    {t : Text}
    {octet : Fin 0x100}
    (h : readOctet? t = some octet) :
    t = Numeral.ofNat octet.val := by
  unfold readOctet? at h
  split at h
  · rename_i hform
    obtain ⟨hne, hdigits, -, hzero⟩ := hform
    split at h
    · obtain rfl := Option.some.inj h
      exact (Numeral.ofNat_value hne (List.all_eq_true.mp hdigits) hzero).symm
    · cases h
  · cases h

/-- A text denotes an address of version 4 exactly if it is the written form of it. -/
theorem read?_eq_some_iff
    {t : Text}
    {a : V4} :
    read? t = some a ↔ t = a.text := by
  constructor
  · intro h
    obtain ⟨octets, hoctets, ha⟩ := Option.bind_eq_some_iff.mp h
    split at ha
    · obtain rfl := Option.some.inj ha
      have hparts := eq_map_of_mapM_eq_some (fun part octet => eq_ofNat_of_readOctet?) hoctets
      rw [text, ← hparts]
      exact (List.intercalate_splitOn _).symm
    · cases ha
  · rintro rfl
    exact a.read?_text

/-- An address of version 4 is written without surrogates. -/
theorem isSurrogate_of_mem_text
    (a : V4) :
    ∀ c ∈ a.text, c.isSurrogate = false := by
  refine forall_mem_intercalate (by decide) ?_
  intro part hpart c hc
  obtain ⟨octet, -, rfl⟩ := List.mem_map.mp hpart
  have hdigit := Numeral.isDigit_of_mem_ofNat hc
  simp only [CodePoint.isDigit, Bool.and_eq_true, decide_eq_true_eq] at hdigit
  simp [CodePoint.isSurrogate]
  omega

/-- An address of version 4 holds no colon. -/
theorem read?_eq_none
    {t : Text}
    (h : (':' : CodePoint) ∈ t) :
    read? t = none := by
  -- the colon stands in one of the parts, which is no octet then
  have hpart : ∃ part ∈ List.splitOn ('.' : CodePoint) t, (':' : CodePoint) ∈ part := by
    by_contra hnone
    simp only [not_exists, not_and] at hnone
    have hall : ∀ c ∈ t, c ≠ ':' := by
      rw [← @List.intercalate_splitOn _ t _ _ ('.' : CodePoint)]
      refine forall_mem_intercalate (by decide) ?_
      rintro part hpart c hc rfl
      exact hnone part hpart hc
    exact hall _ h rfl
  obtain ⟨part, hmem, hcolon⟩ := hpart
  have hoctet : readOctet? part = none := by
    rw [readOctet?, if_neg]
    rintro ⟨-, hdigits, -⟩
    exact absurd (List.all_eq_true.mp hdigits _ hcolon) (by decide)
  simp [read?, mapM_eq_none hmem hoctet]

end V4

/-! ## Version 6 -/

namespace V6

theorem readGroup?_hex
    (group : Fin 0x10000) :
    readGroup? (Numeral.hex group.val) = some group := by
  obtain ⟨digits, hread, hvalue⟩ := Numeral.exists_digits_hex group.val
  have hlength := Numeral.length_hex_le_four group.isLt
  have hsome := Numeral.hex_ne_nil group.val
  simp [readGroup?, hread, hvalue, hlength, hsome]

theorem readParts?_hex
    (groups : List (Fin 0x10000)) :
    readParts? (groups.map fun group => Numeral.hex group.val) = some groups := by
  induction groups with
  | nil =>
      rfl
  | cons group groups ih =>
      rcases groups with _ | ⟨next, groups⟩
      · have hpoint : ('.' : CodePoint) ∉ Numeral.hex group.val :=
          Numeral.notMem_hex (by decide) _
        simp [readParts?, hpoint, readGroup?_hex]
      · rw [List.map_cons] at ih
        simp [readParts?, readGroup?_hex, ih]

theorem parts_ne_nil_and_notMem
    (groups : List (Fin 0x10000)) :
    ∀ part ∈ groups.map fun group => Numeral.hex group.val,
      part ≠ [] ∧ (':' : CodePoint) ∉ part := by
  intro part hpart
  obtain ⟨group, -, rfl⟩ := List.mem_map.mp hpart
  exact ⟨Numeral.hex_ne_nil _, Numeral.notMem_hex (by decide) _⟩

theorem splitOn_joinGroups
    {groups : List (Fin 0x10000)}
    (h : groups ≠ []) :
    List.splitOn (':' : CodePoint) (joinGroups groups) =
      groups.map fun group => Numeral.hex group.val :=
  List.splitOn_intercalate _ (fun part hpart => (parts_ne_nil_and_notMem groups part hpart).2)
    (by simpa using h)

theorem colonsApart_joinGroups
    (groups : List (Fin 0x10000)) :
    Text.ColonsApart (joinGroups groups) :=
  Text.ColonsApart.intercalate (parts_ne_nil_and_notMem groups)

/-- The groups on one side of a double colon are read back. -/
theorem readSide?_joinGroups
    {read : List Text → Option (List (Fin 0x10000))}
    (hread : ∀ groups : List (Fin 0x10000),
      read (groups.map fun group => Numeral.hex group.val) = some groups)
    (groups : List (Fin 0x10000)) :
    readSide? read (joinGroups groups) = some groups := by
  rcases groups with _ | ⟨group, groups⟩
  · rfl
  · have hsome : joinGroups (group :: groups) ≠ [] := by
      obtain ⟨c, rest, hhex⟩ := List.exists_cons_of_ne_nil (Numeral.hex_ne_nil group.val)
      rw [joinGroups, List.map_cons, hhex, List.intercalate_cons_cons_left]
      exact List.cons_ne_nil _ _
    rw [readSide?, if_neg hsome, splitOn_joinGroups (List.cons_ne_nil _ _), hread]

/-- The run that is left out consists of zeros. -/
theorem exists_longestRun
    (groups : List (Fin 0x10000)) :
    ∃ front back,
      groups = front ++ List.replicate (longestRun groups).2 zeroGroup ++ back ∧
      front.length = (longestRun groups).1 := by
  induction groups with
  | nil =>
      exact ⟨[], [], rfl, rfl⟩
  | cons group groups ih =>
      rw [longestRun]
      split
      · refine ⟨[], (group :: groups).dropWhile (· = zeroGroup), ?_, rfl⟩
        have hzeros : (group :: groups).takeWhile (· = zeroGroup) =
            List.replicate (zeroRun (group :: groups)) zeroGroup := by
          rw [List.eq_replicate_iff]
          refine ⟨rfl, fun g hg => ?_⟩
          simpa using List.mem_takeWhile_imp hg
        rw [List.nil_append, ← hzeros, List.takeWhile_append_dropWhile]
      · obtain ⟨front, back, hgroups, hlength⟩ := ih
        refine ⟨group :: front, back, ?_, by simp [hlength]⟩
        simp only [List.cons_append]
        rw [← hgroups]

/-- Groups that are written with or without a double colon are read back. -/
theorem readGroups?_groupsText
    {groups : List (Fin 0x10000)}
    (h : groups.length = 8) :
    readGroups? (groupsText groups) = some groups := by
  rw [groupsText]
  split
  · have hsome : groups ≠ [] := by
      rintro rfl
      cases h
    rw [readGroups?, Text.cutAround_double_eq_none (colonsApart_joinGroups groups)]
    simp only [splitOn_joinGroups hsome, readParts?_hex]
  · rename_i hlong
    obtain ⟨front, back, hgroups, hlength⟩ := exists_longestRun groups
    generalize longestRun groups = run at hlong hgroups hlength
    have htake : groups.take run.1 = front := by
      rw [hgroups, List.append_assoc, ← hlength, List.take_left']
      rfl
    have hdrop : groups.drop (run.1 + run.2) = back := by
      rw [hgroups, ← hlength, List.drop_left']
      simp
    have hcount : front.length + run.2 + back.length = 8 := by
      rw [← h, hgroups]
      simp [Nat.add_assoc]
    have hleft : readSide? (List.mapM readGroup?) (joinGroups front) = some front :=
      readSide?_joinGroups (mapM_map_eq_some readGroup?_hex) front
    have hright : readSide? readParts? (joinGroups back) = some back :=
      readSide?_joinGroups readParts?_hex back
    have hmissing : 8 - (front.length + back.length) = run.2 := by
      omega
    have hroom : front.length + back.length < 8 := by
      omega
    rw [htake, hdrop, readGroups?,
      Text.cutAround_double (colonsApart_joinGroups front) (joinGroups back)]
    simp [hleft, hright, hroom, hmissing, hgroups]

theorem notMem_groupsText
    {mark : CodePoint}
    (hdigit : Numeral.hexDigit? mark = none)
    (hcolon : mark ≠ ':')
    (groups : List (Fin 0x10000)) :
    mark ∉ groupsText groups := by
  have hjoin (groups : List (Fin 0x10000)) : ∀ c ∈ joinGroups groups, c ≠ mark := by
    refine forall_mem_intercalate ?_ ?_
    · simpa [Text.ofString] using hcolon.symm
    · rintro part hpart c hc rfl
      obtain ⟨group, -, rfl⟩ := List.mem_map.mp hpart
      exact Numeral.notMem_hex hdigit _ hc
  intro hmem
  rw [groupsText] at hmem
  split at hmem
  · exact hjoin _ _ hmem rfl
  · simp only [List.mem_append] at hmem
    rcases hmem with (hmem | hmem) | hmem
    · exact hjoin _ _ hmem rfl
    · simp [Text.ofString, hcolon] at hmem
    · exact hjoin _ _ hmem rfl

theorem isSurrogate_of_mem_groupsText
    (groups : List (Fin 0x10000)) :
    ∀ c ∈ groupsText groups, c.isSurrogate = false := by
  intro c hc
  by_contra hsurrogate
  have hrange : 0xD800 ≤ c.val := by
    simp only [CodePoint.isSurrogate, Bool.not_eq_false, Bool.and_eq_true,
      decide_eq_true_eq] at hsurrogate
    exact hsurrogate.1
  have hdigit : Numeral.hexDigit? c = none := by
    rw [Numeral.hexDigit?, if_neg (by omega), if_neg (by omega), if_neg (by omega)]
  have hcolon : c ≠ ':' := by
    rintro rfl
    exact absurd hrange (by decide)
  exact notMem_groupsText hdigit hcolon groups hc

theorem colon_mem_groupsText
    {groups : List (Fin 0x10000)}
    (h : groups.length = 8) :
    (':' : CodePoint) ∈ groupsText groups := by
  rw [groupsText]
  split
  · rcases groups with _ | ⟨first, _ | ⟨second, groups⟩⟩
    · cases h
    · cases h
    · rw [joinGroups, List.map_cons, List.map_cons, List.intercalate_cons_cons]
      simp [Text.ofString]
  · simp [Text.ofString]

/-- Parts without a colon between them are too few for an address of version 6. -/
theorem colon_mem_of_readGroups?
    {t : Text}
    {groups : List (Fin 0x10000)}
    (h : readGroups? t = some groups)
    (hlength : groups.length = 8) :
    (':' : CodePoint) ∈ t := by
  by_contra hcolon
  have hdouble : Text.cutAround "::" t = none :=
    Text.cutAround_double_eq_none (.of_notMem hcolon)
  rw [readGroups?, hdouble] at h
  simp only [List.splitOn_eq_singleton hcolon, readParts?] at h
  split at h
  · obtain ⟨a, -, rfl⟩ := Option.map_eq_some_iff.mp h
    unfold ofTail at hlength
    split at hlength <;> cases hlength
  · obtain ⟨group, -, rfl⟩ := Option.map_eq_some_iff.mp h
    cases hlength

theorem colon_mem_of_withScope?
    {t : Text}
    {scope : Option Scope}
    {a : V6}
    (h : withScope? scope t = some a) :
    (':' : CodePoint) ∈ t := by
  obtain ⟨groups, hgroups, ha⟩ := Option.bind_eq_some_iff.mp h
  split at ha
  · rename_i hlength
    exact colon_mem_of_readGroups? hgroups hlength
  · cases ha

/-- Every text that denotes an address of version 6 holds a colon. -/
theorem colon_mem_of_read?
    {t : Text}
    {a : V6}
    (h : read? t = some a) :
    (':' : CodePoint) ∈ t := by
  unfold read? at h
  split at h
  · exact colon_mem_of_withScope? h
  · rename_i front name hcut
    obtain ⟨scope, -, hfront⟩ := Option.bind_eq_some_iff.mp h
    exact (Text.subset_of_cutAround hcut).1 (colon_mem_of_withScope? hfront)

/-- The written form of an address of version 6 denotes it. -/
theorem read?_text
    (a : V6) :
    read? a.text = some a := by
  obtain ⟨groups, hlength, scope⟩ := a
  have hpercent : ('%' : CodePoint) ∉ groupsText groups :=
    notMem_groupsText (by decide) (by decide) groups
  have hgroups := readGroups?_groupsText hlength
  cases scope with
  | none =>
      have hcut : Text.cutAround "%" (groupsText groups) = none :=
        Text.cutAround_mark_eq_none hpercent
      simp [text, read?, hcut, withScope?, hgroups, hlength]
  | some scope =>
      have hcut : Text.cutAround "%" (groupsText groups ++ ("%" ++ scope.name)) =
          some (groupsText groups, scope.name) :=
        Text.cutAround_mark hpercent scope.name
      have hscope : readScope? scope.name = some scope := by
        rw [readScope?, dif_pos ⟨scope.ne_nil, scope.no_percent, scope.no_slash⟩]
      simp [text, read?, hcut, hscope, withScope?, hgroups, hlength]

theorem colon_mem_text
    (a : V6) :
    (':' : CodePoint) ∈ a.text := by
  have hgroups := colon_mem_groupsText a.length_eq
  rw [text]
  split
  · exact hgroups
  · simp [hgroups]

end V6

/-! ## Any address -/

/-- The written form of an address denotes it. -/
theorem Address.read?_text
    (a : Address) :
    read? a.text = some a := by
  cases a with
  | v4 a =>
      simp [read?, text, V4.read?_text]
  | v6 a =>
      have hfour : V4.read? a.text = none := V4.read?_eq_none a.colon_mem_text
      simp [read?, text, hfour, V6.read?_text]

/-- Addresses that are written alike are the same. -/
theorem Address.text_inj
    {a b : Address} :
    a.text = b.text ↔ a = b := by
  constructor
  · intro h
    have hread := a.read?_text
    rw [h, b.read?_text] at hread
    exact (Option.some.inj hread).symm
  · rintro rfl
    rfl

end FloatingAddress
