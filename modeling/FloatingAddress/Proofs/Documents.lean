import FloatingAddress.Proofs.Atoms
import FloatingAddress.Proofs.Strings

/-!
# Reading JSON back

A value that is written is read back with the pairs of surrogates in its strings joined, as
long as it is not nested too deep and its integers are not too long.

* `Json.Value.joined`: a value with the pairs in its strings joined;
* `Json.Value.Fits`: the values that are read within a depth;
* `Json.readValue_print`: what is read of a value that other text follows;
* `Json.read_print`: what is read of a text that holds a value and nothing else.
-/

namespace FloatingAddress
namespace Json

/-! ## Values as they are read back -/

mutual

/-- A value with the pairs of surrogates in its strings joined. -/
def Value.joined : Value → Value
  | .null => .null
  | .bool b => .bool b
  | .integer n => .integer n
  | .decimal d => .decimal d
  | .nonFinite word => .nonFinite word
  | .string t => .string t.joined
  | .array items => .array (joinedItems items)
  | .object members => .object (joinedMembers members)

/-- Items with the pairs of surrogates in their strings joined. -/
def joinedItems : List Value → List Value
  | [] => []
  | v :: rest => v.joined :: joinedItems rest

/-- Members with the pairs of surrogates in their names and strings joined. -/
def joinedMembers : List (Text × Value) → List (Text × Value)
  | [] => []
  | (name, v) :: rest => (name.joined, v.joined) :: joinedMembers rest

end

/-- A value is read within a depth: its containers nest no deeper, and no integer in it has
too many digits. -/
inductive Value.Fits : Nat → Value → Prop
  | null {depth : Nat} :
      Fits depth .null
  | bool {depth : Nat} (b : Bool) :
      Fits depth (.bool b)
  | integer {depth : Nat} {n : Int}
      (hdigits : (Numeral.ofNat n.natAbs).length ≤ Numeral.maxDigits) :
      Fits depth (.integer n)
  | decimal {depth : Nat} (d : Decimal) :
      Fits depth (.decimal d)
  | nonFinite {depth : Nat} (word : NonFinite) :
      Fits depth (.nonFinite word)
  | string {depth : Nat} (t : Text) :
      Fits depth (.string t)
  | array {depth : Nat} {items : List Value}
      (hitems : ∀ v ∈ items, Fits depth v) :
      Fits (depth + 1) (.array items)
  | object {depth : Nat} {members : List (Text × Value)}
      (hmembers : ∀ m ∈ members, Fits depth m.2) :
      Fits (depth + 1) (.object members)

/-! ## Where values begin -/

/-- A code point that a value may begin with: in ASCII, no space, and no closing bracket. -/
def Opens (c : CodePoint) : Prop :=
  isSpace c = false ∧ c ≠ ']' ∧ c ≠ '\x7d' ∧ c.val < 0x80

instance (c : CodePoint) : Decidable (Opens c) :=
  inferInstanceAs (Decidable (_ ∧ _))

theorem opens_of_number
    {c : CodePoint}
    (h : c = '-' ∨ c.isDigit = true) :
    Opens c := by
  rcases h with rfl | h
  · decide
  · have hascii : c.val < 0x80 := by
      simp only [CodePoint.isDigit, Bool.and_eq_true, decide_eq_true_eq] at h
      omega
    exact ⟨isSpace_of_isDigit h, ne_of_isDigit h (by decide), ne_of_isDigit h (by decide),
      hascii⟩

/-- A number begins with a minus sign or a digit. -/
theorem exists_minus_cons
    (negative : Bool)
    (n : Nat)
    (rest : Text) :
    ∃ c tail,
      minus negative ++ (Numeral.ofNat n ++ rest) = c :: tail ∧
      (c = '-' ∨ c.isDigit = true) := by
  cases negative with
  | true =>
      exact ⟨'-', _, rfl, .inl rfl⟩
  | false =>
      obtain ⟨c, tail, hdigits, hc⟩ := (plain_ofNat n).exists_cons
      exact ⟨c, tail ++ rest, by rw [hdigits]; rfl, .inr hc⟩

/-- A value begins with neither a space nor a closing bracket. -/
theorem exists_print_cons
    (v : Value) :
    ∃ c tail, v.print = c :: tail ∧ Opens c := by
  cases v with
  | null =>
      exact ⟨'n', _, rfl, by decide⟩
  | bool b =>
      cases b
      · exact ⟨'f', _, rfl, by decide⟩
      · exact ⟨'t', _, rfl, by decide⟩
  | integer n =>
      obtain ⟨c, tail, htext, hc⟩ := exists_minus_cons (decide (n < 0)) n.natAbs []
      refine ⟨c, tail, ?_, opens_of_number hc⟩
      rw [Value.print, ofInt_eq, ← htext, List.append_nil]
  | decimal d =>
      obtain ⟨c, tail, htext, hc⟩ :=
        exists_minus_cons d.negative d.coefficient ("e" ++ Numeral.ofInt d.exponent)
      refine ⟨c, tail, ?_, opens_of_number hc⟩
      rw [Value.print, ← htext]
      simp [printDecimal, minus]
  | nonFinite word =>
      cases word
      · exact ⟨'N', _, rfl, by decide⟩
      · exact ⟨'I', _, rfl, by decide⟩
      · exact ⟨'-', _, rfl, by decide⟩
  | string t =>
      exact ⟨CodePoint.quotationMark, _, rfl, by decide⟩
  | array items =>
      exact ⟨'[', _, rfl, by decide⟩
  | object members =>
      exact ⟨'\x7b', _, rfl, by decide⟩

theorem skipSpace_of_not_isSpace
    {c : CodePoint}
    (h : isSpace c = false)
    (rest : Text) :
    skipSpace (c :: rest) = c :: rest := by
  simp [skipSpace, h]

theorem skipSpace_blank
    {c : CodePoint}
    (h : isSpace c = false)
    (rest : Text) :
    skipSpace ((' ' : CodePoint) :: c :: rest) = c :: rest := by
  have hblank : isSpace (' ' : CodePoint) = true := by
    decide
  rw [skipSpace, List.dropWhile_cons_of_pos hblank]
  exact skipSpace_of_not_isSpace h rest

theorem skipSpace_print
    (v : Value)
    (rest : Text) :
    skipSpace (v.print ++ rest) = v.print ++ rest := by
  obtain ⟨c, tail, htext, hspace, -⟩ := exists_print_cons v
  rw [htext, List.cons_append, skipSpace_of_not_isSpace hspace]

theorem skipSpace_blank_print
    (v : Value)
    (rest : Text) :
    skipSpace ((' ' : CodePoint) :: (v.print ++ rest)) = v.print ++ rest := by
  obtain ⟨c, tail, htext, hspace, -⟩ := exists_print_cons v
  rw [htext, List.cons_append, skipSpace_blank hspace]

theorem skipSpace_blank_printString
    (t : Text)
    (rest : Text) :
    skipSpace ((' ' : CodePoint) :: (printString t ++ rest)) = printString t ++ rest :=
  skipSpace_blank (c := CodePoint.quotationMark) (by decide) _

/-! ## Items and members -/

/-- A step reads a value back, whatever text follows that ends a numeral. -/
def ReadsBack (item : Text → Step Value) (v : Value) : Prop :=
  ∀ rest, Ends rest → item (v.print ++ rest) = .ok (v.joined, rest)

/-- A mark that is no part of a numeral ends it. -/
theorem ends_cons
    {c : CodePoint}
    (h : c ∈ [(',' : CodePoint), ']', '\x7d'])
    (rest : Text) :
    Ends (c :: rest) := by
  simp only [List.mem_cons, List.not_mem_nil, or_false] at h
  rcases h with rfl | rfl | rfl
  · exact ⟨by decide, by decide, by decide, by decide⟩
  · exact ⟨by decide, by decide, by decide, by decide⟩
  · exact ⟨by decide, by decide, by decide, by decide⟩

section Containers

variable {item : Text → Step Value}

theorem printItems_cons_cons
    (v w : Value)
    (items : List Value) :
    printItems (v :: w :: items) =
      v.print ++ (',' : CodePoint) :: (' ' : CodePoint) :: printItems (w :: items) := by
  simp [printItems, Text.ofString]

theorem exists_printItems
    (v : Value)
    (items : List Value) :
    ∃ more, printItems (v :: items) = v.print ++ more := by
  rcases items with _ | ⟨w, items⟩
  · exact ⟨[], by rw [printItems, List.append_nil]⟩
  · exact ⟨_, printItems_cons_cons v w items⟩

/-- Items are read back up to the closing bracket. -/
theorem readItems_print
    {v : Value}
    {items : List Value}
    (h : ∀ w ∈ v :: items, ReadsBack item w)
    {bound : Nat}
    (hbound : items.length < bound)
    (rest : Text) :
    readItems item bound (printItems (v :: items) ++ (']' : CodePoint) :: rest) =
      .ok (joinedItems (v :: items), rest) := by
  induction items generalizing v bound with
  | nil =>
      obtain ⟨bound, rfl⟩ := Nat.exists_eq_succ_of_ne_zero (Nat.ne_zero_of_lt hbound)
      have hread := h v List.mem_cons_self _ (ends_cons (c := ']') (by decide) rest)
      have hskip := skipSpace_of_not_isSpace (c := ']') (by decide) rest
      simp [readItems, printItems, hread, hskip, joinedItems]
  | cons w items ih =>
      obtain ⟨bound, rfl⟩ := Nat.exists_eq_succ_of_ne_zero (Nat.ne_zero_of_lt hbound)
      obtain ⟨hv, hrest⟩ := List.forall_mem_cons.mp h
      -- the next item begins with no blank, so that the blank after the comma is skipped alone
      obtain ⟨more, hmore⟩ := exists_printItems w items
      have hitems := ih hrest (Nat.lt_of_succ_lt_succ hbound)
      rw [hmore, List.append_assoc] at hitems
      have hcomma : (',' : CodePoint) ≠ ']' := by
        decide
      rw [printItems_cons_cons, hmore, List.append_assoc, List.cons_append, List.cons_append,
        List.append_assoc, readItems, hv _ (ends_cons (c := ',') (by decide) _)]
      simp only [skipSpace_of_not_isSpace (c := ',') (by decide), if_neg hcomma, if_true,
        skipSpace_blank_print, hitems]
      rfl

theorem printMembers_cons_cons
    (name : Text)
    (v : Value)
    (m : Text × Value)
    (members : List (Text × Value)) :
    printMembers ((name, v) :: m :: members) =
      printString name ++ (':' : CodePoint) :: (' ' : CodePoint) ::
        (v.print ++ (',' : CodePoint) :: (' ' : CodePoint) :: printMembers (m :: members)) := by
  simp [printMembers, Text.ofString]

theorem exists_printMembers
    (name : Text)
    (v : Value)
    (members : List (Text × Value)) :
    ∃ more, printMembers ((name, v) :: members) = printString name ++ more := by
  rcases members with _ | ⟨m, members⟩
  · exact ⟨": " ++ v.print, by simp [printMembers]⟩
  · exact ⟨_, printMembers_cons_cons name v m members⟩

/-- A name is read back together with the colon and the blank after it. -/
theorem readName_print
    (name : Text)
    (v : Value)
    (rest : Text) :
    readName (printString name ++ (':' : CodePoint) :: (' ' : CodePoint) :: (v.print ++ rest)) =
      .ok (name.joined, v.print ++ rest) := by
  have htext :
      printString name ++ (':' : CodePoint) :: (' ' : CodePoint) :: (v.print ++ rest) =
        CodePoint.quotationMark :: (name.flatMap printPoint ++ CodePoint.quotationMark ::
          (':' : CodePoint) :: (' ' : CodePoint) :: (v.print ++ rest)) := by
    simp [printString]
  rw [htext, readName]
  simp only [if_true, readString_printed, skipSpace_of_not_isSpace (c := ':') (by decide),
    skipSpace_blank_print]

/-- Members are read back up to the closing brace. -/
theorem readMembers_print
    {m : Text × Value}
    {members : List (Text × Value)}
    (h : ∀ m' ∈ m :: members, ReadsBack item m'.2)
    {bound : Nat}
    (hbound : members.length < bound)
    (rest : Text) :
    readMembers item bound (printMembers (m :: members) ++ ('\x7d' : CodePoint) :: rest) =
      .ok (joinedMembers (m :: members), rest) := by
  obtain ⟨name, v⟩ := m
  induction members generalizing name v bound with
  | nil =>
      obtain ⟨bound, rfl⟩ := Nat.exists_eq_succ_of_ne_zero (Nat.ne_zero_of_lt hbound)
      have hread := h _ List.mem_cons_self _ (ends_cons (c := '\x7d') (by decide) rest)
      have hskip := skipSpace_of_not_isSpace (c := '\x7d') (by decide) rest
      have hname := readName_print name v (('\x7d' : CodePoint) :: rest)
      have htext :
          printMembers [(name, v)] ++ ('\x7d' : CodePoint) :: rest =
            printString name ++ (':' : CodePoint) :: (' ' : CodePoint) ::
              (v.print ++ ('\x7d' : CodePoint) :: rest) := by
        simp [printMembers, Text.ofString]
      rw [htext, readMembers, hname]
      simp only [hread, hskip, if_true]
      rfl
  | cons m members ih =>
      obtain ⟨bound, rfl⟩ := Nat.exists_eq_succ_of_ne_zero (Nat.ne_zero_of_lt hbound)
      obtain ⟨next, w⟩ := m
      obtain ⟨hv, hrest⟩ := List.forall_mem_cons.mp h
      obtain ⟨more, hmore⟩ := exists_printMembers next w members
      have hmembers := ih (Nat.lt_of_succ_lt_succ hbound) next w hrest
      rw [hmore, List.append_assoc] at hmembers
      have hcomma : (',' : CodePoint) ≠ '\x7d' := by
        decide
      have htext :
          printMembers ((name, v) :: (next, w) :: members) ++ ('\x7d' : CodePoint) :: rest =
            printString name ++ (':' : CodePoint) :: (' ' : CodePoint) ::
              (v.print ++ ((',' : CodePoint) :: (' ' : CodePoint) ::
                (printString next ++ (more ++ ('\x7d' : CodePoint) :: rest)))) := by
        simp [printMembers_cons_cons, hmore]
      rw [htext, readMembers, readName_print]
      simp only [hv _ (ends_cons (c := ',') (by decide) _),
        skipSpace_of_not_isSpace (c := ',') (by decide), if_neg hcomma, if_true,
        skipSpace_blank_printString, hmembers]
      rfl

theorem length_le_printItems
    (items : List Value) :
    items.length ≤ (printItems items).length := by
  induction items with
  | nil =>
      exact Nat.le_refl 0
  | cons v items ih =>
      obtain ⟨c, tail, htext, -⟩ := exists_print_cons v
      rcases items with _ | ⟨w, items⟩
      · simp [printItems, htext]
      · rw [printItems_cons_cons, htext]
        simp only [List.length_cons, List.length_append] at ih ⊢
        omega

theorem length_le_printMembers
    (members : List (Text × Value)) :
    members.length ≤ (printMembers members).length := by
  induction members with
  | nil =>
      exact Nat.le_refl 0
  | cons m members ih =>
      obtain ⟨name, v⟩ := m
      rcases members with _ | ⟨m, members⟩
      · simp [printMembers, printString]
      · rw [printMembers_cons_cons]
        simp only [List.length_cons, List.length_append] at ih ⊢
        omega

theorem readArray_print
    {items : List Value}
    (h : ∀ v ∈ items, ReadsBack item v)
    (rest : Text) :
    readArray item (printItems items ++ (']' : CodePoint) :: rest) =
      .ok (.array (joinedItems items), rest) := by
  cases items with
  | nil =>
      rfl
  | cons v items =>
      obtain ⟨c, tail, htext, hspace, hclose, -⟩ := exists_print_cons v
      obtain ⟨more, hmore⟩ := exists_printItems v items
      have hall : printItems (v :: items) ++ (']' : CodePoint) :: rest =
          c :: (tail ++ (more ++ (']' : CodePoint) :: rest)) := by
        simp [hmore, htext]
      have hbound :
          items.length < (c :: (tail ++ (more ++ (']' : CodePoint) :: rest))).length := by
        have hle := length_le_printItems (v :: items)
        rw [← hall, List.length_append]
        simp only [List.length_cons] at hle
        omega
      have hread := readItems_print h hbound rest
      rw [hall] at hread ⊢
      rw [readArray, skipSpace_of_not_isSpace hspace]
      simp only [if_neg hclose, hread]
      rfl

theorem readObject_print
    {members : List (Text × Value)}
    (h : ∀ m ∈ members, ReadsBack item m.2)
    (rest : Text) :
    readObject item (printMembers members ++ ('\x7d' : CodePoint) :: rest) =
      .ok (.object (joinedMembers members), rest) := by
  cases members with
  | nil =>
      rfl
  | cons m members =>
      obtain ⟨name, v⟩ := m
      obtain ⟨more, hmore⟩ := exists_printMembers name v members
      have hclose : CodePoint.quotationMark ≠ '\x7d' := by
        decide
      obtain ⟨tail, hall⟩ :
          ∃ tail, printMembers ((name, v) :: members) ++ ('\x7d' : CodePoint) :: rest =
            CodePoint.quotationMark :: tail :=
        ⟨_, by simp only [hmore, printString, List.cons_append]; rfl⟩
      have hbound : members.length < (CodePoint.quotationMark :: tail).length := by
        have hle := length_le_printMembers ((name, v) :: members)
        rw [← hall, List.length_append]
        simp only [List.length_cons] at hle
        omega
      have hread := readMembers_print h hbound rest
      rw [hall] at hread ⊢
      rw [readObject, skipSpace_of_not_isSpace (c := CodePoint.quotationMark) (by decide)]
      simp only [if_neg hclose, hread]
      rfl

end Containers

/-! ## Values -/

theorem readValue_array
    (depth : Nat)
    (rest : Text) :
    readValue (depth + 1) (('[' : CodePoint) :: rest) = readArray (readValue depth) rest := by
  have hquote : ('[' : CodePoint) ≠ CodePoint.quotationMark := by
    decide
  rw [readValue.eq_def]
  simp only [if_neg hquote, if_true]

theorem readValue_object
    (depth : Nat)
    (rest : Text) :
    readValue (depth + 1) (('\x7b' : CodePoint) :: rest) =
      readObject (readValue depth) rest := by
  have hquote : ('\x7b' : CodePoint) ≠ CodePoint.quotationMark := by
    decide
  have harray : ('\x7b' : CodePoint) ≠ '[' := by
    decide
  rw [readValue.eq_def]
  simp only [if_neg hquote, if_neg harray, if_true]

theorem readValue_string
    (depth : Nat)
    (t : Text)
    (rest : Text) :
    readValue depth (printString t ++ rest) = .ok (.string t.joined, rest) := by
  have htext : printString t ++ rest =
      CodePoint.quotationMark :: (t.flatMap printPoint ++ CodePoint.quotationMark :: rest) := by
    simp [printString]
  rw [htext, readValue.eq_def]
  simp only [if_true, readString_printed]
  rfl

theorem readValue_number
    (depth : Nat)
    (negative : Bool)
    (n : Nat)
    (rest : Text) :
    readValue depth (minus negative ++ (Numeral.ofNat n ++ rest)) =
      readAtom (minus negative ++ (Numeral.ofNat n ++ rest)) := by
  obtain ⟨c, tail, htext, hc⟩ := exists_minus_cons negative n rest
  rw [htext]
  rcases hc with rfl | hc
  · exact readValue_atom (by decide) (by decide) (by decide) depth tail
  · exact readValue_atom (ne_of_isDigit hc (by decide)) (ne_of_isDigit hc (by decide))
      (ne_of_isDigit hc (by decide)) depth tail

/-- A word is read as its value. -/
theorem readValue_word
    (depth : Nat)
    (word : Text × Value)
    (h : word ∈ words)
    (rest : Text) :
    readValue depth (word.1 ++ rest) = .ok (word.2, rest) := by
  have hatom : readValue depth (word.1 ++ rest) = readAtom (word.1 ++ rest) := by
    simp only [words, List.mem_cons, List.not_mem_nil, or_false] at h
    rcases h with rfl | rfl | rfl | rfl | rfl | rfl <;>
      exact readValue_atom (by decide) (by decide) (by decide) depth _
  rw [hatom, readAtom_word h]

/-- A value is read back, whatever text follows that ends a numeral. -/
theorem readValue_print
    {depth : Nat}
    {v : Value}
    (h : v.Fits depth) :
    ReadsBack (readValue depth) v := by
  induction h with
  | @null depth =>
      intro rest _
      exact readValue_word depth ("null", .null) (by simp [words]) rest
  | @bool depth b =>
      intro rest _
      cases b
      · exact readValue_word depth ("false", .bool false) (by simp [words]) rest
      · exact readValue_word depth ("true", .bool true) (by simp [words]) rest
  | @integer depth n hdigits =>
      intro rest hrest
      have hatom := readAtom_ofInt hdigits hrest
      rw [ofInt_eq, List.append_assoc] at hatom
      rw [Value.print, ofInt_eq, List.append_assoc, readValue_number, hatom]
      rfl
  | @decimal depth d =>
      intro rest hrest
      have htext : printDecimal d ++ rest =
          minus d.negative ++ (Numeral.ofNat d.coefficient ++
            ("e" ++ Numeral.ofInt d.exponent ++ rest)) := by
        simp [printDecimal, minus]
      rw [Value.print, htext, readValue_number, ← htext, readAtom_printDecimal d hrest]
      rfl
  | @nonFinite depth word =>
      intro rest _
      have hword : (word.text, Value.nonFinite word) ∈ words := by
        cases word <;> simp [words]
      exact readValue_word depth _ hword rest
  | @string depth t =>
      intro rest _
      exact readValue_string depth t rest
  | @array depth items hitems ih =>
      intro rest _
      have htext : (Value.array items).print ++ rest =
          ('[' : CodePoint) :: (printItems items ++ (']' : CodePoint) :: rest) := by
        simp [Value.print, Text.ofString]
      rw [htext, readValue_array, readArray_print ih]
      rfl
  | @object depth members hmembers ih =>
      intro rest _
      have htext : (Value.object members).print ++ rest =
          ('\x7b' : CodePoint) :: (printMembers members ++ ('\x7d' : CodePoint) :: rest) := by
        simp [Value.print, Text.ofString]
      rw [htext, readValue_object, readObject_print ih]
      rfl

/-- A text that holds a value and nothing else is read back. -/
theorem read_print
    {v : Value}
    (h : v.Fits maxDepth) :
    read v.print = .ok v.joined := by
  have hvalue := readValue_print h [] trivial
  have hskip := skipSpace_print v []
  rw [List.append_nil] at hvalue hskip
  have hall : readAll v.print = .ok v.joined := by
    rw [readAll, hskip, hvalue]
    rfl
  obtain ⟨c, tail, htext, -, -, -, hascii⟩ := exists_print_cons v
  have hmark : v.print.head? ≠ CodePoint.ofNat? 0xFEFF := by
    have hc : c ≠ (⟨0xFEFF, by decide⟩ : CodePoint) := by
      rintro rfl
      exact absurd hascii (by decide)
    simpa [htext, CodePoint.ofNat?] using hc
  rw [read, if_neg hmark, hall]
  rfl

end Json
end FloatingAddress
