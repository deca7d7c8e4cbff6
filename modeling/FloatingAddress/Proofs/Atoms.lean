import FloatingAddress.Json.Printer
import FloatingAddress.Json.Reader
import FloatingAddress.Proofs.Numerals
import Mathlib.Data.List.TakeWhile

/-!
# Reading words and numbers

A word or a numeral that stands in front of a text is read to its end, as long as nothing
follows that would make the numeral longer.

* `Json.Plain`, `Json.Ends`: the digits of a whole number, and what may follow a numeral;
* `Json.readNumber?_plain`: a numeral from its sign and its digits on;
* `Json.readAtom_ofInt`, `Json.readAtom_printDecimal`, `Json.readAtom_word`: the integers,
  decimals and words that are written.
-/

namespace FloatingAddress
namespace Json

/-! ## Digits -/

section Digits

variable {c : CodePoint}

theorem ne_of_isDigit
    (hc : c.isDigit = true)
    {d : CodePoint}
    (hd : d.isDigit = false) :
    c ≠ d := by
  rintro rfl
  rw [hc] at hd
  cases hd

theorem isSpace_of_isDigit
    (hc : c.isDigit = true) :
    isSpace c = false := by
  simp only [CodePoint.isDigit, Bool.and_eq_true, decide_eq_true_eq] at hc
  simp [isSpace]
  omega

/-- No word begins with a digit. -/
theorem readWord?_of_isDigit
    (hc : c.isDigit = true)
    (rest : Text) :
    readWord? (c :: rest) = none := by
  have hwords :
      ∀ word ∈ words, word.1.head?.map CodePoint.isDigit = some false := by
    decide +kernel
  rw [readWord?, List.findSome?_eq_none_iff]
  intro word hword
  have hhead := hwords word hword
  cases htext : word.1 with
  | nil =>
      simp [htext] at hhead
  | cons w tail =>
      have hw : w.isDigit = false := by
        simpa [htext] using hhead
      simp [Text.after?, (ne_of_isDigit hc hw).symm]

/-- No word has a digit after a minus sign. -/
theorem readWord?_of_minus
    (hc : c.isDigit = true)
    (rest : Text) :
    readWord? (('-' : CodePoint) :: c :: rest) = none := by
  have hletter : ('I' : CodePoint) ≠ c := (ne_of_isDigit hc (by decide)).symm
  have hinfinity :
      Text.after? NonFinite.negativeInfinity.text (('-' : CodePoint) :: c :: rest) = none := by
    simp [NonFinite.text, Text.ofString, Text.after?, hletter]
  rw [readWord?, List.findSome?_eq_none_iff]
  intro word hword
  simp only [words, List.mem_cons, List.not_mem_nil, or_false] at hword
  rcases hword with rfl | rfl | rfl | rfl | rfl | rfl
  -- only the last of the words begins with a minus sign
  · rfl
  · rfl
  · rfl
  · rfl
  · rfl
  · simp [hinfinity]

/-- The digits of a whole number: a zero alone, or digits from another one on. -/
structure Plain (digits : Text) : Prop where
  digit : ∀ c ∈ digits, c.isDigit = true
  head : digits = [('0' : CodePoint)] ∨ ∃ c rest, digits = c :: rest ∧ c ≠ '0'

theorem plain_ofNat
    (n : Nat) :
    Plain (Numeral.ofNat n) := by
  refine ⟨fun c hc => Numeral.isDigit_of_mem_ofNat hc, ?_⟩
  rcases Nat.eq_zero_or_pos n with rfl | hn
  · exact .inl rfl
  · have hzero := Numeral.head?_ofNat_ne_zero hn
    obtain ⟨c, rest, hdigits⟩ := List.exists_cons_of_ne_nil (Numeral.ofNat_ne_nil n)
    rw [hdigits] at hzero
    exact .inr ⟨c, rest, hdigits, fun hc => hzero (congrArg some hc)⟩

/-- No digit stands at the start of a text. -/
def NoDigit : Text → Prop
  | [] => True
  | c :: _ => c.isDigit = false

theorem takeWhile_digits
    {digits rest : Text}
    (hdigits : ∀ c ∈ digits, c.isDigit = true)
    (hrest : NoDigit rest) :
    (digits ++ rest).takeWhile CodePoint.isDigit = digits := by
  rw [List.takeWhile_append_of_pos hdigits]
  cases rest with
  | nil =>
      simp
  | cons c rest =>
      have hc : c.isDigit = false := hrest
      simp [hc]

theorem dropWhile_digits
    {digits rest : Text}
    (hdigits : ∀ c ∈ digits, c.isDigit = true)
    (hrest : NoDigit rest) :
    (digits ++ rest).dropWhile CodePoint.isDigit = rest := by
  rw [List.dropWhile_append_of_pos hdigits]
  cases rest with
  | nil =>
      rfl
  | cons c rest =>
      have hc : c.isDigit = false := hrest
      simp [hc]

end Digits

/-! ## Numerals -/

section Numerals

variable {digits rest : Text}

theorem Plain.exists_cons
    (h : Plain digits) :
    ∃ c tail, digits = c :: tail ∧ c.isDigit = true := by
  rcases h.head with rfl | ⟨c, tail, rfl, -⟩
  · exact ⟨_, _, rfl, h.digit _ List.mem_cons_self⟩
  · exact ⟨_, _, rfl, h.digit _ List.mem_cons_self⟩

theorem readWhole?_plain
    (h : Plain digits)
    (hrest : NoDigit rest) :
    readWhole? (digits ++ rest) = some (digits, rest) := by
  rcases h.head with rfl | ⟨c, tail, rfl, hzero⟩
  · rfl
  · obtain ⟨hc, htail⟩ := List.forall_mem_cons.mp h.digit
    simp [readWhole?, hzero, hc, takeWhile_digits htail hrest, dropWhile_digits htail hrest]

/-- The minus sign of a negative number. -/
def minus (negative : Bool) : Text :=
  Text.ofString (if negative then "-" else "")

/-- A numeral is read from its sign and the digits in front of a point on. -/
theorem readNumber?_plain
    (negative : Bool)
    (h : Plain digits)
    (hrest : NoDigit rest) :
    readNumber? (minus negative ++ (digits ++ rest)) =
      some (⟨negative, digits, (readFraction rest).1, (readExponent (readFraction rest).2).1⟩,
        (readExponent (readFraction rest).2).2) := by
  cases negative with
  | true =>
      have hminus : minus true ++ (digits ++ rest) = ('-' : CodePoint) :: (digits ++ rest) := rfl
      simp [readNumber?, hminus, readWhole?_plain h hrest]
  | false =>
      have hminus : minus false ++ (digits ++ rest) = digits ++ rest := rfl
      obtain ⟨c, tail, hdigits, hc⟩ := h.exists_cons
      have hhead : (digits ++ rest).head? ≠ some ('-' : CodePoint) := by
        rw [hdigits, List.cons_append, List.head?_cons]
        exact fun heq => ne_of_isDigit hc (by decide) (Option.some.inj heq)
      rw [hminus, readNumber?]
      simp only [hhead, decide_false, if_false, readWhole?_plain h hrest]

/-- What may follow a numeral: nothing that makes it longer. -/
def Ends : Text → Prop
  | [] => True
  | c :: _ => c.isDigit = false ∧ c ≠ '.' ∧ c ≠ 'e' ∧ c ≠ 'E'

theorem Ends.noDigit
    (h : Ends rest) :
    NoDigit rest := by
  cases rest with
  | nil =>
      trivial
  | cons c rest =>
      exact h.1

theorem readFraction_of_ends
    (h : Ends rest) :
    readFraction rest = (none, rest) := by
  cases rest with
  | nil =>
      rfl
  | cons c rest =>
      obtain ⟨-, hpoint, -, -⟩ := h
      simp [readFraction, hpoint]

theorem readExponent_of_ends
    (h : Ends rest) :
    readExponent rest = (none, rest) := by
  cases rest with
  | nil =>
      rfl
  | cons c rest =>
      obtain ⟨-, -, hlower, hupper⟩ := h
      simp [readExponent, hlower, hupper]

/-- An integer is written as its sign and the digits of its magnitude. -/
theorem ofInt_eq
    (n : Int) :
    Numeral.ofInt n = minus (decide (n < 0)) ++ Numeral.ofNat n.natAbs := by
  cases n with
  | ofNat n =>
      rfl
  | negSucc n =>
      have hsign : decide (Int.negSucc n < 0) = true := decide_eq_true (Int.negSucc_lt_zero n)
      rw [hsign]
      rfl

theorem signed_ofNat_natAbs
    (n : Int) :
    Numeral.signed (decide (n < 0)) (Numeral.ofNat n.natAbs) = n := by
  by_cases hn : n < 0
  · simp only [Numeral.signed, hn, decide_true, if_true, Numeral.value_ofNat]
    omega
  · simp only [Numeral.signed, hn, decide_false, Bool.false_eq_true, if_false,
      Numeral.value_ofNat]
    omega

theorem readNumber?_ofInt
    (n : Int)
    (hrest : Ends rest) :
    readNumber? (Numeral.ofInt n ++ rest) =
      some (⟨decide (n < 0), Numeral.ofNat n.natAbs, none, none⟩, rest) := by
  rw [ofInt_eq, List.append_assoc, readNumber?_plain _ (plain_ofNat _) hrest.noDigit,
    readFraction_of_ends hrest, readExponent_of_ends hrest]

/-- An exponent is read back. -/
theorem readExponent_ofInt
    (n : Int)
    (hrest : NoDigit rest) :
    readExponent (('e' : CodePoint) :: (Numeral.ofInt n ++ rest)) = (some n, rest) := by
  have hplain := plain_ofNat n.natAbs
  have htake := takeWhile_digits hplain.digit hrest
  have hdrop := dropWhile_digits hplain.digit hrest
  have hsome := Numeral.ofNat_ne_nil n.natAbs
  have hsign : readSign (Numeral.ofInt n ++ rest) =
      (decide (n < 0), Numeral.ofNat n.natAbs ++ rest) := by
    rw [ofInt_eq, List.append_assoc]
    obtain ⟨c, tail, hdigits, hc⟩ := hplain.exists_cons
    have hminus : c ≠ '-' := ne_of_isDigit hc (by decide)
    have hplus : c ≠ '+' := ne_of_isDigit hc (by decide)
    cases decide (n < 0) with
    | true =>
        rfl
    | false =>
        rw [hdigits]
        simp [minus, Text.ofString, readSign, hminus, hplus]
  simp [readExponent, hsign, htake, hdrop, hsome, signed_ofNat_natAbs]

theorem readNumber?_printDecimal
    (d : Decimal)
    (hrest : Ends rest) :
    readNumber? (printDecimal d ++ rest) =
      some (⟨d.negative, Numeral.ofNat d.coefficient, none, some d.exponent⟩, rest) := by
  have htext : printDecimal d ++ rest =
      minus d.negative ++
        (Numeral.ofNat d.coefficient ++
          ('e' : CodePoint) :: (Numeral.ofInt d.exponent ++ rest)) := by
    simp [printDecimal, minus, Text.ofString]
  have hfraction : readFraction (('e' : CodePoint) :: (Numeral.ofInt d.exponent ++ rest)) =
      (none, ('e' : CodePoint) :: (Numeral.ofInt d.exponent ++ rest)) :=
    rfl
  have hnext : NoDigit (('e' : CodePoint) :: (Numeral.ofInt d.exponent ++ rest)) := by
    change CodePoint.isDigit 'e' = false
    decide
  rw [htext, readNumber?_plain _ (plain_ofNat _) hnext, hfraction,
    readExponent_ofInt _ hrest.noDigit]

end Numerals

/-! ## Atoms -/

section Atoms

variable {rest : Text}

/-- A code point that neither opens a string nor a container begins a word or a number. -/
theorem readValue_atom
    {c : CodePoint}
    (hquote : c ≠ CodePoint.quotationMark)
    (harray : c ≠ '[')
    (hobject : c ≠ '\x7b')
    (depth : Nat)
    (rest : Text) :
    readValue depth (c :: rest) = readAtom (c :: rest) := by
  rw [readValue.eq_def]
  simp [hquote, harray, hobject]

/-- A numeral begins with a digit, or with a minus sign and a digit. -/
theorem readWord?_minus
    (negative : Bool)
    {digits : Text}
    (h : Plain digits) :
    readWord? (minus negative ++ (digits ++ rest)) = none := by
  obtain ⟨c, tail, rfl, hc⟩ := h.exists_cons
  cases negative with
  | true =>
      exact readWord?_of_minus hc _
  | false =>
      exact readWord?_of_isDigit hc _

/-- An integer with few enough digits is read back. -/
theorem readAtom_ofInt
    {n : Int}
    (hn : (Numeral.ofNat n.natAbs).length ≤ Numeral.maxDigits)
    (hrest : Ends rest) :
    readAtom (Numeral.ofInt n ++ rest) = .ok (.integer n, rest) := by
  have hword : readWord? (Numeral.ofInt n ++ rest) = none := by
    rw [ofInt_eq, List.append_assoc]
    exact readWord?_minus _ (plain_ofNat _)
  simp [readAtom, hword, readNumber?_ofInt n hrest, NumberParts.value, Nat.not_lt.mpr hn,
    signed_ofNat_natAbs, Except.map]

theorem readAtom_printDecimal
    (d : Decimal)
    (hrest : Ends rest) :
    readAtom (printDecimal d ++ rest) = .ok (.decimal d, rest) := by
  have hword : readWord? (printDecimal d ++ rest) = none := by
    have htext : printDecimal d ++ rest =
        minus d.negative ++ (Numeral.ofNat d.coefficient ++
          ("e" ++ Numeral.ofInt d.exponent ++ rest)) := by
      simp [printDecimal, minus]
    rw [htext]
    exact readWord?_minus _ (plain_ofNat _)
  simp [readAtom, hword, readNumber?_printDecimal d hrest, NumberParts.value,
    Numeral.value_ofNat, Except.map]

/-- A word is read, whatever follows it. -/
theorem readAtom_word
    {word : Text × Value}
    (h : word ∈ words)
    (rest : Text) :
    readAtom (word.1 ++ rest) = .ok (word.2, rest) := by
  simp only [words, List.mem_cons, List.not_mem_nil, or_false] at h
  rcases h with rfl | rfl | rfl | rfl | rfl | rfl <;> rfl

end Atoms

end Json
end FloatingAddress
