import FloatingAddress.Proofs.Atoms
import FloatingAddress.Proofs.Course

/-!
# The limits of the reader

A body that breaks the grammar, has another shape than a record, or holds an error record
is a failure. The two limits of the reader are not: a body that exceeds one of them ends an
operation by an unexpected fault.

* `Json.ExceedsLimit`: the bodies on which the reader gives up;
* `Provider.recordIn_isFailure_iff`: exactly these do not decode to a record or a failure;
* `Json.exceedsLimit_of_digits`: an integer with too many digits is such a body.
-/

namespace FloatingAddress
namespace Json

/-- A limit of the reader, and no break of the grammar. -/
def ReadError.IsLimit : ReadError → Prop
  | malformed _ _ => False
  | numeralTooLong _ | nestedTooDeep _ => True

/-- The reader gives up on a text: an integer in it is too long, or it is nested too
deep. -/
def ExceedsLimit (t : Text) : Prop :=
  ∃ e, read t = .error e ∧ e.IsLimit

/-- A run of digits that does not begin with a zero is read to its end. -/
theorem readNumber?_of_digits
    {c : CodePoint}
    {rest : Text}
    (hc : c.isDigit = true)
    (hzero : c ≠ '0')
    (hrest : ∀ d ∈ rest, d.isDigit = true) :
    readNumber? (c :: rest) = some (⟨false, c :: rest, none, none⟩, []) := by
  have hplain : Plain (c :: rest) :=
    ⟨List.forall_mem_cons.mpr ⟨hc, hrest⟩, .inr ⟨c, rest, rfl, hzero⟩⟩
  simpa [minus, Text.ofString, readFraction, readExponent] using
    @readNumber?_plain _ [] false hplain trivial

/-- An integer with too many digits exceeds a limit. -/
theorem exceedsLimit_of_digits
    {c : CodePoint}
    {rest : Text}
    (hc : c.isDigit = true)
    (hzero : c ≠ '0')
    (hrest : ∀ d ∈ rest, d.isDigit = true)
    (hlong : Numeral.maxDigits ≤ rest.length) :
    ExceedsLimit (c :: rest) := by
  have hspace : skipSpace (c :: rest) = c :: rest := by
    simp [skipSpace, isSpace_of_isDigit hc]
  have hquote : c ≠ CodePoint.quotationMark := ne_of_isDigit hc (by decide)
  have harray : c ≠ '[' := ne_of_isDigit hc (by decide)
  have hobject : c ≠ '\x7b' := ne_of_isDigit hc (by decide)
  -- the first value takes up the whole text, and its digits are counted before they are read
  have hvalue :
      readValue maxDepth (c :: rest) = .error (.numeralTooLong (rest.length + 1)) := by
    have htoolong : Numeral.maxDigits < rest.length + 1 := by
      omega
    rw [readValue_atom hquote harray hobject]
    simp [readAtom, readWord?_of_isDigit hc, readNumber?_of_digits hc hzero hrest,
      NumberParts.value, htoolong, Except.map]
  have hmark : some c ≠ CodePoint.ofNat? 0xFEFF := by
    simpa [CodePoint.ofNat?] using ne_of_isDigit hc (d := ⟨0xFEFF, by decide⟩) (by decide)
  refine ⟨.numeralTooLong (rest.length + 1), ?_, trivial⟩
  simp [read, hmark, readAll, hspace, hvalue, Except.mapError, Stop.inText]

end Json

namespace Provider

theorem Reply.faultOf_isFailure_iff
    (e : Json.ReadError) :
    (faultOf e).IsFailure ↔ ¬e.IsLimit := by
  cases e <;> simp [faultOf, Fault.IsFailure, Json.ReadError.IsLimit]

/-- A body that holds no failover record is a failure, unless it exceeds a limit of the
reader. -/
theorem recordIn_isFailure_iff
    {body : Text}
    {fault : Fault}
    (h : recordIn body = .error fault) :
    fault.IsFailure ↔ ¬Json.ExceedsLimit body := by
  cases hread : Json.read body with
  | error e =>
      have hfault : Reply.faultOf e = fault := by
        simpa [recordIn, Reply.decode, hread, Except.bind] using h
      rw [← hfault, Reply.faultOf_isFailure_iff]
      simp [Json.ExceedsLimit, hread]
  | ok v =>
      have hlimit : ¬Json.ExceedsLimit body := by
        simp [Json.ExceedsLimit, hread]
      refine iff_of_true ?_ hlimit
      cases hreply : Reply.ofValue v with
      | error problem =>
          have hfault : Fault.failure (.malformedResponse problem) = fault := by
            simpa [recordIn, Reply.decode, hread, hreply, Except.bind] using h
          rw [← hfault]
          trivial
      | ok reply =>
          cases reply with
          | failover record =>
              simp [recordIn, Reply.decode, hread, hreply, Except.bind,
                Keeper.expectFailover] at h
          | error record =>
              have hfault :
                  Fault.failure (.provider record.status record.code record.message) =
                    fault := by
                simpa [recordIn, Reply.decode, hread, hreply, Except.bind,
                  Keeper.expectFailover] using h
              rw [← hfault]
              trivial

theorem recordIn_of_exceedsLimit
    {body : Text}
    (h : Json.ExceedsLimit body) :
    ∃ fault, recordIn body = .error fault ∧ ¬fault.IsFailure := by
  obtain ⟨e, hread, hlimit⟩ := h
  refine ⟨Reply.faultOf e, ?_, ?_⟩
  · simp [recordIn, Reply.decode, hread, Except.bind]
  · rw [Reply.faultOf_isFailure_iff]
    exact not_not_intro hlimit

end Provider
end FloatingAddress
