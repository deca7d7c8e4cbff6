import FloatingAddress.Json.Printer
import FloatingAddress.Json.Reader
import FloatingAddress.Proofs.Numerals

/-!
# Reading JSON strings back

A string is written as one or two pieces for each of its code points, and read piece by
piece. A code point above plane 0 is written as two units, so that two surrogates of a text
that are the halves of a pair are read as one code point; all other texts are read as they
were written.

* `Json.pieces`: the pieces that a code point is written as;
* `Text.joined`, `Text.IsWhole`: a text with its pairs joined, and the texts without pairs;
* `Text.joined_eq_self_iff`: these are the texts that joining leaves alone;
* `Json.readString_printed`: what is read of a string.
-/

namespace FloatingAddress

open Json

/-! ## Pairs of surrogates in a text -/

namespace Text

/-- A text in which one code point stands for each pair of surrogates. -/
def joined : Text → Text
  | [] => []
  | [c] => [c]
  | high :: low :: rest =>
      match pair? high.val low.val with
      | some c => c :: joined rest
      | none => high :: joined (low :: rest)

/-- No two neighbours in a text are the halves of a pair. -/
def IsWhole : Text → Prop
  | [] | [_] => True
  | high :: low :: rest => pair? high.val low.val = none ∧ IsWhole (low :: rest)

theorem length_joined_le
    (t : Text) :
    t.joined.length ≤ t.length := by
  induction t using joined.induct with
  | case1 =>
      simp [joined]
  | case2 c =>
      simp [joined]
  | case3 high low rest c hpair ih =>
      simp only [joined, hpair, List.length_cons]
      omega
  | case4 high low rest hpair ih =>
      simp only [joined, hpair, List.length_cons] at ih ⊢
      omega

/-- A text is left alone exactly if it holds no pair. -/
theorem joined_eq_self_iff
    (t : Text) :
    t.joined = t ↔ t.IsWhole := by
  induction t using joined.induct with
  | case1 =>
      simp [joined, IsWhole]
  | case2 c =>
      simp [joined, IsWhole]
  | case3 high low rest c hpair ih =>
      have hlength := length_joined_le rest
      have hshorter : joined (high :: low :: rest) ≠ high :: low :: rest := by
        intro heq
        have hcount := congrArg List.length heq
        simp only [joined, hpair, List.length_cons] at hcount
        omega
      simp [hshorter, IsWhole, hpair]
  | case4 high low rest hpair ih =>
      simp [joined, IsWhole, hpair, ih]

/-- Halves of a pair are surrogates. -/
theorem isSurrogate_of_pair?
    {high low c : CodePoint}
    (h : pair? high.val low.val = some c) :
    high.isSurrogate = true ∧ low.isSurrogate = true := by
  unfold pair? at h
  split at h
  · rename_i hrange
    simp only [CodePoint.isSurrogate, Bool.and_eq_true, decide_eq_true_eq]
    omega
  · cases h

/-- A text of scalar values holds no pair. -/
theorem isWhole_of_scalar
    {t : Text}
    (h : ∀ c ∈ t, c.isSurrogate = false) :
    t.IsWhole := by
  induction t using joined.induct with
  | case1 =>
      trivial
  | case2 c =>
      trivial
  | case3 high low rest c hpair ih =>
      have hhigh := h high List.mem_cons_self
      rw [(isSurrogate_of_pair? hpair).1] at hhigh
      cases hhigh
  | case4 high low rest hpair ih =>
      exact ⟨hpair, ih fun c hc => h c (List.mem_cons_of_mem _ hc)⟩

end Text

namespace Json

/-! ## How a code point is written -/

/-- The code points that are written as a letter or mark after a backslash. -/
def IsEscaped (c : CodePoint) : Prop :=
  c = CodePoint.quotationMark ∨ c = CodePoint.backslash ∨
    c.val ∈ [0x08, 0x0C, 0x0A, 0x0D, 0x09]

instance (c : CodePoint) : Decidable (IsEscaped c) :=
  inferInstanceAs (Decidable (_ ∨ _))

/-- The pieces that a code point is written as. -/
def pieces (c : CodePoint) : List Piece :=
  if IsEscaped c ∨ 0x20 ≤ c.val ∧ c.val < 0x7F then [.point c]
  else if c.val < 0x10000 then [.unit c.val]
  else
    [.unit (0xD800 + (c.val - 0x10000) / 0x400), .unit (0xDC00 + (c.val - 0x10000) % 0x400)]

section Printing

variable {c : CodePoint}

theorem exists_escape
    (h : IsEscaped c) :
    ∃ letter : CodePoint,
      printPoint c = [CodePoint.backslash, letter] ∧
      letter ≠ 'u' ∧
      escaped? letter = some c := by
  rcases h with rfl | rfl | h
  · exact ⟨CodePoint.quotationMark, by decide, by decide, by decide⟩
  · exact ⟨CodePoint.backslash, by decide, by decide, by decide⟩
  · obtain ⟨n, hn⟩ := c
    simp only [List.mem_cons, List.not_mem_nil, or_false] at h
    rcases h with rfl | rfl | rfl | rfl | rfl
    · exact ⟨'b', rfl, by decide, rfl⟩
    · exact ⟨'f', rfl, by decide, rfl⟩
    · exact ⟨'n', rfl, by decide, rfl⟩
    · exact ⟨'r', rfl, by decide, rfl⟩
    · exact ⟨'t', rfl, by decide, rfl⟩

theorem printPoint_of_not_isEscaped
    (h : ¬IsEscaped c) :
    printPoint c =
      if 0x20 ≤ c.val ∧ c.val < 0x7F then [c]
      else if c.val < 0x10000 then printUnit c.val
      else
        printUnit (0xD800 + (c.val - 0x10000) / 0x400)
          ++ printUnit (0xDC00 + (c.val - 0x10000) % 0x400) := by
  simp only [IsEscaped, List.mem_cons, List.not_mem_nil, or_false, not_or] at h
  obtain ⟨hquote, hslash, hb, hf, hn, hr, ht⟩ := h
  simp [printPoint, hquote, hslash, hb, hf, hn, hr, ht]

end Printing

/-! ## Reading pieces -/

/-- Pieces in front of those that a step reads. -/
def Step.prepend (front : List Piece) (step : Step (List Piece)) : Step (List Piece) :=
  step.map fun read => (front ++ read.1, read.2)

section Reading

variable (opening : Nat) {rest : Text}

theorem readPieces_escape
    {e p : CodePoint}
    (hunit : e ≠ 'u')
    (hescaped : escaped? e = some p) :
    readPieces opening (CodePoint.backslash :: e :: rest) =
      Step.cons (.point p) (readPieces opening rest) := by
  have hmark : CodePoint.backslash ≠ CodePoint.quotationMark := by
    decide
  rw [readPieces.eq_def]
  simp [hmark, hunit, hescaped]

theorem readPieces_plain
    {c : CodePoint}
    (hescaped : ¬IsEscaped c)
    (hcontrol : 0x20 ≤ c.val) :
    readPieces opening (c :: rest) = Step.cons (.point c) (readPieces opening rest) := by
  simp only [IsEscaped, not_or] at hescaped
  rw [readPieces.eq_def]
  simp [hescaped.1, hescaped.2.1, Nat.not_lt.mpr hcontrol]

theorem readPieces_printUnit
    {n : Nat}
    (hn : n < 0x10000)
    (hrest : rest ≠ []) :
    readPieces opening (printUnit n ++ rest) = Step.cons (.unit n) (readPieces opening rest) := by
  obtain ⟨a, b, c, d, ha, hb, hc, hd, hdigits, hvalue⟩ := Numeral.exists_hexPadded_four hn
  have hunit : unit? (Numeral.hexDigit a) (Numeral.hexDigit b) (Numeral.hexDigit c)
      (Numeral.hexDigit d) = some n := by
    simp [unit?, Numeral.hexDigit?_hexDigit, ha, hb, hc, hd, hvalue]
  have hmark : CodePoint.backslash ≠ CodePoint.quotationMark := by
    decide
  have hsome : rest.isEmpty = false := by
    simpa using hrest
  simp [printUnit, hdigits, readPieces, hmark, hunit, hsome]

theorem printUnit_append_ne_nil
    (n : Nat)
    (rest : Text) :
    printUnit n ++ rest ≠ [] := by
  simp [printUnit]

/-- A code point of a string is read as the pieces that it was written as. -/
theorem readPieces_printPoint
    (c : CodePoint)
    (hrest : rest ≠ []) :
    readPieces opening (printPoint c ++ rest) =
      Step.prepend (pieces c) (readPieces opening rest) := by
  by_cases hescaped : IsEscaped c
  · obtain ⟨letter, hprint, hunit, hletter⟩ := exists_escape hescaped
    rw [hprint, pieces, if_pos (.inl hescaped)]
    exact readPieces_escape opening hunit hletter
  · rw [printPoint_of_not_isEscaped hescaped, pieces]
    simp only [hescaped, false_or]
    split
    · rename_i hplain
      exact readPieces_plain opening hescaped hplain.1
    · split
      · rename_i hlow
        exact readPieces_printUnit opening hlow hrest
      · have hlt := c.isLt
        rw [List.append_assoc,
          readPieces_printUnit opening (by omega) (printUnit_append_ne_nil _ _),
          readPieces_printUnit opening (by omega) hrest]
        cases readPieces opening rest <;> rfl

/-- A string is read as the pieces of its code points, up to its closing mark. -/
theorem readPieces_printed
    (t : Text) :
    readPieces opening (t.flatMap printPoint ++ CodePoint.quotationMark :: rest) =
      .ok (t.flatMap pieces, rest) := by
  induction t with
  | nil =>
      rw [List.flatMap_nil, List.nil_append, readPieces.eq_def]
      simp
  | cons c t ih =>
      rw [List.flatMap_cons, List.append_assoc, readPieces_printPoint opening c (by simp), ih]
      rfl

end Reading

/-! ## Joining pieces -/

theorem ofNat?_val
    (c : CodePoint) :
    CodePoint.ofNat? c.val = some c := by
  rw [CodePoint.ofNat?, dif_pos c.isLt]

/-- The next piece is no unit that makes a pair with a code point. -/
def Detached (c : CodePoint) : List Piece → Prop
  | .unit n :: _ => pair? c.val n = none
  | _ => True

/-- A code point above plane 0 is what its two units stand for. -/
theorem pair?_units
    {c : CodePoint}
    (h : 0x10000 ≤ c.val) :
    pair? (0xD800 + (c.val - 0x10000) / 0x400) (0xDC00 + (c.val - 0x10000) % 0x400) = some c := by
  have hlt := c.isLt
  have hvalue :
      0x10000 + (0xD800 + (c.val - 0x10000) / 0x400 - 0xD800) * 0x400
        + (0xDC00 + (c.val - 0x10000) % 0x400 - 0xDC00) = c.val := by
    omega
  rw [pair?, if_pos (by omega), hvalue, ofNat?_val]

/-- The pieces of a code point are joined to that code point. -/
theorem joinPieces_pieces
    {c : CodePoint}
    {next : List Piece}
    (h : Detached c next) :
    joinPieces (pieces c ++ next) = c :: joinPieces next := by
  unfold pieces
  split
  · rfl
  · split
    · rcases next with _ | ⟨piece, next⟩
      · simp [joinPieces, ofNat?_val]
      · cases piece with
        | point d =>
            simp [joinPieces, ofNat?_val]
        | unit n =>
            have hpair : pair? c.val n = none := h
            simp [joinPieces, ofNat?_val, hpair]
    · rename_i hhigh
      have hpair := pair?_units (Nat.not_lt.mp hhigh)
      simp [joinPieces, hpair]

/-- A surrogate is written as one unit. -/
theorem pieces_of_isSurrogate
    {c : CodePoint}
    (h : c.isSurrogate = true) :
    pieces c = [.unit c.val] := by
  simp only [CodePoint.isSurrogate, Bool.and_eq_true, decide_eq_true_eq] at h
  have hescaped : ¬IsEscaped c := by
    rintro (rfl | rfl | hmem)
    · exact absurd h (by decide)
    · exact absurd h (by decide)
    · simp only [List.mem_cons, List.not_mem_nil, or_false] at hmem
      omega
  rw [pieces, if_neg (by simp only [hescaped, false_or]; omega), if_pos (by omega)]

/-- A pair of surrogates is joined to the code point that it stands for. -/
theorem joinPieces_pair
    {high low c : CodePoint}
    (hpair : pair? high.val low.val = some c)
    (next : List Piece) :
    joinPieces (pieces high ++ (pieces low ++ next)) = c :: joinPieces next := by
  obtain ⟨hhigh, hlow⟩ := Text.isSurrogate_of_pair? hpair
  rw [pieces_of_isSurrogate hhigh, pieces_of_isSurrogate hlow]
  simp [joinPieces, hpair]

/-- A code point that makes no pair with the next one makes none with its first piece. -/
theorem detached_of_pair?
    {high low : CodePoint}
    (hpair : pair? high.val low.val = none)
    (next : List Piece) :
    Detached high (pieces low ++ next) := by
  unfold pieces
  split
  · trivial
  · split
    · exact hpair
    · have hlt := low.isLt
      -- the first unit of two is itself the first half of a pair
      change pair? high.val (0xD800 + (low.val - 0x10000) / 0x400) = none
      rw [pair?, if_neg (by omega)]

/-- The pieces of a text are joined to the text with its pairs joined. -/
theorem joinPieces_flatMap
    (t : Text) :
    joinPieces (t.flatMap pieces) = t.joined := by
  induction t using Text.joined.induct with
  | case1 =>
      rfl
  | case2 c =>
      exact joinPieces_pieces trivial
  | case3 high low rest c hpair ih =>
      rw [List.flatMap_cons, List.flatMap_cons, joinPieces_pair hpair, ih, Text.joined, hpair]
  | case4 high low rest hpair ih =>
      rw [List.flatMap_cons] at ih
      rw [List.flatMap_cons, List.flatMap_cons, joinPieces_pieces (detached_of_pair? hpair _), ih,
        Text.joined, hpair]

/-- A string is read with its pairs joined, up to its closing mark. -/
theorem readString_printed
    (opening : Nat)
    (t rest : Text) :
    readString opening (t.flatMap printPoint ++ CodePoint.quotationMark :: rest) =
      .ok (t.joined, rest) := by
  rw [readString, readPieces_printed, ← joinPieces_flatMap]
  rfl

end Json
end FloatingAddress
