import FloatingAddress.Text.Form
import Mathlib.Data.List.TakeWhile

/-!
# Reading forms

The standard reading of an encoded form: its fields stand between ampersands, name and value
around the first equality sign; a plus sign is a blank, a percent sign and two digits are a
byte, and the bytes of a name or value are UTF-8.

* `Form.decode?`: the fields of a form;
* `Form.encodeText_eq_ok_iff`: what can be encoded;
* `Form.decode?_encodeField`: the field that was encoded is read back.
-/

namespace FloatingAddress

/-! ## What can be encoded -/

/-- An encoding has bytes for a text if it has bytes for each of its code points. -/
theorem Encoding.unencodable?_eq_none_iff
    (e : Encoding)
    (t : Text) :
    e.unencodable? t = none ↔ ∀ c ∈ t, e.lacks c = false := by
  have hclean :
      (t.dropWhile fun c => !e.lacks c) = [] ↔ ∀ c ∈ t, e.lacks c = false := by
    simp [List.dropWhile_eq_nil_iff]
  rw [← hclean, Encoding.unencodable?]
  cases t.dropWhile fun c => !e.lacks c <;> simp

/-- A code point that is no surrogate is a character. -/
theorem CodePoint.exists_ofChar
    {c : CodePoint}
    (h : c.isSurrogate = false) :
    ∃ char, ofChar char = c := by
  have hvalid : c.val.isValidChar := by
    have hlt := c.isLt
    simp only [isSurrogate, Bool.and_eq_false_iff, decide_eq_false_iff_not] at h
    simp only [Nat.isValidChar]
    omega
  exact ⟨Char.ofNatAux c.val hvalid, rfl⟩

theorem Text.exists_ofChar
    {t : Text}
    (h : ∀ c ∈ t, c.isSurrogate = false) :
    ∃ chars : List Char, chars.map CodePoint.ofChar = t := by
  induction t with
  | nil =>
      exact ⟨[], rfl⟩
  | cons c t ih =>
      obtain ⟨char, hchar⟩ := CodePoint.exists_ofChar (h c List.mem_cons_self)
      obtain ⟨chars, hchars⟩ := ih fun d hd => h d (List.mem_cons_of_mem _ hd)
      exact ⟨char :: chars, by rw [List.map_cons, hchar, hchars]⟩

/-- The bytes of a character are those of the standard encoding. -/
theorem Utf8.encodePoint_ofChar
    (c : Char) :
    encodePoint (CodePoint.ofChar c) = String.utf8EncodeChar c := by
  have hlt : c.val.toNat < 0x110000 :=
    (CodePoint.ofChar c).isLt
  have hvalue : (CodePoint.ofChar c).val = c.val.toNat :=
    rfl
  simp only [encodePoint, hvalue, String.utf8EncodeChar]
  generalize c.val.toNat = n at hlt
  -- the standard encoding masks the lead byte; below the next bound the mask changes nothing
  have hsize :
      n < 0x80 ∨ 0x80 ≤ n ∧ n < 0x800 ∨ 0x800 ≤ n ∧ n < 0x10000 ∨ 0x10000 ≤ n := by
    omega
  rcases hsize with hone | ⟨hlow, hhigh⟩ | ⟨hlow, hhigh⟩ | hfour
  · rw [if_pos hone, if_pos (by omega)]
  · have hlead : n / 64 % 0x20 = n / 64 := by
      omega
    rw [if_neg (by omega), if_pos hhigh, if_neg (by omega), if_pos (by omega), hlead]
    simp only [Nat.add_comm]
  · have hlead : n / 4096 % 0x10 = n / 4096 := by
      omega
    rw [if_neg (by omega), if_neg (by omega), if_pos hhigh, if_neg (by omega),
      if_neg (by omega), if_pos (by omega), hlead]
    simp only [Nat.add_comm]
  · have hlead : n / 262144 % 0x08 = n / 262144 := by
      omega
    rw [if_neg (by omega), if_neg (by omega), if_neg (by omega), if_neg (by omega),
      if_neg (by omega), if_neg (by omega), hlead]
    simp only [Nat.add_comm]

namespace Form

/-- A name or value can be encoded if it holds no surrogate. -/
theorem encodeText_eq_ok_iff
    (t encoded : Text) :
    encodeText t = .ok encoded ↔
      (∀ c ∈ t, c.isSurrogate = false) ∧ t.flatMap encodePoint = encoded := by
  have hnone := Encoding.utf8.unencodable?_eq_none_iff t
  simp only [Encoding.lacks] at hnone
  rw [← hnone, encodeText]
  cases Encoding.utf8.unencodable? t <;> simp

/-! ## Reading -/

/-- The bytes of a name or value. -/
def bytes? : Text → Option (List UInt8)
  | [] => some []
  | c :: rest =>
      if c = '%' then
        match rest with
        | high :: low :: tail => do
            let h ← Numeral.hexDigit? high
            let l ← Numeral.hexDigit? low
            let bytes ← bytes? tail
            return UInt8.ofNat (h * 16 + l) :: bytes
        | _ => none
      else if c = '+' then (bytes? rest).map (UInt8.ofNat 0x20 :: ·)
      else if c.isAscii then (bytes? rest).map (UInt8.ofNat c.val :: ·)
      else none

/-- A text from its bytes in UTF-8. -/
def textOf? (bytes : List UInt8) : Option Text :=
  bytes.toByteArray.utf8Decode?.map fun chars => chars.toList.map CodePoint.ofChar

/-- A name or value. -/
def decodeText? (t : Text) : Option Text :=
  (bytes? t).bind textOf?

/-- A name and a value, empty if there is no equality sign. -/
def decodeField? (t : Text) : Option (Text × Text) := do
  let name ← decodeText? (t.takeWhile fun c : CodePoint => c ≠ '=')
  let value ← decodeText? ((t.dropWhile fun c : CodePoint => c ≠ '=').drop 1)
  return (name, value)

/-- The fields of a form; nothing between two ampersands is no field. -/
def decode? (body : Text) : Option (List (Text × Text)) :=
  ((List.splitOn ('&' : CodePoint) body).filter (· ≠ [])).mapM decodeField?

/-! ## Reading what was encoded -/

/-- The two digits of a byte are digits of base sixteen, and no separators. -/
theorem exists_percentByte
    (b : UInt8) :
    ∃ high low : CodePoint,
      percentByte b = [('%' : CodePoint), high, low] ∧
      Numeral.hexDigit? high = some (b.toNat / 16) ∧
      Numeral.hexDigit? low = some (b.toNat % 16) := by
  have hdigit :
      ∀ n < 16,
        Numeral.hexDigit?
          (if n < 10 then Char.ofNat (0x30 + n) else Char.ofNat (0x41 + (n - 10)) : CodePoint) =
            some n := by
    decide
  have hlt := b.toNat_lt
  exact ⟨_, _, rfl, hdigit _ (by omega), hdigit _ (by omega)⟩

theorem bytes?_percentByte
    (b : UInt8)
    (rest : Text) :
    bytes? (percentByte b ++ rest) = (bytes? rest).map (b :: ·) := by
  obtain ⟨high, low, hbyte, hhigh, hlow⟩ := exists_percentByte b
  have hvalue : b.toNat / 16 * 16 + b.toNat % 16 = b.toNat := by
    omega
  rw [hbyte]
  cases hbytes : bytes? rest <;>
    simp [bytes?, hhigh, hlow, hvalue, hbytes, -UInt8.ofNat_add, -UInt8.ofNat_mul]

theorem bytes?_percentBytes
    (bytes : List UInt8)
    (rest : Text) :
    bytes? (bytes.flatMap percentByte ++ rest) = (bytes? rest).map (bytes ++ ·) := by
  induction bytes with
  | nil =>
      simp
  | cons b bytes ih =>
      rw [List.flatMap_cons, List.append_assoc, bytes?_percentByte, ih, Option.map_map]
      rfl

/-- What an encoded form holds as itself is ASCII. -/
theorem val_lt_of_isPlain
    {c : CodePoint}
    (h : isPlain c = true) :
    c.val < 0x80 := by
  simp only [isPlain, CodePoint.isLetter, CodePoint.isDigit, Bool.or_eq_true,
    Bool.and_eq_true, decide_eq_true_eq] at h
  rcases h with ((((h | h) | rfl) | rfl) | rfl) | rfl
  · omega
  · omega
  all_goals decide

theorem bytes?_encodePoint
    (c : CodePoint)
    (rest : Text) :
    bytes? (encodePoint c ++ rest) = (bytes? rest).map (Utf8.encodePoint c ++ ·) := by
  by_cases hplain : isPlain c = true
  · have hascii : c.val < 0x80 := val_lt_of_isPlain hplain
    have hpercent : c ≠ '%' := by
      rintro rfl
      exact absurd hplain (by decide)
    have hplus : c ≠ '+' := by
      rintro rfl
      exact absurd hplain (by decide)
    have hone : Utf8.encodePoint c = [UInt8.ofNat c.val] := by
      rw [Utf8.encodePoint, if_pos hascii]
    have hhead : bytes? (c :: rest) = (bytes? rest).map (UInt8.ofNat c.val :: ·) := by
      rw [bytes?.eq_def]
      simp [hpercent, hplus, CodePoint.isAscii, hascii]
    rw [encodePoint, if_pos hplain, hone]
    exact hhead
  · by_cases hblank : c = ' '
    · have hhead : bytes? (('+' : CodePoint) :: rest) =
          (bytes? rest).map (UInt8.ofNat 0x20 :: ·) := by
        rw [bytes?.eq_def]
        rfl
      rw [encodePoint, if_neg hplain, if_pos hblank, hblank]
      exact hhead
    · rw [encodePoint, if_neg hplain, if_neg hblank, bytes?_percentBytes]

theorem bytes?_flatMap_encodePoint
    (t : Text) :
    bytes? (t.flatMap encodePoint) = some (t.flatMap Utf8.encodePoint) := by
  induction t with
  | nil =>
      rfl
  | cons c t ih =>
      rw [List.flatMap_cons, bytes?_encodePoint, ih, List.flatMap_cons]
      rfl

theorem textOf?_utf8Encode
    (chars : List Char) :
    textOf? ((chars.map CodePoint.ofChar).flatMap Utf8.encodePoint) =
      some (chars.map CodePoint.ofChar) := by
  have hbytes :
      (chars.map CodePoint.ofChar).flatMap Utf8.encodePoint =
        chars.flatMap String.utf8EncodeChar := by
    simp only [List.flatMap_map, Utf8.encodePoint_ofChar]
  have hdecode : (chars.flatMap String.utf8EncodeChar).toByteArray.utf8Decode? =
      some chars.toArray :=
    List.utf8Decode?_utf8Encode
  rw [hbytes, textOf?, hdecode]
  rfl

theorem decodeText?_encodeText
    {t encoded : Text}
    (h : encodeText t = .ok encoded) :
    decodeText? encoded = some t := by
  obtain ⟨hscalar, rfl⟩ := (encodeText_eq_ok_iff t encoded).mp h
  obtain ⟨chars, rfl⟩ := Text.exists_ofChar hscalar
  rw [decodeText?, bytes?_flatMap_encodePoint]
  exact textOf?_utf8Encode chars

/-! ## The separators -/

theorem isPlain_of_hexDigit?
    {c : CodePoint}
    {n : Nat}
    (h : Numeral.hexDigit? c = some n) :
    isPlain c = true := by
  have hrange :
      0x30 ≤ c.val ∧ c.val ≤ 0x39 ∨ 0x41 ≤ c.val ∧ c.val ≤ 0x46 ∨
        0x61 ≤ c.val ∧ c.val ≤ 0x66 := by
    unfold Numeral.hexDigit? at h
    split at h
    · exact .inl ‹_›
    · split at h
      · exact .inr (.inl ‹_›)
      · split at h
        · exact .inr (.inr ‹_›)
        · cases h
  have hclass : c.isLetter = true ∨ c.isDigit = true := by
    simp only [CodePoint.isLetter, CodePoint.isDigit, Bool.or_eq_true, Bool.and_eq_true,
      decide_eq_true_eq]
    omega
  rcases hclass with h | h <;> simp [isPlain, h]

/-- A mark that is not plain stands in an encoded name or value only as part of an escape. -/
theorem notMem_flatMap_encodePoint
    {mark : CodePoint}
    (hplain : isPlain mark = false)
    (hpercent : mark ≠ '%')
    (hplus : mark ≠ '+')
    (t : Text) :
    mark ∉ t.flatMap encodePoint := by
  intro hmem
  obtain ⟨c, -, hc⟩ := List.mem_flatMap.mp hmem
  unfold encodePoint at hc
  split at hc
  · rename_i h
    rw [List.mem_singleton.mp hc, h] at hplain
    cases hplain
  · split at hc
    · exact hplus (List.mem_singleton.mp hc)
    · obtain ⟨b, -, hb⟩ := List.mem_flatMap.mp hc
      obtain ⟨high, low, hbyte, hhigh, hlow⟩ := exists_percentByte b
      rw [hbyte] at hb
      rcases List.mem_cons.mp hb with rfl | hb
      · exact hpercent rfl
      · rcases List.mem_cons.mp hb with rfl | hb
        · rw [isPlain_of_hexDigit? hhigh] at hplain
          cases hplain
        · rw [List.mem_singleton.mp hb, isPlain_of_hexDigit? hlow] at hplain
          cases hplain

/-- An encoded name or value holds neither separator. -/
theorem notMem_of_encodeText
    {t encoded : Text}
    (h : encodeText t = .ok encoded) :
    ('=' : CodePoint) ∉ encoded ∧ ('&' : CodePoint) ∉ encoded := by
  obtain ⟨-, rfl⟩ := (encodeText_eq_ok_iff t encoded).mp h
  exact
    ⟨notMem_flatMap_encodePoint (by decide) (by decide) (by decide) t,
      notMem_flatMap_encodePoint (by decide) (by decide) (by decide) t⟩

/-- An encoded field is the encoded name, an equality sign and the encoded value. -/
theorem encodeField_eq_ok_iff
    (name value body : Text) :
    encodeField name value = .ok body ↔
      ∃ n v, encodeText name = .ok n ∧ encodeText value = .ok v ∧
        n ++ ('=' : CodePoint) :: v = body := by
  cases hname : encodeText name with
  | error run =>
      simp [encodeField, hname, Except.bind, bind]
  | ok n =>
      cases hvalue : encodeText value with
      | error run =>
          simp [encodeField, hname, hvalue, Except.bind, bind]
      | ok v =>
          simp [encodeField, hname, hvalue, Except.bind, bind, pure, Except.pure,
            Text.ofString]

/-- The field that was encoded is read back, and nothing else. -/
theorem decode?_encodeField
    {name value body : Text}
    (h : encodeField name value = .ok body) :
    decode? body = some [(name, value)] := by
  obtain ⟨n, v, hname, hvalue, rfl⟩ := (encodeField_eq_ok_iff name value body).mp h
  obtain ⟨hnequal, hnamp⟩ := notMem_of_encodeText hname
  obtain ⟨-, hvamp⟩ := notMem_of_encodeText hvalue
  have hnone : ('&' : CodePoint) ∉ n ++ ('=' : CodePoint) :: v := by
    simp only [List.mem_append, List.mem_cons, hnamp, hvamp, or_false, false_or]
    decide
  have hplain : ∀ c ∈ n, decide (c ≠ ('=' : CodePoint)) = true := by
    intro c hc
    exact decide_eq_true fun heq => hnequal (heq ▸ hc)
  have hfield : decodeField? (n ++ ('=' : CodePoint) :: v) = some (name, value) := by
    rw [decodeField?, List.takeWhile_append_of_pos hplain,
      List.dropWhile_append_of_pos hplain]
    simp [decodeText?_encodeText hname, decodeText?_encodeText hvalue]
  rw [decode?, List.splitOn_eq_singleton hnone]
  simp [hfield]

example :
    decode? "active_server_ip=fe80%3A%3A1%25eth0" =
      some [(("active_server_ip" : Text), ("fe80::1%eth0" : Text))] := by
  decide +kernel

end Form
end FloatingAddress
