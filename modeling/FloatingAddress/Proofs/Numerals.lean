import FloatingAddress.Number.Numeral
import Mathlib.Data.List.Induction

/-!
# Reading numerals back

A number that was written in base ten or sixteen is the number that its digits denote.

* `Numeral.value_ofNat`: the digits of a number in base ten;
* `Numeral.ofNat_value`: digits without a zero in front are the numeral of a number;
* `Numeral.exists_digits_hex`: the digits of a number in base sixteen;
* `Numeral.exists_hexPadded_four`: those of a number of 16 bits, filled up to four.
-/

namespace FloatingAddress
namespace Numeral

/-! ## Base ten -/

theorem isDigit_of_mem_ofNat
    {n : Nat}
    {c : CodePoint}
    (h : c ∈ ofNat n) :
    c.isDigit = true := by
  obtain ⟨char, hchar, rfl⟩ := List.mem_map.mp h
  have hdigit : char.isDigit = true :=
    Nat.isDigit_of_mem_toDigits (by decide) (by decide) hchar
  simp only [Char.isDigit, UInt32.le_iff_toNat_le, Bool.and_eq_true, decide_eq_true_eq] at hdigit
  simp only [CodePoint.isDigit, Bool.and_eq_true, decide_eq_true_eq]
  exact hdigit

theorem ofNat_ne_nil
    (n : Nat) :
    ofNat n ≠ [] := by
  simp [ofNat, Nat.toDigits_ne_nil]

/-- The digits of a number denote it. -/
theorem value_ofNat
    (n : Nat) :
    value (ofNat n) = n := by
  have hdigits : Nat.ofDigitChars 10 (Nat.toDigits 10 n) 0 = n :=
    Nat.ofDigitChars_ten_toDigits
  rw [Nat.ofDigitChars_eq_foldl] at hdigits
  rw [value, ofNat, List.foldl_map]
  exact hdigits

/-- No number but zero is written with a zero in front. -/
theorem head?_ofNat_ne_zero
    {n : Nat}
    (hn : 0 < n) :
    (ofNat n).head? ≠ some ('0' : CodePoint) := by
  induction n using Nat.strongRecOn with
  | ind n ih =>
      by_cases hlt : n < 10
      · have hsmall : ∀ d < 10, 0 < d → (ofNat d).head? ≠ some ('0' : CodePoint) := by
          decide
        exact hsmall n hlt hn
      · have hhead : (ofNat n).head? = (ofNat (n / 10)).head? := by
          obtain ⟨d, rest, hdigits⟩ := List.exists_cons_of_ne_nil (ofNat_ne_nil (n / 10))
          rw [ofNat, Nat.toDigits_of_base_le (by decide) (by omega), List.map_append, ← ofNat,
            hdigits]
          rfl
        rw [hhead]
        exact ih (n / 10) (by omega) (by omega)

/-- A digit is the numeral of its own value. -/
theorem ofNat_of_isDigit
    {c : CodePoint}
    (h : c.isDigit = true) :
    ofNat (c.val - 0x30) = [c] := by
  have hall : ∀ d < 10, (ofNat d).map CodePoint.val = [0x30 + d] := by
    decide
  simp only [CodePoint.isDigit, Bool.and_eq_true, decide_eq_true_eq] at h
  obtain ⟨digit, hdigit, hval⟩ := List.map_eq_singleton_iff.mp (hall (c.val - 0x30) (by omega))
  obtain rfl : digit = c := by
    cases digit
    cases c
    simp_all
  exact hdigit

/-- One more digit at the end of a number that is not zero. -/
theorem ofNat_ten_mul_add
    {n d : Nat}
    (hn : 0 < n)
    (hd : d < 10) :
    ofNat (10 * n + d) = ofNat n ++ ofNat d := by
  have hfront : (10 * n + d) / 10 = n := by
    omega
  have hlast : (10 * n + d) % 10 = d := by
    omega
  rw [ofNat, Nat.toDigits_of_base_le (by decide) (by omega), hfront, hlast, List.map_append,
    ofNat, ofNat, Nat.toDigits_of_lt_base hd]

/-- Digits without a zero in front are the numeral of their value. -/
theorem ofNat_value
    {t : Text}
    (hne : t ≠ [])
    (hdigits : ∀ c ∈ t, c.isDigit = true)
    (hzero : t.head? = some ('0' : CodePoint) → t.length = 1) :
    ofNat (value t) = t := by
  induction t using List.reverseRecOn with
  | nil =>
      exact absurd rfl hne
  | append_singleton front c ih =>
      have hc : c.isDigit = true := hdigits c (by simp)
      have hvalue : value (front ++ [c]) = 10 * value front + (c.val - 0x30) := by
        simp [value]
      rcases front with _ | ⟨first, rest⟩
      · simpa [value] using ofNat_of_isDigit hc
      · -- a text of two or more digits begins with none that is zero, nor does its front
        have hfirst : (first :: rest).head? ≠ some ('0' : CodePoint) := by
          intro hhead
          have hlength := hzero hhead
          simp at hlength
        have hfront : ofNat (value (first :: rest)) = first :: rest :=
          ih (List.cons_ne_nil _ _) (fun d hd => hdigits d (List.mem_append_left _ hd))
            fun hhead => absurd hhead hfirst
        have hpos : 0 < value (first :: rest) := by
          rw [Nat.pos_iff_ne_zero]
          intro hnull
          rw [← hfront, hnull] at hfirst
          exact hfirst (by decide)
        have hlast : c.val - 0x30 < 10 := by
          simp only [CodePoint.isDigit, Bool.and_eq_true, decide_eq_true_eq] at hc
          omega
        rw [hvalue, ofNat_ten_mul_add hpos hlast, hfront, ofNat_of_isDigit hc]

/-! ## Base sixteen -/

/-- A digit of base sixteen. -/
def hexDigit (d : Nat) : CodePoint :=
  d.digitChar

theorem hexDigit?_hexDigit
    {d : Nat}
    (hd : d < 0x10) :
    hexDigit? (hexDigit d) = some d := by
  have hall : ∀ d < 0x10, hexDigit? (hexDigit d) = some d := by
    decide
  exact hall d hd

theorem hex_of_lt
    {n : Nat}
    (h : n < 0x10) :
    hex n = [hexDigit n] := by
  rw [hex, Nat.toDigits_of_lt_base h]
  rfl

theorem hex_of_le
    {n : Nat}
    (h : 0x10 ≤ n) :
    hex n = hex (n / 0x10) ++ [hexDigit (n % 0x10)] := by
  rw [hex, Nat.toDigits_of_base_le (by decide) h, List.map_append]
  rfl

/-- The digits of a number denote it. -/
theorem exists_digits_hex
    (n : Nat) :
    ∃ digits,
      (hex n).mapM hexDigit? = some digits ∧
      digits.foldl (fun n digit => 0x10 * n + digit) 0 = n := by
  induction n using Nat.strongRecOn with
  | ind n ih =>
      by_cases hlt : n < 0x10
      · refine ⟨[n], ?_, by simp⟩
        simp [hex_of_lt hlt, hexDigit?_hexDigit hlt]
      · have hle : 0x10 ≤ n := by
          omega
        obtain ⟨digits, hread, hvalue⟩ := ih (n / 0x10) (by omega)
        refine ⟨digits ++ [n % 0x10], ?_, ?_⟩
        · have hlast := hexDigit?_hexDigit (Nat.mod_lt n (by decide : 0 < 0x10))
          simp [hex_of_le hle, List.mapM_append, hread, hlast]
        · rw [List.foldl_append, hvalue]
          exact Nat.div_add_mod n 0x10

theorem mem_hex
    {n : Nat}
    {c : CodePoint}
    (h : c ∈ hex n) :
    ∃ d < 0x10, c = hexDigit d := by
  induction n using Nat.strongRecOn with
  | ind n ih =>
      by_cases hlt : n < 0x10
      · rw [hex_of_lt hlt, List.mem_singleton] at h
        exact ⟨n, hlt, h⟩
      · rw [hex_of_le (by omega), List.mem_append, List.mem_singleton] at h
        rcases h with h | h
        · exact ih (n / 0x10) (by omega) h
        · exact ⟨n % 0x10, by omega, h⟩

/-- A mark that is no digit is part of no numeral. -/
theorem notMem_hex
    {mark : CodePoint}
    (h : hexDigit? mark = none)
    (n : Nat) :
    mark ∉ hex n := by
  intro hmem
  obtain ⟨d, hd, rfl⟩ := mem_hex hmem
  rw [hexDigit?_hexDigit hd] at h
  cases h

theorem length_hex_le_four
    {n : Nat}
    (h : n < 0x10000) :
    (hex n).length ≤ 4 := by
  rw [hex, List.length_map, Nat.length_toDigits_le_iff (by decide) (by decide)]
  exact h

theorem hex_ne_nil
    (n : Nat) :
    hex n ≠ [] := by
  simp [hex, Nat.toDigits_ne_nil]

/-- A filled up numeral is a shorter one and its last digit. -/
theorem hexPadded_succ
    (width n : Nat) :
    hexPadded (width + 2) n = hexPadded (width + 1) (n / 0x10) ++ [hexDigit (n % 0x10)] := by
  by_cases hlt : n < 0x10
  · have hzero : n / 0x10 = 0 := by
      omega
    have hzeros : hexPadded (width + 1) 0 = List.replicate (width + 1) ('0' : CodePoint) := by
      rw [hexPadded, hex_of_lt (by decide), List.replicate_succ']
      rfl
    rw [hzero, hzeros, hexPadded, hex_of_lt hlt, Nat.mod_eq_of_lt hlt]
    rfl
  · rw [hexPadded, hexPadded, hex_of_le (by omega)]
    simp

/-- A number of 16 bits is written with four digits that denote it. -/
theorem exists_hexPadded_four
    {n : Nat}
    (h : n < 0x10000) :
    ∃ a b c d : Nat,
      a < 0x10 ∧ b < 0x10 ∧ c < 0x10 ∧ d < 0x10 ∧
      hexPadded 4 n = [hexDigit a, hexDigit b, hexDigit c, hexDigit d] ∧
      a * 0x1000 + b * 0x100 + c * 0x10 + d = n := by
  have hone : hexPadded 1 (n / 0x10 / 0x10 / 0x10) = [hexDigit (n / 0x10 / 0x10 / 0x10)] := by
    rw [hexPadded, hex_of_lt (by omega)]
    rfl
  refine ⟨n / 0x10 / 0x10 / 0x10, n / 0x10 / 0x10 % 0x10, n / 0x10 % 0x10, n % 0x10,
    by omega, by omega, by omega, by omega, ?_, by omega⟩
  rw [hexPadded_succ, hexPadded_succ, hexPadded_succ, hone]
  rfl

end Numeral
end FloatingAddress
