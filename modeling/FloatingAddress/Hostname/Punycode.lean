import FloatingAddress.Text.Basic

/-!
# Punycode

A text written with ASCII characters alone: its ASCII characters, a hyphen, and one number
for each other code point, in ascending order, that tells how far the next one is away in
number and place. Numbers are written in base thirty-six, the lowest digit first; a digit
below a threshold ends a number, and the thresholds follow the size of the numbers before.

* `Punycode.encode`: a text written so;
* `Punycode.decode`: the text that was written.
-/

namespace FloatingAddress
namespace Punycode

/-- The threshold of the digit in a place; places are counted in steps of the base. -/
def threshold (place bias : Nat) : Nat :=
  if place ≤ bias then 1 else if bias + 26 ≤ place then 26 else place - bias

theorem one_le_threshold (place bias : Nat) : 1 ≤ threshold place bias := by
  unfold threshold
  split
  · omega
  · split <;> omega

/-- A size divided until it is small, and the bias of the divisions. -/
def settle (size bias : Nat) : Nat × Nat :=
  if 455 < size then settle (size / 35) (bias + 36) else (size, bias)
termination_by size
decreasing_by exact Nat.div_lt_self (by omega) (by omega)

/-- The bias after a number; `points` code points are there by then. -/
def adapt (number points : Nat) (isFirst : Bool) : Nat :=
  let size := if isFirst then number / 700 else number / 2
  let (size, bias) := settle (size + size / points) 0
  bias + 36 * size / (size + 38)

/-! ## Writing -/

/-- The character of a digit below thirty-six: letters, then digits. -/
def digitPoint (d : Nat) : CodePoint :=
  if h : d < 26 then ⟨0x61 + d, by omega⟩ else ⟨0x30 + (d - 26) % 10, by omega⟩

/-- A number, the digits from a place on. -/
def digits (bias place number : Nat) : Text :=
  let t := threshold place bias
  if number < t then [digitPoint number]
  else
    digitPoint (t + (number - t) % (36 - t))
      :: digits bias (place + 36) ((number - t) / (36 - t))
termination_by number
decreasing_by
  have h := one_le_threshold place bias
  have h' := Nat.div_le_self (number - threshold place bias) (36 - threshold place bias)
  omega

/-- What has been written. -/
structure Writing where
  /-- The digits. -/
  text : Text
  /-- How far the last code point written is away. -/
  distance : Nat
  /-- The present bias. -/
  bias : Nat
  /-- How many code points are there. -/
  points : Nat

/-- One pass over a text, in which a code point `target` is written wherever it stands.
Smaller ones are passed by; `basic` of them are ASCII. -/
def pass (basic : Nat) (target : Nat) (w : Writing) (c : CodePoint) : Writing :=
  if c.val < target then { w with distance := w.distance + 1 }
  else if c.val = target then
    { text := w.text ++ digits w.bias 36 w.distance
      distance := 0
      bias := adapt w.distance (w.points + 1) (w.points = basic)
      points := w.points + 1 }
  else w

/-- The numbers for a list of ascending code points of a text; `next` is the first number
that has not been passed by. -/
def write (t : Text) (basic : Nat) : Writing → Nat → List Nat → Text
  | w, _, [] => w.text
  | w, next, target :: targets =>
      let start := { w with distance := w.distance + (target - next) * (w.points + 1) }
      let done := t.foldl (pass basic target) start
      write t basic { done with distance := done.distance + 1 } (target + 1) targets

/-- A number put in its place in an ascending list, unless it is there already. -/
def insertNumber (n : Nat) : List Nat → List Nat
  | [] => [n]
  | m :: rest =>
      if n < m then n :: m :: rest else if n = m then m :: rest else m :: insertNumber n rest

/-- A text written with ASCII characters. -/
def encode (t : Text) : Text :=
  let basic := t.filter CodePoint.isAscii
  let others := t.filter fun c => !c.isAscii
  let targets := (others.map CodePoint.val).foldr insertNumber []
  (if basic = [] then [] else basic ++ ("-" : Text))
    ++ write t basic.length ⟨[], 0, 72, basic.length⟩ 0x80 targets

/-! ## Reading -/

/-- The digit of a character, letters of either case. -/
def digit? (c : CodePoint) : Option Nat :=
  if 0x61 ≤ c.val ∧ c.val ≤ 0x7A then some (c.val - 0x61)
  else if 0x41 ≤ c.val ∧ c.val ≤ 0x5A then some (c.val - 0x41)
  else if c.isDigit then some (c.val - 0x30 + 26)
  else none

/-- A number, its digits from a place on with their weight, and what follows it. -/
def number? (bias place weight : Nat) : Text → Option (Nat × Text)
  | [] => none
  | c :: rest =>
      match digit? c with
      | none => none
      | some d =>
          let t := threshold place bias
          if d < t then some (d * weight, rest)
          else
            (number? bias (place + 36) (weight * (36 - t)) rest).map fun more =>
              (d * weight + more.1, more.2)

theorem length_of_number? {bias place weight : Nat} {t : Text} {found : Nat × Text}
    (h : number? bias place weight t = some found) : found.2.length < t.length := by
  induction t generalizing place weight found with
  | nil => simp [number?] at h
  | cons c rest ih =>
    unfold number? at h
    split at h
    · simp at h
    · simp only at h
      split at h
      · simp only [Option.some.injEq] at h
        simp [← h]
      · obtain ⟨more, hmore, heq⟩ := Option.map_eq_some_iff.mp h
        have := ih hmore
        simp only [← heq, List.length_cons]
        omega

/-- Code points put into a text, each as its number tells: `code` is the number of the
last one and `place` the place after it. -/
def fill (t : Text) (code place bias : Nat) (numbers : Text) : Option Text :=
  if numbers = [] then some t
  else
    match _h : number? bias 36 1 numbers with
    | none => none
    | some (number, rest) =>
        let gaps := t.length + 1
        let code := code + (place + number) / gaps
        let here := (place + number) % gaps
        match CodePoint.ofNat? code with
        | none => none
        | some c =>
            fill (t.take here ++ c :: t.drop here) code (here + 1)
              (adapt number gaps (place = 0)) rest
termination_by numbers.length
decreasing_by exact length_of_number? _h

/-- The text that was written with ASCII characters. -/
def decode (t : Text) : Option Text :=
  let numbers := (t.reverse.takeWhile fun c : CodePoint => c ≠ '-').reverse
  fill (t.take (t.length - numbers.length - 1)) 0x80 0 72 numbers

end Punycode
end FloatingAddress
