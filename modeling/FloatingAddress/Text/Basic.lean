/-!
# Text as a list of code points

What a provider sends may name any code point by an escape, a surrogate that stands
alone included, so text is a list of code points and not of Unicode scalar values.

* `CodePoint` and `Text`, with coercions from characters and string literals;
* `Text.after?`, what follows a word at the start of a text;
* `Text.cutAround`, the text before and after the first occurrence of a word;
* `Text.stripEnd` and `Text.padRight`, trimming and padding.
-/

namespace FloatingAddress

/-- A Unicode code point; surrogates are code points too. -/
structure CodePoint where
  val : Nat
  /-- Code points end with plane 16. -/
  isLt : val < 0x110000
deriving DecidableEq

namespace CodePoint

/-- The code point of a Unicode scalar value. -/
def ofChar (c : Char) : CodePoint :=
  ⟨c.toNat, by
    rcases c.valid with h | ⟨_, h⟩ <;>
      simp only [Char.toNat, UInt32.toNat] at * <;> omega⟩

instance : Coe Char CodePoint := ⟨ofChar⟩

/-- The code point with a number, if there is one. -/
def ofNat? (n : Nat) : Option CodePoint :=
  if h : n < 0x110000 then some ⟨n, h⟩ else none

/-- The scalar value of a code point that is no surrogate. -/
def toChar? (c : CodePoint) : Option Char :=
  if h : c.val.isValidChar then some (Char.ofNatAux c.val h) else none

/-- Either half of a surrogate pair. -/
def isSurrogate (c : CodePoint) : Bool :=
  0xD800 ≤ c.val && c.val < 0xE000

/-- One of the 128 characters of ASCII. -/
def isAscii (c : CodePoint) : Bool :=
  c.val < 0x80

/-- Part of one of some runs, each given by its first and last code point. -/
def isAmong (runs : List (Nat × Nat)) (c : CodePoint) : Bool :=
  runs.any fun run => run.1 ≤ c.val && c.val ≤ run.2

/-- An ASCII letter. -/
def isLetter (c : CodePoint) : Bool :=
  (0x41 ≤ c.val && c.val ≤ 0x5A) || (0x61 ≤ c.val && c.val ≤ 0x7A)

/-- An ASCII decimal digit. -/
def isDigit (c : CodePoint) : Bool :=
  0x30 ≤ c.val && c.val ≤ 0x39

/-- An ASCII upper-case letter becomes lower case; all else stays. -/
def toLower (c : CodePoint) : CodePoint :=
  if h : 0x41 ≤ c.val ∧ c.val ≤ 0x5A then ⟨c.val + 0x20, by omega⟩ else c

/-- An ASCII lower-case letter becomes upper case; all else stays. -/
def toUpper (c : CodePoint) : CodePoint :=
  if h : 0x61 ≤ c.val ∧ c.val ≤ 0x7A then ⟨c.val - 0x20, by omega⟩ else c

/-- The apostrophe. -/
def apostrophe : CodePoint := ⟨0x27, by decide⟩

/-- The quotation mark. -/
def quotationMark : CodePoint := ⟨0x22, by decide⟩

/-- The reverse solidus. -/
def backslash : CodePoint := ⟨0x5C, by decide⟩

/-- The line feed. -/
def lineFeed : CodePoint := ⟨0x0A, by decide⟩

end CodePoint

/-- A sequence of code points. -/
abbrev Text := List CodePoint

namespace Text

/-- The code points of a string. -/
def ofString (s : String) : Text :=
  s.toList.map CodePoint.ofChar

instance : Coe String Text := ⟨ofString⟩

/-- The string of a text, with a replacement character for each lone surrogate. -/
def toString (t : Text) : String :=
  String.ofList (t.map fun c => c.toChar?.getD '\uFFFD')

/-- What follows a word at the start of a text, if the text starts with that word. -/
def after? : Text → Text → Option Text
  | [], t => some t
  | _ :: _, [] => none
  | w :: word, c :: t => if w = c then after? word t else none

/-- The text before and after the first occurrence of a word. -/
def cutAround (word : Text) : Text → Option (Text × Text)
  | [] => (after? word []).map fun rest => ([], rest)
  | c :: t =>
      match after? word (c :: t) with
      | some rest => some ([], rest)
      | none => (cutAround word t).map fun cut => (c :: cut.1, cut.2)

/-- A text without the code points of a class at its end. -/
def stripEnd (drop : CodePoint → Bool) (t : Text) : Text :=
  (t.reverse.dropWhile drop).reverse

/-- A text without the code points of a class at either end. -/
def strip (drop : CodePoint → Bool) (t : Text) : Text :=
  stripEnd drop (t.dropWhile drop)

/-- A text filled up with blanks to a width. -/
def padRight (width : Nat) (t : Text) : Text :=
  t ++ List.replicate (width - t.length) (' ' : CodePoint)

/-- A text with ASCII letters in lower case. -/
def toLower (t : Text) : Text :=
  t.map CodePoint.toLower

end Text

end FloatingAddress
