import FloatingAddress.Text.Combining
import FloatingAddress.Text.Composition

/-!
# Normal form

Texts that are canonically equivalent have one normal form, in which everything is
composed that composes (form C). It is found in three steps: all code points are
decomposed, the marks on one base are put in order, and bases are composed with the marks
and letters that follow them.

* `CodePoint.decomposed`, `Text.ordered`, `Text.composed`: the three steps;
* `Text.normal`: the normal form;
* `Text.isNormal`: whether a text is in normal form.
-/

namespace FloatingAddress

/-! ## Hangul

A syllable of Hangul has a leading consonant, a vowel and perhaps a trailing consonant;
syllables are numbered in that order. -/

namespace Hangul

/-- The first syllable. -/
def firstSyllable : Nat := 0xAC00

/-- The first leading consonant. -/
def firstLead : Nat := 0x1100

/-- The first vowel. -/
def firstVowel : Nat := 0x1161

/-- What stands in front of the first trailing consonant. -/
def noTrail : Nat := 0x11A7

/-- How many leading consonants there are. -/
def leads : Nat := 19

/-- How many vowels there are. -/
def vowels : Nat := 21

/-- How many trailing consonants there are, none included. -/
def trails : Nat := 28

/-- The letters of a syllable. -/
def letters? (c : CodePoint) : Option (List CodePoint) :=
  let number := c.val - firstSyllable
  if firstSyllable ≤ c.val ∧ number < leads * vowels * trails then
    let trail := number % trails
    let codes := [firstLead + number / (vowels * trails),
      firstVowel + number / trails % vowels]
      ++ (if trail = 0 then [] else [noTrail + trail])
    some (codes.filterMap CodePoint.ofNat?)
  else none

/-- The syllable of a leading consonant and a vowel, or of a syllable without a trailing
consonant and one. -/
def syllable? (first second : CodePoint) : Option CodePoint :=
  let lead := first.val - firstLead
  let vowel := second.val - firstVowel
  let number := first.val - firstSyllable
  let trail := second.val - noTrail
  if firstLead ≤ first.val ∧ lead < leads ∧ firstVowel ≤ second.val ∧ vowel < vowels then
    CodePoint.ofNat? (firstSyllable + (lead * vowels + vowel) * trails)
  else if firstSyllable ≤ first.val ∧ number < leads * vowels * trails ∧ number % trails = 0
      ∧ noTrail < second.val ∧ trail < trails then
    CodePoint.ofNat? (first.val + trail)
  else none

end Hangul

namespace CodePoint

/-- No decomposition takes more steps than this. -/
def maxSteps : Nat := 3

/-- A code point decomposed, in a number of steps at most. -/
def decomposedIn : Nat → CodePoint → List CodePoint
  | 0, c => [c]
  | steps + 1, c =>
      match c.replacement?, c.parts? with
      | some other, _ => decomposedIn steps other
      | none, some (first, second) => decomposedIn steps first ++ [second]
      | none, none => [c]

/-- A code point decomposed as far as it goes. -/
def decomposed (c : CodePoint) : List CodePoint :=
  (Hangul.letters? c).getD (decomposedIn maxSteps c)

/-- The code point that two in a row compose to. -/
def composed? (first second : CodePoint) : Option CodePoint :=
  match Hangul.syllable? first second with
  | some c => some c
  | none => whole? first second

end CodePoint

namespace Text

/-- A code point put in front of a text that is given backwards: behind the marks of a
higher class, if it is a mark itself. -/
def placed (c : CodePoint) : Text → Text
  | [] => [c]
  | d :: before =>
      if 0 < c.combiningClass ∧ c.combiningClass < d.combiningClass then d :: placed c before
      else c :: d :: before

/-- A text with the marks on one base in the order of their classes. -/
def ordered (t : Text) : Text :=
  (t.foldl (fun before c => placed c before) []).reverse

/-- A text composed from its start on: `base` is the base so far, `marks` are the marks
on it that did not compose, the last one first. -/
def composedFrom (base : CodePoint) (marks : Text) : Text → Text
  | [] => base :: marks.reverse
  | c :: rest =>
      let meets := marks.all fun mark => mark.combiningClass < c.combiningClass
      match if meets then CodePoint.composed? base c else none with
      | some whole => composedFrom whole marks rest
      | none =>
          if c.combiningClass = 0 then base :: marks.reverse ++ composedFrom c [] rest
          else composedFrom base (c :: marks) rest

/-- A text with everything composed that composes; marks in front of the first base
stay. -/
def composed (t : Text) : Text :=
  let marks := t.takeWhile fun c => c.combiningClass ≠ 0
  match t.drop marks.length with
  | [] => marks
  | base :: rest => marks ++ composedFrom base [] rest

/-- The normal form of a text. -/
def normal (t : Text) : Text :=
  composed (ordered (t.flatMap CodePoint.decomposed))

/-- Whether a text is in normal form. -/
def isNormal (t : Text) : Bool :=
  normal t = t

end Text
end FloatingAddress
