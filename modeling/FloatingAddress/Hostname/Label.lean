import FloatingAddress.Hostname.Direction
import FloatingAddress.Hostname.Joining
import FloatingAddress.Hostname.Permitted
import FloatingAddress.Hostname.Punycode
import FloatingAddress.Hostname.Script
import FloatingAddress.Text.Normal
import FloatingAddress.Text.Quoted

/-!
# Labels of host names

A label is a part of a host name between two dots. It is in normal form, has hyphens only
inside and not as its third and fourth character, starts with no mark, holds only code
points that are permitted or fit their context, and keeps to one direction of writing. A
label with code points beyond ASCII travels as its Punycode after the mark `xn--`.

* `Label.check`: what is wrong with a label;
* `Label.encode`: a label as it travels;
* `Label.decode`: a label that travels so.
-/

namespace FloatingAddress
namespace Label

/-- What is wrong with a label. Positions count from one. -/
inductive Problem
  | empty
  | tooLong
  | notNormal
  | hyphensInside
  | hyphenAtEnd
  | leadingMark
  | notPermitted (c : CodePoint) (position : Nat) (label : Text)
  /-- A joiner after a code point without a name. -/
  | joinerAfterNameless (c : CodePoint) (position : Nat) (label : Text)
  | idleJoiner (c : CodePoint) (position : Nat) (label : Text)
  /-- A code point that does not fit its context. -/
  | misplaced (c : CodePoint) (position : Nat) (label : Text)
  | unknownDirection (position : Nat) (label : Text)
  /-- The first code point gives a label with a right-to-left part no direction. -/
  | undirected (label : Text)
  | leftInRight (position : Nat)
  | rightInLeft (position : Nat)
  | mixedDigits
  | endsUndirected
  /-- Nothing follows the mark of a label that travels. -/
  | nothingEncoded
  | encodedHyphenAtEnd
  | undecodable
  /-- What follows the mark is read as a label that is written differently. -/
  | notCanonical
deriving DecidableEq

namespace Problem

/-- The name of the kind of a problem. -/
def kind : Problem → Text
  | notPermitted .. => "InvalidCodepoint"
  | idleJoiner .. | misplaced .. => "InvalidCodepointContext"
  | unknownDirection .. | undirected _ | leftInRight _ | rightInLeft _ | mixedDigits
  | endsUndirected => "IDNABidiError"
  | _ => "IDNAError"

/-- A code point by the digits of its number. -/
def number (c : CodePoint) : Text :=
  "U+" ++ (List.replicate (4 - (Numeral.hex c.val).length) ('0' : CodePoint)
    ++ (Numeral.hex c.val).map CodePoint.toUpper)

/-- The wording of a problem. -/
def message : Problem → Text
  | empty => "Empty Label"
  | tooLong => "Label too long"
  | notNormal => "Label must be in Normalization Form C"
  | hyphensInside => "Label has disallowed hyphens in 3rd and 4th position"
  | hyphenAtEnd => "Label must not start or end with a hyphen"
  | leadingMark => "Label begins with an illegal combining character"
  | notPermitted c position label =>
      "Codepoint " ++ number c ++ " at position " ++ Numeral.ofNat position ++ " of "
        ++ label.quoted ++ " not allowed"
  | joinerAfterNameless c position label =>
      "Unknown codepoint adjacent to joiner " ++ number c ++ " at position "
        ++ Numeral.ofNat position ++ " in " ++ label.quoted
  | idleJoiner c position label =>
      "Joiner " ++ number c ++ " not allowed at position " ++ Numeral.ofNat position
        ++ " in " ++ label.quoted
  | misplaced c position label =>
      "Codepoint " ++ number c ++ " not allowed at position " ++ Numeral.ofNat position
        ++ " in " ++ label.quoted
  | unknownDirection position label =>
      "Unknown directionality in label " ++ label.quoted ++ " at position "
        ++ Numeral.ofNat position
  | undirected label =>
      "First codepoint in label " ++ label.quoted ++ " must be directionality L, R or AL"
  | leftInRight position =>
      "Invalid direction for codepoint at position " ++ Numeral.ofNat position
        ++ " in a right-to-left label"
  | rightInLeft position =>
      "Invalid direction for codepoint at position " ++ Numeral.ofNat position
        ++ " in a left-to-right label"
  | mixedDigits => "Can not mix numeral types in a right-to-left label"
  | endsUndirected => "Label ends with illegal codepoint directionality"
  | nothingEncoded => "Malformed A-label, no Punycode eligible content found"
  | encodedHyphenAtEnd => "A-label must not end with a hyphen"
  | undecodable => "Invalid A-label"
  | notCanonical => "A-label is not the canonical Punycode encoding of its U-label"

end Problem

/-! ## Code points and their context -/

/-- The combining class of the signs that take the vowel off a letter. -/
def vowelKiller : Nat := 9

/-- First and last code point of both runs of Tangut ideographs. -/
def tangutRuns : List (Nat × Nat) :=
  [(0x17000, 0x187F7), (0x18D00, 0x18D08)]

/-- A code point that the database lists without a name, or not at all: nothing is known
of how it combines. -/
def isNameless (c : CodePoint) : Bool :=
  c.isAmong tangutRuns || c.direction = .unknown

/-- Whether the nearest code point that joining does not pass over is of a class. -/
def meets (joins : CodePoint → Bool) (t : Text) : Bool :=
  (t.find? fun c => !c.isTransparent).any joins

/-- Whether a joiner fits between what stands in front of it, the nearest first, and what
follows it. Either joiner may follow a sign that takes off a vowel; the one that keeps
letters apart may also stand where letters would join. -/
def joinerFits (c : CodePoint) (before after : Text) : Bool :=
  before.head?.any (fun d => d.combiningClass = vowelKiller)
    || (c.val = 0x200C
      && meets CodePoint.joinsForward before && meets CodePoint.joinsBackward after)

/-- One of the Arabic digits. -/
def isArabicDigit (c : CodePoint) : Bool :=
  0x660 ≤ c.val && c.val ≤ 0x669

/-- One of the digits of Persian and Urdu. -/
def isPersianDigit (c : CodePoint) : Bool :=
  0x6F0 ≤ c.val && c.val ≤ 0x6F9

/-- Whether a code point that depends on its context fits between what stands in front of
it, the nearest first, and what follows it. -/
def contextFits (c : CodePoint) (before after : Text) : Bool :=
  if c.val = 0xB7 then before.head? = some ('l' : CodePoint) && after.head? = some ('l' : CodePoint)
  else if c.val = 0x375 then after.head?.any CodePoint.isGreek
  else if c.val = 0x5F3 ∨ c.val = 0x5F4 then before.head?.any CodePoint.isHebrew
  else if c.val = 0x30FB then
    (before ++ after).any fun d => d.val ≠ 0x30FB && d.isJapanese
  else if isArabicDigit c then !(before ++ after).any isPersianDigit
  else if isPersianDigit c then !(before ++ after).any isArabicDigit
  else false

/-- What is wrong with the code points of a label; those in front, the nearest first,
have been looked at. -/
def checkPoints (label before : Text) : Text → Except Problem Unit
  | [] => .ok ()
  | c :: after =>
      let position := before.length + 1
      if c.isPermitted then checkPoints label (c :: before) after
      else if c.isJoiner then
        if before.head?.any isNameless then
          .error (.joinerAfterNameless c position label)
        else if joinerFits c before after then checkPoints label (c :: before) after
        else .error (.idleJoiner c position label)
      else if c.isContextual then
        if contextFits c before after then checkPoints label (c :: before) after
        else .error (.misplaced c position label)
      else .error (.notPermitted c position label)

/-! ## The direction of a label -/

/-- The first position of a direction among directions. -/
def positionOf (d : Direction) (ds : List Direction) : Nat :=
  ds.findIdx (fun e => e = d) + 1

/-- What is wrong with a label from right to left, from a position on: nothing runs from
left to right, and all digits are of the same kind as those before. -/
def checkRight (position : Nat) (seen : Option Direction) :
    List Direction → Except Problem Unit
  | [] => .ok ()
  | d :: ds =>
      if d = .left then .error (.leftInRight position)
      else if d = .arabicDigit ∨ d = .digit then
        if seen = none ∨ seen = some d then checkRight (position + 1) (some d) ds
        else .error .mixedDigits
      else checkRight (position + 1) seen ds

/-- What is wrong with a label from left to right, from a position on. -/
def checkLeft (position : Nat) : List Direction → Except Problem Unit
  | [] => .ok ()
  | d :: ds =>
      if d = .right ∨ d = .arabicDigit then .error (.rightInLeft position)
      else checkLeft (position + 1) ds

/-- A label ends with a code point of certain directions, marks on it apart. -/
def checkEnd (allowed : List Direction) (ds : List Direction) : Except Problem Unit :=
  if (ds.reverse.find? fun d => d ≠ .mark).any allowed.contains then .ok ()
  else .error .endsUndirected

/-- What is wrong with the directions of a label. Without a part from right to left there
is nothing to be wrong. -/
def checkDirections (label : Text) : Except Problem Unit := do
  let ds := label.map CodePoint.direction
  if ds.contains .unknown then throw (.unknownDirection (positionOf .unknown ds) label)
  if ds.contains .right || ds.contains .arabicDigit then
    match ds.head? with
    | some .right =>
        checkRight 1 none ds
        checkEnd [.right, .digit, .arabicDigit] ds
    | some .left =>
        checkLeft 1 ds
        checkEnd [.left, .digit] ds
    | _ => throw (.undirected label)

/-! ## Labels as they are and as they travel -/

/-- What is wrong with a label. -/
def check (label : Text) : Except Problem Unit := do
  if label = [] then throw .empty
  if !label.isNormal then throw .notNormal
  if (label.drop 2).take 2 = ("--" : Text) then throw .hyphensInside
  if label.head? = some ('-' : CodePoint) ∨ label.getLast? = some ('-' : CodePoint) then
    throw .hyphenAtEnd
  if label.head?.any CodePoint.isMark then throw .leadingMark
  checkPoints label [] label
  checkDirections label

/-- What a label with code points beyond ASCII is marked with when it travels. -/
def mark : Text := "xn--"

/-- The label of a label that travels, in lower case. One text alone may follow the mark
for each label, the one that is written for it. -/
def decode (label : Text) : Except Problem Text :=
  match Text.after? mark label with
  | none => do
      check label
      return label
  | some encoded => do
      if encoded = [] then throw .nothingEncoded
      if encoded.getLast? = some ('-' : CodePoint) then throw .encodedHyphenAtEnd
      match Punycode.decode encoded with
      | none => throw .undecodable
      | some decoded =>
          if Punycode.encode decoded ≠ encoded then throw .notCanonical
          check decoded
          return decoded

/-- The most characters that a label has when it travels. -/
def maxLength : Nat := 63

/-- A label in lower case as it travels. -/
def encode (label : Text) : Except Problem Text := do
  let encoded ←
    if label.all CodePoint.isAscii then
      let _ ← decode label
      pure label
    else
      check label
      pure (mark ++ Punycode.encode label)
  if maxLength < encoded.length then throw .tooLong
  return encoded

end Label
end FloatingAddress
