import FloatingAddress.Json.Error
import FloatingAddress.Json.Value

/-!
# Reading JSON

A reading step takes a text and gives what it read together with the text that is left.
A step that fails tells how much text was left at the place of the failure; `read` turns
that into a place. Containers are read down to `maxDepth` levels, and a container that
opens deeper fails at once, before anything that follows it is looked at.

* `readString`: a string up to its closing mark, escapes resolved;
* `readNumber?`: the longest numeral at the start of a text;
* `readValue`: a value with at most so many levels of containers;
* `read`: a whole text as one value.
-/

namespace FloatingAddress
namespace Json

/-- Containers may nest this deep. -/
def maxDepth : Nat := 1000

/-- Why a step fails, with the count of code points left at the place of the failure. -/
inductive Stop
  | malformed (reason : Reason) (left : Nat)
  | numeralTooLong (digits : Nat)
  | nestedTooDeep (container : Container)

/-- What a step gives: what it read and the text that is left, or why it fails. -/
abbrev Step (α : Type) := Except Stop (α × Text)

/-- A failure at the start of what is left. -/
def stopAt {α : Type} (reason : Reason) (left : Text) : Step α :=
  .error (.malformed reason left.length)

/-- One more element in front of those that a step read. -/
def Step.cons {α : Type} (a : α) (step : Step (List α)) : Step (List α) :=
  step.map fun read => (a :: read.1, read.2)

/-- The four code points that may stand between the tokens of a text. -/
def isSpace (c : CodePoint) : Bool :=
  c.val = 0x20 || c.val = 0x09 || c.val = 0x0A || c.val = 0x0D

/-- A text without the spaces in front of its first token. -/
def skipSpace (t : Text) : Text :=
  t.dropWhile isSpace

/-! ## Strings -/

/-- A piece of a string: a code point, or a 16-bit unit written as four digits. -/
inductive Piece
  | point (c : CodePoint)
  | unit (n : Nat)

/-- The unit that four digits of base sixteen denote. -/
def unit? (a b c d : CodePoint) : Option Nat := do
  let a ← Numeral.hexDigit? a
  let b ← Numeral.hexDigit? b
  let c ← Numeral.hexDigit? c
  let d ← Numeral.hexDigit? d
  return a * 0x1000 + b * 0x100 + c * 0x10 + d

/-- The code point that a letter or mark stands for after a backslash. -/
def escaped? (c : CodePoint) : Option CodePoint :=
  if c = CodePoint.quotationMark ∨ c = CodePoint.backslash ∨ c = '/' then some c
  else if c = 'b' then CodePoint.ofNat? 0x08
  else if c = 'f' then CodePoint.ofNat? 0x0C
  else if c = 'n' then CodePoint.ofNat? 0x0A
  else if c = 'r' then CodePoint.ofNat? 0x0D
  else if c = 't' then CodePoint.ofNat? 0x09
  else none

/-- The pieces of a string up to its closing mark. An unclosed string fails at its
opening mark, where `opening` code points were left. -/
def readPieces (opening : Nat) : Text → Step (List Piece)
  | [] => .error (.malformed .unterminatedString opening)
  | c :: rest =>
      if c = CodePoint.quotationMark then .ok ([], rest)
      else if c = CodePoint.backslash then
        match rest with
        | [] => .error (.malformed .unterminatedString opening)
        | e :: tail =>
            if e = 'u' then
              match tail with
              | h₁ :: h₂ :: h₃ :: h₄ :: further =>
                  match unit? h₁ h₂ h₃ h₄ with
                  | some n =>
                      if further.isEmpty then stopAt .invalidHexEscape rest
                      else Step.cons (.unit n) (readPieces opening further)
                  | none => stopAt .invalidHexEscape rest
              | _ => stopAt .invalidHexEscape rest
            else
              match escaped? e with
              | some p => Step.cons (.point p) (readPieces opening tail)
              | none => stopAt .invalidEscape (c :: rest)
      else if c.val < 0x20 then stopAt .controlCharacter (c :: rest)
      else Step.cons (.point c) (readPieces opening rest)

/-- The code point that two units stand for, if they are the halves of a pair. -/
def pair? (high low : Nat) : Option CodePoint :=
  if 0xD800 ≤ high ∧ high < 0xDC00 ∧ 0xDC00 ≤ low ∧ low < 0xE000 then
    CodePoint.ofNat? (0x10000 + (high - 0xD800) * 0x400 + (low - 0xDC00))
  else none

/-- The code points of a string: two units that are halves of a pair make one. -/
def joinPieces : List Piece → Text
  | [] => []
  | .point c :: rest => c :: joinPieces rest
  | .unit high :: .unit low :: rest =>
      match pair? high low with
      | some c => c :: joinPieces rest
      | none => (CodePoint.ofNat? high).toList ++ joinPieces (.unit low :: rest)
  | .unit n :: rest => (CodePoint.ofNat? n).toList ++ joinPieces rest

/-- The text of a string whose opening mark has been read. -/
def readString (opening : Nat) (t : Text) : Step Text :=
  (readPieces opening t).map fun read => (joinPieces read.1, read.2)

/-! ## Numbers and words -/

/-- The parts of a numeral. -/
structure NumberParts where
  /-- A minus sign stands in front. -/
  negative : Bool
  /-- The digits before the point. -/
  whole : Text
  /-- The digits after the point, if there is a point. -/
  fraction : Option Text
  /-- The sign and digits of the exponent, if there is one. -/
  exponent : Option Int

/-- The digits of a whole number: a zero alone, or all digits from another one on. -/
def readWhole? : Text → Option (Text × Text)
  | [] => none
  | c :: rest =>
      if c = '0' then some ([c], rest)
      else if c.isDigit then
        some (c :: rest.takeWhile CodePoint.isDigit, rest.dropWhile CodePoint.isDigit)
      else none

/-- A point and at least one digit; without them there is no fraction. -/
def readFraction : Text → Option Text × Text
  | [] => (none, [])
  | c :: rest =>
      if c = '.' ∧ rest.takeWhile CodePoint.isDigit ≠ [] then
        (some (rest.takeWhile CodePoint.isDigit), rest.dropWhile CodePoint.isDigit)
      else (none, c :: rest)

/-- A sign that may stand in front of digits: whether it is a minus, and what follows. -/
def readSign : Text → Bool × Text
  | [] => (false, [])
  | c :: rest =>
      if c = '-' then (true, rest) else if c = '+' then (false, rest) else (false, c :: rest)

/-- A letter, a sign and at least one digit; without them there is no exponent. -/
def readExponent : Text → Option Int × Text
  | [] => (none, [])
  | c :: rest =>
      let sign := readSign rest
      if (c = 'e' ∨ c = 'E') ∧ sign.2.takeWhile CodePoint.isDigit ≠ [] then
        (some (Numeral.signed sign.1 (sign.2.takeWhile CodePoint.isDigit)),
          sign.2.dropWhile CodePoint.isDigit)
      else (none, c :: rest)

/-- The longest numeral at the start of a text. -/
def readNumber? (t : Text) : Option (NumberParts × Text) :=
  let negative := t.head? = some ('-' : CodePoint)
  match readWhole? (if negative then t.drop 1 else t) with
  | none => none
  | some (whole, rest) =>
      let fraction := readFraction rest
      let exponent := readExponent fraction.2
      some (⟨negative, whole, fraction.1, exponent.1⟩, exponent.2)

/-- The value of a numeral: an integer unless there is a fraction or an exponent. -/
def NumberParts.value (p : NumberParts) : Except Stop Value :=
  match p.fraction, p.exponent with
  | none, none =>
      if Numeral.maxDigits < p.whole.length then .error (.numeralTooLong p.whole.length)
      else .ok (.integer (Numeral.signed p.negative p.whole))
  | fraction, exponent =>
      let digits := fraction.getD []
      .ok (.decimal ⟨p.negative, Numeral.value (p.whole ++ digits),
        exponent.getD 0 - digits.length⟩)

/-- The words that stand for a value. -/
def words : List (Text × Value) :=
  [("null", .null), ("true", .bool true), ("false", .bool false),
   (NonFinite.notANumber.text, .nonFinite .notANumber),
   (NonFinite.infinity.text, .nonFinite .infinity),
   (NonFinite.negativeInfinity.text, .nonFinite .negativeInfinity)]

/-- The word at the start of a text. -/
def readWord? (t : Text) : Option (Value × Text) :=
  words.findSome? fun word => (Text.after? word.1 t).map fun rest => (word.2, rest)

/-- A word or a number. -/
def readAtom (t : Text) : Step Value :=
  match readWord? t with
  | some read => .ok read
  | none =>
      match readNumber? t with
      | some (parts, rest) => parts.value.map fun v => (v, rest)
      | none => stopAt .expectingValue t

/-! ## Containers -/

/-- The items of an array from the first one on. At most `bound` items are read; as each
takes up text, the length of the text is bound enough. -/
def readItems (item : Text → Step Value) : Nat → Text → Step (List Value)
  | 0, t => stopAt .expectingValue t
  | bound + 1, t =>
      match item t with
      | .error stop => .error stop
      | .ok (v, rest) =>
          match skipSpace rest with
          | [] => stopAt .expectingComma []
          | c :: tail =>
              if c = ']' then .ok ([v], tail)
              else if c = ',' then Step.cons v (readItems item bound (skipSpace tail))
              else stopAt .expectingComma (c :: tail)

/-- A name, a colon and the spaces after it. -/
def readName (t : Text) : Step Text :=
  match t with
  | [] => stopAt .expectingName t
  | c :: rest =>
      if c = CodePoint.quotationMark then
        match readString t.length rest with
        | .error stop => .error stop
        | .ok (name, rest) =>
            match skipSpace rest with
            | [] => stopAt .expectingColon []
            | d :: tail =>
                if d = ':' then .ok (name, skipSpace tail)
                else stopAt .expectingColon (d :: tail)
      else stopAt .expectingName t

/-- The members of an object from the first one on, at most `bound` of them. -/
def readMembers (item : Text → Step Value) : Nat → Text → Step Members
  | 0, t => stopAt .expectingName t
  | bound + 1, t =>
      match readName t with
      | .error stop => .error stop
      | .ok (name, rest) =>
          match item rest with
          | .error stop => .error stop
          | .ok (v, rest) =>
              match skipSpace rest with
              | [] => stopAt .expectingComma []
              | c :: tail =>
                  if c = '\x7d' then .ok ([(name, v)], tail)
                  else if c = ',' then
                    Step.cons (name, v) (readMembers item bound (skipSpace tail))
                  else stopAt .expectingComma (c :: tail)

/-- An array whose opening bracket has been read. -/
def readArray (item : Text → Step Value) (t : Text) : Step Value :=
  match skipSpace t with
  | [] => stopAt .expectingValue []
  | c :: rest =>
      if c = ']' then .ok (.array [], rest)
      else (readItems item (c :: rest).length (c :: rest)).map fun read =>
        (.array read.1, read.2)

/-- An object whose opening brace has been read. -/
def readObject (item : Text → Step Value) (t : Text) : Step Value :=
  match skipSpace t with
  | [] => stopAt .expectingName []
  | c :: rest =>
      if c = '\x7d' then .ok (.object [], rest)
      else (readMembers item (c :: rest).length (c :: rest)).map fun read =>
        (.object read.1, read.2)

/-- A value with at most `depth` levels of containers. -/
def readValue (depth : Nat) (t : Text) : Step Value :=
  match t with
  | [] => stopAt .expectingValue []
  | c :: rest =>
      if c = CodePoint.quotationMark then
        (readString t.length rest).map fun read => (.string read.1, read.2)
      else if c = '[' then
        match depth with
        | 0 => .error (.nestedTooDeep .array)
        | below + 1 => readArray (readValue below) rest
      else if c = '\x7b' then
        match depth with
        | 0 => .error (.nestedTooDeep .object)
        | below + 1 => readObject (readValue below) rest
      else readAtom t
termination_by structural depth

/-! ## Whole texts -/

/-- A failure with its place in the whole text. -/
def Stop.inText (t : Text) : Stop → ReadError
  | .malformed reason left => .malformed reason (Place.after t (t.length - left))
  | .numeralTooLong digits => .numeralTooLong digits
  | .nestedTooDeep container => .nestedTooDeep container

/-- A whole text as one value, spaces around it left out. -/
def readAll (t : Text) : Except Stop Value :=
  match readValue maxDepth (skipSpace t) with
  | .error stop => .error stop
  | .ok (v, rest) =>
      match skipSpace rest with
      | [] => .ok v
      | left => .error (.malformed .extraData left.length)

/-- A text as one value. -/
def read (t : Text) : Except ReadError Value :=
  if t.head? = CodePoint.ofNat? 0xFEFF then .error (.malformed .byteOrderMark ⟨1, 1, 0⟩)
  else (readAll t).mapError (Stop.inText t)

end Json
end FloatingAddress
