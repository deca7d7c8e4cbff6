import FloatingAddress.Text.Quoted

/-!
# Encodings

What an encoding has no bytes for: ASCII for all beyond its 128 characters, UTF-8 for
surrogates. `Encoding.unencodable?` finds the first such run in a text.
-/

namespace FloatingAddress

/-- An encoding of text. -/
inductive Encoding
  | ascii
  | utf8
deriving DecidableEq, Repr

/-- The first run of a text that an encoding has no bytes for. -/
structure Unencodable where
  encoding : Encoding
  /-- The whole text, which goes with the report of what is wrong with it. -/
  text : Text
  /-- How many code points stand before the run. -/
  offset : Nat
  /-- The first code point of the run. -/
  first : CodePoint
  /-- How many code points of the run follow the first. -/
  further : Nat
deriving DecidableEq

namespace Encoding

/-- The name of an encoding. -/
def name : Encoding → Text
  | ascii => "ascii"
  | utf8 => "utf-8"

/-- Why an encoding has no bytes for a code point. -/
def reason : Encoding → Text
  | ascii => "ordinal not in range(128)"
  | utf8 => "surrogates not allowed"

/-- Whether an encoding has no bytes for a code point. -/
def lacks (e : Encoding) (c : CodePoint) : Bool :=
  match e with
  | ascii => !c.isAscii
  | utf8 => c.isSurrogate

/-- The first run of a text that an encoding has no bytes for. -/
def unencodable? (e : Encoding) (t : Text) : Option Unencodable :=
  let clean := t.takeWhile fun c => !e.lacks c
  match t.dropWhile fun c => !e.lacks c with
  | [] => none
  | c :: rest => some ⟨e, t, clean.length, c, (rest.takeWhile e.lacks).length⟩

end Encoding

/-- One line that tells where the run is. -/
def Unencodable.message (u : Unencodable) : Text :=
  "'" ++ u.encoding.name ++ "' codec can't encode "
    ++ (if u.further = 0 then
          "character '" ++ Text.escapedPoint u.first ++ "' in position "
            ++ Numeral.ofNat u.offset
        else
          "characters in position " ++ Numeral.ofNat u.offset ++ "-"
            ++ Numeral.ofNat (u.offset + u.further))
    ++ ": " ++ u.encoding.reason

end FloatingAddress
