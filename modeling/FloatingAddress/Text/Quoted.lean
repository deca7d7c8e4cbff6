import FloatingAddress.Number.Numeral
import FloatingAddress.Text.Printable

/-!
# Quoted text

How messages quote a text: between apostrophes, or between quotation marks if the text
holds an apostrophe and no quotation mark. The mark in use and the backslash are escaped,
and so is every code point that is not printable: tab and line ends by a letter, others
by two, four or eight digits of base sixteen.
-/

namespace FloatingAddress
namespace Text

/-- The mark that a text is quoted with. -/
def quotingMark (t : Text) : CodePoint :=
  if CodePoint.apostrophe ∈ t ∧ CodePoint.quotationMark ∉ t then CodePoint.quotationMark
  else CodePoint.apostrophe

/-- A code point written by the digits of its number in base sixteen. -/
def escapedPoint (c : CodePoint) : Text :=
  if c.val < 0x100 then [CodePoint.backslash, 'x'] ++ Numeral.hexPadded 2 c.val
  else if c.val < 0x10000 then [CodePoint.backslash, 'u'] ++ Numeral.hexPadded 4 c.val
  else [CodePoint.backslash, 'U'] ++ Numeral.hexPadded 8 c.val

/-- One code point as it stands between two marks. -/
def quotedPoint (mark c : CodePoint) : Text :=
  if c = mark ∨ c = CodePoint.backslash then [CodePoint.backslash, c]
  else if c.val = 0x09 then [CodePoint.backslash, 't']
  else if c.val = 0x0A then [CodePoint.backslash, 'n']
  else if c.val = 0x0D then [CodePoint.backslash, 'r']
  else if c.isPrintable then [c]
  else escapedPoint c

/-- A text as messages quote it. -/
def quoted (t : Text) : Text :=
  let mark := quotingMark t
  mark :: t.flatMap (quotedPoint mark) ++ [mark]

end Text
end FloatingAddress
