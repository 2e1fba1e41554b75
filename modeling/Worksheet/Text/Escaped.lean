/-
  Escaped texts: how a text from the input is shown inside a message, so that every
  character of it can be seen. Quotation marks, backslashes and what is not visible are
  written behind a backslash, by letter or by code point; all else stands for itself.
-/
import Worksheet.Text.Blank
import Worksheet.Text.EscapedTable
import Worksheet.Text.Ranges

namespace Worksheet.Text

/-- Whether a character can be seen on its own: the space can; other blanks, characters of
    the category `Other`, marks that attach to their neighbour and characters shown as
    nothing cannot. -/
def isVisible (c : Char) : Bool :=
  c == ' '
    || !(isBlank c || inRanges otherRanges c.toNat || inRanges attachedMarkRanges c.toNat
      || inRanges defaultIgnorableRanges c.toNat)

/-- The sign that stands behind a backslash for a character. An apostrophe needs none. -/
def escapeSign? (c : Char) : Option Char :=
  if c = '"' ∨ c = '\\' then some c
  else if c = '\n' then some 'n'
  else if c = '\r' then some 'r'
  else if c = '\t' then some 't'
  else if c.toNat = 0 then some '0'
  else none

/-- A character of a text in a message. A code point is written in braces, with as few
    hexadecimal digits as it needs. -/
def escapedChar (c : Char) : List Char :=
  match escapeSign? c with
  | some sign => ['\\', sign]
  | none =>
    if isVisible c then [c]
    else ['\\', 'u', '\x7b'] ++ Nat.toDigits 16 c.toNat ++ ['\x7d']

/-- A text as messages show it. -/
def escaped (s : String) : String := String.ofList (s.toList.flatMap escapedChar)

end Worksheet.Text
