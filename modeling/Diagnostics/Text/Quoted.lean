import Diagnostics.Text.Printable
import Diagnostics.Text.Basic

/-!
# Quoted texts

A quoted text is written between two quotes: single ones, or double ones when the text has single
quotes and no double ones. A backslash stands in front of the quote and of a backslash inside; line
feed, carriage return and tab have a letter; every other character that is not printable is written
as its code point, in two, four or eight hexadecimal digits.
-/

namespace Diagnostics.Text

/-- The last `width` hexadecimal digits of `n`. -/
def hexDigits : (width : Nat) → (n : Nat) → Text
  | 0, _ => []
  | width + 1, n => hexDigits width (n / 16) ++ [(n % 16).digitChar]

/-- The code point of a character, written with as few of two, four or eight digits as it needs. -/
def escapedCodePoint (c : Char) : Text :=
  let n := c.toNat
  if n < 0x100 then '\\' :: 'x' :: hexDigits 2 n
  else if n < 0x10000 then '\\' :: 'u' :: hexDigits 4 n
  else '\\' :: 'U' :: hexDigits 8 n

/-- A character as it stands between the quotes `mark`. -/
def quotedChar (mark c : Char) : Text :=
  if c = mark ∨ c = '\\' then ['\\', c]
  else if c = '\n' then ['\\', 'n']
  else if c = '\r' then ['\\', 'r']
  else if c = '\t' then ['\\', 't']
  else if isPrintable c then [c]
  else escapedCodePoint c

/-- The mark that a text is quoted with. -/
def quoteMark (t : Text) : Char :=
  if '\'' ∈ t ∧ '"' ∉ t then '"' else '\''

/-- The text between quotes. -/
def quoted (t : Text) : Text :=
  let mark := quoteMark t
  mark :: t.flatMap (quotedChar mark) ++ [mark]

end Diagnostics.Text
