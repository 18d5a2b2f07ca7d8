/-
**Quoted texts.**

A quoted text stands between single quotes, or between double quotes when it holds a single quote
and no double quote. Inside, the backslash and the quote in use are escaped by a backslash, line
feed, carriage return and tab have their letters, and any other character that is not printable is
written by its code point in the shortest of the widths two, four and eight.

* `quoteMark`: the quote in use.
* `escaped`: how one character is written.
* `quoted`: the whole text.
-/

import ChartGuide.Text.Printable

namespace ChartGuide.Text

/-- The quote in use: single, unless the text holds single quotes and no double quote. -/
def quoteMark (text : List Char) : Char :=
  if '\'' ∈ text ∧ '"' ∉ text then '"' else '\''

/-- The number in base sixteen with lower case digits, at least `width` of them. -/
def hexDigits (width number : Nat) : List Char :=
  let digits := Nat.toDigits 16 number
  List.replicate (width - digits.length) '0' ++ digits

/-- The escape of a character by its code point. -/
def codePointEscape (c : Char) : List Char :=
  if c.toNat < 0x100 then '\\' :: 'x' :: hexDigits 2 c.toNat
  else if c.toNat < 0x10000 then '\\' :: 'u' :: hexDigits 4 c.toNat
  else '\\' :: 'U' :: hexDigits 8 c.toNat

/-- How one character is written between quotes. -/
def escaped (mark c : Char) : List Char :=
  if c = mark ∨ c = '\\' then ['\\', c]
  else if c = '\n' then ['\\', 'n']
  else if c = '\r' then ['\\', 'r']
  else if c = '\t' then ['\\', 't']
  else if isPrintable c then [c]
  else codePointEscape c

/-- The text between quotes, with escapes. -/
def quoted (text : String) : String :=
  let mark := quoteMark text.toList
  String.ofList (mark :: (text.toList.flatMap (escaped mark) ++ [mark]))

end ChartGuide.Text
