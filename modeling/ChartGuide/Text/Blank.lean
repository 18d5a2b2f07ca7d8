/-
**Blank characters, and trimming them.**

Blanks separate the words of a chart line. `trim` takes them off both ends of a text and
`trimLeft` off its front. There are more of them than the core library counts as white space: also
the controls that end a line or a page and the spaces of other scripts.
-/

import ChartGuide.Text.CodePoints

namespace ChartGuide.Text

/-- The blanks: tab to carriage return, the four information separators, the space, the next-line
control, and the space, line and paragraph separators. -/
def blanks : List (Nat × Nat) :=
  [(0x09, 0x0d), (0x1c, 0x20), (0x85, 0x85), (0xa0, 0xa0), (0x1680, 0x1680), (0x2000, 0x200a),
  (0x2028, 0x2029), (0x202f, 0x202f), (0x205f, 0x205f), (0x3000, 0x3000)]

/-- Whether a character only separates words. -/
def isBlank (c : Char) : Bool := within blanks c

/-- The text without the blanks in front. -/
def trimLeft (text : List Char) : List Char := text.dropWhile isBlank

/-- The text without the blanks in front and at the end. -/
def trim (text : List Char) : List Char := ((trimLeft text).reverse.dropWhile isBlank).reverse

/-- A text has no more characters after trimming its front. -/
theorem length_trimLeft_le (text : List Char) : (trimLeft text).length ≤ text.length :=
  (List.dropWhile_sublist isBlank).length_le

end ChartGuide.Text
