/-
**Texts in columns of a report.**

`alignRight` and `alignLeft` pad a text with spaces to a width and leave a longer text alone, and
`shortened` marks a text that was cut by three dots. Widths count characters.
-/

namespace ChartGuide.Text

/-- The text at the right end of a column. -/
def alignRight (width : Nat) (text : String) : String :=
  "".pushn ' ' (width - text.length) ++ text

/-- The text at the left end of a column. -/
def alignLeft (width : Nat) (text : String) : String := text.pushn ' ' (width - text.length)

/-- The first characters of a text, at most `limit` of them. -/
def leading (limit : Nat) (text : String) : String := String.ofList (text.toList.take limit)

/-- Three dots if a text is longer than `limit`. -/
def dotsBeyond (limit : Nat) (text : String) : String := if limit < text.length then "..." else ""

/-- A text that is cut after `limit` characters, and then ends in three dots. -/
def shortened (limit : Nat) (text : String) : String := leading limit text ++ dotsBeyond limit text

end ChartGuide.Text
