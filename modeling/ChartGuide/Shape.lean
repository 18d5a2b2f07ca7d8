/-
**The shapes a node can be drawn in.**

A node is declared by its id followed by a text between two brackets, and the brackets choose the
shape. Some openers begin with another one, as `(((` begins with `((` and `(`, so `Shape.all` lists
the longer ones first and the first shape that can be read wins.

* `Shape.closing?`: the closing bracket that ends a bare text.
* `Shape.read?`: the text of a shape at the head of a line, and what follows it.
* `Shape.length_of_read?`: reading a shape uses up at least its opener.
-/

import ChartGuide.Arrow
import ChartGuide.Role
import ChartGuide.Text.Blank
import ChartGuide.Text.Cut

namespace ChartGuide

/-- The shapes, each with brackets of its own. -/
inductive Shape where
  | doubleCircle
  | cylinder
  | stadium
  | hexagon
  | subroutine
  | circle
  | box
  | rhombus
  | rounded
  | asymmetric
  deriving DecidableEq, Repr, Inhabited

namespace Shape

/-- Every shape, in the order in which they are tried. -/
def all : List Shape :=
  [doubleCircle, cylinder, stadium, hexagon, subroutine, circle, box, rhombus, rounded, asymmetric]

def opener : Shape → List Char
  | doubleCircle => ['(', '(', '(']
  | cylinder => ['[', '(']
  | stadium => ['(', '[']
  | hexagon => ['{', '{']
  | subroutine => ['[', '[']
  | circle => ['(', '(']
  | box => ['[']
  | rhombus => ['{']
  | rounded => ['(']
  | asymmetric => ['>']

def closer : Shape → List Char
  | doubleCircle => [')', ')', ')']
  | cylinder => [')', ']']
  | stadium => [']', ')']
  | hexagon => ['}', '}']
  | subroutine => [']', ']']
  | circle => [')', ')']
  | box => [']']
  | rhombus => ['}']
  | rounded => [')']
  | asymmetric => [']']

/-- The role a shape gives its node. Rounded brackets give none. -/
def role? : Shape → Option Role
  | rhombus | hexagon => some .question
  | asymmetric | circle | doubleCircle => some .diagnosis
  | stadium => some .terminal
  | box | subroutine | cylinder => some .action
  | rounded => none

/-- Whether a shape may end where this text follows: after blanks comes the end of the line, a
separator, a style class or an arrow. -/
def endsBefore (after : List Char) : Bool :=
  let next := Text.trimLeft after
  next.isEmpty || next.head?.any (fun c => c == ';' || c == '&') ||
    [':', ':', ':'].isPrefixOf next || (Arrow.read? next).isSome

/-- The closing bracket that ends a bare text: the first after which a shape may end, or else the
first of all. Gives the text before it and the text after it. -/
def closing? (closer body : List Char) : Option (List Char × List Char) :=
  (Text.cut? closer endsBefore body).or (Text.cutFirst? closer body)

/-- The shape at the head of a text: what is written in it, trimmed, and what follows it. A text
that begins with a quote runs to the next quote; the closing bracket then is the first after it. -/
def read? (shape : Shape) (text : List Char) : Option (List Char × List Char) :=
  (shape.opener.isPrefixOf? text).bind fun body =>
    match Text.trimLeft body with
    | '"' :: quoted =>
      (Text.cutFirst? ['"'] quoted).bind fun (inside, gap) =>
        (Text.cutFirst? shape.closer gap).map fun (_, after) => (Text.trim inside, after)
    | _ => (closing? shape.closer body).map fun (inside, after) => (Text.trim inside, after)

theorem opener_length_pos (shape : Shape) : 0 < shape.opener.length := by
  cases shape <;> decide

/-- What follows the closing bracket of a bare text is no longer than the text. -/
theorem length_of_closing? {closer body inside after : List Char}
    (found : closing? closer body = some (inside, after)) : after.length ≤ body.length := by
  rcases Option.or_eq_some_iff.mp found with found | ⟨_, found⟩
  · exact Text.length_of_cut? found
  · exact Text.length_of_cut? found

/-- Reading a shape leaves a shorter text. -/
theorem length_of_read? {shape : Shape} {text inside after : List Char}
    (found : shape.read? text = some (inside, after)) : after.length < text.length := by
  obtain ⟨body, opened, found⟩ := Option.bind_eq_some_iff.mp found
  have whole : text.length = shape.opener.length + body.length := by
    rw [Text.isPrefixOf?_eq_some_iff.mp opened, List.length_append]
  have nonempty := shape.opener_length_pos
  split at found
  · next quoted head =>
    obtain ⟨⟨front, gap⟩, cut, found⟩ := Option.bind_eq_some_iff.mp found
    obtain ⟨⟨skipped, rest⟩, closed, equal⟩ := Option.map_eq_some_iff.mp found
    obtain ⟨_, rfl⟩ := Prod.mk.inj equal
    have trimmed := Text.length_trimLeft_le body
    have afterQuote := Text.length_of_cut? cut
    have afterCloser := Text.length_of_cut? closed
    rw [head, List.length_cons] at trimmed
    omega
  · obtain ⟨⟨front, rest⟩, closed, equal⟩ := Option.map_eq_some_iff.mp found
    obtain ⟨_, rfl⟩ := Prod.mk.inj equal
    have afterCloser := length_of_closing? closed
    omega

end Shape

end ChartGuide
