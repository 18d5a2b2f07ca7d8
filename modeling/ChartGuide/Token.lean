/-
**Tokens of a chart line.**

A line is cut into lexemes from left to right. At each character that is not blank the first of
these readings that succeeds wins: an arrow, a label between pipes right after an arrow, an
identifier, a shape right after an identifier, a style class, and else the character itself as
loose text. Neighbouring pieces of loose text are then merged.

* `Lexeme.read`: the reading at the head of a text, which always leaves a shorter one
  (`Lexeme.length_read_lt`).
* `Token.scan`: the tokens of a line, with the columns where they start and stop.
-/

import ChartGuide.Shape

namespace ChartGuide

/-- What a token is. -/
inductive Token.Kind where
  | ident
  | shape (shape : Shape)
  | styleClass
  | arrow (arrow : Arrow)
  | label
  | text
  deriving DecidableEq, Repr, Inhabited

/-- A token of a line: what it says, and the columns of its first character and after its last. -/
structure Token where
  kind : Token.Kind
  value : String
  start : Nat
  stop : Nat
  deriving DecidableEq, Repr, Inhabited

/-- A reading at the head of a text: what it is, what it says, and the text after it. -/
structure Lexeme where
  kind : Token.Kind
  value : List Char
  rest : List Char
  deriving DecidableEq, Repr

namespace Lexeme

/-- The characters of identifiers: ASCII letters and digits, underscore and hyphen. -/
def isIdentChar (c : Char) : Bool := c.isAlphanum || c == '_' || c == '-'

/-- The characters that continue an identifier: up to a foreign character or an arrow. -/
def identTail : List Char → List Char
  | [] => []
  | c :: rest =>
    if isIdentChar c && (Arrow.read? (c :: rest)).isNone then c :: identTail rest else []

def arrow? (text : List Char) : Option Lexeme :=
  (Arrow.read? text).map fun (arrow, rest) =>
    ⟨.arrow arrow, text.take (text.length - rest.length), rest⟩

/-- A label between pipes, right after an arrow. Two pipes side by side hold no label. -/
def label? (before : Option Token.Kind) (text : List Char) : Option Lexeme :=
  match before, text with
  | some (.arrow _), '|' :: body =>
    match Text.cutFirst? ['|'] body with
    | some (c :: inside, rest) => some ⟨.label, Text.trim (c :: inside), rest⟩
    | _ => none
  | _, _ => none

def ident? : List Char → Option Lexeme
  | [] => none
  | c :: rest =>
    if isIdentChar c then
      some ⟨.ident, c :: identTail rest, rest.drop (identTail rest).length⟩
    else none

/-- A shape, right after an identifier. -/
def shape? (before : Option Token.Kind) (text : List Char) : Option Lexeme :=
  if before = some .ident then
    Shape.all.findSome? fun shape =>
      (shape.read? text).map fun (inside, rest) => ⟨.shape shape, inside, rest⟩
  else none

/-- A style class: three colons and a name. -/
def styleClass? (text : List Char) : Option Lexeme :=
  match [':', ':', ':'].isPrefixOf? text with
  | some body =>
    match body.takeWhile isIdentChar with
    | [] => none
    | name => some ⟨.styleClass, name, body.dropWhile isIdentChar⟩
  | none => none

/-- The reading at the head of the text `c :: rest`, given what was read before it. -/
def read (before : Option Token.Kind) (c : Char) (rest : List Char) : Lexeme :=
  let text := c :: rest
  let reading := (arrow? text).or <| (label? before text).or <| (ident? text).or <|
    (shape? before text).or (styleClass? text)
  reading.getD ⟨.text, [c], rest⟩

theorem length_of_arrow? {text : List Char} {lexeme : Lexeme} (found : arrow? text = some lexeme) :
    lexeme.rest.length < text.length := by
  obtain ⟨⟨arrow, rest⟩, arrowRead, rfl⟩ := Option.map_eq_some_iff.mp found
  have shorter := Arrow.length_of_read? arrowRead
  simp only
  omega

theorem length_of_label? {before : Option Token.Kind} {text : List Char} {lexeme : Lexeme}
    (found : label? before text = some lexeme) : lexeme.rest.length < text.length := by
  unfold label? at found
  split at found
  · split at found
    · next cut =>
      have shorter := Text.length_of_cut? cut
      simp only [Option.some.injEq] at found
      subst found
      simp only [List.length_cons]
      omega
    · simp at found
  · simp at found

theorem length_of_ident? {text : List Char} {lexeme : Lexeme} (found : ident? text = some lexeme) :
    lexeme.rest.length < text.length := by
  unfold ident? at found
  split at found
  · simp at found
  · split at found
    · simp only [Option.some.injEq] at found
      subst found
      simp only [List.length_drop, List.length_cons]
      omega
    · simp at found

theorem length_of_shape? {before : Option Token.Kind} {text : List Char} {lexeme : Lexeme}
    (found : shape? before text = some lexeme) : lexeme.rest.length < text.length := by
  unfold shape? at found
  split at found
  · obtain ⟨shape, _, mapped⟩ := List.exists_of_findSome?_eq_some found
    obtain ⟨⟨inside, rest⟩, shapeRead, rfl⟩ := Option.map_eq_some_iff.mp mapped
    exact Shape.length_of_read? shapeRead
  · simp at found

theorem length_of_styleClass? {text : List Char} {lexeme : Lexeme}
    (found : styleClass? text = some lexeme) : lexeme.rest.length < text.length := by
  unfold styleClass? at found
  split at found
  · next body opened =>
    split at found
    · simp at found
    · simp only [Option.some.injEq] at found
      subst found
      have dropped := (List.dropWhile_sublist isIdentChar (l := body)).length_le
      rw [Text.isPrefixOf?_eq_some_iff.mp opened]
      simp only [List.length_append, List.length_cons]
      omega
  · simp at found

/-- Every reading leaves a shorter text. -/
theorem length_read_lt (before : Option Token.Kind) (c : Char) (rest : List Char) :
    (read before c rest).rest.length < (c :: rest).length := by
  unfold read
  simp only [Option.getD]
  split
  · next found =>
    rcases Option.or_eq_some_iff.mp found with found | ⟨_, found⟩
    · exact length_of_arrow? found
    rcases Option.or_eq_some_iff.mp found with found | ⟨_, found⟩
    · exact length_of_label? found
    rcases Option.or_eq_some_iff.mp found with found | ⟨_, found⟩
    · exact length_of_ident? found
    rcases Option.or_eq_some_iff.mp found with found | ⟨_, found⟩
    · exact length_of_shape? found
    · exact length_of_styleClass? found
  · simp

end Lexeme

namespace Token

/-- The tokens of a text whose first character stands in the given column, each character of loose
text as a token of its own. -/
def scanFrom (before : Option Kind) (column : Nat) : List Char → List Token
  | [] => []
  | c :: rest =>
    if Text.isBlank c then scanFrom before (column + 1) rest
    else
      let lexeme := Lexeme.read before c rest
      let stop := column + ((c :: rest).length - lexeme.rest.length)
      ⟨lexeme.kind, String.ofList lexeme.value, column, stop⟩ ::
        scanFrom (some lexeme.kind) stop lexeme.rest
termination_by text => text.length
decreasing_by
  · simp
  · exact Lexeme.length_read_lt before c rest

/-- Puts a token in front of others; loose text joins loose text that follows it. -/
def glue (token : Token) : List Token → List Token
  | [] => [token]
  | next :: rest =>
    if token.kind = .text ∧ next.kind = .text then
      ⟨.text, token.value ++ next.value, token.start, next.stop⟩ :: rest
    else token :: next :: rest

/-- The tokens of a line. -/
def scan (line : List Char) : List Token := (scanFrom none 0 line).foldr glue []

end Token

end ChartGuide
