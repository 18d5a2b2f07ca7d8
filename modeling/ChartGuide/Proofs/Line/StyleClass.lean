/-
**A style class behind a node.**

The class of a node only concerns drawing, so a line says the same with the class as without it, if
the class is scanned as it was meant. What follows the three colons is taken for the name of the
class as long as it could belong to an id, and hyphens could. An id stops in front of an arrow, but
the name of a class does not: an arrow that begins with a hyphen and is written right behind a class
is taken into its name, and the edge is lost.

* `Token.NodeText.scan_styled`: the tokens of a line with a class, whatever follows it.
* `Token.NodeText.read_styled`: the class takes in what follows exactly if that begins with a
  hyphen, and if it does not, the line says the same with the class as without it.
* `Token.NodeText.styled_loses_edge`: a line that loses its edge to a class.
-/

import ChartGuide.Draft.Basic
import ChartGuide.Proofs.Line.Arrows
import ChartGuide.Proofs.Line.Directives

namespace ChartGuide

variable {name following : List Char}

/-- The name of a style class goes on into what follows, as long as that could belong to an id. -/
theorem Lexeme.styleClass?_append (named : name ≠ [])
    (plain : ∀ c ∈ name, isPlainChar c = true) (following : List Char) :
    styleClass? ([':', ':', ':'] ++ (name ++ following)) =
      some ⟨.styleClass, name ++ following.takeWhile isIdentChar,
        following.dropWhile isIdentChar⟩ := by
  have ident : ∀ c ∈ name, isIdentChar c = true :=
    fun c member => isIdentChar_of_isPlainChar (plain c member)
  have opened : [':', ':', ':'].isPrefixOf? ([':', ':', ':'] ++ (name ++ following)) =
      some (name ++ following) := Text.isPrefixOf?_eq_some_iff.mpr rfl
  rw [styleClass?, opened]
  simp only [List.takeWhile_append_of_pos ident, List.dropWhile_append_of_pos ident]
  split
  · next nothing => exact absurd (List.append_eq_nil_iff.mp nothing).1 named
  · rfl

/-- What follows a class is taken into its name exactly if it begins with a hyphen. -/
theorem Arrow.Ahead.takeWhile_eq_nil_iff (ahead : Arrow.Ahead following) :
    following.takeWhile Lexeme.isIdentChar = [] ↔ following.head? ≠ some '-' := by
  obtain ⟨c, rest, rfl, begins⟩ := ahead.head_cases
  rw [List.head?_cons, Ne, Option.some.injEq]
  by_cases ident : Lexeme.isIdentChar c = true
  · rw [List.takeWhile_cons_of_pos ident]
    rcases begins with blank | rfl | rfl
    · rw [Lexeme.isBlank_of_isIdentChar ident] at blank
      cases blank
    · simp
    · exact absurd ident (by decide)
  · rw [List.takeWhile_cons_of_neg ident]
    refine iff_of_true rfl ?_
    rintro rfl
    exact ident (by decide)

namespace Token

namespace NodeText

variable (node : NodeText)

theorem kind_ne_text : ∀ token ∈ node.tokens, token.kind ≠ .text := by
  obtain ⟨id, bracketed, nonempty, plain⟩ := node
  cases bracketed <;> simp [tokens]

/-- Tokens without an arrow that make an end of an edge. -/
structure Leads (tokens : List Token) (endpoint : Endpoint) : Prop where
  noArrow : ∀ token ∈ tokens, Line.isArrow token = false
  found : Line.endpoint? tokens = some endpoint

theorem leads_tokens : Leads node.tokens node.endpoint := by
  obtain ⟨id, bracketed, nonempty, plain⟩ := node
  cases bracketed with
  | none => exact ⟨by simp [tokens, Line.isArrow], rfl⟩
  | some bracketed => exact ⟨by simp [tokens, Line.isArrow], rfl⟩

/-- A style class behind a node is not looked at. -/
theorem leads_tokens_styleClass (value : String) (start stop : Nat) :
    Leads (node.tokens ++ [⟨.styleClass, value, start, stop⟩]) node.endpoint := by
  obtain ⟨id, bracketed, nonempty, plain⟩ := node
  cases bracketed with
  | none => exact ⟨by simp [tokens, Line.isArrow], rfl⟩
  | some bracketed => exact ⟨by simp [tokens, Line.isArrow], rfl⟩

/-! ### The two lines -/

/-- The tokens of a line with a node and an arrow. -/
theorem scan_unstyled (ahead : Arrow.Ahead following) :
    scan (node.written ++ following) =
      node.tokens ++ (scan following).map (moved node.written.length) := by
  obtain ⟨before, scanned⟩ := node.exists_scanFrom_append ahead.identTail_eq_nil ahead.endsBefore
  rw [scan, scanned, scanFrom_of_ahead ahead, foldr_glue_append node.kind_ne_text,
    foldr_glue_map_moved, scan]

/-- **The tokens of a line with a style class behind its node**, whatever follows the class. -/
theorem scan_styled (named : name ≠ []) (plain : ∀ c ∈ name, Lexeme.isPlainChar c = true)
    (following : List Char) :
    let taken := following.takeWhile Lexeme.isIdentChar
    let stop := node.written.length + (3 + (name ++ taken).length)
    scan (node.written ++ ([':', ':', ':'] ++ (name ++ following))) =
      node.tokens ++ ⟨.styleClass, String.ofList (name ++ taken), node.written.length, stop⟩ ::
        (scan (following.dropWhile Lexeme.isIdentChar)).map (moved stop) := by
  intro taken stop
  have found := Lexeme.styleClass?_append named plain following
  have stops : Lexeme.identTail ([':', ':', ':'] ++ (name ++ following)) = [] := rfl
  obtain ⟨before, scanned⟩ :=
    node.exists_scanFrom_append stops (Shape.Bounds.styleClass (name ++ following)).endsBefore
  have atStop : node.written.length + (([':', ':', ':'] ++ (name ++ following)).length -
      (following.dropWhile Lexeme.isIdentChar).length) = stop := by
    have parts := congrArg List.length
      (List.takeWhile_append_dropWhile (p := Lexeme.isIdentChar) (l := following))
    simp only [List.length_append] at parts
    simp only [stop, taken, List.length_cons, List.length_append, List.length_nil]
    omega
  rw [scan, scanned, scanFrom_of_styleClass? before _ found, atStop, scanFrom_styleClass,
    foldr_glue_append node.kind_ne_text, List.foldr_cons, foldr_glue_map_moved, glue_of_ne, scan]
  simp

/-- A line that begins with a node is read by its tokens, unless it is a directive. -/
theorem read_written_append {after : List Char}
    (noDirective : Line.isDirective (node.written ++ after) = false) :
    Line.read (node.written ++ after) = Line.ofTokens (scan (node.written ++ after)) := by
  obtain ⟨c, rest, written⟩ := List.exists_cons_of_ne_nil node.written_ne_nil
  have plain : Lexeme.isPlainChar c = true := node.isPlainChar_of_head (by rw [written]; rfl)
  rw [written, List.cons_append] at noDirective ⊢
  rw [Line.read_cons_of_isIdentChar (Lexeme.isIdentChar_of_isPlainChar plain), noDirective]
  rfl

/-- **A class in front of an arrow does not matter**, if the arrow does not begin with a hyphen right
behind the class. -/
theorem statement?_styled (named : name ≠ []) (plain : ∀ c ∈ name, Lexeme.isPlainChar c = true)
    (ahead : Arrow.Ahead following) (apart : following.head? ≠ some '-') :
    Line.statement? (scan (node.written ++ ([':', ':', ':'] ++ (name ++ following)))) =
      Line.statement? (scan (node.written ++ following)) := by
  have taken := ahead.takeWhile_eq_nil_iff.mpr apart
  have left : following.dropWhile Lexeme.isIdentChar = following := by
    have parts := List.takeWhile_append_dropWhile (p := Lexeme.isIdentChar) (l := following)
    rwa [taken] at parts
  have styled := node.scan_styled named plain following
  simp only [taken, left, List.append_nil] at styled
  obtain ⟨arrow, value, start, stop, tokens, scanned⟩ := exists_scan_of_ahead ahead
  have plainly := node.leads_tokens
  have classed := node.leads_tokens_styleClass (String.ofList name) node.written.length
    (node.written.length + (3 + name.length))
  rw [styled, node.scan_unstyled ahead, scanned, List.append_cons,
    Line.statement?_append_moved classed.noArrow classed.found,
    Line.statement?_append_moved plainly.noArrow plainly.found]

theorem isBlank_of_head (front : List Char) {c : Char}
    (first : (node.written ++ front).head? = some c) : Text.isBlank c = false := by
  rw [List.head?_append, List.head?_eq_some_head node.written_ne_nil] at first
  have plain := node.isPlainChar_of_head
    ((List.head?_eq_some_head node.written_ne_nil).trans first)
  exact Lexeme.isBlank_of_isIdentChar (Lexeme.isIdentChar_of_isPlainChar plain)

/-- The line says the same with the class as without it. -/
theorem read_trim_styled (named : name ≠ []) (plain : ∀ c ∈ name, Lexeme.isPlainChar c = true)
    (ahead : Arrow.Ahead following) (apart : following.head? ≠ some '-')
    (styledLine : Line.isDirective
      (Text.trim (node.written ++ ([':', ':', ':'] ++ (name ++ following)))) = false)
    (unstyledLine : Line.isDirective (Text.trim (node.written ++ following)) = false) :
    Line.read (Text.trim (node.written ++ ([':', ':', ':'] ++ (name ++ following)))) =
      Line.read (Text.trim (node.written ++ following)) := by
  obtain ⟨shorter, stillAhead, sameHead, trimmed⟩ := ahead.exists_trim
  have styledText : Text.trim (node.written ++ ([':', ':', ':'] ++ (name ++ following))) =
      node.written ++ ([':', ':', ':'] ++ (name ++ shorter)) := by
    have whole := trimmed (node.written ++ ([':', ':', ':'] ++ name)) (by simp)
      fun _ => node.isBlank_of_head _
    simpa using whole
  have unstyledText : Text.trim (node.written ++ following) = node.written ++ shorter := by
    refine trimmed node.written node.written_ne_nil fun c first => ?_
    exact node.isBlank_of_head [] (by rwa [List.append_nil])
  rw [styledText] at styledLine
  rw [unstyledText] at unstyledLine
  rw [styledText, unstyledText, node.read_written_append styledLine,
    node.read_written_append unstyledLine, Line.ofTokens, Line.ofTokens,
    node.statement?_styled named plain stillAhead (sameHead ▸ apart)]

/-- **What a style class does to a line.** Without the class, the tokens of the line are those of the
node and of what follows it. With the class, a token of its own comes between them, whose name takes
in what follows exactly if that begins with a hyphen. If it does not, and neither line is a
directive, the line says the same with the class as without it, and so its outcome and what it does
to a draft are the same. -/
theorem read_styled {name following : List Char} (named : name ≠ [])
    (plain : ∀ c ∈ name, Lexeme.isPlainChar c = true) (ahead : Arrow.Ahead following) :
    let styled := node.written ++ ([':', ':', ':'] ++ (name ++ following))
    let unstyled := node.written ++ following
    let taken := following.takeWhile Lexeme.isIdentChar
    let stop := node.written.length + (3 + (name ++ taken).length)
    scan unstyled = node.tokens ++ (scan following).map (moved node.written.length) ∧
      scan styled = node.tokens ++
        ⟨.styleClass, String.ofList (name ++ taken), node.written.length, stop⟩ ::
          (scan (following.dropWhile Lexeme.isIdentChar)).map (moved stop) ∧
      (taken = [] ↔ following.head? ≠ some '-') ∧
      (following.head? ≠ some '-' → Line.isDirective (Text.trim styled) = false →
        Line.isDirective (Text.trim unstyled) = false →
          Line.read (Text.trim styled) = Line.read (Text.trim unstyled) ∧
          ∀ draft : Draft, draft.applyLine (Line.read (Text.trim styled)) =
            draft.applyLine (Line.read (Text.trim unstyled))) := by
  refine ⟨node.scan_unstyled ahead, node.scan_styled named plain following,
    ahead.takeWhile_eq_nil_iff, fun apart styledLine unstyledLine => ?_⟩
  have same := node.read_trim_styled named plain ahead apart styledLine unstyledLine
  exact ⟨same, fun draft => by rw [same]⟩

/-- A node in a box. -/
def boxed : NodeText where
  id := ['A']
  bracketed := some ⟨[], .box, ['x'], Text.forall_isBlank_nil, by decide⟩
  nonempty := List.cons_ne_nil _ _
  plain := List.all_eq_true.mp (by decide)

theorem read_styled_boxed :
    Arrow.Ahead " -->|on| B ".toList ∧ (" -->|on| B ".toList).head? ≠ some '-' ∧
      Line.isDirective "A[x]:::warn -->|on| B".toList = false ∧
      Line.isDirective "A[x] -->|on| B".toList = false ∧
      Line.read "A[x]:::warn -->|on| B".toList = Line.read "A[x] -->|on| B".toList ∧
      Line.read "A[x] -->|on| B".toList =
        .statement (.edge ⟨"A", some ⟨.box, "x"⟩⟩ (some "on") ⟨"B", none⟩) := by
  have ahead : Arrow.Ahead " -->|on| B ".toList := by decide +kernel
  have apart : (" -->|on| B ".toList).head? ≠ some '-' := by decide +kernel
  have styledLine : Line.isDirective "A[x]:::warn -->|on| B".toList = false := by decide +kernel
  have unstyledLine : Line.isDirective "A[x] -->|on| B".toList = false := by decide +kernel
  have styledText : Text.trim (boxed.written ++ ([':', ':', ':'] ++ ("warn".toList ++
      " -->|on| B ".toList))) = "A[x]:::warn -->|on| B".toList := by decide +kernel
  have unstyledText : Text.trim (boxed.written ++ " -->|on| B ".toList) =
      "A[x] -->|on| B".toList := by decide +kernel
  have named : "warn".toList ≠ [] := by decide
  have plain : ∀ c ∈ "warn".toList, Lexeme.isPlainChar c = true :=
    List.all_eq_true.mp (by decide)
  have same := (boxed.read_styled named plain ahead).2.2.2 apart
    (styledText ▸ styledLine) (unstyledText ▸ unstyledLine)
  rw [styledText, unstyledText] at same
  exact ⟨ahead, apart, styledLine, unstyledLine, same.1, by decide +kernel⟩

/-- **An arrow right behind a class is lost in its name** if it begins with a hyphen. The node is
still declared, and nothing is reported as not understood. Without the class there is an edge. -/
theorem styled_loses_edge :
    let styled := boxed.written ++ ([':', ':', ':'] ++ ("warn".toList ++ "-->B".toList))
    let unstyled := boxed.written ++ "-->B".toList
    Arrow.Ahead "-->B".toList ∧ Line.isDirective (Text.trim styled) = false ∧
      Line.isDirective (Text.trim unstyled) = false ∧
      Line.read (Text.trim styled) = .statement (.declaration "A" ⟨.box, "x"⟩) ∧
      Line.read (Text.trim unstyled) =
        .statement (.edge ⟨"A", some ⟨.box, "x"⟩⟩ none ⟨"B", none⟩) ∧
      (Line.read (Text.trim styled)).outcome ≠ (Line.read (Text.trim unstyled)).outcome ∧
      Draft.empty.applyLine (Line.read (Text.trim styled)) ≠
        Draft.empty.applyLine (Line.read (Text.trim unstyled)) := by
  refine ⟨?_, ?_, ?_, ?_, ?_, ?_, ?_⟩
  all_goals decide +kernel

end NodeText

end Token

end ChartGuide
