/-
**Sketches, and the charts that render them.**

A sketch lists nodes and then edges between them. Its chart has one line for each, with quoted texts
and labels between pipes. What a sketch may say is what such a line can hold: the ids are words that
no arrow can cut, a text has no quote, a label has no pipe, and neither runs over the end of a line.

* `Sketch.source`: the chart of a sketch.
* `Sketch.Node.statement?_line`, `Sketch.Edge.statement?_line`: each line says what it renders.
-/

import ChartGuide.Proofs.Line
import ChartGuide.Proofs.Token.Scan

namespace ChartGuide

/-- A node of a sketch. -/
structure Sketch.Node where
  id : String
  shape : Shape
  text : String
  word : Lexeme.Word id.toList
  unquoted : '"' ∉ text.toList
  oneLine : '\n' ∉ text.toList

/-- An edge of a sketch, with or without a label. -/
structure Sketch.Edge where
  source : String
  arrow : Arrow.Spelling
  label : Option String
  target : String
  nonempty : ∀ text ∈ label, text.toList ≠ []
  unpiped : ∀ text ∈ label, '|' ∉ text.toList
  oneLine : ∀ text ∈ label, '\n' ∉ text.toList

/-- A list of nodes with distinct ids, and a list of edges between them. -/
structure Sketch where
  nodes : List Sketch.Node
  edges : List Sketch.Edge
  distinct : (nodes.map Sketch.Node.id).Nodup
  joined : ∀ edge ∈ edges,
    edge.source ∈ nodes.map Sketch.Node.id ∧ edge.target ∈ nodes.map Sketch.Node.id

namespace Sketch

/-- The text without the blanks at its ends. -/
def trimmed (text : String) : String := String.ofList (Text.trim text.toList)

namespace Node

/-- The line of a node: its id and, right after it, its quoted text in brackets. -/
def line (node : Node) : List Char :=
  node.id.toList ++ (node.shape.opener ++ '"' :: (node.text.toList ++ '"' :: node.shape.closer))

/-- What the brackets after the id of a node say. -/
def face (node : Node) : Face := ⟨node.shape, trimmed node.text⟩

/-- What the line of a node says. -/
def statement (node : Node) : Statement := .declaration node.id node.face

/-- The line of a node says that it declares the node. -/
theorem statement?_line (node : Node) :
    Line.statement? (Token.scan node.line) = .ok node.statement := by
  obtain ⟨idStart, idStop, idScanned⟩ :=
    Token.begins_word none node.word (Lexeme.endsWord_opener node.shape _) 0
  obtain ⟨shapeStart, shapeStop, shapeScanned⟩ :=
    Token.begins_shape node.shape node.unquoted [] idStop
  have scanned : Token.scan node.line =
      [⟨.ident, node.id, idStart, idStop⟩,
        ⟨.shape node.shape, trimmed node.text, shapeStart, shapeStop⟩] := by
    rw [List.append_nil] at shapeScanned
    rw [Token.scan, line, idScanned, shapeScanned, Token.scanFrom, String.ofList_toList]
    rfl
  rw [scanned]
  rfl

end Node

namespace Edge

/-- The label of an edge between pipes, if it has one. -/
def pipes (edge : Edge) (after : List Char) : List Char :=
  match edge.label with
  | some label => '|' :: (label.toList ++ '|' :: after)
  | none => after

/-- The line of an edge: its source, an arrow, right after it its label if it has one, and its
target. -/
def line (edge : Edge) : List Char :=
  edge.source.toList ++ ' ' :: (edge.arrow.text ++ edge.pipes (' ' :: edge.target.toList))

/-- What the line of an edge says. -/
def statement (edge : Edge) : Statement :=
  .edge ⟨edge.source, none⟩ (edge.label.map trimmed) ⟨edge.target, none⟩

/-- The scan of the line of an edge, up to its arrow. -/
theorem scan_front (edge : Edge) (source : Lexeme.Word edge.source.toList) :
    ∃ idStart idStop arrowStart arrowStop, Token.scanFrom none 0 edge.line =
      ⟨.ident, edge.source, idStart, idStop⟩ ::
        ⟨.arrow edge.arrow.arrow, String.ofList edge.arrow.text, arrowStart, arrowStop⟩ ::
          Token.scanFrom (some (.arrow edge.arrow.arrow)) arrowStop
            (edge.pipes (' ' :: edge.target.toList)) := by
  have ends : Arrow.Ends (edge.pipes (' ' :: edge.target.toList)) := by
    rw [pipes]
    split <;> exact Arrow.ends_cons (by decide) _
  obtain ⟨idStart, idStop, idScanned⟩ :=
    Token.begins_word none source (Lexeme.endsWord_space _) 0
  obtain ⟨arrowStart, arrowStop, arrowScanned⟩ := Token.begins_space
    (Token.begins_arrow (some .ident) edge.arrow ends) idStop
  refine ⟨idStart, idStop, arrowStart, arrowStop, ?_⟩
  rw [line, idScanned, arrowScanned, String.ofList_toList]

theorem scan_target (edge : Edge) (target : Lexeme.Word edge.target.toList)
    (before : Option Token.Kind) (column : Nat) :
    ∃ start stop, Token.scanFrom before column (' ' :: edge.target.toList) =
      [⟨.ident, edge.target, start, stop⟩] := by
  have begins := Token.begins_word before target Lexeme.endsWord_nil
  rw [List.append_nil] at begins
  obtain ⟨start, stop, scanned⟩ := Token.begins_space begins column
  refine ⟨start, stop, ?_⟩
  rw [scanned, Token.scanFrom, String.ofList_toList]

/-- The line of an edge says that it draws the edge. -/
theorem statement?_line (edge : Edge) (source : Lexeme.Word edge.source.toList)
    (target : Lexeme.Word edge.target.toList) :
    Line.statement? (Token.scan edge.line) = .ok edge.statement := by
  obtain ⟨idStart, idStop, arrowStart, arrowStop, front⟩ := edge.scan_front source
  rw [Token.scan, front, statement]
  cases labelled : edge.label with
  | none =>
    obtain ⟨start, stop, scanned⟩ :=
      edge.scan_target target (some (.arrow edge.arrow.arrow)) arrowStop
    simp only [pipes, labelled, scanned]
    rfl
  | some label =>
    obtain ⟨labelStart, labelStop, labelScanned⟩ := Token.begins_label edge.arrow.arrow
      (edge.nonempty label labelled) (edge.unpiped label labelled) (' ' :: edge.target.toList)
      arrowStop
    obtain ⟨start, stop, scanned⟩ := edge.scan_target target (some .label) labelStop
    simp only [pipes, labelled, labelScanned, scanned]
    rfl

end Edge

end Sketch

end ChartGuide
