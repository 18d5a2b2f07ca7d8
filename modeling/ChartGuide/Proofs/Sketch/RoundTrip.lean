/-
**Compiling the chart of a sketch gives the sketch back.**

Each line of the chart is trimmed, holds no end of a line and says what it renders, so the
statements of the chart are those of the sketch (`Sketch.ofSource_source`). The nodes come first, so
the edges mention no new id, and each node is declared once.

* `Sketch.compile_source`: the compiled flow, node by node.
-/

import ChartGuide.Proofs.Draft.Lines
import ChartGuide.Proofs.Flow.Choices
import ChartGuide.Proofs.Line.Directives
import ChartGuide.Proofs.Sketch.Basic
import Mathlib.Data.List.Basic

namespace ChartGuide

namespace Sketch

/-- A line that renders a statement: it begins with an identifier character, ends with no blank and
runs over no end of a line, so nothing is taken off it before its tokens are read. -/
structure Renders (line : List Char) (statement : Statement) : Prop where
  first : ∃ c rest, line = c :: rest ∧ Lexeme.isIdentChar c = true
  last : ∃ front back, line = front ++ back ∧ back ≠ [] ∧ ∀ c ∈ back, Text.isBlank c = false
  oneLine : '\n' ∉ line
  made : Line.statement? (Token.scan line) = .ok statement

theorem Renders.trimmed {line : List Char} {statement : Statement}
    (renders : Renders line statement) : Text.Trimmed line where
  head c head := by
    obtain ⟨d, rest, rfl, ident⟩ := renders.first
    obtain rfl := Option.some.inj head
    exact Lexeme.isBlank_of_isIdentChar ident
  last c last := by
    obtain ⟨front, back, rfl, nonempty, kept⟩ := renders.last
    rw [List.getLast?_append, List.getLast?_eq_some_getLast nonempty, Option.some_or] at last
    obtain rfl := Option.some.inj last
    exact kept _ (List.getLast_mem nonempty)

/-- A line that renders a statement says it, unless it is a directive. -/
theorem Renders.accepted? {line : List Char} {statement : Statement}
    (renders : Renders line statement) (noDirective : Line.isDirective line = false) :
    (Line.read (Text.trim line)).accepted? = some statement := by
  rw [Text.trim_eq_self renders.trimmed]
  obtain ⟨⟨c, rest, rfl, ident⟩, _, _, made⟩ := renders
  rw [Line.read_cons_of_isIdentChar ident, noDirective, Line.ofTokens, made]
  rfl

theorem first_of_word {word : List Char} (whole : Lexeme.Word word) (after : List Char) :
    ∃ c rest, word ++ after = c :: rest ∧ Lexeme.isIdentChar c = true := by
  obtain ⟨c, rest, rfl⟩ := List.exists_cons_of_ne_nil whole.nonempty
  exact ⟨c, rest ++ after, rfl, whole.chars c List.mem_cons_self⟩

theorem newline_not_mem_word {word : List Char} (whole : Lexeme.Word word) : '\n' ∉ word :=
  fun member => Lexeme.ne_of_isIdentChar (whole.chars '\n' member) rfl rfl

/-- The line of a node renders its declaration. -/
theorem Node.renders (node : Node) : Renders node.line node.statement where
  first := first_of_word node.word _
  last := by
    have kept : node.shape.closer.any Text.isBlank = false := by
      cases node.shape <;> decide
    refine ⟨node.id.toList ++ (node.shape.opener ++ '"' :: (node.text.toList ++ ['"'])),
      node.shape.closer, ?_, node.shape.closer_ne_nil, ?_⟩
    · simp [line]
    · simpa using kept
  oneLine := by
    have brackets : '\n' ∉ node.shape.opener ∧ '\n' ∉ node.shape.closer := by
      cases node.shape <;> decide
    simp [line, newline_not_mem_word node.word, node.oneLine, brackets]
  made := node.statement?_line

/-- The line of an edge renders it, if its ends are words. -/
theorem Edge.renders (edge : Edge) (source : Lexeme.Word edge.source.toList)
    (target : Lexeme.Word edge.target.toList) : Renders edge.line edge.statement where
  first := first_of_word source _
  last := by
    refine ⟨edge.source.toList ++ ' ' :: (edge.arrow.text ++ edge.pipes [' ']),
      edge.target.toList, ?_, target.nonempty, fun c member => ?_⟩
    · cases labelled : edge.label <;> simp [line, pipes, labelled]
    · exact Lexeme.isBlank_of_isIdentChar (target.chars c member)
  oneLine := by
    have arrow : '\n' ∉ edge.arrow.text := by
      rcases edge.arrow with ⟨more, _ | _⟩ | more | more | more | more <;>
        simp [Arrow.Spelling.text]
    cases labelled : edge.label with
    | none =>
      simp [line, pipes, labelled, newline_not_mem_word source, newline_not_mem_word target, arrow]
    | some label =>
      simp [line, pipes, labelled, newline_not_mem_word source, newline_not_mem_word target, arrow,
        edge.oneLine label labelled]
  made := edge.statement?_line source target

/-- The ids of a sketch, in the order of its nodes. -/
def ids (sketch : Sketch) : List String := sketch.nodes.map Node.id

/-- The lines of the chart of a sketch: first the nodes and then the edges. -/
def lines (sketch : Sketch) : List (List Char) :=
  sketch.nodes.map Node.line ++ sketch.edges.map Edge.line

/-- The chart of a sketch. -/
def source (sketch : Sketch) : String := String.ofList (['\n'].intercalate sketch.lines)

/-- What the lines of a sketch say. -/
def statements (sketch : Sketch) : List Statement :=
  sketch.nodes.map Node.statement ++ sketch.edges.map Edge.statement

theorem word_of_mem_ids (sketch : Sketch) {id : String} (member : id ∈ sketch.ids) :
    Lexeme.Word id.toList := by
  obtain ⟨node, _, rfl⟩ := List.mem_map.mp member
  exact node.word

theorem renders_of_mem_edges (sketch : Sketch) {edge : Edge} (member : edge ∈ sketch.edges) :
    Renders edge.line edge.statement := by
  obtain ⟨source, target⟩ := sketch.joined edge member
  exact edge.renders (sketch.word_of_mem_ids source) (sketch.word_of_mem_ids target)

/-- Lines that say their statements are read one by one. -/
theorem filterMap_accepted {α : Type} {items : List α} {line : α → List Char}
    {statement : α → Statement} (renders : ∀ item ∈ items, Renders (line item) (statement item))
    (noDirective : ∀ item ∈ items, Line.isDirective (line item) = false) :
    (items.map line).filterMap Statement.ofLine = items.map statement := by
  rw [List.filterMap_map]
  refine List.filterMap_eq_map_iff_forall_eq_some.mpr fun item member => ?_
  exact (renders item member).accepted? (noDirective item member)

/-- **The chart of a sketch says what the sketch says**, line by line, unless one of its lines is a
directive. -/
theorem ofSource_source (sketch : Sketch)
    (noDirective : ∀ line ∈ sketch.lines, Line.isDirective line = false) :
    Statement.ofSource sketch.source = sketch.statements := by
  have oneLine : ∀ line ∈ sketch.lines, '\n' ∉ line := by
    intro line member
    rcases List.mem_append.mp member with ofNode | ofEdge
    · obtain ⟨node, _, rfl⟩ := List.mem_map.mp ofNode
      exact node.renders.oneLine
    · obtain ⟨edge, edgeMember, rfl⟩ := List.mem_map.mp ofEdge
      exact (sketch.renders_of_mem_edges edgeMember).oneLine
  have nodes := filterMap_accepted (fun node _ => Node.renders node) fun node member =>
    noDirective (Node.line node) (List.mem_append_left _ (List.mem_map_of_mem member))
  have edges := filterMap_accepted (fun edge member => sketch.renders_of_mem_edges member)
    fun edge member =>
      noDirective (Edge.line edge) (List.mem_append_right _ (List.mem_map_of_mem member))
  refine (Statement.ofSource_chartOf oneLine).trans ?_
  rw [lines, List.filterMap_append, nodes, edges, statements]

/-! ### What the flow shows -/

/-- What a node is shown by: its text without the blanks at its ends, or its id if that is empty. -/
def Node.shown (node : Node) : String :=
  if (trimmed node.text).isEmpty then node.id else trimmed node.text

/-- What the node under an id is shown by. -/
def textOf (sketch : Sketch) (id : String) : String :=
  ((sketch.nodes.find? fun node => node.id == id).map Node.shown).getD id

/-- The edges that leave an id, each with its trimmed label, or with what its target is shown by if
it has none. -/
def finalEdgesFrom (sketch : Sketch) (id : String) : List (Option String × String) :=
  (sketch.edges.filter fun edge => edge.source == id).map fun edge =>
    (some ((edge.label.map trimmed).getD (sketch.textOf edge.target)), edge.target)

/-- The choices that the edges from an id draw, of equal ones the first. -/
def choicesFrom (sketch : Sketch) (id : String) : List Choice :=
  (sketch.finalEdgesFrom id).eraseDups.map Choice.drawn

/-! ### The parts of the draft -/

/-- What the line of an edge draws. -/
def Edge.drawn (edge : Edge) : String × Option String × String :=
  (edge.source, edge.label.map trimmed, edge.target)

theorem mentions_statements (sketch : Sketch) :
    sketch.statements.flatMap Statement.mentions =
      sketch.ids ++ sketch.edges.flatMap fun edge => [edge.source, edge.target] := by
  rw [statements, List.flatMap_append, List.flatMap_map, List.flatMap_map, ids,
    List.map_eq_flatMap]
  rfl

theorem faces_statements (sketch : Sketch) :
    sketch.statements.flatMap Statement.faces =
      sketch.nodes.map fun node => (node.id, node.face) := by
  have noFace : sketch.edges.flatMap (fun edge => edge.statement.faces) = [] :=
    List.flatMap_eq_nil_iff.mpr fun _ _ => rfl
  rw [statements, List.flatMap_append, List.flatMap_map, List.flatMap_map, noFace,
    List.append_nil, List.map_eq_flatMap]
  rfl

theorem edges_statements (sketch : Sketch) :
    sketch.statements.flatMap Statement.edges = sketch.edges.map Edge.drawn := by
  have noEdge : sketch.nodes.flatMap (fun node => node.statement.edges) = [] :=
    List.flatMap_eq_nil_iff.mpr fun _ _ => rfl
  rw [statements, List.flatMap_append, List.flatMap_map, List.flatMap_map, noEdge,
    List.nil_append, List.map_eq_flatMap]
  rfl

/-- The edges mention no new id. -/
theorem eraseDups_mentions (sketch : Sketch) :
    (sketch.statements.flatMap Statement.mentions).eraseDups = sketch.ids := by
  have known : (sketch.edges.flatMap fun edge => [edge.source, edge.target]).removeAll
      sketch.ids = [] := by
    refine List.filter_eq_nil_iff.mpr fun id member => ?_
    obtain ⟨edge, edgeMember, ends⟩ := List.mem_flatMap.mp member
    obtain ⟨source, target⟩ := sketch.joined edge edgeMember
    have listed : id ∈ sketch.ids := by
      rcases List.mem_pair.mp ends with rfl | rfl
      · exact source
      · exact target
    simpa using listed
  have listedOnce : sketch.ids.eraseDups = sketch.ids := eraseDups_of_nodup sketch.distinct
  rw [mentions_statements, List.eraseDups_append, known, listedOnce]
  exact List.append_nil _

theorem filter_id (sketch : Sketch) {node : Node} (member : node ∈ sketch.nodes) :
    (sketch.nodes.filter fun other => other.id == node.id) = [node] :=
  filter_eq_singleton_of_nodup sketch.distinct member

theorem textOf_id (sketch : Sketch) {node : Node} (member : node ∈ sketch.nodes) :
    sketch.textOf node.id = node.shown := by
  rw [textOf, ← List.head?_filter, sketch.filter_id member, List.head?_cons, Option.map_some,
    Option.getD_some]

/-- A node is declared once, by its line. -/
theorem ownedBy_faces (sketch : Sketch) {node : Node} (member : node ∈ sketch.nodes) :
    ownedBy node.id (sketch.statements.flatMap Statement.faces) = [node.face] := by
  have only : ((fun item : String × Face => item.1 == node.id) ∘
      fun other : Node => (other.id, other.face)) = fun other => other.id == node.id := rfl
  rw [faces_statements, ownedBy, List.filter_map, only, sketch.filter_id member]
  rfl

theorem ownedBy_edges (sketch : Sketch) (id : String) :
    ownedBy id (sketch.statements.flatMap Statement.edges) =
      (sketch.edges.filter fun edge => edge.source == id).map fun edge =>
        (edge.label.map trimmed, edge.target) := by
  rw [edges_statements, ownedBy, List.filter_map, List.map_map]
  rfl

/-- A draft with the nodes and edges of a sketch gives the edges the labels of the sketch. -/
theorem map_finalEdge (sketch : Sketch) {draft : Draft} {ids : List String}
    (holds : draft.Holds ids (sketch.statements.flatMap Statement.faces)
      (sketch.statements.flatMap Statement.edges)) (id : String) :
    (ownedBy id (sketch.statements.flatMap Statement.edges)).map draft.finalEdge =
      sketch.finalEdgesFrom id := by
  rw [ownedBy_edges, List.map_map]
  refine List.map_congr_left fun edge leaves => ?_
  obtain ⟨_, target⟩ := sketch.joined edge (List.mem_filter.mp leaves).1
  obtain ⟨node, member, same⟩ := List.mem_map.mp target
  have shown : draft.displayText edge.target = sketch.textOf edge.target := by
    rw [holds.displayText, ← same, sketch.ownedBy_faces member, sketch.textOf_id member]
    rfl
  rw [← shown]
  rfl

/-- **Compiling the chart of a sketch gives the sketch back**, whatever the settings and the earlier
flow, unless a line of the chart is a directive: the ids in their order, the first of them as the
start, and each node with its text and with the choices that its edges draw. -/
theorem compile_source (settings : Settings) (sketch : Sketch) (prior : Prior) (now : String)
    (noDirective : ∀ line ∈ sketch.lines, Line.isDirective line = false) :
    let flow := settings.compile sketch.source prior now
    flow.nodes.keys = sketch.ids ∧ flow.start = sketch.ids.head? ∧
      ∀ node ∈ sketch.nodes, ∃ compiled, flow.node? node.id = some compiled ∧
        compiled.id = node.id ∧ compiled.text = node.shown ∧
        compiled.choices = sketch.choicesFrom node.id := by
  intro flow
  have holds := Draft.holds_ofSource sketch.source
  rw [sketch.ofSource_source noDirective] at holds
  refine ⟨?_, ?_, fun node member => ?_⟩
  · exact (holds.keys_settle settings sketch.source prior now).trans sketch.eraseDups_mentions
  · refine (holds.start_settle settings sketch.source prior now).trans ?_
    rw [← head?_eraseDups, sketch.eraseDups_mentions]
  · have mentioned : node.id ∈ sketch.statements.flatMap Statement.mentions := by
      rw [mentions_statements]
      exact List.mem_append_left _ (List.mem_map_of_mem member)
    obtain ⟨compiled, found, id, text, choices⟩ :=
      holds.exists_node?_settle settings sketch.source prior now mentioned
    rw [sketch.ownedBy_faces member] at text
    rw [sketch.map_finalEdge holds] at choices
    exact ⟨compiled, found, id, text, choices⟩

/-- A question whose text holds brackets, an arrow and pipes, and an answer that is shown by its id.
One edge has an arrow in its label, and two leave their label open. -/
def sample : Sketch where
  nodes := [
    { id := "ask", shape := .rhombus, text := " Is {x} -->|y| set? "
      word := ⟨by decide, List.all_eq_true.mp (by decide), by decide⟩
      unquoted := by decide, oneLine := by decide },
    { id := "a-1", shape := .asymmetric, text := " "
      word := ⟨by decide, List.all_eq_true.mp (by decide), by decide⟩
      unquoted := by decide, oneLine := by decide }]
  edges := [
    { source := "ask", arrow := .dotted 2 true, label := some " yes --> ", target := "a-1"
      nonempty := by decide, unpiped := by decide, oneLine := by decide },
    { source := "a-1", arrow := .thickBare 1, label := none, target := "ask"
      nonempty := by decide, unpiped := by decide, oneLine := by decide },
    { source := "a-1", arrow := .line 0, label := none, target := "ask"
      nonempty := by decide, unpiped := by decide, oneLine := by decide }]
  distinct := by decide
  joined := by decide

/-- The sample is compiled to its two nodes, and the answer leads back to the question once. -/
theorem compile_source_sample :
    let flow := Settings.usual.compile sample.source .absent "2024-01-01"
    flow.nodes.keys = ["ask", "a-1"] ∧ flow.start = some "ask" ∧
      ∃ compiled, flow.node? "a-1" = some compiled ∧ compiled.text = "a-1" ∧
        compiled.choices = [{ target := "ask", label := some "Is {x} -->|y| set?" }] := by
  obtain ⟨keys, start, nodes⟩ :=
    compile_source Settings.usual sample .absent "2024-01-01" (by decide)
  obtain ⟨compiled, found, _, text, choices⟩ :=
    nodes _ (List.mem_cons_of_mem _ List.mem_cons_self)
  refine ⟨keys, start, compiled, found, text, choices.trans ?_⟩
  decide

end Sketch

end ChartGuide
