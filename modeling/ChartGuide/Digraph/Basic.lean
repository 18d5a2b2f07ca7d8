/-
**The directed graph of a flow.**

The graph has a vertex for every id of the node table and, after those, one for every target that
has no node. It has one arc for each node and target, however many choices lead there; the arc
carries the labels of all of them. Whoever draws the graph is also told what its vertices show, and
which flow it is.

* `Flow.digraph`: the vertices and the arcs.
* `Flow.graph`: the graph with its notes.
* `Digraph.successors`, `Digraph.predecessors`: neighbours of a vertex.
* `Flow.rootIds`, `Flow.leafIds`: the nodes that nothing leads to, and those that lead nowhere.
-/

import ChartGuide.Flow.Basic

namespace ChartGuide

/-- An arc with its label. -/
structure Arc where
  source : String
  target : String
  label : Option String
  deriving DecidableEq, Repr

def Arc.ends (arc : Arc) : String × String := (arc.source, arc.target)

/-- What is noted at a vertex. -/
structure VertexNote where
  role : String
  text : String
  isStart : Bool
  deriving DecidableEq, Repr

/-- A directed graph with at most one arc from one vertex to another. -/
structure Digraph where
  vertices : List String
  arcs : List Arc
  deriving DecidableEq, Repr

namespace Digraph

/-- The vertices that arcs lead to from a vertex. -/
def successors (graph : Digraph) (vertex : String) : List String :=
  (graph.arcs.filter fun arc => arc.source == vertex).map Arc.target

/-- The vertices from which arcs lead to a vertex. -/
def predecessors (graph : Digraph) (vertex : String) : List String :=
  (graph.arcs.filter fun arc => arc.target == vertex).map Arc.source

/-- The graph with every arc turned around. -/
def reverse (graph : Digraph) : Digraph :=
  { graph with arcs := graph.arcs.map fun arc => ⟨arc.target, arc.source, arc.label⟩ }

/-- The graph without the arcs between some pairs of vertices. -/
def without (graph : Digraph) (pairs : List (String × String)) : Digraph :=
  { graph with arcs := graph.arcs.filter fun arc => !pairs.contains arc.ends }

end Digraph

/-- A graph that tells which flow it is of, and has notes at vertices. -/
structure NotedDigraph extends Digraph where
  flowId : Value
  start : Option String
  notes : Table String VertexNote
  deriving DecidableEq, Repr

/-- The label of an arc that stands for several choices. A single label is kept, and of several a
missing one is written out. -/
def joinLabels : List (Option String) → Option String
  | [label] => label
  | labels => some (" / ".intercalate (labels.map fun label => label.getD "None"))

/-- The arcs that leave a node, in the order in which its targets first occur. -/
def Node.arcs (id : String) (node : Node) : List Arc :=
  (node.choices.map Choice.target).eraseDups.map fun target =>
    let toTarget := node.choices.filter fun choice => choice.target == target
    ⟨id, target, joinLabels (toTarget.map Choice.label)⟩

namespace Flow

/-- The targets that have no node, in the order in which they first occur. -/
def missingTargets (flow : Flow) : List String :=
  ((flow.edges.map fun edge => edge.2.target).filter fun id => !flow.contains id).eraseDups

def digraph (flow : Flow) : Digraph where
  vertices := flow.nodes.keys ++ flow.missingTargets
  arcs := flow.nodes.entries.flatMap fun (id, node) => node.arcs id

/-- The graph of a flow with a note at each vertex that has a node. -/
def graph (flow : Flow) : NotedDigraph where
  toDigraph := flow.digraph
  flowId := flow.id
  start := flow.start
  notes := flow.nodes.mapValues fun id node => ⟨node.role.name, node.text, flow.start = some id⟩

/-- The nodes that no choice leads to. -/
def rootIds (flow : Flow) : List String :=
  let graph := flow.digraph
  flow.nodes.keys.filter fun id => (graph.predecessors id).isEmpty

/-- The nodes without choices. -/
def leafIds (flow : Flow) : List String :=
  (flow.nodes.entries.filter fun (_, node) => node.choices.isEmpty).map Prod.fst

end Flow

end ChartGuide
