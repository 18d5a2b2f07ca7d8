/-
**Layered layouts.**

A flow is drawn from top to bottom. The arcs that close a cycle, seen from the start node, are set
aside; each vertex then stands one layer below the lowest vertex with an arc to it. Within its
layer a vertex is moved to the mean position of its neighbours in the next layer above, then
below, for a number of passes; ties keep their order.

* `Digraph.depths`: the layer of each vertex.
* `Digraph.layers`: the layers after a number of passes.
* `Flow.backArcs`: the arcs set aside.
* `Flow.layout`: the whole layout, refused where a choice leads to no node of the flow.
-/

import ChartGuide.Digraph.Search

namespace ChartGuide

namespace Digraph

/-- The depths of vertices that are listed so that every arc leads onward: one more than the
greatest depth before the vertex, and zero if no arc leads to it. -/
def depths (graph : Digraph) (order : List String) : List (String × Nat) :=
  order.foldl (fun known vertex =>
    let above := (graph.predecessors vertex).map fun other => ((known.lookup other).getD 0) + 1
    (vertex, above.foldl max 0) :: known) []

/-- The vertices by depth, each layer in the order of the graph. -/
def layersByDepth (graph : Digraph) (depths : List (String × Nat)) : List (List String) :=
  let placed := graph.vertices.map fun vertex => (vertex, (depths.lookup vertex).getD 0)
  let height := (placed.map fun entry => entry.2 + 1).foldl max 0
  (List.range height).map fun depth => (placed.filter fun entry => entry.2 == depth).map Prod.fst

/-- A position in a layer as a quotient with a positive denominator. -/
structure MeanPosition where
  total : Nat
  count : Nat
  deriving DecidableEq, Repr

/-- Whether a position is no further than another one. -/
def MeanPosition.atMost (first second : MeanPosition) : Bool :=
  first.total * second.count ≤ second.total * first.count

/-- The mean position of a vertex's neighbours in a fixed layer. Without a neighbour there, the
vertex stays at its own `index`. -/
def meanPosition (fixed neighbours : List String) (index : Nat) : MeanPosition :=
  match neighbours.filterMap fun other => fixed.idxOf? other with
  | [] => ⟨index, 1⟩
  | positions => ⟨positions.foldl (· + ·) 0, positions.length⟩

/-- A layer in the order of the mean positions of its vertices next to a fixed layer. -/
def reorder (neighbours : String → List String) (fixed layer : List String) : List String :=
  let keyed := layer.zipIdx.map fun (vertex, index) =>
    (meanPosition fixed (neighbours vertex) index, vertex)
  (keyed.mergeSort fun first second => first.1.atMost second.1).map Prod.snd

/-- Reorders every layer but the first next to the one before it, which was reordered already. -/
def sweepFrom (neighbours : String → List String) (fixed : List String) :
    List (List String) → List (List String)
  | [] => []
  | layer :: rest =>
    let moved := reorder neighbours fixed layer
    moved :: sweepFrom neighbours moved rest

/-- Reorders all layers after the first one. -/
def sweep (neighbours : String → List String) : List (List String) → List (List String)
  | [] => []
  | layer :: rest => layer :: sweepFrom neighbours layer rest

/-- One pass: down by the vertices above, and up by the vertices below. -/
def pass (graph : Digraph) (layers : List (List String)) : List (List String) :=
  (sweep graph.successors (sweep graph.predecessors layers).reverse).reverse

/-- The layers of a graph without cycles after a number of passes. -/
def layers (graph : Digraph) (order : List String) (passes : Nat) : List (List String) :=
  Nat.repeat (pass graph) passes (graph.layersByDepth (graph.depths order))

end Digraph

/-- Where a node is drawn. -/
structure Placement where
  id : String
  text : String
  role : Role
  layer : Nat
  position : Nat
  isStart : Bool
  deriving DecidableEq, Repr

def Placement.isTerminal (place : Placement) : Bool := place.role == .terminal

/-- A layout of a flow: its layers, its arcs, those that lead back up, whether there are cycles, and
the place of each node. -/
structure Layout where
  start : String
  layers : List (List String) := []
  arcs : List (String × String) := []
  backArcs : List (String × String) := []
  hasCycles : Bool := false
  placements : List Placement := []
  deriving DecidableEq, Repr

namespace Flow

/-- The arcs that lead back up. They are only looked for in a graph with cycles, by a search that
begins at the start node. -/
def backArcs (flow : Flow) : List (String × String) :=
  if flow.digraph.isCyclic then flow.digraph.backArcs flow.start else []

/-- The place of a node. -/
def place (flow : Flow) (layer position : Nat) (id : String) : Except MissingNode Placement :=
  match flow.node? id with
  | none => .error ⟨id⟩
  | some node =>
    .ok ⟨id, node.text, node.role, layer, position, flow.start = some id⟩

/-- The places of all nodes, layer by layer. -/
def placements (flow : Flow) (layers : List (List String)) : Except MissingNode (List Placement) :=
  (layers.zipIdx.flatMap fun (layer, depth) =>
    layer.zipIdx.map fun (id, position) => (depth, position, id)).mapM
      fun (depth, position, id) => flow.place depth position id

def usualPasses : Nat := 4

/-- The layers of a flow after a number of passes; a negative number means none. -/
def layers (flow : Flow) (passes : Int) : List (List String) :=
  let graph := flow.digraph
  (graph.without flow.backArcs).layers (graph.closingOrder flow.start) passes.toNat

def layout (flow : Flow) (passes : Int) : Except MissingNode Layout :=
  let graph := flow.digraph
  let start := flow.start.getD ""
  if flow.nodes.isEmpty then .ok { start := start }
  else (flow.placements (flow.layers passes)).map fun placements =>
    { start := start
      layers := flow.layers passes
      arcs := graph.arcs.map Arc.ends
      backArcs := flow.backArcs
      hasCycles := graph.isCyclic
      placements := placements }

end Flow

end ChartGuide
