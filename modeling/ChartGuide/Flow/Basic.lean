/-
**Flows: the graphs that a session walks through.**

A flow is a table of nodes under their ids. Each node has a role, a text and an ordered list of
choices, and a choice leads to another node. Nothing is said here about where the choices lead: a
flow put together by hand may name nodes that are not there.

* `Node.findChoice?`, `Node.nextFlow`: what a node offers.
* `Flow.successors`, `Flow.edges`: what a flow connects.
* `MissingNode`: the fault of naming a node that is not there.
-/

import ChartGuide.Role
import ChartGuide.Table
import ChartGuide.Value

namespace ChartGuide

/-- A way from a node to its target. A choice without a label is shown by its target's text once
the flow is compiled. Tags and the condition are kept and not looked into. -/
structure Choice where
  target : String
  label : Option String := none
  tags : List String := []
  condition : Option String := none
  deriving DecidableEq, Repr, Inhabited

/-- A node of a flow. -/
structure Node where
  id : String
  text : String
  role : Role
  choices : List Choice := []
  attributes : Table String Value := ∅
  suggestions : List String := []
  deriving DecidableEq, Repr, Inhabited

namespace Node

def isTerminal (node : Node) : Bool := node.role == .terminal

def isLink (node : Node) : Bool := node.role == .link

/-- The attribute that names the flow a link leads to. -/
def nextFlowKey : String := "next_flow_id"

/-- The id of the flow a link leads to, or nothing. -/
def nextFlow (node : Node) : Value := (node.attributes.get? nextFlowKey).getD .null

/-- The first choice with the given label. -/
def findChoice? (node : Node) (label : Value) : Option Choice :=
  node.choices.find? fun choice => Value.ofText? choice.label = label

end Node

/-- The fault of naming a node that is not there. -/
structure MissingNode where
  id : String
  deriving DecidableEq, Repr

/-- The fault in words: the id, quoted. -/
def MissingNode.message (fault : MissingNode) : String := Text.quoted fault.id

/-- Who wrote a flow and when, and whatever else was noted about it. -/
structure Metadata where
  createdBy : Value := .text "System"
  version : Value := .text "1.0.0"
  lastUpdated : Value := .null
  extra : Table String Value := ∅
  deriving DecidableEq, Repr, Inhabited

/-- A named graph of nodes with the node where sessions start and the chart it was compiled from. -/
structure Flow where
  id : Value
  title : Value
  description : Value
  start : Option String
  nodes : Table String Node
  source : String := ""
  metadata : Metadata := {}
  deriving DecidableEq, Repr, Inhabited

namespace Flow

def node? (flow : Flow) (id : String) : Option Node := flow.nodes.get? id

def contains (flow : Flow) (id : String) : Bool := flow.nodes.contains id

def size (flow : Flow) : Nat := flow.nodes.size

def startNode? (flow : Flow) : Option Node := flow.start.bind flow.node?

/-- The targets of a node's choices, in their order. -/
def successors (flow : Flow) (id : String) : List String :=
  ((flow.node? id).map fun node => node.choices.map Choice.target).getD []

/-- The first choice of a node with the given label. -/
def findChoice? (flow : Flow) (id : String) (label : Value) : Option Choice :=
  (flow.node? id).bind fun node => node.findChoice? label

/-- Every choice with the id of its node, in the order of the nodes. -/
def edges (flow : Flow) : List (String × Choice) :=
  flow.nodes.entries.flatMap fun (id, node) => node.choices.map fun choice => (id, choice)

end Flow

end ChartGuide
