/-
**Findings: what an author probably did not intend.**

Compiling accepts every chart; findings point at what it passes over in silence.

* `Flow.findings`: a missing start, links that lead nowhere, nodes that cannot be reached, and
  traps, from which no terminal and no link can be reached.
* `Flow.inspect`: the findings, refused where the target of a link cannot be looked up or a walk
  would begin outside the graph.
* `Trace.findings`: lines that are not understood.
-/

import ChartGuide.Catalog
import ChartGuide.Digraph.Search

namespace ChartGuide

/-- Something an author should look at. -/
inductive Finding where
  | missingStart
  | unresolvedLink (id : String)
  | unknownLinkTarget (id : String) (target : Value)
  | unreachable (id start : String)
  | trap (id : String)
  | unrecognizedLine (number : Int) (reason text : String)
  deriving DecidableEq, Repr

namespace Finding

/-- The name of the kind of finding. -/
def code : Finding → String
  | missingStart => "missing_start"
  | unresolvedLink _ => "unresolved_link"
  | unknownLinkTarget _ _ => "unknown_link_target"
  | unreachable _ _ => "unreachable_node"
  | trap _ => "trap_node"
  | unrecognizedLine _ _ _ => "unrecognized_line"

def message : Finding → String
  | missingStart => "Flow has no valid start node"
  | unresolvedLink id => "Link node " ++ id ++ " has no target flow"
  | unknownLinkTarget id target => "Link node " ++ id ++ " points to unknown flow " ++ target.plain
  | unreachable id start => "Node " ++ id ++ " cannot be reached from " ++ start
  | trap id => "No terminal or link node can be reached from " ++ id
  | unrecognizedLine number reason text =>
    "Line " ++ toString number ++ " ignored (" ++ reason ++ "): " ++ text

def nodeId? : Finding → Option String
  | unresolvedLink id | unknownLinkTarget id _ | unreachable id _ | trap id => some id
  | missingStart | unrecognizedLine _ _ _ => none

def lineNumber? : Finding → Option Int
  | unrecognizedLine number _ _ => some number
  | _ => none

/-- How much a finding weighs. -/
def severity : Finding → String
  | unreachable _ _ => "info"
  | _ => "warning"

end Finding

/-- What is wrong with a link node: it has no target, or a given catalog does not know it. -/
def Node.linkFinding? (node : Node) (id : String) (catalog : Option Catalog) : Option Finding :=
  if !node.isLink then none
  else if node.nextFlow = .null then some (.unresolvedLink id)
  else if catalog.any fun known => !known.contains node.nextFlow then
    some (.unknownLinkTarget id node.nextFlow)
  else none

namespace Flow

/-- The nodes where a session can leave the flow. -/
def exitIds (flow : Flow) : List String :=
  (flow.nodes.entries.filter fun (_, node) => node.isTerminal || node.isLink).map Prod.fst

/-- The ids from which an exit can be reached. -/
def leavingIds (flow : Flow) : List String := flow.digraph.reverse.reachableFrom flow.exitIds

/-- The findings about a flow with nodes and a start node. -/
def findingsFrom (flow : Flow) (start : String) (catalog : Option Catalog) : List Finding :=
  let reached := flow.digraph.reachableFrom [start]
  let leaving := flow.leavingIds
  (flow.nodes.entries.filterMap fun (id, node) => node.linkFinding? id catalog) ++
    (flow.nodes.keys.filter fun id => !reached.contains id).map (Finding.unreachable · start) ++
    (flow.nodes.keys.filter fun id => reached.contains id && !leaving.contains id).map .trap

/-- The findings about a flow. With a catalog, the targets of links are looked up in it. -/
def findings (flow : Flow) (catalog : Option Catalog) : List Finding :=
  if flow.nodes.isEmpty then []
  else match flow.start.filter flow.contains with
    | none => [.missingStart]
    | some start => flow.findingsFrom start catalog

end Flow

/-- Why a flow cannot be inspected. -/
inductive InspectionFault where
  | unusableTarget (target : Value)
  | strayWalk (fault : Flow.StrayStart)
  deriving DecidableEq, Repr

def InspectionFault.message : InspectionFault → String
  | unusableTarget target => "unhashable type: " ++ Text.quoted target.kindName
  | strayWalk fault => fault.message

namespace Flow

/-- The first target of a link that cannot be looked up, if there is a catalog to look in. -/
def unusableTarget? (flow : Flow) (catalog : Option Catalog) : Option Value :=
  ((flow.nodes.values.filter Node.isLink).map Node.nextFlow).find? fun target =>
    catalog.isSome && !target.canBeKey

/-- The first of the start and the exits that is not in the graph, so that no walk begins there. -/
def strayWalk? (flow : Flow) (start : String) : Option StrayStart :=
  ((start :: flow.exitIds).find? fun id => id ∉ flow.digraph.vertices).map StrayStart.mk

/-- The first fault on the way to the findings. A flow without a start node is not walked through. -/
def inspectionFault? (flow : Flow) (catalog : Option Catalog) : Option InspectionFault :=
  (flow.start.filter flow.contains).bind fun start =>
    ((flow.unusableTarget? catalog).map .unusableTarget).or
      ((flow.strayWalk? start).map .strayWalk)

/-- The findings about a flow, unless something stands in the way of finding them. -/
def inspect (flow : Flow) (catalog : Option Catalog) : Except InspectionFault (List Finding) :=
  match flow.inspectionFault? catalog with
  | some fault => .error fault
  | none => .ok (flow.findings catalog)

end Flow

/-- The finding about a line that is not understood, from its record. -/
def LineRecord.finding (entry : LineRecord) : Finding :=
  .unrecognizedLine entry.number entry.detail entry.text

/-- The findings about the lines of a chart, from the trace of its compilation. -/
def Trace.findings (trace : Trace) : List Finding :=
  (trace.linesWith "unrecognized").map LineRecord.finding

end ChartGuide
