/-
**Settling a draft: from the collected nodes to a flow.**

Once the whole chart is read, each node gets its final choices and its final role.

* `Draft.settledChoices`: a choice without a label takes the text of its target, and of choices
  that now have the same label and target only the first is kept.
* `Settings.finalRole`: links are told by their ids, nodes without choices are terminal, a
  terminal node with choices is not, and a node with several choices asks something.
* `Draft.settle`: the flow. It is defined for every draft.
* `Draft.finalize`: the flow, refused where a choice without a label leads to no node of the draft.
-/

import ChartGuide.Draft.Basic
import ChartGuide.Event
import ChartGuide.Prior
import ChartGuide.Settings

namespace ChartGuide

/-- The role of a node from its id, its role in the draft and the number of its final choices. -/
def Settings.finalRole (settings : Settings) (id : String) (role : Role) (choices : Nat) : Role :=
  if settings.isLinkId id then .link
  else if choices = 0 then .terminal
  else if 1 < choices then (if role = .diagnosis then .diagnosis else .question)
  else if role = .terminal then .action
  else role

/-- The attributes of a node: a link with a target notes it. -/
def Settings.finalAttributes (settings : Settings) (id : String) (role : Role)
    (attributes : Table String Value) : Table String Value :=
  match role, settings.linkTarget? id with
  | .link, some target => attributes.insert Node.nextFlowKey (.text target)
  | _, _ => attributes

/-- Whether a node is a link that leads nowhere. -/
def Settings.leadsNowhere (settings : Settings) (node : Node) : Bool :=
  node.isLink && (settings.linkTarget? node.id).isNone

/-- The list without the choices whose label and target occurred before. -/
def Choice.distinct : List Choice → List Choice
  | [] => []
  | choice :: rest =>
    choice :: (distinct rest).filter fun later =>
      !(later.label == choice.label && later.target == choice.target)

namespace Draft

/-- The text an id is shown by: that of its node, or the id itself. -/
def displayText (draft : Draft) (id : String) : String :=
  ((draft.nodes.get? id).map DraftNode.text).getD id

/-- The choice with a label: its own, or the text of its target. -/
def labelled (draft : Draft) (choice : Choice) : Choice :=
  { choice with label := some (choice.label.getD (draft.displayText choice.target)) }

/-- The final choices of a node. -/
def settledChoices (draft : Draft) (node : DraftNode) : List Choice :=
  Choice.distinct (node.choices.map draft.labelled)

/-- The final node under an id. Its role goes by the id of the draft node, its id and its link
target by the id that it is stored under. -/
def settledNode (draft : Draft) (settings : Settings) (id : String) (node : DraftNode) : Node :=
  let choices := draft.settledChoices node
  let role := settings.finalRole node.id node.role choices.length
  { id := id
    text := node.text
    role := role
    choices := choices
    attributes := settings.finalAttributes id role node.attributes
    suggestions := node.suggestions }

/-- The start node: the first id seen if it has a node, and else the first node. -/
def start? (draft : Draft) : Option String :=
  (draft.startCandidate.filter draft.nodes.contains).or draft.nodes.keys.head?

/-- The flow of a draft. -/
def settle (draft : Draft) (settings : Settings) (source : String) (prior : Prior)
    (now : String) : Flow where
  id := prior.id.orElse settings.flowId
  title := prior.title.orElse settings.title
  description := prior.description.orElse settings.description
  start := draft.start?
  nodes := draft.nodes.mapValues (draft.settledNode settings)
  source := source
  metadata := prior.metadata.renew now

/-! ### Labels that cannot be taken -/

/-- The first target of a node that no label can be taken from. -/
def danglingTarget? (draft : Draft) (node : DraftNode) : Option String :=
  (node.choices.find? fun choice =>
    choice.label.isNone && !draft.nodes.contains choice.target).map Choice.target

/-- The first fault of a draft, in the order of its nodes. -/
def missingNode? (draft : Draft) : Option MissingNode :=
  (draft.nodes.values.findSome? draft.danglingTarget?).map MissingNode.mk

/-- The flow of a draft, unless a label cannot be taken from its target. -/
def finalize (draft : Draft) (settings : Settings) (source : String) (prior : Prior)
    (now : String) : Except MissingNode Flow :=
  match draft.missingNode? with
  | some fault => .error fault
  | none => .ok (draft.settle settings source prior now)

/-- What finalizing reports: the links that lead nowhere, up to the node where it fails. -/
def finalizeEvents (draft : Draft) (settings : Settings) : List Event :=
  let sound := draft.nodes.entries.takeWhile fun (_, node) => (draft.danglingTarget? node).isNone
  let settled := sound.map fun (id, node) => draft.settledNode settings id node
  (settled.filter settings.leadsNowhere).map fun node => .inertLink node.id

end Draft

end ChartGuide
