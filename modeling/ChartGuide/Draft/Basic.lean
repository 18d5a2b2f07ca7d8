/-
**Drafts: the nodes of a chart while it is read.**

A draft collects nodes and choices line by line. A node comes into being when it is first mentioned
and is shown by its id until a shape gives it a text; of several shapes the last one counts, save
that a shape without a role leaves the role alone. A choice is added once for each pair of label
and target.

* `Draft.note`, `Draft.ensure`, `Draft.declare`, `Draft.addChoice`: the four ways a statement
  changes a draft.
* `Draft.apply`: what a statement does, and `Draft.ofReadings`: what a whole chart does.
-/

import ChartGuide.Flow.Basic
import ChartGuide.Line

namespace ChartGuide

/-- A node of a draft. It is a question until a shape says otherwise. Its id is the one it was made
with, which is the one it is stored under unless either is changed by hand. -/
structure DraftNode where
  id : String
  text : String
  role : Role := .question
  choices : List Choice := []
  attributes : Table String Value := ∅
  suggestions : List String := []
  deriving DecidableEq, Repr, Inhabited

namespace DraftNode

/-- The node a first mention makes: it is shown by its id. -/
def placeholder (id : String) : DraftNode := { id := id, text := id }

/-- Whether the node has a choice with this label and target. -/
def offers (node : DraftNode) (target : String) (label : Option String) : Bool :=
  node.choices.any fun choice => choice.label == label && choice.target == target

/-- The node with one more choice, unless it has one with this label and target, and whether the
choice was added. -/
def addChoice (node : DraftNode) (target : String) (label : Option String) : Bool × DraftNode :=
  if node.offers target label then (false, node)
  else (true, { node with choices := node.choices ++ [{ target := target, label := label }] })

/-- The node with the face that a shape gives it. Without a text it is shown by the given id. -/
def declare (node : DraftNode) (id : String) (face : Face) : DraftNode :=
  { node with
    text := if face.text.isEmpty then id else face.text
    role := face.shape.role?.getD node.role }

end DraftNode

/-- The nodes found so far, and the first id seen on the left of a statement. -/
structure Draft where
  nodes : Table String DraftNode
  startCandidate : Option String
  deriving DecidableEq, Repr, Inhabited

namespace Draft

def empty : Draft := ⟨∅, none⟩

/-- Remembers the id if it is the first one seen. -/
def note (draft : Draft) (id : String) : Draft :=
  { draft with startCandidate := draft.startCandidate.or (some id) }

/-- Makes a node under the id unless there is one. -/
def ensure (draft : Draft) (id : String) : Draft :=
  { draft with nodes := draft.nodes.insertIfNew id (.placeholder id) }

/-- Gives a node, new or not, the face of a declaration. -/
def declare (draft : Draft) (id : String) (face : Face) : Draft :=
  { draft with
    nodes := draft.nodes.upsert id fun node => (node.getD (.placeholder id)).declare id face }

/-- Gives a node the face that the line declares, if it declares one. -/
def declareEndpoint (draft : Draft) (endpoint : Endpoint) : Draft :=
  match endpoint.face with
  | some face => draft.declare endpoint.id face
  | none => draft

/-- Applies a function to a node of the draft. -/
def modify (draft : Draft) (id : String) (change : DraftNode → DraftNode) : Draft :=
  { draft with nodes := draft.nodes.modify id change }

def addChoice (draft : Draft) (id target : String) (label : Option String) : Draft :=
  draft.modify id fun node => (node.addChoice target label).2

/-- What a statement does to a draft. An edge mentions its source before its target. -/
def apply (draft : Draft) : Statement → Draft
  | .declaration id face => (draft.note id).declare id face
  | .edge source label target =>
    let mentioned := ((draft.note source.id).ensure source.id).ensure target.id
    let declared := (mentioned.declareEndpoint source).declareEndpoint target
    declared.addChoice source.id target.id label

/-- What a line does to a draft: only statements change it. -/
def applyLine (draft : Draft) : Line → Draft
  | .statement statement => draft.apply statement
  | _ => draft

def ofReadings (readings : List Reading) : Draft :=
  readings.foldl (fun draft reading => draft.applyLine reading.line) empty

def ofSource (source : String) : Draft := ofReadings (Reading.ofSource source)

def choiceCount (draft : Draft) : Nat :=
  (draft.nodes.values.flatMap DraftNode.choices).length

end Draft

end ChartGuide
