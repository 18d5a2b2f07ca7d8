/-
**Sessions: walking through the flows of a catalog.**

A session stands at a node of a flow and remembers the way there. A choice leads on, going back
undoes the last step, and a link leads to the start of another flow. Reaching a terminal node by a
choice ends the session with success; marking it unresolved ends it without.

The operations on a session under way are `State.choose`, `State.goBack`, `State.markUnresolved`
and `State.followLink`; `begin` starts one. `Session.perform` runs any of them as an `Action` and
says what a session is afterwards, also when the action fails.
-/

import ChartGuide.Catalog

namespace ChartGuide

namespace Session

/-- How a session stands. -/
inductive Status where
  | active
  | success
  | unresolved
  deriving DecidableEq, Repr, Inhabited

def Status.name : Status → String
  | active => "active"
  | success => "success"
  | unresolved => "unresolved"

/-- A session under way: where it stands, the nodes before from the latest to the start, and the
label chosen last at each node. -/
structure State where
  ticket : String
  flowId : Value
  current : String
  trail : List String := []
  answers : Table String (Option String) := ∅
  status : Status := .active
  deriving DecidableEq, Repr

/-- The visited nodes, the start first. -/
def State.history (state : State) : List String := state.trail.reverse ++ [state.current]

/-- Why an action is refused. -/
inductive Fault where
  | noSession
  | unknownFlow (id : Value)
  | noStart (id : Value)
  | flowGone (id : Value)
  | nodeGone (id : String)
  | noSuchChoice (id : String) (label : Value)
  | notLink (id : String)
  | noTarget (id : String)
  deriving DecidableEq, Repr

def Fault.message : Fault → String
  | noSession => "No active session"
  | unknownFlow id => "Unknown flow: " ++ id.plain
  | noStart id => "Flow " ++ id.plain ++ " has no start node"
  | flowGone id => "Flow " ++ id.plain ++ " is no longer registered"
  | nodeGone id => "Node " ++ id ++ " no longer exists"
  | noSuchChoice id label => "Node " ++ id ++ " has no option labeled " ++ label.quotedForm
  | notLink id => "Node " ++ id ++ " is not a link node"
  | noTarget id => "Link node " ++ id ++ " has no registered target flow"

/-- A new session at the start of a flow. -/
def begin (catalog : Catalog) (ticket : String) (flowId : Value) : Except Fault State :=
  match catalog.flow? flowId with
  | none => .error (.unknownFlow flowId)
  | some flow =>
    match flow.start with
    | none => .error (.noStart flowId)
    | some start => .ok { ticket := ticket, flowId := flowId, current := start }

namespace State

/-- The flow a session walks through. -/
def flow (state : State) (catalog : Catalog) : Except Fault Flow :=
  match catalog.flow? state.flowId with
  | none => .error (.flowGone state.flowId)
  | some flow => .ok flow

/-- The node a session stands at. -/
def currentNode (state : State) (catalog : Catalog) : Except Fault Node :=
  match state.flow catalog with
  | .error fault => .error fault
  | .ok flow =>
    match flow.node? state.current with
    | none => .error (.nodeGone state.current)
    | some node => .ok node

/-- The session one step further along a choice of the node it stands at. -/
def advance (state : State) (node : Node) (choice : Choice) : State :=
  { state with
    current := choice.target
    trail := state.current :: state.trail
    answers := state.answers.insert node.id choice.label }

/-- Takes the choice with the given label. The step is taken even if there is no node where the
choice leads, which is then reported. -/
def choose (state : State) (catalog : Catalog) (label : Value) : Except Fault Node × State :=
  match state.currentNode catalog with
  | .error fault => (.error fault, state)
  | .ok node =>
    match node.findChoice? label with
    | none => (.error (.noSuchChoice node.id label), state)
    | some choice =>
      let further := state.advance node choice
      match further.currentNode catalog with
      | .error fault => (.error fault, further)
      | .ok next =>
        (.ok next, if next.isTerminal then { further with status := .success } else further)

/-- Undoes the last step and forgets the answer given there; says whether there was one. -/
def goBack (state : State) : Bool × State :=
  match state.trail with
  | [] => (false, state)
  | previous :: trail =>
    (true,
      { state with
        current := previous
        trail := trail
        answers := state.answers.erase previous
        status := .active })

/-- Ends a session without a solution. -/
def markUnresolved (state : State) : State := { state with status := .unresolved }

/-- A new session at the start of the flow that the link node leads to. -/
def followLink (state : State) (catalog : Catalog) (ticket : String) : Except Fault State :=
  match state.currentNode catalog with
  | .error fault => .error fault
  | .ok node =>
    if !node.isLink then .error (.notLink node.id)
    else match catalog.resolveLink? state.flowId node.id with
      | none => .error (.noTarget node.id)
      | some target => begin catalog ticket target.id

end State

/-- What a user can do. -/
inductive Action where
  | start (flowId : Value)
  | choose (label : Value)
  | goBack
  | reset
  | markUnresolved
  | followLink
  deriving DecidableEq, Repr

/-- What an action answers. -/
inductive Reply where
  | started (state : State)
  | moved (node : Node)
  | wentBack (done : Bool)
  | marked
  deriving DecidableEq, Repr

/-- The reply and the session after an attempt to start one: a failed attempt changes nothing. -/
def started (attempt : Except Fault State) (session : Option State) :
    Except Fault Reply × Option State :=
  match attempt with
  | .error fault => (.error fault, session)
  | .ok state => (.ok (.started state), some state)

/-- Performs an action on a session that may not have been started. The ticket is used if the
action starts a new one. -/
def perform (catalog : Catalog) (ticket : String) (action : Action) (session : Option State) :
    Except Fault Reply × Option State :=
  match action, session with
  | .start flowId, _ => started (begin catalog ticket flowId) session
  | _, none => (.error .noSession, none)
  | .choose label, some state =>
    let (outcome, after) := state.choose catalog label
    (outcome.map .moved, some after)
  | .goBack, some state =>
    let (done, after) := state.goBack
    (.ok (.wentBack done), some after)
  | .reset, some state => started (begin catalog ticket state.flowId) session
  | .markUnresolved, some state => (.ok .marked, some state.markUnresolved)
  | .followLink, some state => started (state.followLink catalog ticket) session

/-- What a reply reports: that a session was started. -/
def Reply.events : Reply → List Event
  | started state => [.startedSession state.ticket state.flowId]
  | _ => []

end Session

end ChartGuide
