/-
**Sessions in a catalog that changes.**

A world is a catalog with a session that walks through it, and its turns are edits of the catalog
and actions of the session, in any order. The flows need not be compiled: one put together by hand
may have choices that lead to no node.

* `World.Strands`: an action that takes such a choice.
* `World.turn_of_refused`: a refused action leaves the session as it was exactly if it does not
  strand the session. `World.session_of_refused_of_complete`: so it always does where every choice
  leads to a node.
* `World.stranded_session_moves`: a session that is refused a choice and has taken it all the same.
-/

import ChartGuide.Proofs.Digraph.Paths
import ChartGuide.Proofs.Session

namespace ChartGuide.Session

/-- A catalog and a session that walks through it, once one was started. -/
structure World where
  catalog : Catalog
  session : Option State := none

/-- What can happen to a world: an edit of the catalog, or an action with the ticket that it may
use. -/
inductive Turn where
  | edit (change : Catalog.Edit)
  | act (ticket : String) (action : Action)

namespace World

/-- What an action answers. -/
def reply (world : World) (ticket : String) (action : Action) : Except Fault Reply :=
  (perform world.catalog ticket action world.session).1

def turn (world : World) : Turn → World
  | .edit change => { world with catalog := world.catalog.edit change }
  | .act ticket action =>
    { world with session := (perform world.catalog ticket action world.session).2 }

/-- The world that turns make of an empty catalog without a session. -/
def after (settings : Settings) (turns : List Turn) : World :=
  turns.foldl turn { catalog := { settings := settings } }

/-- Whether an action takes a choice of the node where the session stands that leads to no node of
its flow. -/
def Strands (world : World) (action : Action) : Prop :=
  ∃ state flow node label choice, world.session = some state ∧ action = .choose label ∧
    world.catalog.flow? state.flowId = some flow ∧ flow.node? state.current = some node ∧
    node.findChoice? label = some choice ∧ flow.contains choice.target = false

end World

variable {catalog : Catalog} {ticket : String} {state : State} {flow : Flow} {node : Node}
  {label : Value} {choice : Choice}

/-- No step along a choice leads back to the same session: the way has become longer. -/
theorem State.advance_ne (state : State) (node : Node) (choice : Choice) :
    state.advance node choice ≠ state := by
  intro same
  have longer : state.current :: state.trail = state.trail := congrArg State.trail same
  exact List.cons_ne_self _ _ longer

/-- A choice that leads to no node is taken and then refused. -/
theorem State.choose_of_missing (flowFound : catalog.flow? state.flowId = some flow)
    (nodeFound : flow.node? state.current = some node)
    (found : node.findChoice? label = some choice)
    (missing : flow.contains choice.target = false) :
    state.choose catalog label =
      (.error (.nodeGone choice.target), state.advance node choice) := by
  have stands : state.currentNode catalog = .ok node :=
    currentNode_eq_ok_iff.mpr ⟨flow, flowFound, nodeFound⟩
  have nowhere : flow.node? choice.target = none := by
    rwa [Flow.contains, Table.contains, Option.isSome_eq_false_iff, Option.isNone_iff_eq_none]
      at missing
  have gone : (state.advance node choice).currentNode catalog =
      .error (.nodeGone choice.target) := by
    rw [State.currentNode, State.flow]
    simp only [State.advance, flowFound, nowhere]
  simp only [State.choose, stands, found, gone]

/-- A choice that is refused was not taken, unless it leads to no node. -/
theorem State.choose_of_refused {fault : Fault}
    (refused : (state.choose catalog label).1 = .error fault) :
    (state.choose catalog label).2 = state ∨
      ∃ flow node choice, catalog.flow? state.flowId = some flow ∧
        flow.node? state.current = some node ∧ node.findChoice? label = some choice ∧
        flow.contains choice.target = false := by
  cases stands : state.currentNode catalog with
  | error _ => exact .inl (by simp only [State.choose, stands])
  | ok node =>
    cases found : node.findChoice? label with
    | none => exact .inl (by simp only [State.choose, stands, found])
    | some choice =>
      obtain ⟨flow, flowFound, nodeFound⟩ := currentNode_eq_ok_iff.mp stands
      refine .inr ⟨flow, node, choice, flowFound, nodeFound, found, ?_⟩
      refine Bool.eq_false_iff.mpr fun leads => ?_
      obtain ⟨next, nextFound⟩ := Option.isSome_iff_exists.mp leads
      have arrives : (state.advance node choice).currentNode catalog = .ok next :=
        currentNode_eq_ok_iff.mpr ⟨flow, flowFound, nextFound⟩
      simp only [State.choose, stands, found, arrives] at refused
      cases refused

theorem error_of_map_moved {outcome : Except Fault Node} {fault : Fault}
    (refused : outcome.map Reply.moved = .error fault) : outcome = .error fault := by
  cases outcome with
  | error reason => exact congrArg Except.error (Except.error.inj refused)
  | ok next => cases refused

/-- A failed attempt to start a session changes nothing. -/
theorem started_of_refused {attempt : Except Fault State} {session : Option State} {fault : Fault}
    (refused : (started attempt session).1 = .error fault) :
    (started attempt session).2 = session := by
  cases attempt with
  | error _ => rfl
  | ok _ => cases refused

namespace World

variable {world : World} {action : Action}

/-- A refused action that does not strand the session leaves it as it was. -/
theorem session_of_not_strands {fault : Fault} (refused : world.reply ticket action = .error fault)
    (safe : ¬ world.Strands action) :
    (world.turn (.act ticket action)).session = world.session := by
  obtain ⟨catalog, session⟩ := world
  change (perform catalog ticket action session).1 = .error fault at refused
  change (perform catalog ticket action session).2 = session
  cases session with
  | none =>
    cases action with
    | start flowId => exact started_of_refused refused
    | _ => rfl
  | some state =>
    cases action with
    | start flowId => exact started_of_refused refused
    | reset => exact started_of_refused refused
    | followLink => exact started_of_refused refused
    | goBack => cases refused
    | markUnresolved => cases refused
    | choose label =>
      rcases State.choose_of_refused (error_of_map_moved refused) with
        same | ⟨flow, node, choice, stranded⟩
      · exact congrArg some same
      · exact absurd ⟨state, flow, node, label, choice, rfl, rfl, stranded⟩ safe

/-- An action that strands the session is refused after it moved the session on. -/
theorem turn_of_strands (strands : world.Strands action) (ticket : String) :
    ∃ state node choice, world.session = some state ∧
      world.reply ticket action = .error (.nodeGone choice.target) ∧
      (world.turn (.act ticket action)).session = some (state.advance node choice) := by
  obtain ⟨state, flow, node, label, choice, sessionFound, rfl, flowFound, nodeFound, found,
    missing⟩ := strands
  have chosen := State.choose_of_missing flowFound nodeFound found missing
  refine ⟨state, node, choice, sessionFound, ?_, ?_⟩
  · rw [reply, sessionFound, perform, chosen]
    rfl
  · rw [turn, sessionFound, perform, chosen]

/-- Where every choice leads to a node no action strands a session. -/
theorem not_strands_of_complete
    (complete : ∀ id flow, world.catalog.flow? id = some flow → flow.Complete) :
    ¬ world.Strands action := by
  rintro ⟨state, flow, node, label, choice, -, -, flowFound, nodeFound, found, missing⟩
  have edge : (state.current, choice) ∈ flow.edges :=
    flow.mem_edges_iff.mpr ⟨node, nodeFound, List.mem_of_find?_eq_some found⟩
  have leads := complete _ flow flowFound (state.current, choice) edge
  exact Bool.false_ne_true (missing.symm.trans leads)

/-- Where every choice of every flow leads to a node nothing refused changes a session. -/
theorem session_of_refused_of_complete {fault : Fault}
    (refused : world.reply ticket action = .error fault)
    (complete : ∀ id flow, world.catalog.flow? id = some flow → flow.Complete) :
    (world.turn (.act ticket action)).session = world.session :=
  session_of_not_strands refused (not_strands_of_complete complete)

/-- **A refused action leaves the session as it was, exactly if it does not strand it.** Whatever
the catalog holds by now, only a choice that leads to no node is taken before it is refused. -/
theorem turn_of_refused {fault : Fault} (refused : world.reply ticket action = .error fault) :
    (world.turn (.act ticket action)).session = world.session ↔ ¬ world.Strands action := by
  refine ⟨fun same strands => ?_, session_of_not_strands refused⟩
  obtain ⟨state, node, choice, sessionFound, -, moved⟩ := turn_of_strands strands ticket
  rw [moved, sessionFound] at same
  exact state.advance_ne node choice (Option.some.inj same)

/-- A flow put together by hand: one choice leads to a node and one does not. -/
def unfinished : Flow where
  id := .text "unfinished"
  title := .text "T"
  description := .text "D"
  start := some "A"
  nodes := .ofList
    [("A", { id := "A", text := "A", role := .question, choices :=
        [{ target := "B", label := some "on" }, { target := "C", label := some "off" }] }),
      ("C", { id := "C", text := "C", role := .terminal })]

/-- A session at the start of the unfinished flow, after the flow was put in again. -/
def begun : World :=
  .after .usual [.edit (.register unfinished), .act "session-1" (.start (.text "unfinished")),
    .edit (.remove (.text "unfinished")), .edit (.register unfinished)]

theorem turn_of_refused_begun :
    begun.reply "session-2" (.choose (.text "up")) = .error (.noSuchChoice "A" (.text "up")) ∧
      begun.session.map State.history = some ["A"] ∧
      ((begun.turn (.act "session-2" (.choose (.text "up")))).session = begun.session ↔
        ¬ begun.Strands (.choose (.text "up"))) := by
  have refused : begun.reply "session-2" (.choose (.text "up")) =
      .error (.noSuchChoice "A" (.text "up")) := by decide +kernel
  exact ⟨refused, by decide +kernel, turn_of_refused refused⟩

/-- **A choice is refused and has been taken.** The session stands where no node is, and has an
answer for the step. -/
theorem stranded_session_moves :
    begun.reply "session-2" (.choose (.text "on")) = .error (.nodeGone "B") ∧
      begun.session.map State.history = some ["A"] ∧
      begun.session.map (fun state => state.answers.entries) = some [] ∧
      (begun.turn (.act "session-2" (.choose (.text "on")))).session.map State.history =
        some ["A", "B"] ∧
      (begun.turn (.act "session-2" (.choose (.text "on")))).session.map
        (fun state => state.answers.entries) = some [("A", some "on")] ∧
      (begun.turn (.act "session-2" (.choose (.text "on")))).session ≠ begun.session := by
  decide +kernel

end World

end ChartGuide.Session
