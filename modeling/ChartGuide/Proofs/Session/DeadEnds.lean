/-
**Sessions at nodes that lead nowhere.**

A choice looks at the node that it leads to, and ends the session there if the node is terminal. A
session that begins does not look at the node where it begins, be it started, reset, or begun by
following a link. So an active session can go on, unless it has made no step in a flow that is over
where it starts: the flow has a start that no edge leaves. Going back never leads to such a node,
since the way goes on from there.

* `State.CanGoOn`, `State.AtTerminal`, `Flow.EndsAtStart`: what is compared.
* `perform_eq_ok_cases`: what was done when an action is answered, and `State.choose_eq_ok`: what a
  choice does that is taken.
* `overUnlessFresh_of_perform`: an action leaves an active session at a terminal node only where it
  begins.
* `deadEnd_after`: when an active session can go on, and how a session stands that has come to a
  terminal node.
* `begun_at_dead_end`: a session that begins where it should have ended.
-/

import ChartGuide.Proofs.Session.Interleaving
import ChartGuide.Proofs.Session.Way

namespace ChartGuide

/-- Whether a flow is over where it starts. -/
def Flow.EndsAtStart (flow : Flow) : Prop :=
  ∃ start, flow.start = some start ∧ ∃ node, flow.node? start = some node ∧ node.isTerminal = true

namespace Session

/-- Whether a session stands at a node that has a choice or is a link. -/
def State.CanGoOn (state : State) (catalog : Catalog) : Prop :=
  ∃ node, state.currentNode catalog = .ok node ∧ (node.choices ≠ [] ∨ node.isLink = true)

/-- Whether a session stands at a terminal node. -/
def State.AtTerminal (state : State) (catalog : Catalog) : Prop :=
  ∃ node, state.currentNode catalog = .ok node ∧ node.isTerminal = true

/-- Whether a session that stands at a terminal node is over, or has made no step. -/
def State.OverUnlessFresh (state : State) (catalog : Catalog) : Prop :=
  state.AtTerminal catalog → state.status = .active → state.trail = []

variable {catalog : Catalog} {ticket : String} {session : Option State} {state : State}
  {flow : Flow}

/-! ### Terminal nodes -/

theorem State.isTerminal_iff (compiled : catalog.Compiled) {node : Node}
    (stands : state.currentNode catalog = .ok node) :
    node.isTerminal = true ↔ node.isLink = false ∧ node.choices = [] := by
  obtain ⟨flow, flowFound, nodeFound⟩ := currentNode_eq_ok_iff.mp stands
  obtain ⟨settings, produced⟩ := compiled _ flow flowFound
  exact produced.isTerminal_iff nodeFound

/-- A session can go on from every node but a terminal one. -/
theorem State.WalksIn.canGoOn_iff (walks : state.WalksIn catalog) (compiled : catalog.Compiled) :
    state.CanGoOn catalog ↔ ¬ state.AtTerminal catalog := by
  obtain ⟨flow, flowFound, walks⟩ := walks
  obtain ⟨node, stands⟩ := (exists_currentNode_iff flowFound).mpr walks.stands
  have terminal_iff := isTerminal_iff compiled stands
  simp only [CanGoOn, AtTerminal, stands, Except.ok.injEq, exists_eq_left', terminal_iff]
  rw [not_and_or, Bool.not_eq_false, or_comm]

/-- A session that has made no step stands at the start of its flow. -/
theorem State.Walks.start_eq (walks : state.Walks flow) (fresh : state.trail = []) :
    flow.start = some state.current := by
  rw [← walks.begins, history, fresh]
  rfl

/-- Of the sessions that have made no step those are at a terminal node whose flow is over at its
start. -/
theorem State.Walks.atTerminal_iff (walks : state.Walks flow)
    (flowFound : catalog.flow? state.flowId = some flow) (fresh : state.trail = []) :
    state.AtTerminal catalog ↔ flow.EndsAtStart := by
  have start := walks.start_eq fresh
  simp only [AtTerminal, currentNode_eq_ok_iff, flowFound, Flow.EndsAtStart, start,
    Option.some.injEq, exists_eq_left']

/-- A step back leads to a node that the way goes on from, and so to no terminal one. -/
theorem State.Walks.not_atTerminal_goBack (walks : state.Walks flow)
    (flowFound : catalog.flow? state.flowId = some flow) (compiled : catalog.Compiled)
    (came : state.trail ≠ []) : ¬ state.goBack.2.AtTerminal catalog := by
  rintro ⟨node, stands, terminal⟩
  have onward : state.current ∈ flow.successors state.goBack.2.current := by
    have leads := walks.leads
    rw [State.history_goBack came] at leads
    exact (List.isChain_append.mp leads).2.2 _ state.goBack.2.getLast?_history _ rfl
  have sameFlow : catalog.flow? state.goBack.2.flowId = some flow := by
    rwa [state.flowId_goBack]
  obtain ⟨nodeFound, -⟩ := findChoice?_of_currentNode sameFlow stands .null
  rw [Flow.successors, nodeFound] at onward
  have leaf := ((isTerminal_iff compiled stands).mp terminal).2
  change state.current ∈ node.choices.map Choice.target at onward
  rw [leaf] at onward
  cases onward

/-! ### Actions -/

/-- **A choice that is taken** leads one step on to a node, and ends the session with success if the
node is terminal. -/
theorem State.choose_eq_ok {label : Value} {next : Node} {further : State}
    (chosen : state.choose catalog label = (.ok next, further)) :
    further.currentNode catalog = .ok next ∧ further.trail = state.current :: state.trail ∧
      further.status = if next.isTerminal then .success else state.status := by
  unfold State.choose at chosen
  split at chosen
  · cases chosen
  · next node stands =>
    split at chosen
    · cases chosen
    · next choice found =>
      dsimp only at chosen
      split at chosen
      · cases chosen
      · next arrived there =>
        obtain ⟨same, rfl⟩ := Prod.mk.inj chosen
        obtain rfl := Except.ok.inj same
        split
        · exact ⟨there, rfl, rfl⟩
        · exact ⟨there, rfl, rfl⟩

/-- A session that begins is active and has made no step, wherever it begins. -/
theorem status_of_begin {flowId : Value} (start : begin catalog ticket flowId = .ok state) :
    state.status = .active ∧ state.trail = [] := by
  obtain ⟨flow, first, -, -, rfl⟩ := begin_eq_ok_iff.mp start
  exact ⟨rfl, rfl⟩

theorem begin_of_started {attempt : Except Fault State} {reply : Reply} {further : State}
    (begins : ∀ fresh, attempt = .ok fresh → ∃ flowId, begin catalog ticket flowId = .ok fresh)
    (performed : started attempt session = (.ok reply, some further)) :
    reply = .started further ∧ ∃ flowId, begin catalog ticket flowId = .ok further := by
  cases attempt with
  | error fault => cases performed
  | ok fresh =>
    obtain ⟨same, sameSession⟩ := Prod.mk.inj performed
    obtain rfl := Option.some.inj sameSession
    exact ⟨(Except.ok.inj same).symm, begins fresh rfl⟩

/-- **What is answered tells what was done**: a session was begun, a choice was taken, a step was
taken back or there was none, or the session was marked. -/
theorem perform_eq_ok_cases {action : Action} {reply : Reply} {further : State}
    (performed : perform catalog ticket action session = (.ok reply, some further)) :
    (reply = .started further ∧ ∃ flowId, begin catalog ticket flowId = .ok further) ∨
      ∃ before, session = some before ∧
        ((∃ label node, reply = .moved node ∧
            before.choose catalog label = (.ok node, further)) ∨
          (reply = .wentBack before.goBack.1 ∧ further = before.goBack.2) ∨
          (reply = .marked ∧ further = before.markUnresolved)) := by
  cases session with
  | none =>
    cases action with
    | start flowId => exact .inl (begin_of_started (fun _ start => ⟨flowId, start⟩) performed)
    | _ => cases performed
  | some before =>
    cases action with
    | start flowId => exact .inl (begin_of_started (fun _ start => ⟨flowId, start⟩) performed)
    | reset => exact .inl (begin_of_started (fun _ start => ⟨before.flowId, start⟩) performed)
    | followLink => exact .inl (begin_of_started (fun _ => begin_of_followLink) performed)
    | choose label =>
      have told : (before.choose catalog label).1.map Reply.moved = .ok reply :=
        congrArg Prod.fst performed
      have same : (before.choose catalog label).2 = further :=
        Option.some.inj (congrArg Prod.snd performed)
      refine .inr ⟨before, rfl, .inl ⟨label, ?_⟩⟩
      rcases chosen : before.choose catalog label with ⟨outcome, onward⟩
      rw [chosen] at told same
      obtain rfl : onward = further := same
      cases outcome with
      | error fault => cases told
      | ok node => exact ⟨node, (Except.ok.inj told).symm, rfl⟩
    | goBack =>
      obtain ⟨told, sameSession⟩ := Prod.mk.inj performed
      exact .inr ⟨before, rfl, .inr (.inl ⟨(Except.ok.inj told).symm,
        (Option.some.inj sameSession).symm⟩)⟩
    | markUnresolved =>
      obtain ⟨told, sameSession⟩ := Prod.mk.inj performed
      exact .inr ⟨before, rfl, .inr (.inr ⟨(Except.ok.inj told).symm,
        (Option.some.inj sameSession).symm⟩)⟩

/-- **How a session stands that has come to a terminal node**: one that took a choice there has
succeeded, one that begins there is active, and none goes back there. -/
theorem status_of_arrival (compiled : catalog.Compiled)
    (walksIn : ∀ before, session = some before → before.WalksIn catalog) {action : Action}
    {reply : Reply} {further : State}
    (performed : perform catalog ticket action session = (.ok reply, some further))
    (terminal : further.AtTerminal catalog) :
    (∀ node, reply = .moved node → further.status = .success) ∧
      (∀ fresh, reply = .started fresh → further.status = .active ∧ further.trail = []) ∧
      reply ≠ .wentBack true := by
  obtain ⟨rfl, flowId, start⟩ | ⟨before, rfl, ⟨label, node, rfl, chosen⟩ | ⟨rfl, rfl⟩ | ⟨rfl, -⟩⟩ :=
    perform_eq_ok_cases performed
  · exact ⟨by simp, fun _ _ => status_of_begin start, by simp⟩
  · refine ⟨fun _ _ => ?_, by simp, by simp⟩
    obtain ⟨arrived, -, status⟩ := State.choose_eq_ok chosen
    obtain ⟨next, there, ends⟩ := terminal
    obtain rfl : node = next := Except.ok.inj (arrived.symm.trans there)
    rw [status, if_pos ends]
  · refine ⟨by simp, by simp, fun went => ?_⟩
    obtain ⟨flow, flowFound, walks⟩ := walksIn before rfl
    have came : before.trail ≠ [] := by
      intro atStart
      rw [State.goBack, atStart] at went
      cases went
    exact walks.not_atTerminal_goBack flowFound compiled came terminal
  · exact ⟨by simp, by simp, by simp⟩

/-- **One action.** An active session at a terminal node has just begun, if it was so before. -/
theorem overUnlessFresh_of_perform (compiled : catalog.Compiled)
    (walksIn : ∀ before, session = some before → before.WalksIn catalog)
    (settled : ∀ before, session = some before → before.OverUnlessFresh catalog) {action : Action}
    (performed : (perform catalog ticket action session).2 = some state) :
    state.OverUnlessFresh catalog := by
  rcases result : perform catalog ticket action session with ⟨told, session'⟩
  rw [result] at performed
  obtain rfl : session' = some state := performed
  cases told with
  | error fault =>
    have refused : (⟨catalog, session⟩ : World).reply ticket action = .error fault :=
      congrArg Prod.fst result
    have same : (perform catalog ticket action session).2 = session :=
      World.session_of_refused_of_complete refused fun id flow found =>
        (compiled.wellFormed id flow found).complete
    rw [result] at same
    exact settled state same.symm
  | ok reply =>
    intro terminal active
    obtain ⟨moved, began, notBack⟩ := status_of_arrival compiled walksIn result terminal
    obtain ⟨rfl, -⟩ | ⟨before, rfl, ⟨_, node, rfl, -⟩ | ⟨rfl, rfl⟩ | ⟨-, rfl⟩⟩ :=
      perform_eq_ok_cases result
    · exact (began _ rfl).2
    · exact absurd (active.symm.trans (moved node rfl)) (by decide)
    · cases came : before.trail with
      | nil => rw [State.goBack, came]; exact came
      | cons previous trail => exact absurd (by rw [State.goBack, came]) notBack
    · cases active

/-! ### Runs -/

/-- **Every session that is reached** walks through its flow, and is over at a terminal node unless it
has made no step. -/
theorem walksIn_and_overUnlessFresh_after (compiled : catalog.Compiled)
    (attempts : List (String × Action)) :
    ∀ state : State, after catalog attempts = some state →
      state.WalksIn catalog ∧ state.OverUnlessFresh catalog := by
  refine List.foldlRecOn attempts _
    (motive := fun session => ∀ state : State, session = some state →
      state.WalksIn catalog ∧ state.OverUnlessFresh catalog) (fun _ fresh => nomatch fresh) ?_
  intro session holds attempt _ state performed
  have walksIn := fun before same => (holds before same).1
  refine ⟨?_, overUnlessFresh_of_perform compiled walksIn (fun before same => (holds before same).2)
    performed⟩
  obtain same | move := move_of_perform performed
  · exact walksIn state same
  · exact walksIn_of_move (compiled.wellFormed _) (fun before same _ => walksIn before same) move

/-- **When an active session can go on**, where the flows are compiled and stay as they are: always,
unless it has made no step in a flow that is over where it starts. Whatever the run before, a session
that takes a choice to a terminal node succeeds there, and no session goes back to a terminal node;
but a session that begins at one, started, reset or following a link, is active there. -/
theorem deadEnd_after (compiled : catalog.Compiled) (attempts : List (String × Action)) :
    (∀ state : State, after catalog attempts = some state → state.status = .active →
      ∃ flow, catalog.flow? state.flowId = some flow ∧
        (state.CanGoOn catalog ↔ ¬ (state.trail = [] ∧ flow.EndsAtStart))) ∧
      ∀ ticket action reply further,
        perform catalog ticket action (after catalog attempts) = (.ok reply, some further) →
        further.AtTerminal catalog →
          (∀ node, reply = .moved node → further.status = .success) ∧
          (∀ fresh, reply = .started fresh → further.status = .active ∧ further.trail = []) ∧
          reply ≠ .wentBack true := by
  have reached := walksIn_and_overUnlessFresh_after compiled attempts
  refine ⟨fun state here active => ?_, fun ticket action reply further performed terminal => ?_⟩
  · obtain ⟨walksIn, settled⟩ := reached state here
    have goesOn := walksIn.canGoOn_iff compiled
    obtain ⟨flow, flowFound, walks⟩ := walksIn
    refine ⟨flow, flowFound, ?_⟩
    rw [goesOn, not_iff_not]
    constructor
    · intro terminal
      have fresh := settled terminal active
      exact ⟨fresh, (walks.atTerminal_iff flowFound fresh).mp terminal⟩
    · rintro ⟨fresh, ends⟩
      exact (walks.atTerminal_iff flowFound fresh).mpr ends
  · exact status_of_arrival compiled (fun before same => (reached before same).1) performed terminal

/-- The session that found the way out of the detour, one step before. -/
def waiting : State where
  ticket := "session-1"
  flowId := .text "detour"
  current := "B"
  trail := ["A", "B", "A"]
  answers := .ofList [("B", some "back"), ("A", some "on")]

theorem deadEnd_after_wandering :
    detour.Compiled ∧ after detour (wandering.take 7) = some waiting ∧ waiting.status = .active ∧
      waiting.CanGoOn detour ∧ ∃ node,
        perform detour "session-1" (.choose (.text "out")) (some waiting) =
          (.ok (.moved node), some arrived) ∧
        arrived.AtTerminal detour ∧ arrived.status = .success := by
  have compiled : detour.Compiled := (Catalog.produced_after .usual (by decide)).compiled
  have reached : after detour (wandering.take 7) = some waiting := by decide +kernel
  obtain ⟨goesOn, arrives⟩ := deadEnd_after compiled (wandering.take 7)
  have moved : perform detour "session-1" (.choose (.text "out")) (some waiting) =
      (.ok (.moved { id := "C", role := .terminal, text := "C" }), some arrived) := by
    decide +kernel
  have terminal : arrived.AtTerminal detour :=
    ⟨{ id := "C", role := .terminal, text := "C" }, by decide +kernel, rfl⟩
  refine ⟨compiled, reached, rfl, ?_, _, moved, terminal, ?_⟩
  · obtain ⟨flow, -, canGoOn_iff⟩ := goesOn waiting reached rfl
    exact canGoOn_iff.mpr fun fresh => nomatch fresh.1
  · rw [← reached] at moved
    exact (arrives _ _ _ _ moved terminal).1 _ rfl

/-- A flow that is over where it starts. -/
def lone : Catalog :=
  .after .usual [.compile (.text "demo") "A[x]" .null .null "2020-01-02T03:04:05+00:00"]

/-- The session that begins there. -/
def begun : State where
  ticket := "session-1"
  flowId := .text "demo"
  current := "A"

/-- A session that begins at a terminal node is active and cannot go on. -/
theorem begun_at_dead_end :
    lone.Compiled ∧ after lone [("session-1", .start (.text "demo"))] = some begun ∧
      begun.status = .active ∧ begun.AtTerminal lone ∧ ¬ begun.CanGoOn lone := by
  have stands : begun.currentNode lone = .ok { id := "A", role := .terminal, text := "x" } := by
    decide +kernel
  refine ⟨(Catalog.produced_after .usual (by decide)).compiled, by decide +kernel, rfl,
    ⟨_, stands, rfl⟩, ?_⟩
  rintro ⟨node, there, goesOn⟩
  obtain rfl := Except.ok.inj (stands.symm.trans there)
  obtain offers | links := goesOn
  · exact offers rfl
  · cases links

end Session

end ChartGuide
