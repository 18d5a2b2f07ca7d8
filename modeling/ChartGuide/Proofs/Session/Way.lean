/-
**The way a session came.**

Where all flows are compiled and stay as they are, a session always stands at a node of its flow,
its history is a walk from the start along choices, each answer is the label of the choice by which
the history goes on from the last visit of its node, and success is had at terminal nodes only.
The history repeats nodes and the answers do not, so an answer belongs to the last visit; the node
where the session stands now does not count as visited by it.

* `LastVisit`: the last place of an item in a list, its end not counted.
* `State.Walks`: the part of its promises that only looks at the way, and `State.Walks.advance`,
  `State.Walks.goBack`: a step along a choice and a step back keep to the way. So does every move
  (`walksIn_of_move`).
* `State.Sound`: what a session promises, and `State.Sound.advance`, `State.Sound.goBack`: what a
  step along a choice and a step back keep of it.
* `sound_after`: so every session that is reached keeps its promises.
-/

import ChartGuide.Proofs.Session
import Mathlib.Data.List.Chain

namespace ChartGuide.Session

/-! ### The last visit -/

/-- The last place of an item in a list, the end of the list not counted. -/
structure LastVisit (items : List String) (item : String) (place : Nat) : Prop where
  before_end : place + 1 < items.length
  here : items[place]? = some item
  not_later : ∀ later, place < later → later + 1 < items.length → items[later]? ≠ some item

/-- When a list goes on, the item at its end has its last visit there. -/
theorem lastVisit_append_of_getLast? {items : List String} {item : String}
    (final : items.getLast? = some item) (next : String) :
    LastVisit (items ++ [next]) item (items.length - 1) := by
  have nonempty : 0 < items.length := by
    cases items with
    | nil => cases final
    | cons first rest => exact Nat.zero_lt_succ _
  refine ⟨by simp; omega, ?_, fun later after short => ?_⟩
  · rw [List.getElem?_append_left (by omega), ← List.getLast?_eq_getElem?]
    exact final
  · rw [List.length_append, List.length_singleton] at short
    omega

/-- The last visits of the other items stay where they are. -/
theorem lastVisit_append_iff {items : List String} {item : String}
    (other : items.getLast? ≠ some item) (next : String) (place : Nat) :
    LastVisit (items ++ [next]) item place ↔ LastVisit items item place := by
  have endApart : items[items.length - 1]? ≠ some item := by
    rwa [← List.getLast?_eq_getElem?]
  constructor
  · rintro ⟨short, here, notLater⟩
    rw [List.length_append, List.length_singleton] at short
    have inside : place < items.length := by omega
    rw [List.getElem?_append_left inside] at here
    have notEnd : place ≠ items.length - 1 := by
      rintro rfl
      exact endApart here
    refine ⟨by omega, here, fun later after shortLater => ?_⟩
    have kept := notLater later after (by simp; omega)
    rwa [List.getElem?_append_left (by omega)] at kept
  · rintro ⟨short, here, notLater⟩
    refine ⟨by simp; omega, ?_, fun later after shortLater => ?_⟩
    · rwa [List.getElem?_append_left (by omega)]
    · rw [List.length_append, List.length_singleton] at shortLater
      rw [List.getElem?_append_left (by omega)]
      by_cases atEnd : later + 1 < items.length
      · exact notLater later after atEnd
      · rwa [show later = items.length - 1 by omega]

/-! ### What a session promises -/

/-- What a session promises that walks through a flow of a catalog. -/
structure State.Sound (state : State) (catalog : Catalog) (flow : Flow) : Prop where
  stands : ∃ node, state.currentNode catalog = .ok node
  begins : state.history.head? = flow.start
  walks : state.history.IsChain fun source target => target ∈ flow.successors source
  answers : ∀ id label, state.answers.get? id = some label → ∃ place choice,
    LastVisit state.history id place ∧ flow.findChoice? id (.ofText? label) = some choice ∧
      state.history[place + 1]? = some choice.target
  ends : state.status = .success → ∀ node, state.currentNode catalog = .ok node →
    node.isTerminal = true

variable {catalog : Catalog} {ticket : String} {session : Option State} {state : State}
  {flow : Flow}

theorem State.getLast?_history (state : State) : state.history.getLast? = some state.current := by
  rw [history, List.getLast?_append, List.getLast?_singleton, Option.some_or]

/-- A history begins where it began, however it goes on. -/
theorem State.head?_history_append (state : State) (further : List String) :
    (state.history ++ further).head? = state.history.head? := by
  have nonempty : state.history ≠ [] := by simp [history]
  exact List.head?_append_of_ne_nil _ nonempty

theorem State.history_advance (state : State) (node : Node) (choice : Choice) :
    (state.advance node choice).history = state.history ++ [choice.target] := by
  simp [history, advance]

/-- Going back takes the node where the session stands off the history. -/
theorem State.history_goBack (came : state.trail ≠ []) :
    state.history = state.goBack.2.history ++ [state.current] := by
  obtain ⟨previous, trail, equal⟩ := List.exists_cons_of_ne_nil came
  simp [history, goBack, equal]

theorem State.answers_goBack (came : state.trail ≠ []) :
    state.goBack.2.answers = state.answers.erase state.goBack.2.current := by
  obtain ⟨previous, trail, equal⟩ := List.exists_cons_of_ne_nil came
  simp [goBack, equal]

theorem State.flowId_goBack (state : State) : state.goBack.2.flowId = state.flowId := by
  unfold goBack
  split <;> rfl

theorem State.status_goBack (came : state.trail ≠ []) : state.goBack.2.status = .active := by
  obtain ⟨previous, trail, equal⟩ := List.exists_cons_of_ne_nil came
  simp [goBack, equal]

/-- A choice is found in its flow if it is found at its node. -/
theorem findChoice?_of_currentNode (flowFound : catalog.flow? state.flowId = some flow)
    {node : Node} (stands : state.currentNode catalog = .ok node) (label : Value) :
    flow.node? state.current = some node ∧
      flow.findChoice? state.current label = node.findChoice? label := by
  obtain ⟨same, sameFound, nodeFound⟩ := currentNode_eq_ok_iff.mp stands
  obtain rfl : flow = same := Option.some.inj (flowFound.symm.trans sameFound)
  exact ⟨nodeFound, Flow.findChoice?_of_node? nodeFound label⟩

/-! ### Walks -/

/-- Whether a session walks through a flow: it stands at a node, and its history leads there from
the start along choices. -/
structure State.Walks (state : State) (flow : Flow) : Prop where
  stands : flow.contains state.current = true
  begins : state.history.head? = flow.start
  leads : state.history.IsChain fun source target => target ∈ flow.successors source

theorem State.exists_currentNode_iff (flowFound : catalog.flow? state.flowId = some flow) :
    (∃ node, state.currentNode catalog = .ok node) ↔ flow.contains state.current = true := by
  simp only [currentNode_eq_ok_iff, flowFound, Option.some.injEq, exists_eq_left']
  exact Option.isSome_iff_exists.symm

namespace State.Walks

/-- A session begins at a node of a flow that is well-formed. -/
theorem of_begin {flowId : Value} (start : begin catalog ticket flowId = .ok state)
    (sound : ∀ flow, catalog.flow? state.flowId = some flow → flow.WellFormed) :
    ∃ flow, catalog.flow? state.flowId = some flow ∧ state.Walks flow := by
  obtain ⟨flow, first, flowFound, startFound, rfl⟩ := begin_eq_ok_iff.mp start
  exact ⟨flow, flowFound,
    { stands := (sound flow flowFound).start_contained first startFound
      begins := startFound.symm
      leads := List.isChain_singleton first }⟩

/-- A step along a choice leads on to the target of the choice. -/
theorem advance (walks : state.Walks flow) (sound : flow.WellFormed) {node : Node} {choice : Choice}
    (nodeFound : flow.node? state.current = some node) (offered : choice ∈ node.choices) :
    (state.advance node choice).Walks flow := by
  have history := state.history_advance node choice
  have final := state.getLast?_history
  refine
    { stands := (sound.node _ _ nodeFound).choice_leads choice offered, begins := ?_, leads := ?_ }
  · rw [history, state.head?_history_append, walks.begins]
  · rw [history]
    refine walks.leads.append (List.isChain_singleton _) fun source last target next => ?_
    obtain rfl : state.current = source := Option.some.inj (final.symm.trans last)
    obtain rfl : choice.target = target := Option.some.inj next
    rw [Flow.successors, nodeFound]
    exact List.mem_map_of_mem offered

/-- A step back leads to a node: the choice that led on from there is one of its own. -/
theorem goBack (walks : state.Walks flow) (came : state.trail ≠ []) :
    state.goBack.2.Walks flow := by
  have history := State.history_goBack came
  have leads := walks.leads
  rw [history] at leads
  refine { stands := ?_, begins := ?_, leads := leads.left_of_append }
  · have on : state.current ∈ flow.successors state.goBack.2.current :=
      (List.isChain_append.mp leads).2.2 _ state.goBack.2.getLast?_history _ rfl
    unfold Flow.contains Table.contains
    cases nodeFound : flow.node? state.goBack.2.current with
    | none =>
      rw [Flow.successors, nodeFound] at on
      cases on
    | some node => exact congrArg Option.isSome nodeFound
  · rw [← walks.begins, history, state.goBack.2.head?_history_append]

end State.Walks

/-- Whether a session walks through the flow that it names. -/
def State.WalksIn (state : State) (catalog : Catalog) : Prop :=
  ∃ flow, catalog.flow? state.flowId = some flow ∧ state.Walks flow

/-- Every move keeps to the way. Only the flow where it ends matters, and whether the session was in
that flow before. -/
theorem walksIn_of_move (sound : ∀ flow, catalog.flow? state.flowId = some flow → flow.WellFormed)
    (walksIn : ∀ before, session = some before → before.flowId = state.flowId →
      before.WalksIn catalog)
    (move : Move catalog session state) : state.WalksIn catalog := by
  cases move with
  | begun start => exact State.Walks.of_begin start sound
  | advanced stands found ends =>
    obtain ⟨flow, flowFound, walks⟩ := walksIn _ rfl rfl
    obtain ⟨nodeFound, -⟩ := findChoice?_of_currentNode flowFound stands .null
    have onward := walks.advance (sound flow flowFound) nodeFound (List.mem_of_find?_eq_some found)
    exact ⟨flow, flowFound, ⟨onward.stands, onward.begins, onward.leads⟩⟩
  | returned came =>
    obtain ⟨flow, flowFound, walks⟩ := walksIn _ rfl (State.flowId_goBack _).symm
    exact ⟨flow, by rwa [State.flowId_goBack], walks.goBack came⟩
  | marked =>
    obtain ⟨flow, flowFound, walks⟩ := walksIn _ rfl rfl
    exact ⟨flow, flowFound, ⟨walks.stands, walks.begins, walks.leads⟩⟩

/-! ### Keeping the promises -/

namespace State.Sound

theorem toWalks (sound : state.Sound catalog flow)
    (flowFound : catalog.flow? state.flowId = some flow) : state.Walks flow where
  stands := (exists_currentNode_iff flowFound).mp sound.stands
  begins := sound.begins
  leads := sound.walks

/-- A session begins at the start of a flow of the catalog, with nothing answered. -/
theorem of_begin (compiled : catalog.Compiled) {flowId : Value}
    (start : begin catalog ticket flowId = .ok state) :
    ∃ flow, catalog.flow? state.flowId = some flow ∧ state.Sound catalog flow := by
  obtain ⟨flow, flowFound, walks⟩ := Walks.of_begin start (compiled.wellFormed _)
  obtain ⟨_, first, -, -, rfl⟩ := begin_eq_ok_iff.mp start
  exact ⟨flow, flowFound,
    { stands := (exists_currentNode_iff flowFound).mpr walks.stands
      begins := walks.begins
      walks := walks.leads
      answers := fun id label answered => nomatch answered
      ends := fun success => nomatch success }⟩

/-- **A step along a choice.** The node that is left is visited last where it is left, and its
answer is the label of the choice; the other answers keep their places. -/
theorem advance (sound : state.Sound catalog flow) (compiled : catalog.Compiled)
    (flowFound : catalog.flow? state.flowId = some flow) {node : Node} {label : Value}
    {choice : Choice} {status : Status} (stands : state.currentNode catalog = .ok node)
    (found : node.findChoice? label = some choice)
    (ends : status = .success → ∀ next, (state.advance node choice).currentNode catalog = .ok next →
      next.isTerminal = true) :
    ({ state.advance node choice with status := status } : State).Sound catalog flow := by
  obtain ⟨nodeFound, sameChoice⟩ := findChoice?_of_currentNode flowFound stands label
  have offered : choice ∈ node.choices := List.mem_of_find?_eq_some found
  have walks := (sound.toWalks flowFound).advance (wellFormed_of_compiled compiled flowFound)
    nodeFound offered
  have history : ({ state.advance node choice with status := status } : State).history =
      state.history ++ [choice.target] := state.history_advance node choice
  have final := state.getLast?_history
  have own := id_eq_of_currentNode compiled stands
  have sameFlow : catalog.flow? (state.advance node choice).flowId = some flow := flowFound
  have arrives : ∃ next, (state.advance node choice).currentNode catalog = .ok next :=
    (exists_currentNode_iff sameFlow).mpr walks.stands
  refine { stands := arrives, begins := walks.begins, walks := walks.leads, answers := ?_,
           ends := ends }
  intro id answer answered
  rw [history]
  change (state.answers.insert node.id choice.label).get? id = some answer at answered
  rw [Table.insert, Table.get?_upsert, own] at answered
  split at answered
  · next same =>
    obtain rfl := Option.some.inj answered
    refine ⟨state.history.length - 1, choice,
      lastVisit_append_of_getLast? (same ▸ final) _, ?_, ?_⟩
    · rw [same, Node.ofText?_label_of_findChoice? found, sameChoice, found]
    · have nonempty : 0 < state.history.length := by simp [State.history]
      rw [show state.history.length - 1 + 1 = state.history.length by omega]
      simp
  · next other =>
    obtain ⟨place, earlier, visit, earlierFound, goesOn⟩ := sound.answers id answer answered
    have apart : state.history.getLast? ≠ some id := fun last =>
      other (Option.some.inj (last.symm.trans final))
    refine ⟨place, earlier, (lastVisit_append_iff apart _ place).mpr visit, earlierFound, ?_⟩
    rwa [List.getElem?_append_left visit.before_end]

/-- **A step back.** The answer of the node returned to is forgotten, so what is left are answers of
nodes that were left for good. -/
theorem goBack (sound : state.Sound catalog flow)
    (flowFound : catalog.flow? state.flowId = some flow) (came : state.trail ≠ []) :
    state.goBack.2.Sound catalog flow := by
  have history := State.history_goBack came
  have final := state.goBack.2.getLast?_history
  have walks := (sound.toWalks flowFound).goBack came
  have sameFlow : catalog.flow? state.goBack.2.flowId = some flow := by
    rwa [state.flowId_goBack]
  refine { stands := (exists_currentNode_iff sameFlow).mpr walks.stands, begins := walks.begins,
           walks := walks.leads, answers := ?_, ends := ?_ }
  · intro id label answered
    rw [State.answers_goBack came, Table.get?_erase] at answered
    split at answered
    · cases answered
    · next other =>
      obtain ⟨place, choice, visit, found, goesOn⟩ := sound.answers id label answered
      have apart : state.goBack.2.history.getLast? ≠ some id := fun last =>
        other (Option.some.inj (last.symm.trans final))
      rw [history] at visit goesOn
      have earlier := (lastVisit_append_iff apart _ place).mp visit
      rw [List.getElem?_append_left earlier.before_end] at goesOn
      exact ⟨place, choice, earlier, found, goesOn⟩
  · intro success
    rw [State.status_goBack came] at success
    cases success

/-- A terminal node has no way on, so a session that has succeeded makes no step along a choice. -/
theorem not_success_of_findChoice? (sound : state.Sound catalog flow) (compiled : catalog.Compiled)
    (flowFound : catalog.flow? state.flowId = some flow) {node : Node} {label : Value}
    {choice : Choice} (stands : state.currentNode catalog = .ok node)
    (found : node.findChoice? label = some choice) : state.status ≠ .success := by
  intro success
  have terminal := sound.ends success node stands
  obtain ⟨nodeFound, -⟩ := findChoice?_of_currentNode flowFound stands label
  obtain ⟨settings, produced⟩ := compiled _ _ flowFound
  have leaf := ((produced.isTerminal_iff nodeFound).mp terminal).2
  have offered : choice ∈ node.choices := List.mem_of_find?_eq_some found
  rw [leaf] at offered
  cases offered

end State.Sound

/-- **Every session that is reached keeps its promises**, where the flows are compiled and stay as
they are, whatever the actions were and whether they failed or not. -/
theorem sound_after (compiled : catalog.Compiled) {attempts : List (String × Action)}
    (reached : after catalog attempts = some state) :
    ∃ flow, catalog.flow? state.flowId = some flow ∧ state.Sound catalog flow := by
  refine after_induction
    (motive := fun state => ∃ flow, catalog.flow? state.flowId = some flow ∧
      state.Sound catalog flow) ?_ reached
  intro session state promised move
  cases move with
  | begun start => exact State.Sound.of_begin compiled start
  | advanced stands found ends =>
    obtain ⟨flow, flowFound, sound⟩ := promised _ rfl
    refine ⟨flow, flowFound, sound.advance compiled flowFound stands found ?_⟩
    intro success next there
    obtain same | ⟨-, target, arrived, terminal⟩ := ends
    · exact absurd (same.symm.trans success)
        (sound.not_success_of_findChoice? compiled flowFound stands found)
    · obtain rfl : target = next := Except.ok.inj (arrived.symm.trans there)
      exact terminal
  | returned came =>
    obtain ⟨flow, flowFound, sound⟩ := promised _ rfl
    exact ⟨flow, by rw [State.flowId_goBack]; exact flowFound, sound.goBack flowFound came⟩
  | @marked before =>
    obtain ⟨flow, flowFound, sound⟩ := promised _ rfl
    exact ⟨flow, flowFound, { sound with ends := fun success => nomatch success }⟩

/-- A loop with a way out. -/
def detour : Catalog :=
  .after .usual [.compile (.text "detour") "A -->|on| B\nB -->|back| A\nB -->|out| C" .null .null
    "2020-01-02T03:04:05+00:00"]

/-- Around the loop, a step too far and back, a label that is not offered, and out. -/
def wandering : List (String × Action) :=
  [.start (.text "detour"), .choose (.text "on"), .choose (.text "back"), .choose (.text "on"),
    .goBack, .choose (.text "up"), .choose (.text "on"), .choose (.text "out")].map
      fun action => ("session-1", action)

/-- The session that found the way out, with the answers of its last visits. -/
def arrived : State where
  ticket := "session-1"
  flowId := .text "detour"
  current := "C"
  trail := ["B", "A", "B", "A"]
  answers := .ofList [("B", some "out"), ("A", some "on")]
  status := .success

theorem sound_after_wandering :
    detour.Compiled ∧ after detour wandering = some arrived ∧
      ∃ flow, detour.flow? arrived.flowId = some flow ∧ arrived.Sound detour flow := by
  have compiled : detour.Compiled := (Catalog.produced_after .usual (by decide)).compiled
  have reached : after detour wandering = some arrived := by decide +kernel
  exact ⟨compiled, reached, sound_after compiled reached⟩

end ChartGuide.Session
