/-
**Sessions over time: what going back restores.**

A session is reached by a run of actions from none, in a catalog that stays as it is. An action
that changes a session makes one of four moves (`move_of_perform`), and what every move keeps is
true of every session that is reached (`after_induction`).

* `answered_of_move`, `answered_after`: where all flows are compiled, only nodes on the way back
  have answers.
* `State.goBack_choose`: going back after a choice restores everything but the answer of the node
  where the choice was made. All is as before exactly if that node had no answer.
* `State.second_visit_forgets`: a node that is visited again has an answer, and loses it.
-/

import ChartGuide.Proofs.Flow.Roles
import ChartGuide.Proofs.Table
import ChartGuide.Session

namespace ChartGuide.Session

/-- The session after a run of actions from none, each with the ticket that it may use. -/
def after (catalog : Catalog) (attempts : List (String × Action)) : Option State :=
  attempts.foldl (fun session attempt => (perform catalog attempt.1 attempt.2 session).2) none

/-! ### Moves -/

/-- How an action changes a session: it is begun anew, it goes on along a choice, where it may
succeed, it goes back one step, or it is marked. -/
inductive Move (catalog : Catalog) : Option State → State → Prop where
  | begun {session : Option State} {ticket : String} {flowId : Value} {state : State}
      (start : begin catalog ticket flowId = .ok state) : Move catalog session state
  | advanced {state : State} {node : Node} {label : Value} {choice : Choice} {status : Status}
      (stands : state.currentNode catalog = .ok node) (found : node.findChoice? label = some choice)
      (ends : status = state.status ∨ status = .success ∧ ∃ next,
        (state.advance node choice).currentNode catalog = .ok next ∧ next.isTerminal = true) :
      Move catalog (some state) { state.advance node choice with status := status }
  | returned {state : State} (came : state.trail ≠ []) : Move catalog (some state) state.goBack.2
  | marked {state : State} : Move catalog (some state) state.markUnresolved

variable {catalog : Catalog} {ticket : String} {session : Option State} {state : State}

/-- A session begins at the start of a flow that is there and has one. -/
theorem begin_eq_ok_iff {flowId : Value} :
    begin catalog ticket flowId = .ok state ↔
      ∃ flow start, catalog.flow? flowId = some flow ∧ flow.start = some start ∧
        state = { ticket := ticket, flowId := flowId, current := start } := by
  unfold begin
  cases flowFound : catalog.flow? flowId with
  | none => simp
  | some flow =>
    cases startFound : flow.start with
    | none => simp [startFound]
    | some start => simp [startFound, eq_comm]

theorem begin_of_followLink (followed : state.followLink catalog ticket = .ok fresh) :
    ∃ flowId, begin catalog ticket flowId = .ok fresh := by
  unfold State.followLink at followed
  split at followed
  · cases followed
  · split at followed
    · cases followed
    · split at followed
      · cases followed
      · next target _ => exact ⟨target.id, followed⟩

/-- An attempt to begin a session leaves the one there alone or begins one. -/
theorem move_of_started {attempt : Except Fault State}
    (begins : ∀ fresh, attempt = .ok fresh → ∃ flowId, begin catalog ticket flowId = .ok fresh)
    (reached : (started attempt session).2 = some state) :
    session = some state ∨ Move catalog session state := by
  cases attempt with
  | error fault => exact .inl reached
  | ok fresh =>
    obtain rfl : fresh = state := Option.some.inj reached
    obtain ⟨flowId, start⟩ := begins fresh rfl
    exact .inr (.begun start)

/-- A choice leaves the session alone or goes on along it. -/
theorem move_of_choose (state : State) (label : Value) :
    (state.choose catalog label).2 = state ∨
      Move catalog (some state) (state.choose catalog label).2 := by
  unfold State.choose
  split
  · exact .inl rfl
  · next node stands =>
    split
    · exact .inl rfl
    · next choice found =>
      right
      dsimp only
      split
      · exact .advanced stands found (.inl rfl)
      · next target reached =>
        dsimp only
        split
        · next terminal => exact .advanced stands found (.inr ⟨rfl, target, reached, terminal⟩)
        · exact .advanced stands found (.inl rfl)

/-- **An action leaves a session alone or makes a move.** -/
theorem move_of_perform {action : Action}
    (reached : (perform catalog ticket action session).2 = some state) :
    session = some state ∨ Move catalog session state := by
  cases session with
  | none =>
    cases action with
    | start flowId => exact move_of_started (fun _ start => ⟨flowId, start⟩) reached
    | _ => cases reached
  | some before =>
    cases action with
    | start flowId => exact move_of_started (fun _ start => ⟨flowId, start⟩) reached
    | choose label =>
      obtain rfl : (before.choose catalog label).2 = state := Option.some.inj reached
      exact (move_of_choose before label).imp (fun same => congrArg some same.symm) id
    | goBack =>
      obtain rfl : before.goBack.2 = state := Option.some.inj reached
      by_cases atStart : before.trail = []
      · left
        unfold State.goBack
        rw [atStart]
      · exact .inr (.returned atStart)
    | reset => exact move_of_started (fun _ start => ⟨before.flowId, start⟩) reached
    | markUnresolved =>
      obtain rfl : before.markUnresolved = state := Option.some.inj reached
      exact .inr .marked
    | followLink => exact move_of_started (fun _ => begin_of_followLink) reached

/-- **What every move keeps is true of every session that is reached.** -/
theorem after_induction {motive : State → Prop}
    (step : ∀ {session state}, (∀ before, session = some before → motive before) →
      Move catalog session state → motive state)
    {attempts : List (String × Action)} (reached : after catalog attempts = some state) :
    motive state := by
  refine List.foldlRecOn attempts _
    (motive := fun session => ∀ before, session = some before → motive before)
    (fun _ fresh => by cases fresh) ?_ state reached
  intro session holds attempt _ state performed
  obtain same | move := move_of_perform performed
  · exact holds state same
  · exact step holds move

/-! ### Compiled flows -/

theorem wellFormed_of_compiled (compiled : catalog.Compiled) {id : Value} {flow : Flow}
    (found : catalog.flow? id = some flow) : flow.WellFormed :=
  compiled.wellFormed id flow found

theorem currentNode_eq_ok_iff {node : Node} :
    state.currentNode catalog = .ok node ↔
      ∃ flow, catalog.flow? state.flowId = some flow ∧ flow.node? state.current = some node := by
  unfold State.currentNode State.flow
  cases catalog.flow? state.flowId with
  | none => simp
  | some flow =>
    cases found : flow.node? state.current with
    | none => simp [found]
    | some there => simp [found]

/-- The node where a session stands in a well-formed flow has the id that the session notes. -/
theorem id_eq_of_wellFormed (sound : catalog.WellFormed) {node : Node}
    (stands : state.currentNode catalog = .ok node) : node.id = state.current := by
  obtain ⟨flow, flowFound, nodeFound⟩ := currentNode_eq_ok_iff.mp stands
  exact ((sound _ flow flowFound).node _ _ nodeFound).id_eq

theorem id_eq_of_currentNode (compiled : catalog.Compiled) {node : Node}
    (stands : state.currentNode catalog = .ok node) : node.id = state.current :=
  id_eq_of_wellFormed compiled.wellFormed stands

/-- In a compiled flow there is a node wherever a choice leads. -/
theorem exists_currentNode_advance (compiled : catalog.Compiled) {node : Node} {choice : Choice}
    (stands : state.currentNode catalog = .ok node) (offered : choice ∈ node.choices) :
    ∃ next, (state.advance node choice).currentNode catalog = .ok next := by
  obtain ⟨flow, flowFound, nodeFound⟩ := currentNode_eq_ok_iff.mp stands
  have leads : flow.contains choice.target = true :=
    ((wellFormed_of_compiled compiled flowFound).node _ _ nodeFound).choice_leads choice offered
  obtain ⟨next, there⟩ := Option.isSome_iff_exists.mp leads
  exact ⟨next, currentNode_eq_ok_iff.mpr ⟨flow, flowFound, there⟩⟩

/-! ### Answers -/

/-- Whether only nodes on the way back have answers. -/
def State.Answered (state : State) : Prop := ∀ id ∈ state.answers.keys, id ∈ state.trail

theorem answered_of_begin (start : begin catalog ticket flowId = .ok state) : state.Answered := by
  obtain ⟨flow, first, -, -, rfl⟩ := begin_eq_ok_iff.mp start
  intro id member
  exact absurd member List.not_mem_nil

theorem State.Answered.advance (answered : state.Answered) {node : Node} (choice : Choice)
    (own : node.id = state.current) : (state.advance node choice).Answered := by
  intro id member
  change id ∈ (state.answers.insert node.id choice.label).keys at member
  show id ∈ state.current :: state.trail
  rw [Table.insert, Table.keys_upsert, own] at member
  split at member
  · exact List.mem_cons_of_mem _ (answered id member)
  · rcases List.mem_append.mp member with before | new
    · exact List.mem_cons_of_mem _ (answered id before)
    · rw [List.mem_singleton.mp new]
      exact List.mem_cons_self

/-- Going back forgets the answer of the node that leaves the trail, so none is left over. -/
theorem State.Answered.goBack (answered : state.Answered) : state.goBack.2.Answered := by
  unfold State.goBack
  split
  · exact answered
  · next previous trail came =>
    intro id member
    change id ∈ (state.answers.erase previous).keys at member
    rw [Table.keys_erase, List.mem_filter] at member
    have onTrail := answered id member.1
    rw [came] at onTrail
    exact (List.mem_cons.mp onTrail).resolve_left (of_decide_eq_true member.2)

/-- Every move keeps to it that only nodes on the way back have answers. -/
theorem answered_of_move (sound : catalog.WellFormed)
    (answered : ∀ before, session = some before → before.Answered)
    (move : Move catalog session state) : state.Answered := by
  cases move with
  | begun start => exact answered_of_begin start
  | advanced stands found ends =>
    exact (answered _ rfl).advance _ (id_eq_of_wellFormed sound stands)
  | returned came => exact (answered _ rfl).goBack
  | @marked before => exact answered before rfl

/-- **Only nodes on the way back have answers**, in every session that is reached. -/
theorem answered_after (compiled : catalog.Compiled) {attempts : List (String × Action)}
    (reached : after catalog attempts = some state) : state.Answered :=
  after_induction (answered_of_move compiled.wellFormed) reached

/-! ### Going back -/

/-- The labels of the choices that the node offers where a session stands. -/
def State.offers (state : State) (catalog : Catalog) : List String :=
  match state.currentNode catalog with
  | .error _ => []
  | .ok node => node.choices.filterMap Choice.label

theorem State.mem_offers_iff {label : String} :
    label ∈ state.offers catalog ↔ ∃ node, state.currentNode catalog = .ok node ∧
      ∃ choice ∈ node.choices, choice.label = some label := by
  unfold State.offers
  cases stands : state.currentNode catalog with
  | error fault => simp
  | ok node => simp

/-- An offered label is taken: the session goes on along its choice, and may succeed there. -/
theorem State.exists_choose (compiled : catalog.Compiled) {label : String}
    (offered : label ∈ state.offers catalog) :
    ∃ next node choice status, node.id = state.current ∧
      state.choose catalog (.text label) =
        (.ok next, { state.advance node choice with status := status }) := by
  obtain ⟨node, stands, offer, among, labelled⟩ := mem_offers_iff.mp offered
  obtain ⟨choice, member, found, -⟩ := Node.exists_findChoice? among
  rw [labelled, Value.ofText?] at found
  obtain ⟨next, there⟩ := exists_currentNode_advance compiled stands member
  refine ⟨next, node, choice, if next.isTerminal then .success else state.status,
    id_eq_of_currentNode compiled stands, ?_⟩
  unfold State.choose
  simp only [stands, found, there]
  split <;> rfl

/-- **Going back after a choice** leads to where the session stood, on the way it had come and still
active, with every answer but that of the node where the choice was made. So the session is as
before exactly if that node had no answer, and it had none if it is visited for the first time. -/
theorem State.goBack_choose (compiled : catalog.Compiled) {attempts : List (String × Action)}
    (reached : after catalog attempts = some state) (active : state.status = .active)
    {label : String} (offered : label ∈ state.offers catalog) :
    ∃ next further, state.choose catalog (.text label) = (.ok next, further) ∧
      further.goBack = (true, { state with answers := state.answers.erase state.current }) ∧
      (further.goBack.2 = state ↔ state.current ∉ state.answers.keys) ∧
      (state.current ∉ state.trail → further.goBack.2 = state) := by
  obtain ⟨next, node, choice, status, own, chosen⟩ := exists_choose compiled offered
  have back : ({ state.advance node choice with status := status } : State).goBack =
      (true, { state with answers := state.answers.erase state.current }) := by
    show (true, { state with
      answers := (state.answers.insert node.id choice.label).erase state.current
      status := .active }) = _
    rw [own, Table.erase_insert, ← active]
  have restored : ({ state with answers := state.answers.erase state.current } : State) = state ↔
      state.current ∉ state.answers.keys := by
    rw [← Table.erase_eq_self_iff]
    constructor
    · intro same
      exact congrArg State.answers same
    · intro same
      rw [same]
  refine ⟨next, _, chosen, back, by rw [back]; exact restored, fun firstVisit => ?_⟩
  rw [back]
  exact restored.mpr fun member => firstVisit (answered_after compiled reached _ member)

/-- Two nodes that lead to each other. -/
def loop : Catalog :=
  .after .usual [.compile (.text "loop") "A -->|on| B\nB --> A" .null .null
    "2020-01-02T03:04:05+00:00"]

theorem compiled_loop : loop.Compiled :=
  (Catalog.produced_after .usual (by decide)).compiled

/-- Once around the loop. -/
def around : List (String × Action) :=
  [("session-1", .start (.text "loop")), ("session-1", .choose (.text "on")),
    ("session-1", .choose (.text "A"))]

/-- The session that stands at the start of the loop again. -/
def secondVisit : State where
  ticket := "session-1"
  flowId := .text "loop"
  current := "A"
  trail := ["B", "A"]
  answers := .ofList [("A", some "on"), ("B", some "A")]

theorem after_around : after loop around = some secondVisit := by decide +kernel

theorem State.goBack_choose_secondVisit :
    loop.Compiled ∧ after loop around = some secondVisit ∧ secondVisit.status = .active ∧
      "on" ∈ secondVisit.offers loop ∧
      ∃ next further, secondVisit.choose loop (.text "on") = (.ok next, further) ∧
        further.goBack =
          (true, { secondVisit with answers := secondVisit.answers.erase secondVisit.current }) ∧
        (further.goBack.2 = secondVisit ↔
          secondVisit.current ∉ secondVisit.answers.keys) ∧
        (secondVisit.current ∉ secondVisit.trail → further.goBack.2 = secondVisit) := by
  have offered : "on" ∈ secondVisit.offers loop := by decide +kernel
  exact ⟨compiled_loop, after_around, rfl, offered,
    State.goBack_choose compiled_loop after_around rfl offered⟩

/-- **A second visit forgets the first.** Around the loop and on again, going back forgets what was
answered where the session stands. -/
theorem State.second_visit_forgets :
    loop.Compiled ∧ after loop around = some secondVisit ∧ secondVisit.status = .active ∧
      "on" ∈ secondVisit.offers loop ∧
      (secondVisit.choose loop (.text "on")).2.goBack.1 = true ∧
      secondVisit.answers.entries = [("A", some "on"), ("B", some "A")] ∧
      (secondVisit.choose loop (.text "on")).2.goBack.2.answers.entries = [("B", some "A")] ∧
      (secondVisit.choose loop (.text "on")).2.goBack.2.answers ≠ secondVisit.answers :=
  ⟨compiled_loop, after_around, rfl, by decide +kernel⟩

end ChartGuide.Session
