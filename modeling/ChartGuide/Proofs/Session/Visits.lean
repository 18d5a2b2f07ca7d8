/-
**Where choices lead a session.**

A session takes a choice by its label, and of several choices of a node with one label the first is
taken. So a session visits the nodes to which choices lead from the start that are each the first
of their node with their label, and the choices behind them are hidden from it. What a search of
the graph reaches may be more.

* `Flow.LeadsFirst`: the choices that their labels find.
* `visits_iff`: the nodes that a session visits.
* `visits_iff_mem_reachableIds`: they can all be reached, and they are all that can be reached
  exactly if no hidden choice leads a session further.
* `hidden_choice_not_visited`: a node that can be reached and is never visited.
-/

import ChartGuide.Proofs.Digraph.Reach
import ChartGuide.Proofs.Session
import Mathlib.Data.List.Nodup

namespace ChartGuide

open Relation

namespace Flow

/-- Whether a choice leads from one node to another that is the first of its node with its label. -/
def LeadsFirst (flow : Flow) (source target : String) : Prop :=
  ∃ choice ∈ flow.choicesAt source,
    flow.findChoice? source (.ofText? choice.label) = some choice ∧ choice.target = target

instance (flow : Flow) (source target : String) : Decidable (flow.LeadsFirst source target) :=
  inferInstanceAs (Decidable (∃ choice ∈ flow.choicesAt source,
    flow.findChoice? source (.ofText? choice.label) = some choice ∧ choice.target = target))

variable {flow : Flow} {source target : String} {node : Node} {label : Value} {choice : Choice}

/-- Only nodes have choices. -/
theorem LeadsFirst.source_mem (leads : flow.LeadsFirst source target) :
    source ∈ flow.nodes.keys := by
  obtain ⟨choice, member, -⟩ := leads
  rw [choicesAt] at member
  cases found : flow.node? source with
  | none =>
    rw [found] at member
    cases member
  | some node => exact flow.nodes.mem_keys_iff.mpr ⟨node, found⟩

theorem LeadsFirst.mem_successors (leads : flow.LeadsFirst source target) :
    target ∈ flow.successors source := by
  obtain ⟨choice, member, -, rfl⟩ := leads
  rw [successors_eq_map_choicesAt]
  exact List.mem_map_of_mem member

/-- The choice that a label finds is the first of its node with its label. -/
theorem leadsFirst_of_findChoice? (nodeFound : flow.node? source = some node)
    (found : node.findChoice? label = some choice) : flow.LeadsFirst source choice.target := by
  have labelled := Node.ofText?_label_of_findChoice? found
  refine ⟨choice, ?_, ?_, rfl⟩
  · rw [choicesAt_of_node? nodeFound]
    exact List.mem_of_find?_eq_some found
  · rw [labelled, findChoice?_of_node? nodeFound, found]

/-- Where the labels of a node are distinct no choice is hidden. -/
theorem leadsFirst_of_nodup (distinct : ((flow.choicesAt source).map Choice.label).Nodup)
    (leads : target ∈ flow.successors source) : flow.LeadsFirst source target := by
  rw [successors_eq_map_choicesAt] at leads
  obtain ⟨choice, member, rfl⟩ := List.mem_map.mp leads
  refine ⟨choice, member, ?_, rfl⟩
  cases nodeFound : flow.node? source with
  | none =>
    rw [choicesAt, nodeFound] at member
    cases member
  | some node =>
    rw [choicesAt_of_node? nodeFound] at member distinct
    obtain ⟨first, firstMember, found, sameLabel⟩ := Node.exists_findChoice? member
    have same : first = choice :=
      List.inj_on_of_nodup_map distinct firstMember member sameLabel
    rw [findChoice?_of_node? nodeFound, found, same]

end Flow

namespace Session

/-- The session after it was started at a flow and took choices by their labels. -/
def walked (catalog : Catalog) (ticket : String) (flowId : Value) (labels : List String) :
    Option State :=
  after catalog ((ticket, .start flowId) ::
    labels.map fun label => (ticket, .choose (.text label)))

/-- Whether some labels make a node the one where a session stands that was started at a flow. -/
def Visits (catalog : Catalog) (ticket : String) (flowId : Value) (id : String) : Prop :=
  ∃ labels state node, walked catalog ticket flowId labels = some state ∧
    state.currentNode catalog = .ok node ∧ node.id = id

variable {catalog : Catalog} {ticket : String} {flowId : Value} {state : State} {flow : Flow}
  {start : String}

/-- Without labels a session stands at the start. -/
theorem walked_nil (registered : catalog.flow? flowId = some flow)
    (starts : flow.start = some start) :
    walked catalog ticket flowId [] =
      some { ticket := ticket, flowId := flowId, current := start } := by
  show (started (begin catalog ticket flowId) none).2 = _
  rw [begin_eq_ok_iff.mpr ⟨flow, start, registered, starts, rfl⟩]
  rfl

theorem walked_append_singleton (catalog : Catalog) (ticket : String) (flowId : Value)
    (labels : List String) (label : String) :
    walked catalog ticket flowId (labels ++ [label]) =
      (perform catalog ticket (.choose (.text label)) (walked catalog ticket flowId labels)).2 := by
  simp [walked, after]

/-- A choice that is found is taken. -/
theorem State.choose_of_findChoice? {node : Node} {label : Value} {choice : Choice}
    (stands : state.currentNode catalog = .ok node)
    (found : node.findChoice? label = some choice) :
    (state.choose catalog label).2.current = choice.target ∧
      (state.choose catalog label).2.flowId = state.flowId := by
  unfold State.choose
  simp only [stands, found]
  split
  · exact ⟨rfl, rfl⟩
  · dsimp only
    split <;> exact ⟨rfl, rfl⟩

/-- A choice that is not found changes nothing. -/
theorem State.choose_of_findChoice?_eq_none {node : Node} {label : Value}
    (stands : state.currentNode catalog = .ok node) (hidden : node.findChoice? label = none) :
    (state.choose catalog label).2 = state := by
  unfold State.choose
  simp only [stands, hidden]

section Compiled

variable (sound : flow.WellFormed) (registered : catalog.flow? flowId = some flow)
  (starts : flow.start = some start)
include sound registered starts

omit registered in
theorem exists_node?_of_leadsFirst {id : String} (path : ReflTransGen flow.LeadsFirst start id) :
    ∃ node, flow.node? id = some node := by
  induction path with
  | refl => exact Option.isSome_iff_exists.mp (sound.start_contained start starts)
  | @tail source target _ leads _ =>
    obtain ⟨node, nodeFound⟩ := flow.nodes.mem_keys_iff.mp leads.source_mem
    obtain ⟨choice, member, -, rfl⟩ := leads
    rw [Flow.choicesAt_of_node? nodeFound] at member
    have there := (sound.node source node nodeFound).choice_leads choice member
    exact Option.isSome_iff_exists.mp there

/-- **Labels lead a session along choices that are the first with their labels.** -/
theorem leadsFirst_of_walked {labels : List String}
    (reached : walked catalog ticket flowId labels = some state) :
    state.flowId = flowId ∧ ReflTransGen flow.LeadsFirst start state.current := by
  induction labels using List.reverseRecOn generalizing state with
  | nil =>
    rw [walked_nil registered starts] at reached
    obtain rfl := Option.some.inj reached
    exact ⟨rfl, .refl⟩
  | append_singleton labels label ih =>
    rw [walked_append_singleton] at reached
    cases earlier : walked catalog ticket flowId labels with
    | none =>
      rw [earlier] at reached
      cases reached
    | some before =>
      obtain ⟨sameFlow, path⟩ := ih earlier
      rw [earlier] at reached
      obtain rfl : (before.choose catalog (.text label)).2 = state := Option.some.inj reached
      obtain ⟨node, nodeFound⟩ := exists_node?_of_leadsFirst sound starts path
      have stands : before.currentNode catalog = .ok node :=
        currentNode_eq_ok_iff.mpr ⟨flow, sameFlow ▸ registered, nodeFound⟩
      cases found : node.findChoice? (.text label) with
      | none =>
        rw [State.choose_of_findChoice?_eq_none stands found]
        exact ⟨sameFlow, path⟩
      | some choice =>
        obtain ⟨current, flowId⟩ := State.choose_of_findChoice? stands found
        rw [current, flowId]
        exact ⟨sameFlow, path.tail (Flow.leadsFirst_of_findChoice? nodeFound found)⟩

/-- Along choices that are the first with their labels, the labels lead a session. -/
theorem exists_walked (ticket : String) {id : String}
    (path : ReflTransGen flow.LeadsFirst start id) :
    ∃ labels state, walked catalog ticket flowId labels = some state ∧ state.flowId = flowId ∧
      state.current = id := by
  induction path with
  | refl =>
    exact ⟨[], _, walked_nil registered starts, rfl, rfl⟩
  | @tail source target _ leads ih =>
    obtain ⟨labels, state, reached, sameFlow, rfl⟩ := ih
    obtain ⟨node, nodeFound⟩ := flow.nodes.mem_keys_iff.mp leads.source_mem
    obtain ⟨choice, member, found, rfl⟩ := leads
    rw [Flow.choicesAt_of_node? nodeFound] at member
    rw [Flow.findChoice?_of_node? nodeFound] at found
    -- Every choice of a compiled flow has a label to be taken by.
    obtain ⟨label, labelled⟩ := Option.ne_none_iff_exists'.mp
      ((sound.node _ _ nodeFound).choice_labelled choice member)
    rw [labelled] at found
    have stands : state.currentNode catalog = .ok node :=
      currentNode_eq_ok_iff.mpr ⟨flow, sameFlow ▸ registered, nodeFound⟩
    obtain ⟨current, flowId⟩ := State.choose_of_findChoice? stands found
    refine ⟨labels ++ [label], _, ?_, flowId.trans sameFlow, current⟩
    rw [walked_append_singleton, reached]
    rfl

/-- **The nodes that a session visits** are those to which choices lead from the start that are each
the first of their node with their label. -/
theorem visits_iff {id : String} :
    Visits catalog ticket flowId id ↔ ReflTransGen flow.LeadsFirst start id := by
  constructor
  · rintro ⟨labels, state, node, reached, stands, rfl⟩
    obtain ⟨sameFlow, path⟩ := leadsFirst_of_walked sound registered starts reached
    obtain ⟨same, found, nodeFound⟩ := currentNode_eq_ok_iff.mp stands
    rw [sameFlow, registered] at found
    obtain rfl := Option.some.inj found
    rwa [(sound.node _ _ nodeFound).id_eq]
  · intro path
    obtain ⟨labels, state, reached, sameFlow, rfl⟩ :=
      exists_walked sound registered starts ticket path
    obtain ⟨node, nodeFound⟩ := exists_node?_of_leadsFirst sound starts path
    exact ⟨labels, state, node, reached,
      currentNode_eq_ok_iff.mpr ⟨flow, sameFlow ▸ registered, nodeFound⟩,
      (sound.node _ _ nodeFound).id_eq⟩

end Compiled

/-- **A session visits what can be reached, and all of it exactly if no hidden choice leads it
further.** The nodes that a session visits are those to which choices lead that are each the first
of their node with their label, and a hidden choice leads a session further if it leads from a
visited node to one that is not visited. Where the choices of a node have distinct labels none is
hidden. -/
theorem visits_iff_mem_reachableIds {settings : Settings} {flow : Flow}
    (produced : settings.Produces flow) (nonempty : flow.nodes.isEmpty = false) {catalog : Catalog}
    {flowId : Value} (registered : catalog.flow? flowId = some flow) (ticket : String) :
    ∃ start ids, flow.start = some start ∧ flow.reachableIds = .ok ids ∧
      (∀ id, Visits catalog ticket flowId id ↔ ReflTransGen flow.LeadsFirst start id) ∧
      (∀ id, Visits catalog ticket flowId id → id ∈ ids) ∧
      ((∀ id, id ∈ ids ↔ Visits catalog ticket flowId id) ↔
        ∀ id, Visits catalog ticket flowId id → ∀ target ∈ flow.successors id,
          Visits catalog ticket flowId target) ∧
      ((∀ id ∈ ids, ((flow.choicesAt id).map Choice.label).Nodup) →
        ∀ id, id ∈ ids ↔ Visits catalog ticket flowId id) := by
  have sound : flow.WellFormed := produced.wellFormed
  obtain ⟨start, starts⟩ : ∃ start, flow.start = some start := by
    refine Option.ne_none_iff_exists'.mp fun none => ?_
    have noKeys := sound.start_eq_none_iff.mp none
    rw [Table.keys, List.map_eq_nil_iff] at noKeys
    rw [Table.isEmpty, noKeys] at nonempty
    cases nonempty
  obtain ⟨ids, reachable, mem_ids⟩ := Flow.reachableIds_eq_ok starts
    (sound.start_contained start starts)
  have visits : ∀ id, Visits catalog ticket flowId id ↔ ReflTransGen flow.LeadsFirst start id :=
    fun id => visits_iff sound registered starts
  have visited : ∀ id, Visits catalog ticket flowId id → id ∈ ids := fun id visit =>
    (mem_ids id).mpr
      (ReflTransGen.mono (fun _ _ leads => leads.mem_successors) _ _ ((visits id).mp visit))
  -- What is closed under choices and holds the start holds all that can be reached.
  have all_of_closed : (∀ id, Visits catalog ticket flowId id → ∀ target ∈ flow.successors id,
      Visits catalog ticket flowId target) →
        ∀ id, id ∈ ids ↔ Visits catalog ticket flowId id := by
    refine fun closed id => ⟨fun member => ?_, visited id⟩
    have path := (mem_ids id).mp member
    induction path with
    | refl => exact (visits start).mpr .refl
    | tail path leads ih => exact closed _ (ih ((mem_ids _).mpr path)) _ leads
  refine ⟨start, ids, starts, reachable, visits, visited, ⟨fun all => ?_, all_of_closed⟩,
    fun distinct => all_of_closed ?_⟩
  · intro id visit target leads
    exact (all target).mp ((mem_ids target).mpr (((mem_ids id).mp (visited id visit)).tail leads))
  · intro id visit target leads
    have first := Flow.leadsFirst_of_nodup (distinct id (visited id visit)) leads
    exact (visits target).mpr (((visits id).mp visit).tail first)

/-- A loop with a way out, where a choice without a label takes the text of its target. -/
def branching : Catalog :=
  .after .usual [.compile (.text "branching") "A -->|on| B[Next]\nB --> A\nB --> C" .null .null
    "2020-01-02T03:04:05+00:00"]

theorem visits_iff_mem_reachableIds_branching :
    ∃ flow, branching.flow? (.text "branching") = some flow ∧ Settings.usual.Produces flow ∧
      flow.nodes.isEmpty = false ∧
      ∃ start ids, flow.start = some start ∧ flow.reachableIds = .ok ids ∧
        (∀ id, Visits branching "session-1" (.text "branching") id ↔
          ReflTransGen flow.LeadsFirst start id) ∧
        (∀ id, Visits branching "session-1" (.text "branching") id → id ∈ ids) ∧
        ((∀ id, id ∈ ids ↔ Visits branching "session-1" (.text "branching") id) ↔
          ∀ id, Visits branching "session-1" (.text "branching") id →
            ∀ target ∈ flow.successors id,
              Visits branching "session-1" (.text "branching") target) ∧
        ((∀ id ∈ ids, ((flow.choicesAt id).map Choice.label).Nodup) →
          ∀ id, id ∈ ids ↔ Visits branching "session-1" (.text "branching") id) := by
  have there : (branching.flow? (.text "branching")).map (fun flow => flow.nodes.isEmpty) =
      some false := by
    decide +kernel
  obtain ⟨flow, found, nonempty⟩ := Option.map_eq_some_iff.mp there
  have produced : Settings.usual.Produces flow :=
    Catalog.settings_after .usual _ ▸ Catalog.produced_after .usual (by decide) _ _ found
  exact ⟨flow, found, produced, nonempty,
    visits_iff_mem_reachableIds produced nonempty found "session-1"⟩

/-- Two choices with one label. -/
def forked : Catalog :=
  .after .usual [.compile (.text "forked") "A -->|x| B\nA -->|x| C" .null .null
    "2020-01-02T03:04:05+00:00"]

/-- **A hidden choice is not visited.** The second of two choices with one label leads to a node
that can be reached, and no labels lead a session there. -/
theorem hidden_choice_not_visited :
    ∃ flow, forked.flow? (.text "forked") = some flow ∧ Settings.usual.Produces flow ∧
      flow.nodes.isEmpty = false ∧
      (∃ ids, flow.reachableIds = .ok ids ∧ "C" ∈ ids) ∧
      ¬ Visits forked "session-1" (.text "forked") "C" := by
  have there : (forked.flow? (.text "forked")).map (fun flow => (flow.nodes.isEmpty, flow.start,
      decide ("C" ∈ flow.successors "A"),
      decide (∃ source ∈ flow.nodes.keys, flow.LeadsFirst source "C"))) =
        some (false, some "A", true, false) := by
    decide +kernel
  obtain ⟨flow, found, facts⟩ := Option.map_eq_some_iff.mp there
  simp only [Prod.mk.injEq, decide_eq_true_eq, decide_eq_false_iff_not] at facts
  obtain ⟨nonempty, starts, leads, hidden⟩ := facts
  have produced : Settings.usual.Produces flow :=
    Catalog.settings_after .usual _ ▸ Catalog.produced_after .usual (by decide) _ _ found
  have sound : flow.WellFormed := produced.wellFormed
  obtain ⟨ids, reachable, mem_ids⟩ := Flow.reachableIds_eq_ok starts
    (sound.start_contained "A" starts)
  refine ⟨flow, found, produced, nonempty, ⟨ids, reachable, (mem_ids "C").mpr (.single leads)⟩, ?_⟩
  rw [visits_iff sound found starts]
  intro path
  -- The last step of a path to the hidden node would be a choice that its label finds.
  obtain same | ⟨source, -, last⟩ := ReflTransGen.cases_tail path
  · exact absurd same (by decide)
  · exact hidden ⟨source, last.source_mem, last⟩

end Session

end ChartGuide
