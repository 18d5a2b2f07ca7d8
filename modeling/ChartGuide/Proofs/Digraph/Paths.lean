/-
**Arcs, paths and cycles.**

A path follows arcs, and a cycle is a path with at least one arc that ends where it began. A graph
is acyclic exactly if its vertices can be listed so that every arc leads onward in the list.

* `Digraph.Leads`, `Digraph.Cyclic`, `Digraph.Topological`: arcs, cycles, and onward lists.
* `Digraph.Topological.not_cyclic`: a graph with an onward list has no cycle.
* `Flow.leads_digraph_iff`, `Flow.wellFormed_digraph`: the graph of a flow connects what its choices
  connect, and connects nothing but its vertices.
-/

import ChartGuide.Digraph.Basic
import ChartGuide.Proofs.Occurrences
import ChartGuide.Proofs.Table
import Mathlib.Data.List.Basic
import Mathlib.Logic.Relation

namespace ChartGuide

open Relation

namespace Digraph

/-- Whether an arc leads from one vertex to another. -/
def Leads (graph : Digraph) (source target : String) : Prop :=
  (source, target) ∈ graph.arcs.map Arc.ends

instance (graph : Digraph) (source target : String) : Decidable (graph.Leads source target) :=
  inferInstanceAs (Decidable ((source, target) ∈ graph.arcs.map Arc.ends))

/-- Whether some path of arcs, at least one, ends where it began. -/
def Cyclic (graph : Digraph) : Prop := ∃ vertex, TransGen graph.Leads vertex vertex

/-- What a graph promises: its vertices are listed once, and its arcs connect them. -/
structure WellFormed (graph : Digraph) : Prop where
  vertices_nodup : graph.vertices.Nodup
  source_mem : ∀ source target, graph.Leads source target → source ∈ graph.vertices
  target_mem : ∀ source target, graph.Leads source target → target ∈ graph.vertices

/-- A list of all vertices in which every arc leads onward. -/
structure Topological (graph : Digraph) (order : List String) : Prop where
  perm : order.Perm graph.vertices
  onward : ∀ source target, graph.Leads source target → order.idxOf source < order.idxOf target

theorem mem_successors_iff (graph : Digraph) {source target : String} :
    target ∈ graph.successors source ↔ graph.Leads source target := by
  simp only [successors, Leads, Arc.ends, List.mem_map, List.mem_filter, beq_iff_eq]
  constructor
  · rintro ⟨arc, ⟨member, rfl⟩, rfl⟩
    exact ⟨arc, member, rfl⟩
  · rintro ⟨arc, member, ends⟩
    obtain ⟨rfl, rfl⟩ := Prod.mk.inj ends
    exact ⟨arc, ⟨member, rfl⟩, rfl⟩

theorem mem_predecessors_iff (graph : Digraph) {source target : String} :
    source ∈ graph.predecessors target ↔ graph.Leads source target := by
  simp only [predecessors, Leads, Arc.ends, List.mem_map, List.mem_filter, beq_iff_eq]
  constructor
  · rintro ⟨arc, ⟨member, rfl⟩, rfl⟩
    exact ⟨arc, member, rfl⟩
  · rintro ⟨arc, member, ends⟩
    obtain ⟨rfl, rfl⟩ := Prod.mk.inj ends
    exact ⟨arc, ⟨member, rfl⟩, rfl⟩

/-! ### Setting arcs aside -/

theorem leads_without_iff (graph : Digraph) (pairs : List (String × String))
    {source target : String} :
    (graph.without pairs).Leads source target ↔
      graph.Leads source target ∧ (source, target) ∉ pairs := by
  simp only [Leads, without, List.mem_map, List.mem_filter, Bool.not_eq_true',
    List.contains_eq_mem, decide_eq_false_iff_not]
  constructor
  · rintro ⟨arc, ⟨member, kept⟩, ends⟩
    exact ⟨⟨arc, member, ends⟩, ends ▸ kept⟩
  · rintro ⟨⟨arc, member, ends⟩, kept⟩
    exact ⟨arc, ⟨member, ends ▸ kept⟩, ends⟩

theorem without_nil (graph : Digraph) : graph.without [] = graph := by
  have kept : (graph.arcs.filter fun arc => !([] : List (String × String)).contains arc.ends) =
      graph.arcs := List.filter_eq_self.mpr fun _ _ => rfl
  rw [without, kept]

theorem WellFormed.without {graph : Digraph} (sound : graph.WellFormed)
    (pairs : List (String × String)) : (graph.without pairs).WellFormed where
  vertices_nodup := sound.vertices_nodup
  source_mem source target leads :=
    sound.source_mem source target ((graph.leads_without_iff pairs).mp leads).1
  target_mem source target leads :=
    sound.target_mem source target ((graph.leads_without_iff pairs).mp leads).1

/-! ### Onward lists -/

namespace Topological

variable {graph : Digraph} {order : List String}

theorem idxOf_lt_of_transGen (sorted : graph.Topological order) {source target : String}
    (path : TransGen graph.Leads source target) : order.idxOf source < order.idxOf target := by
  induction path with
  | single leads => exact sorted.onward _ _ leads
  | tail _ leads before => exact Nat.lt_trans before (sorted.onward _ _ leads)

/-- A graph with an onward list has no cycle. -/
theorem not_cyclic (sorted : graph.Topological order) : ¬ graph.Cyclic := by
  rintro ⟨vertex, path⟩
  exact Nat.lt_irrefl _ (sorted.idxOf_lt_of_transGen path)

end Topological

/-- A list is onward if the target of each arc comes after its source. -/
theorem topological_of_after {graph : Digraph} {order : List String} (sound : graph.WellFormed)
    (perm : order.Perm graph.vertices)
    (after : ∀ before vertex later, order = before ++ vertex :: later →
      ∀ target, graph.Leads vertex target → target ∈ later) :
    graph.Topological order where
  perm := perm
  onward source target leads := by
    have distinct : order.Nodup := perm.nodup_iff.mpr sound.vertices_nodup
    have member : source ∈ order := perm.mem_iff.mpr (sound.source_mem _ _ leads)
    obtain ⟨before, later, rfl⟩ := List.append_of_mem member
    have inLater := after before source later rfl target leads
    obtain ⟨_, tailDistinct, apart⟩ := List.nodup_append.mp distinct
    have sourceNew : source ∉ before := fun earlier =>
      apart source earlier source List.mem_cons_self rfl
    have targetNew : target ∉ before := fun earlier =>
      apart target earlier target (List.mem_cons_of_mem _ inLater) rfl
    have different : source ≠ target := by
      rintro rfl
      exact (List.nodup_cons.mp tailDistinct).1 inLater
    rw [List.idxOf_append_of_notMem sourceNew, List.idxOf_append_of_notMem targetNew,
      List.idxOf_cons_self, List.idxOf_cons_ne _ different]
    omega

end Digraph

/-! ### The graph of a flow -/

namespace Flow

/-- Whether every choice leads to a node of the flow. -/
def Complete (flow : Flow) : Prop := ∀ edge ∈ flow.edges, flow.contains edge.2.target = true

instance (flow : Flow) : Decidable flow.Complete :=
  inferInstanceAs (Decidable (∀ edge ∈ flow.edges, flow.contains edge.2.target = true))

theorem mem_edges_iff (flow : Flow) {id : String} {choice : Choice} :
    (id, choice) ∈ flow.edges ↔ ∃ node, flow.node? id = some node ∧ choice ∈ node.choices := by
  simp only [edges, List.mem_flatMap, List.mem_map, Prod.mk.injEq]
  constructor
  · rintro ⟨⟨_, node⟩, entry, _, member, rfl, rfl⟩
    exact ⟨node, flow.nodes.mem_entries_iff.mp entry, member⟩
  · rintro ⟨node, found, member⟩
    exact ⟨(id, node), flow.nodes.mem_entries_iff.mpr found, choice, member, rfl, rfl⟩

theorem mem_successors_iff (flow : Flow) {source target : String} :
    target ∈ flow.successors source ↔ ∃ choice, (source, choice) ∈ flow.edges ∧
      choice.target = target := by
  simp only [mem_edges_iff, successors]
  cases flow.node? source with
  | none => simp
  | some node => simp

/-- The arcs of the graph connect what the choices of the flow connect. -/
theorem leads_digraph_iff (flow : Flow) {source target : String} :
    flow.digraph.Leads source target ↔ target ∈ flow.successors source := by
  have ofNode : ∀ (id : String) (node : Node), (source, target) ∈ (node.arcs id).map Arc.ends ↔
      id = source ∧ ∃ choice ∈ node.choices, choice.target = target := by
    intro id node
    simp [Node.arcs, Arc.ends, and_comm]
  rw [mem_successors_iff]
  simp only [Digraph.Leads, digraph, List.map_flatMap, List.mem_flatMap, ofNode, mem_edges_iff]
  constructor
  · rintro ⟨⟨_, node⟩, entry, rfl, choice, member, leads⟩
    exact ⟨choice, ⟨node, flow.nodes.mem_entries_iff.mp entry, member⟩, leads⟩
  · rintro ⟨choice, ⟨node, found, member⟩, leads⟩
    exact ⟨(source, node), flow.nodes.mem_entries_iff.mpr found, rfl, choice, member, leads⟩

theorem mem_missingTargets_iff (flow : Flow) {id : String} :
    id ∈ flow.missingTargets ↔
      (∃ edge ∈ flow.edges, edge.2.target = id) ∧ flow.contains id = false := by
  simp [missingTargets]

theorem wellFormed_digraph (flow : Flow) : flow.digraph.WellFormed where
  vertices_nodup := by
    refine List.nodup_append.mpr ⟨flow.nodes.keys_nodup, nodup_eraseDups _, ?_⟩
    rintro id known _ missing rfl
    have absent := (flow.mem_missingTargets_iff.mp missing).2
    exact Bool.false_ne_true (absent.symm.trans ((flow.nodes.contains_iff id).mpr known))
  source_mem source target leads := by
    obtain ⟨choice, edge, _⟩ := flow.mem_successors_iff.mp (flow.leads_digraph_iff.mp leads)
    obtain ⟨node, found, _⟩ := flow.mem_edges_iff.mp edge
    exact List.mem_append_left _ (flow.nodes.mem_keys_iff.mpr ⟨node, found⟩)
  target_mem source target leads := by
    obtain ⟨choice, edge, rfl⟩ := flow.mem_successors_iff.mp (flow.leads_digraph_iff.mp leads)
    by_cases known : flow.contains choice.target = true
    · exact List.mem_append_left _ ((flow.nodes.contains_iff _).mp known)
    · exact List.mem_append_right _ (flow.mem_missingTargets_iff.mpr
        ⟨⟨_, edge, rfl⟩, Bool.eq_false_iff.mpr known⟩)

/-- The graph of a complete flow has no other vertices than its nodes. -/
theorem Complete.vertices_digraph {flow : Flow} (complete : flow.Complete) :
    flow.digraph.vertices = flow.nodes.keys := by
  have none : flow.missingTargets = [] := by
    refine List.eq_nil_iff_forall_not_mem.mpr fun id missing => ?_
    obtain ⟨⟨edge, member, rfl⟩, absent⟩ := flow.mem_missingTargets_iff.mp missing
    exact Bool.false_ne_true (absent.symm.trans (complete edge member))
  rw [digraph, none, List.append_nil]

end Flow

end ChartGuide
