/-
**The layout of a connected flow.**

If the start of a flow leads to all nodes, the search for the back arcs begins there and opens
everything below it. Along arcs that are no back arcs it still leads to all nodes, and no such arc
leads into it. So the start stands alone at the top, and the layer of a node, the length of a
longest path that leads to it, is that of a longest path from the start.

* `Layout.HangsFrom`: what such a layout promises.
* `Flow.layout_hangsFrom`: the layout of a complete flow whose start leads to all nodes.
* `Settings.layout_hangsFrom_start`: a compiled flow of which no node is found unreachable.
-/

import ChartGuide.Proofs.Digraph.Rooted
import ChartGuide.Proofs.Finding
import ChartGuide.Proofs.Layout

namespace ChartGuide

open Relation

/-- What the layout of a flow promises whose start leads to all nodes. The start stands alone in the
first layer. Every node stands in one layer, and this is the length of a longest path from the start
that uses no back arc. Every node is recorded once, with its layer. -/
structure Layout.HangsFrom (layout : Layout) (flow : Flow) (start : String) : Prop where
  first : layout.layers[0]? = some [start]
  longest : ∀ id ∈ flow.nodes.keys, ∃ depth,
    (∀ level, InLayer layout.layers level id ↔ level = depth) ∧
      IsGreatest {steps | (flow.digraph.without layout.backArcs).LeadsIn start steps id} depth
  recorded : (layout.placements.map Placement.id).Perm flow.nodes.keys
  stands : ∀ place ∈ layout.placements, InLayer layout.layers place.layer place.id

namespace Flow

variable {flow : Flow} {start : String}

/-- The layers of a flow are those of the depths along the arcs that do not lead back up. -/
theorem exists_depth (flow : Flow) (passes : Int) :
    ∃ depth, flow.onwardGraph.Depth depth ∧ ∀ level id, InLayer (flow.layers passes) level id ↔
      id ∈ flow.onwardGraph.vertices ∧ depth id = level :=
  ⟨_, Digraph.depth_depthIn flow.wellFormed_onwardGraph flow.topological_onwardGraph,
    fun _ _ => flow.onwardGraph.inLayer_layers_iff _ passes.toNat⟩

section Start

variable (complete : flow.Complete) (starts : flow.start = some start)
  (contained : flow.contains start = true)
  (connected : ∀ id ∈ flow.nodes.keys, flow.Reaches start id)
include complete connected

theorem path_to_vertices :
    ∀ vertex ∈ flow.digraph.vertices, ReflTransGen flow.digraph.Leads start vertex := by
  rw [complete.vertices_digraph, ← reaches_eq]
  exact connected

include starts contained

/-- Only arcs that lead back up lead to the start. -/
theorem not_leads_start (source : String) : ¬ flow.onwardGraph.Leads source start := by
  rw [onwardGraph, backArcs_eq, starts]
  exact Digraph.not_leads_root flow.wellFormed_digraph (mem_vertices_of_contains contained)
    (path_to_vertices complete connected) source

theorem path_from_start {id : String} (member : id ∈ flow.nodes.keys) :
    ReflTransGen flow.onwardGraph.Leads start id := by
  rw [onwardGraph, backArcs_eq, starts]
  rw [← complete.vertices_digraph] at member
  exact Digraph.path_from_root flow.wellFormed_digraph (mem_vertices_of_contains contained)
    (path_to_vertices complete connected) member

/-- Only the start is at the top. -/
theorem forall_not_leads_iff {id : String} (member : id ∈ flow.nodes.keys) :
    (∀ source, ¬ flow.onwardGraph.Leads source id) ↔ id = start := by
  constructor
  · intro none
    obtain same | ⟨source, _, leads⟩ :=
      ReflTransGen.cases_tail (path_from_start complete starts contained connected member)
    · exact same
    · exact absurd leads (none source)
  · rintro rfl
    exact not_leads_start complete starts contained connected

/-- **The layout of a complete flow whose start leads to all nodes.** -/
theorem layout_hangsFrom (passes : Int) :
    ∃ layout, flow.layout passes = .ok layout ∧ layout.HangsFrom flow start := by
  obtain ⟨layout, laidOut, layers, backArcs, -, places, -⟩ := complete.exists_layout passes
  obtain ⟨depth, isDepth, inLayer⟩ := flow.exists_depth passes
  have layering := flow.layering_layers passes
  have vertices : flow.onwardGraph.vertices = flow.nodes.keys := complete.vertices_digraph
  rw [← layers] at places layering inLayer
  rw [vertices] at inLayer
  have placed : layout.layers.flatten.Perm flow.nodes.keys := vertices ▸ layering.placed
  have onlyStart : ∀ id ∈ flow.nodes.keys, depth id = 0 ↔ id = start := fun id member =>
    (isDepth.eq_zero_iff id).trans
      (forall_not_leads_iff complete starts contained connected member)
  refine ⟨layout, laidOut,
    { first := layering.getElem?_eq_singleton flow.wellFormed_onwardGraph fun id => ?_
      longest := fun id member => ⟨depth id, fun level => ?_, ?_⟩
      recorded := map_id_of_recorded places ▸ placed
      stands := fun place member => ?_ }⟩
  · rw [inLayer]
    constructor
    · exact fun ⟨member, zero⟩ => (onlyStart id member).mp zero
    · rintro rfl
      have member := (flow.nodes.contains_iff id).mp contained
      exact ⟨member, (onlyStart id member).mpr rfl⟩
  · exact (inLayer level id).trans ((and_iff_right member).trans eq_comm)
  · rw [backArcs]
    exact isDepth.isGreatest flow.wellFormed_onwardGraph
      (fun other known zero => (onlyStart other (vertices ▸ known)).mp zero) (vertices ▸ member)
  · obtain ⟨layer, found, here⟩ := stands_of_recorded places member
    exact ⟨layer, found, List.mem_of_getElem? here⟩

end Start

end Flow

/-- **A compiled flow of which no node is found unreachable hangs from its start** in every layout,
with cycles or without, after any number of passes. -/
theorem Settings.layout_hangsFrom_start (settings : Settings) (source : String) (prior : Prior)
    (now : String) {flow : Flow} (compiled : settings.compile source prior now = flow)
    (nonempty : flow.nodes.keys ≠ []) (catalog : Option Catalog) {findings : List Finding}
    (inspected : flow.inspect catalog = .ok findings)
    (noneUnreachable : ∀ finding ∈ findings, finding.code ≠ "unreachable_node") (passes : Int) :
    ∃ start layout, flow.start = some start ∧ flow.layout passes = .ok layout ∧
      layout.HangsFrom flow start := by
  subst compiled
  have sound := settings.wellFormed_compile source prior now
  rw [settings.inspect_compile] at inspected
  obtain rfl := Except.ok.inj inspected
  obtain ⟨start, starts⟩ := sound.exists_start_iff.mpr nonempty
  have contained := sound.start_contained start starts
  have connected : ∀ id ∈ (settings.compile source prior now).nodes.keys,
      (settings.compile source prior now).Reaches start id := by
    intro id member
    by_contra apart
    refine noneUnreachable (.unreachable id start) ?_ rfl
    exact (Flow.mem_findings_iff starts contained).mpr (.inr (.inl ⟨id, member, apart, rfl⟩))
  obtain ⟨layout, laidOut, hangs⟩ :=
    Flow.layout_hangsFrom sound.complete starts contained connected passes
  exact ⟨start, layout, starts, laidOut, hangs⟩

namespace Settings

/-- The flow of a chart that leads back to its start and to a question before the last one. -/
def returning : Flow where
  id := usual.flowId
  title := usual.title
  description := usual.description
  start := some "S"
  nodes := .ofList
    [("S", { id := "S", text := "S", role := .question
             choices := [{ target := "Q", label := some "Q" },
               { target := "END", label := some "END" }] }),
      ("Q", { id := "Q", text := "Q", role := .question
              choices := [{ target := "FIX", label := some "no" },
                { target := "S", label := some "again" },
                { target := "END", label := some "yes" }] }),
      ("FIX", { id := "FIX", text := "FIX", role := .question
                choices := [{ target := "Q", label := some "Q" }] }),
      ("END", { id := "END", text := "END", role := .terminal })]
  source := "S --> Q\nQ -->|no| FIX\nFIX --> Q\nQ -->|again| S\nQ -->|yes| END\nS --> END"
  metadata := { lastUpdated := .text "2020-01-02T03:04:05+00:00" }

theorem compile_returning :
    usual.compile returning.source {} "2020-01-02T03:04:05+00:00" = returning := by
  decide +kernel

theorem inspect_returning : returning.inspect none = .ok [] := by
  decide +kernel

theorem returning_hangsFrom_start :
    usual.compile returning.source {} "2020-01-02T03:04:05+00:00" = returning ∧
      returning.nodes.keys ≠ [] ∧ returning.inspect none = .ok [] ∧
      (∀ finding ∈ ([] : List Finding), finding.code ≠ "unreachable_node") ∧
      ∃ start layout, returning.start = some start ∧ returning.layout 2 = .ok layout ∧
        layout.HangsFrom returning start :=
  ⟨compile_returning, by decide, inspect_returning, List.forall_mem_nil _,
    layout_hangsFrom_start usual returning.source {} "2020-01-02T03:04:05+00:00" compile_returning
      (by decide) none inspect_returning (List.forall_mem_nil _) 2⟩

example : returning.backArcs = [("FIX", "Q"), ("Q", "S")] ∧
    returning.layers 2 = [["S"], ["Q"], ["FIX", "END"]] := by
  constructor <;> cbv

end Settings

end ChartGuide
