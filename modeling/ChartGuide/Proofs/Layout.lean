/-
**What a layout promises.**

The layout of a complete flow, one whose choices all lead to its nodes, never fails. Its back arcs
break exactly the cycles, its layers are those of the longest paths over the other arcs, and every
node is recorded where it stands, and as what it is.

* `Flow.layout_eq`: an empty flow is no exception.
* `Flow.layout_breaksCycles`: the back arcs and the cycles.
* `Flow.layout_layered`: the layers and the places.
-/

import ChartGuide.Proofs.Digraph.Cycles
import ChartGuide.Proofs.Digraph.Layers

namespace ChartGuide

open Relation

/-! ### Places -/

/-- Whether a place shows the node that stands there: its text, its role, and whether it is the
start or an end. -/
def Placement.Shows (place : Placement) (flow : Flow) : Prop :=
  ∃ node, flow.node? place.id = some node ∧ place.text = node.text ∧ place.role = node.role ∧
    (place.isStart = true ↔ flow.start = some place.id) ∧ place.isTerminal = node.isTerminal

namespace Flow

/-- The nodes of some layers with the layers and positions where they stand. -/
def spots (layers : List (List String)) : List (Nat × Nat × String) :=
  layers.zipIdx.flatMap fun (layer, depth) =>
    layer.zipIdx.map fun (id, position) => (depth, position, id)

theorem mem_spots_iff {layers : List (List String)} {depth position : Nat} {id : String} :
    (depth, position, id) ∈ spots layers ↔
      ∃ layer, layers[depth]? = some layer ∧ layer[position]? = some id := by
  simp only [spots, List.mem_flatMap, List.mem_map, Prod.mk.injEq]
  constructor
  · rintro ⟨⟨layer, _⟩, inLayers, ⟨_, _⟩, inLayer, rfl, rfl, rfl⟩
    exact ⟨layer, List.mem_zipIdx_iff_getElem?.mp inLayers, List.mem_zipIdx_iff_getElem?.mp inLayer⟩
  · rintro ⟨layer, inLayers, inLayer⟩
    exact ⟨(layer, depth), List.mem_zipIdx_iff_getElem?.mpr inLayers, (id, position),
      List.mem_zipIdx_iff_getElem?.mpr inLayer, rfl, rfl, rfl⟩

theorem map_id_spots (layers : List (List String)) :
    (spots layers).map (fun spot => spot.2.2) = layers.flatten := by
  have each : ∀ entry : List String × Nat,
      ((entry.1.zipIdx.map fun (id, position) => (entry.2, position, id)).map
        fun spot => spot.2.2) = entry.1 := by
    intro entry
    rw [List.map_map]
    exact List.zipIdx_map_fst 0 entry.1
  rw [spots, List.map_flatMap]
  simp only [each]
  rw [List.flatMap_def]
  exact congrArg List.flatten (List.zipIdx_map_fst 0 layers)

/-- Where each step of a list succeeds, the whole list does, step by step. -/
theorem exists_mapM_eq_ok {ε α β : Type} {attempt : α → Except ε β} {Gives : α → β → Prop}
    {items : List α} (each : ∀ item ∈ items, ∃ result, attempt item = .ok result ∧
      Gives item result) :
    ∃ results, items.mapM attempt = .ok results ∧ List.Forall₂ Gives items results := by
  induction items with
  | nil => exact ⟨[], rfl, .nil⟩
  | cons item rest ih =>
    obtain ⟨result, first, gives⟩ := each item List.mem_cons_self
    obtain ⟨results, later, all⟩ := ih fun other member => each other (List.mem_cons_of_mem _ member)
    refine ⟨result :: results, ?_, .cons gives all⟩
    rw [List.mapM_cons, first, later]
    rfl

/-- A node that is there can be placed, and the place shows it. -/
theorem exists_place (flow : Flow) {id : String} (known : id ∈ flow.nodes.keys)
    (depth position : Nat) :
    ∃ place, flow.place depth position id = .ok place ∧ place.Shows flow ∧
      (depth, position, id) = (place.layer, place.position, place.id) := by
  obtain ⟨node, found⟩ := flow.nodes.mem_keys_iff.mp known
  have foundNode : flow.node? id = some node := found
  exact ⟨_, by rw [place, foundNode],
    ⟨node, foundNode, rfl, rfl, decide_eq_true_iff, rfl⟩, rfl⟩

/-- Every node can be placed. -/
theorem exists_placements (flow : Flow) {layers : List (List String)}
    (known : ∀ id ∈ layers.flatten, id ∈ flow.nodes.keys) :
    ∃ places, flow.placements layers = .ok places ∧
      places.map (fun place => (place.layer, place.position, place.id)) = spots layers ∧
      ∀ place ∈ places, place.Shows flow := by
  have each : ∀ spot ∈ spots layers, ∃ place,
      flow.place spot.1 spot.2.1 spot.2.2 = .ok place ∧ place.Shows flow ∧
        spot = (place.layer, place.position, place.id) := by
    intro spot member
    have inFlatten : spot.2.2 ∈ layers.flatten := by
      rw [← map_id_spots]
      exact List.mem_map_of_mem member
    exact flow.exists_place (known _ inFlatten) spot.1 spot.2.1
  obtain ⟨places, placed, all⟩ := exists_mapM_eq_ok each
  have turned : List.Forall₂ (fun place spot => place.Shows flow ∧
      spot = (place.layer, place.position, place.id)) places (spots layers) := List.Forall₂.flip all
  obtain ⟨shows, stand⟩ := (List.forall₂_and_left _ _).mp turned
  have same := List.forall₂_map_left_iff.mpr (stand.imp fun _ _ => Eq.symm)
  rw [List.forall₂_eq_eq_eq] at same
  exact ⟨places, placed, same, shows⟩

/-- Recorded places are those of the nodes of the layers, one for each. -/
theorem map_id_of_recorded {places : List Placement} {layers : List (List String)}
    (recorded : places.map (fun place => (place.layer, place.position, place.id)) = spots layers) :
    places.map Placement.id = layers.flatten := by
  rw [← map_id_spots, ← recorded, List.map_map]
  rfl

/-- A recorded place is where its node stands. -/
theorem stands_of_recorded {places : List Placement} {layers : List (List String)}
    (recorded : places.map (fun place => (place.layer, place.position, place.id)) = spots layers)
    {place : Placement} (member : place ∈ places) :
    ∃ layer, layers[place.layer]? = some layer ∧ layer[place.position]? = some place.id := by
  have spot : (place.layer, place.position, place.id) ∈ spots layers := by
    rw [← recorded]
    exact List.mem_map_of_mem member
  exact mem_spots_iff.mp spot

/-! ### Layouts -/

/-- The arcs of a flow that do not lead back up. -/
def onwardGraph (flow : Flow) : Digraph := flow.digraph.without flow.backArcs

theorem wellFormed_onwardGraph (flow : Flow) : flow.onwardGraph.WellFormed :=
  flow.wellFormed_digraph.without _

theorem topological_onwardGraph (flow : Flow) :
    flow.onwardGraph.Topological (flow.digraph.closingOrder flow.start) := by
  rw [onwardGraph, backArcs_eq]
  exact Digraph.topological_closingOrder flow.wellFormed_digraph flow.start

theorem layering_layers (flow : Flow) (passes : Int) :
    flow.onwardGraph.Layering (flow.layers passes) :=
  Digraph.layering_layers flow.wellFormed_onwardGraph flow.topological_onwardGraph passes.toNat

/-- An empty flow is laid out like any other. -/
theorem layout_eq (flow : Flow) (passes : Int) :
    flow.layout passes = (flow.placements (flow.layers passes)).map fun placements =>
      { start := flow.start.getD ""
        layers := flow.layers passes
        arcs := flow.digraph.arcs.map Arc.ends
        backArcs := flow.backArcs
        hasCycles := flow.digraph.isCyclic
        placements := placements } := by
  rw [layout]
  by_cases empty : flow.nodes.isEmpty = true
  · have noEntries : flow.nodes.entries = [] := List.isEmpty_iff.mp empty
    have noArcs : flow.digraph.arcs = [] := by simp [digraph, noEntries]
    have noVertices : flow.digraph.vertices = [] := by
      simp [digraph, Table.keys, missingTargets, edges, noEntries]
    have acyclic : flow.digraph.isCyclic = false := by
      rw [Bool.eq_false_iff, ne_eq, Digraph.isCyclic_iff flow.wellFormed_digraph]
      rintro ⟨vertex, path⟩
      obtain ⟨_, leads, _⟩ := TransGen.head'_iff.mp path
      simp [Digraph.Leads, noArcs] at leads
    have noBackArcs : flow.backArcs = [] := by rw [backArcs, acyclic]; rfl
    have noLayers : flow.layers passes = [] := by
      have placed := (flow.layering_layers passes).placed
      rw [onwardGraph, Digraph.without, noVertices] at placed
      refine List.eq_nil_iff_forall_not_mem.mpr fun layer member => ?_
      have nothing := List.flatten_eq_nil_iff.mp placed.eq_nil layer member
      exact (flow.layering_layers passes).layer_ne_nil layer member nothing
    rw [if_pos empty, noLayers, noBackArcs, acyclic, noArcs]
    rfl
  · rw [if_neg empty]

/-- **The layout of a complete flow never fails.** -/
theorem Complete.exists_layout {flow : Flow} (complete : flow.Complete) (passes : Int) :
    ∃ layout, flow.layout passes = .ok layout ∧ layout.layers = flow.layers passes ∧
      layout.backArcs = flow.backArcs ∧ layout.hasCycles = flow.digraph.isCyclic ∧
      layout.placements.map (fun place => (place.layer, place.position, place.id)) =
        spots (flow.layers passes) ∧
      ∀ place ∈ layout.placements, place.Shows flow := by
  have known : ∀ id ∈ (flow.layers passes).flatten, id ∈ flow.nodes.keys := by
    intro id member
    rw [← complete.vertices_digraph]
    exact (flow.layering_layers passes).placed.mem_iff.mp member
  obtain ⟨places, placed, recorded, shows⟩ := flow.exists_placements known
  refine ⟨_, by rw [layout_eq, placed]; rfl, rfl, rfl, rfl, recorded, shows⟩

/-- A question that is asked again until it works, and a pair of nodes that the start does not
reach. -/
def retrying : Flow where
  id := .text "retrying"
  title := .text "Retrying"
  description := .text ""
  start := some "S"
  nodes := .ofList
    [("S", { id := "S", text := "Start", role := .action, choices := [{ target := "Q" }] }),
      ("Q", { id := "Q", text := "Works?", role := .question
              choices := [{ target := "FIX" }, { target := "Q" }, { target := "DONE" }] }),
      ("FIX", { id := "FIX", text := "Fix it", role := .action, choices := [{ target := "Q" }] }),
      ("DONE", { id := "DONE", text := "Done", role := .terminal }),
      ("U", { id := "U", text := "Unseen", role := .action, choices := [{ target := "V" }] }),
      ("V", { id := "V", text := "Too", role := .question
              choices := [{ target := "U" }, { target := "DONE" }] })]

end Flow

/-! ### Back arcs -/

/-- What the back arcs of a layout promise. They are arcs of the graph. The other arcs make no cycle
and can be listed onward, and along them the target of a back arc returns to its source, so that a
back arc put back makes a cycle. There are back arcs exactly if there are cycles, and the layout
says so. -/
structure Layout.BreaksCycles (layout : Layout) (graph : Digraph) : Prop where
  leads : ∀ source target, (source, target) ∈ layout.backArcs → graph.Leads source target
  acyclic : ¬ (graph.without layout.backArcs).Cyclic
  sorted : ∃ order, (graph.without layout.backArcs).Topological order
  returns : ∀ source target, (source, target) ∈ layout.backArcs →
    ReflTransGen (graph.without layout.backArcs).Leads target source
  put_back : ∀ source target, (source, target) ∈ layout.backArcs →
    (graph.without (layout.backArcs.filter (· ≠ (source, target)))).Cyclic
  hasCycles_iff : layout.hasCycles = true ↔ layout.backArcs ≠ []
  backArcs_ne_nil_iff : layout.backArcs ≠ [] ↔ graph.Cyclic

/-- **Back arcs break exactly the cycles**, in every complete flow, whether its start is one of its
nodes or not. -/
theorem Flow.layout_breaksCycles (flow : Flow) (passes : Int) (complete : flow.Complete) :
    ∃ layout, flow.layout passes = .ok layout ∧ layout.BreaksCycles flow.digraph := by
  obtain ⟨layout, laidOut, _, sameArcs, sameCycles, _⟩ := complete.exists_layout passes
  have sound := flow.wellFormed_digraph
  have backArcs : layout.backArcs = flow.digraph.backArcs flow.start :=
    sameArcs.trans flow.backArcs_eq
  have sorted := Digraph.topological_closingOrder sound flow.start
  have someBack := Digraph.backArcs_ne_nil_iff sound flow.start
  rw [← backArcs] at sorted someBack
  exact ⟨layout, laidOut,
    { leads := fun source target back =>
        Digraph.leads_of_mem_backArcs sound flow.start (backArcs ▸ back)
      acyclic := sorted.not_cyclic
      sorted := ⟨_, sorted⟩
      returns := fun source target back =>
        backArcs ▸ Digraph.returns_of_mem_backArcs sound flow.start (backArcs ▸ back)
      put_back := fun source target back =>
        backArcs ▸ Digraph.cyclic_of_put_back sound flow.start (backArcs ▸ back)
      hasCycles_iff := by rw [sameCycles, Digraph.isCyclic_iff sound, someBack]
      backArcs_ne_nil_iff := someBack }⟩

theorem Flow.retrying_breaksCycles :
    Flow.retrying.Complete ∧ ∃ layout, Flow.retrying.layout 4 = .ok layout ∧
      layout.BreaksCycles Flow.retrying.digraph :=
  ⟨by decide, Flow.retrying.layout_breaksCycles 4 (by decide)⟩

example : Flow.retrying.backArcs = [("FIX", "Q"), ("Q", "Q"), ("V", "U")] := by cbv

/-! ### Layers -/

/-- What the layers of a layout promise. Every node stands in one layer, once, and no layer is empty.
Arcs lead down, but for the back arcs, which lead up unless they are loops. A node stands right below
one that leads to it, or in the first layer if only back arcs lead to it. Every node is recorded
once, where it stands and as what it is. -/
structure Layout.Layered (layout : Layout) (flow : Flow) : Prop where
  placed : layout.layers.flatten.Perm flow.nodes.keys
  layer_ne_nil : ∀ layer ∈ layout.layers, layer ≠ []
  down : ∀ source target upper lower, flow.digraph.Leads source target →
    (source, target) ∉ layout.backArcs → InLayer layout.layers upper source →
      InLayer layout.layers lower target → upper < lower
  up : ∀ source target upper lower, (source, target) ∈ layout.backArcs → source ≠ target →
    InLayer layout.layers upper target → InLayer layout.layers lower source → upper < lower
  top : ∀ id, InLayer layout.layers 0 id ↔ id ∈ flow.nodes.keys ∧
    ∀ source, flow.digraph.Leads source id → (source, id) ∈ layout.backArcs
  below : ∀ depth id, InLayer layout.layers (depth + 1) id →
    ∃ source, flow.digraph.Leads source id ∧ (source, id) ∉ layout.backArcs ∧
      InLayer layout.layers depth source
  recorded : (layout.placements.map Placement.id).Perm flow.nodes.keys
  stands : ∀ place ∈ layout.placements, ∃ layer,
    layout.layers[place.layer]? = some layer ∧ layer[place.position]? = some place.id
  shows : ∀ place ∈ layout.placements, place.Shows flow

/-- **The layers are those of the longest paths**, in every complete flow and after any number of
passes. The passes only permute the nodes within their layers, and whichever onward list of the arcs
the depths are taken through, the layers are the same. -/
theorem Flow.layout_layered (flow : Flow) (passes : Int) (complete : flow.Complete) :
    ∃ layout, flow.layout passes = .ok layout ∧ layout.Layered flow ∧
      List.Forall₂ List.Perm layout.layers (flow.layers 0) ∧
      ∀ order, (flow.digraph.without layout.backArcs).Topological order →
        (flow.digraph.without layout.backArcs).layers order passes.toNat = layout.layers := by
  obtain ⟨layout, laidOut, layers, backArcs, _, places, shows⟩ := complete.exists_layout passes
  have layering : flow.onwardGraph.Layering layout.layers := layers ▸ flow.layering_layers passes
  have onward : ∀ source target, flow.onwardGraph.Leads source target ↔
      flow.digraph.Leads source target ∧ (source, target) ∉ layout.backArcs :=
    fun source target => backArcs ▸ flow.digraph.leads_without_iff flow.backArcs
  have vertices : flow.onwardGraph.vertices = flow.nodes.keys := complete.vertices_digraph
  have placed : layout.layers.flatten.Perm flow.nodes.keys := vertices ▸ layering.placed
  refine ⟨layout, laidOut,
    { placed := placed
      layer_ne_nil := layering.layer_ne_nil
      down := fun source target upper lower leads kept =>
        layering.down source target upper lower ((onward _ _).mpr ⟨leads, kept⟩)
      up := ?_, top := ?_, below := ?_, recorded := ?_, stands := ?_, shows := shows }, ?_, ?_⟩
  · intro source target upper lower back different
    -- The other arcs return from the target of a back arc to its source, and they lead down.
    have returns : ReflTransGen flow.onwardGraph.Leads target source := by
      rw [backArcs, flow.backArcs_eq] at back
      rw [onwardGraph, flow.backArcs_eq]
      exact Digraph.returns_of_mem_backArcs flow.wellFormed_digraph flow.start back
    have path := (reflTransGen_iff_eq_or_transGen.mp returns).resolve_left different
    exact layering.lt_of_transGen flow.wellFormed_onwardGraph path upper lower
  · intro id
    rw [layering.top, vertices]
    simp only [onward, not_and, not_not]
  · intro depth id inLayer
    obtain ⟨source, leads, above⟩ := layering.below depth id inLayer
    obtain ⟨leads, kept⟩ := (onward _ _).mp leads
    exact ⟨source, leads, kept, above⟩
  · rw [map_id_of_recorded (layers ▸ places)]
    exact placed
  · exact fun place member => stands_of_recorded (layers ▸ places) member
  · rw [layers]
    exact flow.onwardGraph.forall₂_perm_layers _ passes.toNat
  · rw [layers, backArcs]
    intro order sorted
    exact Digraph.layers_congr flow.wellFormed_onwardGraph sorted flow.topological_onwardGraph _

theorem Flow.retrying_layered :
    Flow.retrying.Complete ∧ ∃ layout, Flow.retrying.layout 3 = .ok layout ∧
      layout.Layered Flow.retrying ∧
      List.Forall₂ List.Perm layout.layers (Flow.retrying.layers 0) ∧
      ∀ order, (Flow.retrying.digraph.without layout.backArcs).Topological order →
        (Flow.retrying.digraph.without layout.backArcs).layers order (3 : Int).toNat =
          layout.layers :=
  ⟨by decide, Flow.retrying.layout_layered 3 (by decide)⟩

end ChartGuide
