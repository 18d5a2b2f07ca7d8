/-
**Layers before and after the passes.**

A pass moves vertices within their layers and never out of them: what holds of the layers that the
depths give, whatever the order inside, holds after any number of passes.

* `Digraph.forall₂_perm_layers`: the passes only permute.
* `Digraph.Layering`: what the layers of a graph promise.
* `Digraph.layering_layers`: an onward list gives a layering, after any number of passes.
-/

import ChartGuide.Proofs.Digraph.Depth
import Mathlib.Data.List.Forall2
import Mathlib.Data.List.Perm.Basic

namespace ChartGuide

namespace Digraph

/-! ### Reordering -/

theorem perm_reorder (neighbours : String → List String) (fixed layer : List String) :
    (reorder neighbours fixed layer).Perm layer := by
  have sorted := List.mergeSort_perm
    (layer.zipIdx.map fun entry => (meanPosition fixed (neighbours entry.1) entry.2, entry.1))
    (fun first second => first.1.atMost second.1)
  refine (sorted.map Prod.snd).trans (List.Perm.of_eq ?_)
  rw [List.map_map]
  exact List.zipIdx_map_fst 0 layer

theorem forall₂_perm_sweepFrom (neighbours : String → List String) (fixed : List String)
    (layers : List (List String)) :
    List.Forall₂ List.Perm (sweepFrom neighbours fixed layers) layers := by
  induction layers generalizing fixed with
  | nil => exact .nil
  | cons layer rest ih => exact .cons (perm_reorder neighbours fixed layer) (ih _)

theorem forall₂_perm_sweep (neighbours : String → List String) (layers : List (List String)) :
    List.Forall₂ List.Perm (sweep neighbours layers) layers := by
  cases layers with
  | nil => exact .nil
  | cons layer rest => exact .cons .rfl (forall₂_perm_sweepFrom neighbours layer rest)

theorem forall₂_perm_trans {first second third : List (List String)}
    (left : List.Forall₂ List.Perm first second) (right : List.Forall₂ List.Perm second third) :
    List.Forall₂ List.Perm first third := by
  induction left generalizing third with
  | nil => exact right
  | cons same _ ih =>
    cases right with
    | cons next rest => exact .cons (same.trans next) (ih rest)

/-- One pass leaves every vertex in its layer. -/
theorem forall₂_perm_pass (graph : Digraph) (layers : List (List String)) :
    List.Forall₂ List.Perm (pass graph layers) layers := by
  have down := forall₂_perm_sweep graph.predecessors layers
  have up := forall₂_perm_sweep graph.successors (sweep graph.predecessors layers).reverse
  rw [← List.forall₂_reverse_iff, List.reverse_reverse] at up
  rw [pass]
  exact forall₂_perm_trans up down

/-- **The passes only permute the vertices within their layers.** -/
theorem forall₂_perm_layers (graph : Digraph) (order : List String) (passes : Nat) :
    List.Forall₂ List.Perm (graph.layers order passes)
      (graph.layersByDepth (graph.depths order)) := by
  rw [layers]
  induction passes with
  | zero => exact List.forall₂_same.mpr fun _ _ => .rfl
  | succ passes ih => exact forall₂_perm_trans (forall₂_perm_pass graph _) ih

end Digraph

/-- A vertex stays in its layer when the layers are permuted inside. -/
theorem inLayer_congr {first second : List (List String)}
    (same : List.Forall₂ List.Perm first second) (depth : Nat) (vertex : String) :
    InLayer first depth vertex ↔ InLayer second depth vertex := by
  induction same generalizing depth with
  | nil => rfl
  | cons perm _ ih =>
    cases depth with
    | zero => simpa [InLayer] using perm.mem_iff
    | succ depth => simpa [InLayer] using ih depth

namespace Digraph

/-- After any number of passes a vertex stands in the layer of its depth. -/
theorem inLayer_layers_iff (graph : Digraph) (order : List String) (passes : Nat) {level : Nat}
    {vertex : String} :
    InLayer (graph.layers order passes) level vertex ↔
      vertex ∈ graph.vertices ∧ graph.depthIn order vertex = level :=
  (inLayer_congr (graph.forall₂_perm_layers order passes) level vertex).trans
    (graph.inLayer_layersByDepth_iff order)

variable {graph : Digraph}

/-! ### Layerings -/

/-- What the layers of a graph promise. Every vertex stands in one layer, once, and no layer is
empty. Arcs lead down, and a vertex stands right below one that leads to it, unless none does. -/
structure Layering (graph : Digraph) (layers : List (List String)) : Prop where
  placed : layers.flatten.Perm graph.vertices
  layer_ne_nil : ∀ layer ∈ layers, layer ≠ []
  down : ∀ source target upper lower, graph.Leads source target → InLayer layers upper source →
    InLayer layers lower target → upper < lower
  top : ∀ vertex, InLayer layers 0 vertex ↔
    vertex ∈ graph.vertices ∧ ∀ source, ¬ graph.Leads source vertex
  below : ∀ depth vertex, InLayer layers (depth + 1) vertex →
    ∃ source, graph.Leads source vertex ∧ InLayer layers depth source

theorem layering_layersByDepth {order : List String} (sound : graph.WellFormed)
    (sorted : graph.Topological order) :
    graph.Layering (graph.layersByDepth (graph.depths order)) := by
  have isDepth := depth_depthIn sound sorted
  refine
    { placed := perm_flatten_layersByDepth sound order
      layer_ne_nil := layersByDepth_ne_nil sound sorted
      down := ?_, top := ?_, below := ?_ }
  all_goals simp only [inLayer_layersByDepth_iff]
  · rintro source target _ _ leads ⟨_, rfl⟩ ⟨_, rfl⟩
    exact isDepth.grows source target leads
  · intro vertex
    rw [isDepth.eq_zero_iff]
  · rintro depth vertex ⟨_, level⟩
    obtain ⟨source, leads, above⟩ := isDepth.reached vertex depth level
    exact ⟨source, leads, sound.source_mem _ _ leads, above⟩

/-- A layering stays one when its layers are permuted inside. -/
theorem Layering.of_forall₂_perm {first second : List (List String)}
    (layering : graph.Layering second) (same : List.Forall₂ List.Perm first second) :
    graph.Layering first where
  placed := (List.Perm.flatten_congr same).trans layering.placed
  layer_ne_nil layer member := by
    obtain ⟨index, bound, rfl⟩ := List.mem_iff_getElem.mp member
    obtain ⟨sameLength, perms⟩ := List.forall₂_iff_get.mp same
    have perm := perms index bound (sameLength ▸ bound)
    intro empty
    rw [List.get_eq_getElem, empty] at perm
    exact layering.layer_ne_nil _ (List.get_mem _ _) perm.nil_eq.symm
  down source target upper lower leads inUpper inLower :=
    layering.down source target upper lower leads ((inLayer_congr same _ _).mp inUpper)
      ((inLayer_congr same _ _).mp inLower)
  top vertex := (inLayer_congr same 0 vertex).trans (layering.top vertex)
  below depth vertex member := by
    obtain ⟨source, leads, above⟩ :=
      layering.below depth vertex ((inLayer_congr same _ _).mp member)
    exact ⟨source, leads, (inLayer_congr same _ _).mpr above⟩

/-- **An onward list gives a layering**, after any number of passes. -/
theorem layering_layers {order : List String} (sound : graph.WellFormed)
    (sorted : graph.Topological order) (passes : Nat) :
    graph.Layering (graph.layers order passes) :=
  (layering_layersByDepth sound sorted).of_forall₂_perm (graph.forall₂_perm_layers order passes)

/-- The layers do not depend on the onward list. -/
theorem layers_congr {order other : List String} (sound : graph.WellFormed)
    (sorted : graph.Topological order) (otherSorted : graph.Topological other) (passes : Nat) :
    graph.layers order passes = graph.layers other passes := by
  rw [layers, layers, layersByDepth_congr sound sorted otherSorted]

theorem Layering.exists_inLayer {layers : List (List String)} (layering : graph.Layering layers)
    {vertex : String} (member : vertex ∈ graph.vertices) : ∃ depth, InLayer layers depth vertex := by
  obtain ⟨layer, inLayers, inLayer⟩ := List.mem_flatten.mp (layering.placed.mem_iff.mpr member)
  obtain ⟨depth, found⟩ := List.mem_iff_getElem?.mp inLayers
  exact ⟨depth, layer, found, inLayer⟩

/-- The layer of a vertex that stands there alone. -/
theorem Layering.getElem?_eq_singleton {layers : List (List String)}
    (layering : graph.Layering layers) (sound : graph.WellFormed) {depth : Nat} {vertex : String}
    (alone : ∀ other, InLayer layers depth other ↔ other = vertex) :
    layers[depth]? = some [vertex] := by
  obtain ⟨layer, found, _⟩ := (alone vertex).mpr rfl
  have distinct : layer.Nodup :=
    (List.nodup_flatten.mp (layering.placed.nodup_iff.mpr sound.vertices_nodup)).1 layer
      (List.mem_of_getElem? found)
  have same : layer.Perm [vertex] := by
    refine (List.perm_ext_iff_of_nodup distinct (List.nodup_singleton vertex)).mpr fun other => ?_
    rw [List.mem_singleton, ← alone other, InLayer, found]
    simp
  rw [found, List.perm_singleton.mp same]

/-- Paths lead down. -/
theorem Layering.lt_of_transGen {layers : List (List String)} (layering : graph.Layering layers)
    (sound : graph.WellFormed) {source target : String}
    (path : Relation.TransGen graph.Leads source target) :
    ∀ upper lower, InLayer layers upper source → InLayer layers lower target → upper < lower := by
  induction path with
  | single leads => exact fun upper lower => layering.down _ _ upper lower leads
  | tail _ leads ih =>
    intro upper lower inUpper inLower
    obtain ⟨between, found⟩ := layering.exists_inLayer (sound.source_mem _ _ leads)
    exact Nat.lt_trans (ih upper between inUpper found) (layering.down _ _ _ _ leads found inLower)

end Digraph

end ChartGuide
