/-
**Depths and layers.**

The depth of a vertex is the length of the longest path that leads to it. Taken through an onward
list, the depths come out right in one go, and every onward list gives the same: what a depth is can
be said without the list (`Digraph.Depth`), and only one function is one (`Digraph.Depth.unique`).

* `Digraph.Depth.isGreatest`: where all paths begin at one vertex, a depth is the length of the
  longest path from there.
* `Digraph.depth_depthIn`: the depths taken through an onward list.
* `Digraph.inLayer_layersByDepth_iff`: a vertex stands in the layer of its depth.
* `Digraph.layersByDepth_congr`: every onward list gives the same layers.
-/

import ChartGuide.Layout
import ChartGuide.Proofs.Digraph.Paths
import Mathlib.Data.List.Induction
import Mathlib.Data.List.Nodup
import Mathlib.Order.Bounds.Defs

namespace ChartGuide

/-- Whether a vertex stands in the layer at some depth. -/
def InLayer (layers : List (List String)) (depth : Nat) (vertex : String) : Prop :=
  ∃ layer, layers[depth]? = some layer ∧ vertex ∈ layer

/-- The greatest of some numbers is one of them unless it is the least possible, and no number is
above it. -/
theorem foldl_max_zero (numbers : List Nat) :
    (∀ number ∈ numbers, number ≤ numbers.foldl max 0) ∧
      (numbers.foldl max 0 ≠ 0 → numbers.foldl max 0 ∈ numbers) := by
  induction numbers using List.reverseRecOn with
  | nil => simp
  | append_singleton numbers last ih =>
    rw [List.foldl_append]
    refine ⟨fun number member => ?_, fun positive => ?_⟩
    · rcases List.mem_append.mp member with earlier | new
      · exact Nat.le_trans (ih.1 number earlier) (Nat.le_max_left _ _)
      · rw [List.mem_singleton.mp new]
        exact Nat.le_max_right _ _
    · show max (numbers.foldl max 0) last ∈ numbers ++ [last]
      rcases Nat.le_total last (numbers.foldl max 0) with below | above
      · rw [Nat.max_eq_left below]
        refine List.mem_append_left _ (ih.2 fun zero => positive ?_)
        show max (numbers.foldl max 0) last = 0
        omega
      · rw [Nat.max_eq_right above]
        exact List.mem_append_right _ List.mem_cons_self

namespace Digraph

variable {graph : Digraph}

/-! ### Depths -/

/-- A depth grows along every arc, and is reached from right above unless it is zero. -/
structure Depth (graph : Digraph) (depth : String → Nat) : Prop where
  grows : ∀ source target, graph.Leads source target → depth source < depth target
  reached : ∀ target above, depth target = above + 1 →
    ∃ source, graph.Leads source target ∧ depth source = above

namespace Depth

variable {depth other : String → Nat}

theorem le (isDepth : graph.Depth depth) (isOther : graph.Depth other) :
    ∀ (level : Nat) (vertex : String), depth vertex = level → level ≤ other vertex
  | 0, _, _ => Nat.zero_le _
  | above + 1, vertex, reached => by
    obtain ⟨source, leads, before⟩ := isDepth.reached vertex above reached
    exact Nat.lt_of_le_of_lt (isDepth.le isOther above source before)
      (isOther.grows source vertex leads)

/-- **There is only one depth.** -/
theorem unique (isDepth : graph.Depth depth) (isOther : graph.Depth other) : depth = other :=
  funext fun vertex => Nat.le_antisymm (isDepth.le isOther _ vertex rfl)
    (isOther.le isDepth _ vertex rfl)

theorem eq_zero_iff (isDepth : graph.Depth depth) (vertex : String) :
    depth vertex = 0 ↔ ∀ source, ¬ graph.Leads source vertex := by
  constructor
  · intro zero source leads
    have below := isDepth.grows source vertex leads
    omega
  · intro noArc
    cases level : depth vertex with
    | zero => rfl
    | succ above =>
      obtain ⟨source, leads, _⟩ := isDepth.reached vertex above level
      exact absurd leads (noArc source)

end Depth

/-! ### Longest paths -/

/-- Whether a path of so many arcs leads from one vertex to another. -/
inductive LeadsIn (graph : Digraph) (source : String) : Nat → String → Prop
  | here : graph.LeadsIn source 0 source
  | further {steps : Nat} {between target : String} (path : graph.LeadsIn source steps between)
      (leads : graph.Leads between target) : graph.LeadsIn source (steps + 1) target

namespace Depth

variable {depth : String → Nat} {top : String}

/-- Every arc of a path adds to the depth. -/
theorem add_le (isDepth : graph.Depth depth) {source target : String} {steps : Nat}
    (path : graph.LeadsIn source steps target) : depth source + steps ≤ depth target := by
  induction path with
  | here => exact Nat.le_refl _
  | further _ leads ih =>
    have below := isDepth.grows _ _ leads
    omega

/-- Going up layer by layer from a vertex ends at the only one without arcs to it. -/
theorem leadsIn_top (isDepth : graph.Depth depth) (sound : graph.WellFormed)
    (onlyTop : ∀ vertex ∈ graph.vertices, depth vertex = 0 → vertex = top) {vertex : String}
    (member : vertex ∈ graph.vertices) : graph.LeadsIn top (depth vertex) vertex := by
  induction level : depth vertex generalizing vertex with
  | zero =>
    rw [onlyTop vertex member level]
    exact .here
  | succ above ih =>
    obtain ⟨source, leads, before⟩ := isDepth.reached vertex above level
    exact .further (ih (sound.source_mem _ _ leads) before) leads

/-- **Below a single top the depths are the lengths of the longest paths from there.** -/
theorem isGreatest (isDepth : graph.Depth depth) (sound : graph.WellFormed)
    (onlyTop : ∀ vertex ∈ graph.vertices, depth vertex = 0 → vertex = top) {vertex : String}
    (member : vertex ∈ graph.vertices) :
    IsGreatest {steps | graph.LeadsIn top steps vertex} (depth vertex) := by
  refine ⟨isDepth.leadsIn_top sound onlyTop member, fun steps path => ?_⟩
  have below := isDepth.add_le path
  omega

end Depth

/-! ### Depths taken through an onward list -/

/-- The depth of a vertex from the known depths of those that lead to it. -/
def depthBelow (graph : Digraph) (known : List (String × Nat)) (vertex : String) : Nat :=
  ((graph.predecessors vertex).map fun other => (known.lookup other).getD 0 + 1).foldl max 0

/-- The depth that a vertex gets in a list; a vertex outside of it gets none and counts as zero. -/
def depthIn (graph : Digraph) (order : List String) (vertex : String) : Nat :=
  ((graph.depths order).lookup vertex).getD 0

theorem depths_append_singleton (graph : Digraph) (order : List String) (vertex : String) :
    graph.depths (order ++ [vertex]) =
      (vertex, graph.depthBelow (graph.depths order) vertex) :: graph.depths order := by
  rw [depths, List.foldl_append]
  rfl

/-- The depth of a vertex is not touched any more when others follow. -/
theorem lookup_depths_append (graph : Digraph) (before : List String) {later : List String}
    {vertex : String} (absent : vertex ∉ later) :
    (graph.depths (before ++ later)).lookup vertex = (graph.depths before).lookup vertex := by
  induction later using List.reverseRecOn with
  | nil => rw [List.append_nil]
  | append_singleton later last ih =>
    have different : vertex ≠ last := fun same =>
      absent (List.mem_append_right _ (List.mem_singleton.mpr same))
    rw [← List.append_assoc, depths_append_singleton, Table.lookup_cons_eq_if, if_neg different]
    exact ih fun member => absent (List.mem_append_left _ member)

/-- In an onward list, the depth of a vertex is taken from the final depths of those that lead to
it. -/
theorem depthIn_eq {order : List String} (sound : graph.WellFormed)
    (sorted : graph.Topological order) {vertex : String} (member : vertex ∈ order) :
    graph.depthIn order vertex =
      ((graph.predecessors vertex).map fun other => graph.depthIn order other + 1).foldl max 0 := by
  obtain ⟨before, later, rfl⟩ := List.append_of_mem member
  have distinct : (before ++ vertex :: later).Nodup :=
    sorted.perm.nodup_iff.mpr sound.vertices_nodup
  obtain ⟨_, tailDistinct, apart⟩ := List.nodup_append.mp distinct
  have split : before ++ vertex :: later = before ++ [vertex] ++ later := by simp
  have own : graph.depthIn (before ++ vertex :: later) vertex =
      graph.depthBelow (graph.depths before) vertex := by
    rw [depthIn, split, graph.lookup_depths_append _ (List.nodup_cons.mp tailDistinct).1,
      depths_append_singleton, List.lookup_cons_self]
    rfl
  rw [own, depthBelow]
  refine congrArg (List.foldl max 0) (List.map_congr_left fun other leads => ?_)
  rw [mem_predecessors_iff] at leads
  have earlier := sorted.onward _ _ leads
  have notLater : other ∉ vertex :: later := by
    intro inTail
    have notBefore : other ∉ before := fun inBefore => apart other inBefore other inTail rfl
    have vertexNew : vertex ∉ before := fun inBefore =>
      apart vertex inBefore vertex List.mem_cons_self rfl
    rw [List.idxOf_append_of_notMem notBefore, List.idxOf_append_of_notMem vertexNew,
      List.idxOf_cons_self] at earlier
    omega
  rw [depthIn, graph.lookup_depths_append before notLater]

/-- **The depths taken through an onward list are depths.** -/
theorem depth_depthIn {order : List String} (sound : graph.WellFormed)
    (sorted : graph.Topological order) : graph.Depth (graph.depthIn order) where
  grows source target leads := by
    have member : target ∈ order := sorted.perm.mem_iff.mpr (sound.target_mem _ _ leads)
    rw [depthIn_eq sound sorted member]
    exact (foldl_max_zero _).1 _ (List.mem_map.mpr
      ⟨source, graph.mem_predecessors_iff.mpr leads, rfl⟩)
  reached target above level := by
    by_cases member : target ∈ order
    · rw [depthIn_eq sound sorted member] at level
      have greatest := (foldl_max_zero _).2 (by rw [level]; exact Nat.succ_ne_zero above)
      obtain ⟨source, leads, value⟩ := List.mem_map.mp greatest
      exact ⟨source, graph.mem_predecessors_iff.mp leads, by omega⟩
    · have outside := graph.lookup_depths_append [] member
      rw [List.nil_append] at outside
      rw [depthIn, outside] at level
      cases level

/-! ### Layers -/

/-- The number of layers that some depths need. -/
def height (graph : Digraph) (depth : String → Nat) : Nat :=
  (graph.vertices.map fun vertex => depth vertex + 1).foldl max 0

theorem layersByDepth_depths (graph : Digraph) (order : List String) :
    graph.layersByDepth (graph.depths order) =
      (List.range (graph.height (graph.depthIn order))).map fun level =>
        graph.vertices.filter fun vertex => graph.depthIn order vertex == level := by
  simp only [layersByDepth, List.map_map, List.filter_map, height]
  exact List.map_congr_left fun level _ => List.map_id _

theorem lt_height {depth : String → Nat} {vertex : String} (member : vertex ∈ graph.vertices) :
    depth vertex < graph.height depth :=
  (foldl_max_zero _).1 _ (List.mem_map_of_mem member)

/-- A vertex stands in the layer of its depth. -/
theorem inLayer_layersByDepth_iff (graph : Digraph) (order : List String) {level : Nat}
    {vertex : String} :
    InLayer (graph.layersByDepth (graph.depths order)) level vertex ↔
      vertex ∈ graph.vertices ∧ graph.depthIn order vertex = level := by
  rw [layersByDepth_depths, InLayer]
  constructor
  · rintro ⟨layer, found, member⟩
    rw [List.getElem?_map, Option.map_eq_some_iff] at found
    obtain ⟨index, indexed, rfl⟩ := found
    obtain ⟨bound, rfl⟩ := List.getElem?_eq_some_iff.mp indexed
    rw [List.mem_filter, beq_iff_eq, List.getElem_range] at member
    exact member
  · rintro ⟨member, rfl⟩
    have bound : graph.depthIn order vertex < graph.height (graph.depthIn order) :=
      lt_height member
    refine ⟨graph.vertices.filter fun other =>
      graph.depthIn order other == graph.depthIn order vertex, ?_,
      List.mem_filter.mpr ⟨member, beq_self_eq_true _⟩⟩
    rw [List.getElem?_map, List.getElem?_range bound]
    rfl

/-- The layers hold every vertex once. -/
theorem perm_flatten_layersByDepth (sound : graph.WellFormed) (order : List String) :
    (graph.layersByDepth (graph.depths order)).flatten.Perm graph.vertices := by
  have distinct : (graph.layersByDepth (graph.depths order)).flatten.Nodup := by
    rw [layersByDepth_depths, List.nodup_flatten]
    refine ⟨fun layer member => ?_, List.pairwise_map.mpr ?_⟩
    · obtain ⟨level, _, rfl⟩ := List.mem_map.mp member
      exact sound.vertices_nodup.filter _
    · refine List.Pairwise.imp (fun {first second} below => ?_) List.pairwise_lt_range
      intro vertex inFirst inSecond
      have one := eq_of_beq (List.mem_filter.mp inFirst).2
      have two := eq_of_beq (List.mem_filter.mp inSecond).2
      omega
  refine (List.perm_ext_iff_of_nodup distinct sound.vertices_nodup).mpr fun vertex => ?_
  rw [List.mem_flatten]
  constructor
  · rintro ⟨layer, member, inLayer⟩
    obtain ⟨level, found⟩ := List.mem_iff_getElem?.mp member
    exact ((graph.inLayer_layersByDepth_iff order).mp ⟨layer, found, inLayer⟩).1
  · intro member
    obtain ⟨layer, found, inLayer⟩ :=
      (graph.inLayer_layersByDepth_iff order).mpr ⟨member, rfl⟩
    exact ⟨layer, List.mem_of_getElem? found, inLayer⟩

/-- Above every reached depth all depths are reached. -/
theorem Depth.exists_of_le {depth : String → Nat} (isDepth : graph.Depth depth)
    (sound : graph.WellFormed) {vertex : String} (member : vertex ∈ graph.vertices) {level : Nat}
    (below : level ≤ depth vertex) : ∃ other ∈ graph.vertices, depth other = level := by
  induction distance : depth vertex - level generalizing vertex with
  | zero => exact ⟨vertex, member, by omega⟩
  | succ distance ih =>
    obtain ⟨source, leads, above⟩ := isDepth.reached vertex (depth vertex - 1) (by omega)
    exact ih (sound.source_mem _ _ leads) (by omega) (by omega)

/-- No layer is empty. -/
theorem layersByDepth_ne_nil {order : List String} (sound : graph.WellFormed)
    (sorted : graph.Topological order) :
    ∀ layer ∈ graph.layersByDepth (graph.depths order), layer ≠ [] := by
  intro layer member
  rw [layersByDepth_depths] at member
  obtain ⟨level, inRange, rfl⟩ := List.mem_map.mp member
  have bound : level < graph.height (graph.depthIn order) := List.mem_range.mp inRange
  have attained := (foldl_max_zero (graph.vertices.map fun vertex =>
    graph.depthIn order vertex + 1)).2 (show graph.height (graph.depthIn order) ≠ 0 by omega)
  obtain ⟨lowest, lowestMember, value⟩ := List.mem_map.mp attained
  have reaches : graph.depthIn order lowest + 1 = graph.height (graph.depthIn order) := value
  have below : level ≤ graph.depthIn order lowest := by omega
  obtain ⟨vertex, vertexMember, here⟩ :=
    (depth_depthIn sound sorted).exists_of_le sound lowestMember below
  refine List.ne_nil_of_mem (a := vertex) (List.mem_filter.mpr ⟨vertexMember, ?_⟩)
  exact beq_iff_eq.mpr here

/-- **Every onward list gives the same layers.** -/
theorem layersByDepth_congr {order other : List String} (sound : graph.WellFormed)
    (sorted : graph.Topological order) (otherSorted : graph.Topological other) :
    graph.layersByDepth (graph.depths order) = graph.layersByDepth (graph.depths other) := by
  have same : graph.depthIn order = graph.depthIn other :=
    (depth_depthIn sound sorted).unique (depth_depthIn sound otherSorted)
  rw [layersByDepth_depths, layersByDepth_depths, same]

end Digraph

end ChartGuide
