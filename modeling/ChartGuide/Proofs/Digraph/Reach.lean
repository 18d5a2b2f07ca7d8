/-
**What a search from some roots reaches.**

A depth-first search closes exactly the vertices to which a path leads from one of its roots. Each
vertex that it opens is a root or follows an open one, so it is reached; and a closed vertex has
only closed neighbours, so nothing that is reached is left out.

* `Search.Reaches`: what a search keeps from step to step, and `Search.Reaches.move`.
* `Digraph.mem_reachableFrom_iff`: the vertices that a finished search has closed, and
  `Digraph.mem_reachableFrom_reverse_iff`: those that a search against the arcs has closed.
* `Flow.Reaches`: paths of choices, and `Flow.reachableIds_eq_ok`: the ids that can be reached from
  the start of a flow.
-/

import ChartGuide.Proofs.Digraph.Search

namespace ChartGuide

open Relation

namespace Search

variable {graph : Digraph} {search next : Search} {roots : List String}

/-- What a search from some roots keeps: only what a root leads to was visited, and no root was
passed over. -/
structure Reaches (graph : Digraph) (roots : List String) (search : Search) : Prop where
  explores : search.Explores graph
  roots_subset : search.roots ⊆ roots
  roots_visited : ∀ root ∈ roots, root ∈ search.roots ∨ root ∉ search.freshIds
  path_reached : ∀ vertex ∈ search.pathIds, ∃ root ∈ roots, ReflTransGen graph.Leads root vertex
  closed_reached : ∀ vertex ∈ search.closed, ∃ root ∈ roots, ReflTransGen graph.Leads root vertex

namespace Reaches

theorem dropRoot (reaches : search.Reaches graph roots) {root : String} {later : List String}
    (first : search.roots = root :: later) (known : search.fresh.lookup root = none) :
    Reaches graph roots { search with roots := later } where
  explores := reaches.explores.dropRoot later
  roots_subset := fun _ member => reaches.roots_subset (first ▸ List.mem_cons_of_mem _ member)
  roots_visited other member := by
    rcases reaches.roots_visited other member with waiting | visited
    · rcases List.mem_cons.mp (first ▸ waiting) with rfl | waiting
      · exact .inr (not_fresh_of_lookup_eq_none known)
      · exact .inl waiting
    · exact .inr visited
  path_reached := reaches.path_reached
  closed_reached := reaches.closed_reached

theorem openRoot (reaches : search.Reaches graph roots) (sound : graph.WellFormed) {root : String}
    {later successors : List String} (atEnd : search.path = [])
    (first : search.roots = root :: later) (found : search.fresh.lookup root = some successors) :
    Reaches graph roots ({ search with roots := later }.visit root successors) where
  explores := reaches.explores.openRoot sound atEnd found
  roots_subset := fun _ member => reaches.roots_subset (first ▸ List.mem_cons_of_mem _ member)
  roots_visited other member := by
    rcases reaches.roots_visited other member with waiting | visited
    · rcases List.mem_cons.mp (first ▸ waiting) with rfl | waiting
      · exact .inr fun fresh => (mem_freshIds_visit_iff.mp fresh).2 rfl
      · exact .inl waiting
    · exact .inr fun fresh => visited (mem_freshIds_visit_iff.mp fresh).1
  path_reached vertex member := by
    rcases List.mem_cons.mp member with rfl | outer
    · exact ⟨vertex, reaches.roots_subset (first ▸ List.mem_cons_self), .refl⟩
    · exact reaches.path_reached vertex outer
  closed_reached := reaches.closed_reached

theorem close (reaches : search.Reaches graph roots) (sound : graph.WellFormed) {vertex : String}
    {path : List (String × List String)} (top : search.path = (vertex, []) :: path) :
    Reaches graph roots { search with path := path, closed := vertex :: search.closed } where
  explores := reaches.explores.close sound top
  roots_subset := reaches.roots_subset
  roots_visited := reaches.roots_visited
  path_reached other member :=
    reaches.path_reached other (Explores.pathIds_eq_cons top ▸ List.mem_cons_of_mem _ member)
  closed_reached other member := by
    rcases List.mem_cons.mp member with rfl | closed
    · exact reaches.path_reached other (Explores.pathIds_eq_cons top ▸ List.mem_cons_self)
    · exact reaches.closed_reached other closed

theorem openNext (reaches : search.Reaches graph roots) (sound : graph.WellFormed)
    {vertex target : String} {later successors : List String} {path : List (String × List String)}
    (top : search.path = (vertex, target :: later) :: path)
    (found : search.fresh.lookup target = some successors) :
    Reaches graph roots ({ search with path := (vertex, later) :: path }.visit target successors)
    where
  explores := reaches.explores.openNext sound top found
  roots_subset := reaches.roots_subset
  roots_visited other member := (reaches.roots_visited other member).imp_right fun visited fresh =>
    visited (mem_freshIds_visit_iff.mp fresh).1
  path_reached other member := by
    have ids := Explores.pathIds_eq_cons top
    rcases List.mem_cons.mp member with rfl | outer
    · obtain ⟨root, rootMember, path⟩ :=
        reaches.path_reached vertex (ids ▸ List.mem_cons_self)
      exact ⟨root, rootMember, path.tail (reaches.explores.leads_next top)⟩
    · exact reaches.path_reached other (ids ▸ outer)
  closed_reached := reaches.closed_reached

/-- An arc that leads to no fresh vertex is looked at and left behind. -/
theorem leaveArc (reaches : search.Reaches graph roots) {vertex target : String}
    {later : List String} {path : List (String × List String)} {back : List (String × String)}
    (top : search.path = (vertex, target :: later) :: path)
    (explores : Explores graph { search with path := (vertex, later) :: path, back := back }) :
    Reaches graph roots { search with path := (vertex, later) :: path, back := back } where
  explores := explores
  roots_subset := reaches.roots_subset
  roots_visited := reaches.roots_visited
  path_reached other member := reaches.path_reached other (Explores.pathIds_eq_cons top ▸ member)
  closed_reached := reaches.closed_reached

/-- **One step.** -/
theorem move (reaches : search.Reaches graph roots) (sound : graph.WellFormed)
    (moved : Move search next) : next.Reaches graph roots := by
  cases moved with
  | dropRoot _ first known => exact reaches.dropRoot first known
  | openRoot atEnd first found => exact reaches.openRoot sound atEnd first found
  | close top => exact reaches.close sound top
  | openNext top found => exact reaches.openNext sound top found
  | meet top isOpen => exact reaches.leaveArc top (reaches.explores.meet sound top isOpen)
  | pass top known notOpen =>
    exact reaches.leaveArc top (reaches.explores.pass sound top known notOpen)

end Reaches

end Search

namespace Digraph

variable {graph : Digraph} {roots : List String}

/-- **A whole search.** It keeps what every step keeps, and nothing is left to do. -/
theorem reaches_search (sound : graph.WellFormed) (roots : List String) :
    (graph.search roots).Reaches graph roots ∧ (graph.search roots).path = [] ∧
      (graph.search roots).roots = [] := by
  have ended := Search.run_induction (motive := Search.Reaches graph roots)
    (fun search next moved reaches => reaches.move sound moved) _
    { explores := graph.explores_start roots
      roots_subset := List.Subset.refl roots
      roots_visited := fun _ member => .inl member
      path_reached := fun _ none => absurd none List.not_mem_nil
      closed_reached := fun _ none => absurd none List.not_mem_nil }
  exact ⟨ended.1, Search.ended_of_step?_eq_none ended.2⟩

/-- **A search from some roots reaches the vertices to which a path leads from them.** -/
theorem mem_reachableFrom_iff (sound : graph.WellFormed) (inside : roots ⊆ graph.vertices)
    {vertex : String} :
    vertex ∈ graph.reachableFrom roots ↔
      ∃ root ∈ roots, ReflTransGen graph.Leads root vertex := by
  obtain ⟨reaches, noPath, noRoots⟩ := reaches_search sound roots
  refine ⟨reaches.closed_reached vertex, ?_⟩
  rintro ⟨root, member, path⟩
  have visited : root ∉ (graph.search roots).freshIds := by
    refine (reaches.roots_visited root member).resolve_left ?_
    rw [noRoots]
    exact List.not_mem_nil
  have closed : root ∈ (graph.search roots).closed := by
    refine reaches.explores.closed_of_mem (inside member) visited ?_
    rw [Search.pathIds, noPath]
    exact List.not_mem_nil
  exact reaches.explores.closed_of_path sound noPath closed path

/-! ### Walks against the arcs -/

theorem leads_reverse_iff (graph : Digraph) {source target : String} :
    graph.reverse.Leads source target ↔ graph.Leads target source := by
  simp only [Leads, reverse, Arc.ends, List.mem_map, Prod.mk.injEq]
  constructor
  · rintro ⟨_, ⟨arc, member, rfl⟩, rfl, rfl⟩
    exact ⟨arc, member, rfl, rfl⟩
  · rintro ⟨arc, member, rfl, rfl⟩
    exact ⟨_, ⟨arc, member, rfl⟩, rfl, rfl⟩

theorem WellFormed.reverse (sound : graph.WellFormed) : graph.reverse.WellFormed where
  vertices_nodup := sound.vertices_nodup
  source_mem _ _ leads := sound.target_mem _ _ (graph.leads_reverse_iff.mp leads)
  target_mem _ _ leads := sound.source_mem _ _ (graph.leads_reverse_iff.mp leads)

/-- **A search against the arcs** reaches the vertices from which a path leads to its roots. -/
theorem mem_reachableFrom_reverse_iff (sound : graph.WellFormed) (inside : roots ⊆ graph.vertices)
    {vertex : String} :
    vertex ∈ graph.reverse.reachableFrom roots ↔
      ∃ root ∈ roots, ReflTransGen graph.Leads vertex root := by
  have turned : graph.reverse.Leads = Function.swap graph.Leads := by
    funext source target
    exact propext graph.leads_reverse_iff
  rw [mem_reachableFrom_iff sound.reverse inside, turned]
  simp only [reflTransGen_swap]

end Digraph

/-! ### Paths of choices -/

namespace Flow

variable {flow : Flow} {start id : String}

/-- Whether a path of choices, possibly empty, leads from one id to another. -/
def Reaches (flow : Flow) : String → String → Prop :=
  ReflTransGen fun source target => target ∈ flow.successors source

theorem reaches_eq (flow : Flow) : flow.Reaches = ReflTransGen flow.digraph.Leads := by
  have sameArcs : flow.digraph.Leads = fun source target => target ∈ flow.successors source := by
    funext source target
    exact propext flow.leads_digraph_iff
  rw [Reaches, sameArcs]

theorem mem_vertices_of_contains (contained : flow.contains id = true) :
    id ∈ flow.digraph.vertices :=
  List.mem_append_left _ ((flow.nodes.contains_iff id).mp contained)

/-- A search from a node reaches what choices lead to. -/
theorem mem_reachableFrom_iff (contained : flow.contains start = true) :
    id ∈ flow.digraph.reachableFrom [start] ↔ flow.Reaches start id := by
  rw [Digraph.mem_reachableFrom_iff flow.wellFormed_digraph
    (by simpa using mem_vertices_of_contains contained), reaches_eq]
  simp

/-- The ids that can be reached from the start of a flow, where the start is a node. -/
theorem reachableIds_eq_ok (starts : flow.start = some start)
    (contained : flow.contains start = true) :
    ∃ ids, flow.reachableIds = .ok ids ∧ ∀ id, id ∈ ids ↔ flow.Reaches start id := by
  refine ⟨flow.digraph.reachableFrom [start], ?_, fun id => mem_reachableFrom_iff contained⟩
  rw [reachableIds, starts]
  exact if_pos (mem_vertices_of_contains contained)

end Flow

end ChartGuide
