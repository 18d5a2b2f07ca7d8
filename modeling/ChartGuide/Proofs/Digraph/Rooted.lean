/-
**A search of a graph in which one vertex leads to all others.**

If that vertex is the first root, it is opened first and stays the outermost open vertex until
everything is closed that it leads to. So it is closed last, and nothing is left for the other
roots. The open vertices form a path of arcs that are no back arcs, so along such arcs the root
leads to every vertex. No such arc leads into the root, since they lead onward in the closing order.

* `Search.Rooted`: where such a search stands, and `Search.Rooted.move`: one step.
* `Digraph.rooted_fullSearch`: the whole search.
* `Digraph.not_leads_root`, `Digraph.path_from_root`: what the arcs do that are no back arcs.
-/

import ChartGuide.Proofs.Digraph.Cycles

namespace ChartGuide

open Relation

namespace Search

variable {graph : Digraph} {search next : Search} {root : String}

/-! ### Stages -/

/-- Where a search stands whose first root leads to all vertices: it has not begun, or the root is
the outermost open vertex, or everything is closed and the root was closed last. -/
inductive Stage (root : String) (search : Search) : Prop
  | before (atEnd : search.path = []) (first : search.roots.head? = some root)
      (fresh : root ∈ search.freshIds)
  | within (outermost : search.pathIds.getLast? = some root)
  | after (atEnd : search.path = []) (last : search.closed.head? = some root)
      (visited : search.freshIds = [])

/-- Without open vertices there is no outermost one. -/
theorem getLast?_pathIds_ne (atEnd : search.path = []) : search.pathIds.getLast? ≠ some root := by
  simp [pathIds, atEnd]

namespace Stage

/-- While some vertex is open the root is, and it is the outermost one. -/
theorem outermost (stage : search.Stage root) {frame : String × List String}
    {path : List (String × List String)} (top : search.path = frame :: path) :
    search.pathIds.getLast? = some root := by
  cases stage with
  | before atEnd _ _ => cases top.symm.trans atEnd
  | within outermost => exact outermost
  | after atEnd _ _ => cases top.symm.trans atEnd

/-- The first root is not dropped, for it is fresh. -/
theorem dropRoot (stage : search.Stage root) (atEnd : search.path = []) {dropped : String}
    {roots : List String} (first : search.roots = dropped :: roots)
    (known : search.fresh.lookup dropped = none) : Stage root { search with roots := roots } := by
  cases stage with
  | before _ isFirst fresh =>
    rw [first] at isFirst
    obtain rfl : dropped = root := Option.some.inj isFirst
    exact absurd fresh (not_fresh_of_lookup_eq_none known)
  | within outermost => exact absurd outermost (getLast?_pathIds_ne atEnd)
  | after _ last visited => exact .after atEnd last visited

/-- No other root is opened, for by then none is fresh. -/
theorem openRoot (stage : search.Stage root) (atEnd : search.path = []) {opened : String}
    {roots successors : List String} (first : search.roots = opened :: roots)
    (found : search.fresh.lookup opened = some successors) :
    Stage root ({ search with roots := roots }.visit opened successors) := by
  cases stage with
  | before _ isFirst _ =>
    rw [first] at isFirst
    obtain rfl : opened = root := Option.some.inj isFirst
    refine .within ?_
    show (opened :: search.pathIds).getLast? = some opened
    rw [pathIds, atEnd]
    rfl
  | within outermost => exact absurd outermost (getLast?_pathIds_ne atEnd)
  | after _ _ visited =>
    have fresh : opened ∈ search.freshIds :=
      List.mem_map.mpr ⟨_, Table.mem_of_lookup_eq_some found, rfl⟩
    rw [visited] at fresh
    cases fresh

/-- A vertex is opened inside of the root. -/
theorem openNext (stage : search.Stage root) {vertex target : String}
    {later successors : List String} {path : List (String × List String)}
    (top : search.path = (vertex, target :: later) :: path) :
    Stage root ({ search with path := (vertex, later) :: path }.visit target successors) := by
  have outermost := stage.outermost top
  rw [Explores.pathIds_eq_cons top] at outermost
  refine .within ?_
  show (target :: vertex :: path.map Prod.fst).getLast? = some root
  rw [List.getLast?_cons_cons, outermost]

theorem leaveArc (stage : search.Stage root) {vertex target : String} {later : List String}
    {path : List (String × List String)} (top : search.path = (vertex, target :: later) :: path)
    (back : List (String × String)) :
    Stage root { search with path := (vertex, later) :: path, back := back } := by
  have outermost := stage.outermost top
  rw [Explores.pathIds_eq_cons top] at outermost
  exact .within outermost

end Stage

/-- When nothing is open any more and the root is closed, everything is. -/
theorem Explores.freshIds_eq_nil (explores : search.Explores graph) (sound : graph.WellFormed)
    (connected : ∀ vertex ∈ graph.vertices, ReflTransGen graph.Leads root vertex)
    (noPath : search.path = []) (rootClosed : root ∈ search.closed) : search.freshIds = [] := by
  refine List.eq_nil_iff_forall_not_mem.mpr fun vertex fresh => ?_
  have member : vertex ∈ graph.vertices :=
    explores.parts.mem_iff.mp (List.mem_append_left _ fresh)
  have closed := explores.closed_of_path sound noPath rootClosed (connected vertex member)
  exact (List.nodup_append.mp (explores.distinct sound)).2.2 vertex fresh vertex
    (List.mem_append_right _ closed) rfl

/-- Closing the innermost vertex. It is the root only if no other vertex is open. -/
theorem Stage.close (stage : search.Stage root) (explores : search.Explores graph)
    (sound : graph.WellFormed)
    (connected : ∀ vertex ∈ graph.vertices, ReflTransGen graph.Leads root vertex) {vertex : String}
    {path : List (String × List String)} (top : search.path = (vertex, []) :: path) :
    Stage root { search with path := path, closed := vertex :: search.closed } := by
  have outermost := stage.outermost top
  rw [Explores.pathIds_eq_cons top] at outermost
  cases path with
  | nil =>
    obtain rfl : vertex = root := Option.some.inj outermost
    have visited := (explores.close sound top).freshIds_eq_nil sound connected rfl
      List.mem_cons_self
    exact .after rfl rfl visited
  | cons frame outer => exact .within (List.getLast?_cons_cons ▸ outermost)

/-! ### One step -/

/-- What a search keeps whose first root leads to all vertices. -/
structure Rooted (graph : Digraph) (root : String) (search : Search) : Prop where
  explores : search.Explores graph
  stage : search.Stage root
  closed_reached : ∀ vertex ∈ search.closed, ReflTransGen (search.Onward graph) root vertex

/-- The root leads to the innermost open vertex. -/
theorem Rooted.path_top (rooted : search.Rooted graph root) {vertex : String}
    {listed : List String} {path : List (String × List String)}
    (top : search.path = (vertex, listed) :: path) :
    ReflTransGen (search.Onward graph) root vertex :=
  rooted.explores.onward_innermost top
    (List.mem_of_getLast? (rooted.stage.outermost top))

/-- **One step.** -/
theorem Rooted.move (rooted : search.Rooted graph root) (sound : graph.WellFormed)
    (connected : ∀ vertex ∈ graph.vertices, ReflTransGen graph.Leads root vertex)
    (moved : Move search next) : next.Rooted graph root := by
  have stays : ∀ {vertex : String}, ReflTransGen (search.Onward graph) root vertex →
      ReflTransGen (next.Onward graph) root vertex := fun path =>
    ReflTransGen.mono (fun _ _ => rooted.explores.onward_move sound moved) _ _ path
  refine ⟨rooted.explores.move sound moved, ?_, ?_⟩
  · cases moved with
    | dropRoot atEnd first known => exact rooted.stage.dropRoot atEnd first known
    | openRoot atEnd first found => exact rooted.stage.openRoot atEnd first found
    | close top => exact rooted.stage.close rooted.explores sound connected top
    | openNext top _ => exact rooted.stage.openNext top
    | meet top _ => exact rooted.stage.leaveArc top _
    | pass top _ _ => exact rooted.stage.leaveArc top search.back
  · intro vertex closed
    cases moved with
    | close top =>
      rcases List.mem_cons.mp closed with rfl | before
      · exact stays (rooted.path_top top)
      · exact stays (rooted.closed_reached vertex before)
    | _ => exact stays (rooted.closed_reached vertex closed)

end Search

namespace Digraph

variable {graph : Digraph} {root : String}

section Root

variable (sound : graph.WellFormed) (member : root ∈ graph.vertices)
  (connected : ∀ vertex ∈ graph.vertices, ReflTransGen graph.Leads root vertex)
include sound member connected

/-- **A whole search.** Nothing is left to do, so everything is closed. -/
theorem rooted_fullSearch :
    (graph.fullSearch (some root)).Rooted graph root ∧
      (graph.fullSearch (some root)).closed.head? = some root := by
  obtain ⟨rooted, ended⟩ := Search.run_induction (motive := Search.Rooted graph root)
    (fun search next moved rooted => rooted.move sound connected moved) _
    { explores := graph.explores_start ((some root).toList ++ graph.vertices)
      stage := .before rfl rfl (by simpa [Search.freshIds, Function.comp_def] using member)
      closed_reached := fun _ none => absurd none List.not_mem_nil }
  obtain ⟨noPath, noRoots⟩ := Search.ended_of_step?_eq_none ended
  refine ⟨rooted, ?_⟩
  cases rooted.stage with
  | before _ first _ =>
    rw [noRoots] at first
    cases first
  | within outermost => exact absurd outermost (Search.getLast?_pathIds_ne noPath)
  | after _ last _ => exact last

/-- Only back arcs lead into the root. -/
theorem not_leads_root (source : String) :
    ¬ (graph.without (graph.backArcs (some root))).Leads source root := by
  intro leads
  have sorted := topological_closingOrder sound (some root)
  -- The root was closed last, so nothing comes before it in the closing order.
  have last := (rooted_fullSearch sound member connected).2
  obtain ⟨later, order⟩ := List.head?_eq_some_iff.mp last
  have before := sorted.onward source root leads
  rw [closingOrder, order, List.idxOf_cons_self] at before
  exact Nat.not_lt_zero _ before

/-- **The root leads to every vertex along arcs that are no back arcs.** -/
theorem path_from_root {vertex : String} (inside : vertex ∈ graph.vertices) :
    ReflTransGen (graph.without (graph.backArcs (some root))).Leads root vertex := by
  have closed : vertex ∈ (graph.fullSearch (some root)).closed :=
    (perm_closingOrder sound (some root)).mem_iff.mpr inside
  have path := (rooted_fullSearch sound member connected).1.closed_reached vertex closed
  refine ReflTransGen.mono (fun _ _ onward => ?_) _ _ path
  exact (graph.leads_without_iff _).mpr ⟨onward.1, onward.2.1⟩

end Root

end Digraph

end ChartGuide
