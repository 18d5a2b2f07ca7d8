/-
**What a depth-first search keeps.**

A search splits the vertices into fresh, open and closed ones. Its open vertices form a path of
arcs. An arc that it has looked at is a back arc, or its target is closed, or it is the arc by which
the path goes on. So a closed vertex has all its other arcs lead to vertices closed before, and a
back arc leads to an open vertex, from which the path leads on to where the back arc begins.

* `Search.Move`, `Search.move_of_step?`: what one step can do.
* `Search.Explores.move`: what one step keeps; `Search.run_induction`: so a whole search keeps it.
* `Search.Explores.onward_move`: an arc that is known to be no back arc stays so.
* `Digraph.explores_search`, `Digraph.perm_closingOrder`: the end of a search, and what is closed
  when the whole graph was searched.
-/

import ChartGuide.Digraph.Search
import ChartGuide.Proofs.Digraph.Paths

namespace ChartGuide

open Relation

namespace Search

variable {graph : Digraph} {search next : Search}

/-! ### One step -/

/-- What one step of a search can do. -/
inductive Move : Search → Search → Prop
  | dropRoot {search : Search} {root : String} {roots : List String} (atEnd : search.path = [])
      (first : search.roots = root :: roots) (known : search.fresh.lookup root = none) :
      Move search { search with roots := roots }
  | openRoot {search : Search} {root : String} {roots successors : List String}
      (atEnd : search.path = []) (first : search.roots = root :: roots)
      (found : search.fresh.lookup root = some successors) :
      Move search ({ search with roots := roots }.visit root successors)
  | close {search : Search} {vertex : String} {path : List (String × List String)}
      (top : search.path = (vertex, []) :: path) :
      Move search { search with path := path, closed := vertex :: search.closed }
  | openNext {search : Search} {vertex target : String} {later successors : List String}
      {path : List (String × List String)} (top : search.path = (vertex, target :: later) :: path)
      (found : search.fresh.lookup target = some successors) :
      Move search ({ search with path := (vertex, later) :: path }.visit target successors)
  | meet {search : Search} {vertex target : String} {later : List String}
      {path : List (String × List String)} (top : search.path = (vertex, target :: later) :: path)
      (isOpen : target ∈ search.path.map Prod.fst) :
      Move search
        { search with path := (vertex, later) :: path, back := search.back ++ [(vertex, target)] }
  | pass {search : Search} {vertex target : String} {later : List String}
      {path : List (String × List String)} (top : search.path = (vertex, target :: later) :: path)
      (known : search.fresh.lookup target = none) (notOpen : target ∉ search.path.map Prod.fst) :
      Move search { search with path := (vertex, later) :: path }

theorem isOpen_iff (search : Search) (vertex : String) :
    search.isOpen vertex = true ↔ vertex ∈ search.path.map Prod.fst := by
  simp [isOpen]

theorem move_of_step? (stepped : search.step? = some next) : Move search next := by
  unfold step? at stepped
  split at stepped
  · next atEnd =>
    split at stepped
    · cases stepped
    · next root roots first =>
      split at stepped
      · next successors found =>
        obtain rfl := Option.some.inj stepped
        exact .openRoot atEnd first found
      · next known =>
        obtain rfl := Option.some.inj stepped
        exact .dropRoot atEnd first known
  · next vertex path top =>
    obtain rfl := Option.some.inj stepped
    exact .close top
  · next vertex target later path top =>
    split at stepped
    · next successors found =>
      obtain rfl := Option.some.inj stepped
      exact .openNext top found
    · next known =>
      have sameIds : ((vertex, later) :: path).map Prod.fst = search.path.map Prod.fst := by
        rw [top]
        rfl
      dsimp only at stepped
      split at stepped
      · next isOpen =>
        obtain rfl := Option.some.inj stepped
        have inPath := (isOpen_iff _ target).mp isOpen
        rw [sameIds] at inPath
        exact .meet top inPath
      · next notOpen =>
        obtain rfl := Option.some.inj stepped
        have notInPath := mt (isOpen_iff _ target).mpr notOpen
        rw [sameIds] at notInPath
        exact .pass top known notInPath

/-- A search is over when it has neither open vertices nor roots. -/
theorem ended_of_step?_eq_none (ended : search.step? = none) :
    search.path = [] ∧ search.roots = [] := by
  unfold step? at ended
  split at ended
  · next atEnd =>
    split at ended
    · next noRoots => exact ⟨atEnd, noRoots⟩
    · split at ended <;> cases ended
  · cases ended
  · split at ended
    · cases ended
    · dsimp only at ended
      split at ended <;> cases ended

/-- **A run of steps.** What every step keeps holds at the end, where no step is left. -/
theorem run_induction {motive : Search → Prop}
    (keeps : ∀ search next, Move search next → motive search → motive next) (search : Search)
    (start : motive search) : motive search.run ∧ search.run.step? = none := by
  induction search using run.induct with
  | case1 search next stepped ih =>
    rw [run, stepped]
    exact ih (keeps search next (move_of_step? stepped) start)
  | case2 search ended =>
    rw [run, ended]
    exact ⟨start, ended⟩

/-! ### What a step keeps -/

/-- The vertices not visited yet. -/
def freshIds (search : Search) : List String := search.fresh.map Prod.fst

/-- The open vertices, from the innermost out. -/
def pathIds (search : Search) : List String := search.path.map Prod.fst

/-- Whether the path goes on from one vertex right to another. -/
def PathStep (search : Search) (source target : String) : Prop :=
  [target, source] <:+: search.pathIds

/-- Whether an arc can be one that was looked at: its target is closed, it is a back arc, or the path
goes on by it. -/
def Passed (search : Search) (source target : String) : Prop :=
  target ∈ search.closed ∨ (source, target) ∈ search.back ∨ search.PathStep source target

/-- Whether an arc is known to be no back arc: its target is closed, or the path goes on by it. -/
def Onward (graph : Digraph) (search : Search) (source target : String) : Prop :=
  graph.Leads source target ∧ (source, target) ∉ search.back ∧
    (target ∈ search.closed ∨ search.PathStep source target)

/-- What a search of a graph keeps from step to step. -/
structure Explores (graph : Digraph) (search : Search) : Prop where
  parts : (search.freshIds ++ (search.pathIds ++ search.closed)).Perm graph.vertices
  fresh_eq : ∀ entry ∈ search.fresh, entry.2 = graph.successors entry.1
  path_leads : ∀ source target, search.PathStep source target →
    graph.Leads source target ∧ (source, target) ∉ search.back
  later_leads : ∀ frame ∈ search.path, ∀ target ∈ frame.2, graph.Leads frame.1 target
  looked : ∀ frame ∈ search.path, ∀ target, graph.Leads frame.1 target →
    target ∈ frame.2 ∨ search.Passed frame.1 target
  closed_after : ∀ before vertex after, search.closed = before ++ vertex :: after →
    ∀ target, graph.Leads vertex target → target ∈ after ∨ (vertex, target) ∈ search.back
  back_leads : ∀ source target, (source, target) ∈ search.back → graph.Leads source target
  back_visited : ∀ source target, (source, target) ∈ search.back → target ∉ search.freshIds
  back_returns : ∀ source target, (source, target) ∈ search.back →
    ReflTransGen (search.Onward graph) target source

theorem not_fresh_of_lookup_eq_none {vertex : String}
    (known : search.fresh.lookup vertex = none) : vertex ∉ search.freshIds := by
  intro fresh
  obtain ⟨entry, member, rfl⟩ := List.mem_map.mp fresh
  simpa using List.lookup_eq_none_iff.mp known entry member

/-- An arc of a list with one more is in the list or is the new one. -/
theorem mem_append_arc {arcs : List (String × String)} {source target vertex next : String}
    (member : (source, target) ∈ arcs ++ [(vertex, next)]) :
    (source, target) ∈ arcs ∨ source = vertex ∧ target = next := by
  rcases List.mem_append.mp member with old | new
  · exact .inl old
  · exact .inr (Prod.mk.inj (List.mem_singleton.mp new))

/-- Nothing goes on from the innermost vertex of a path without repetitions. -/
theorem not_infix_of_nodup {source target : String} {outer : List String}
    (distinct : (source :: outer).Nodup) : ¬ [target, source] <:+: source :: outer := by
  intro within
  have sourceNew := (List.nodup_cons.mp distinct).1
  rcases List.infix_cons_iff.mp within with front | further
  · obtain ⟨_, tail⟩ := List.cons_prefix_cons.mp front
    exact sourceNew (tail.subset List.mem_cons_self)
  · exact sourceNew (further.subset (List.mem_cons_of_mem _ List.mem_cons_self))

/-- A path leads from each of its vertices to the innermost one. -/
theorem reaches_innermost {Goes : String → String → Prop} {inner : String} :
    ∀ {outer : List String}, (∀ source target, [target, source] <:+: inner :: outer →
      Goes source target) → ∀ vertex ∈ inner :: outer, ReflTransGen Goes vertex inner
  | [], _, vertex, member => by
    rw [List.mem_singleton.mp member]
  | second :: rest, goes, vertex, member => by
    rcases List.mem_cons.mp member with rfl | further
    · exact .refl
    · have last : Goes second inner := goes second inner ⟨[], rest, rfl⟩
      have before := reaches_innermost
        (fun source target within => goes source target (List.infix_cons within)) vertex further
      exact before.tail last

/-- A vertex is still fresh after a visit if it is not the one that was visited. -/
theorem mem_freshIds_visit_iff {id vertex : String} {successors : List String} :
    id ∈ (search.visit vertex successors).freshIds ↔ id ∈ search.freshIds ∧ id ≠ vertex := by
  simp only [freshIds, visit, List.mem_map, List.mem_filter, bne_iff_ne]
  constructor
  · rintro ⟨entry, ⟨member, different⟩, rfl⟩
    exact ⟨⟨entry, member, rfl⟩, different⟩
  · rintro ⟨⟨entry, member, rfl⟩, different⟩
    exact ⟨entry, ⟨member, different⟩, rfl⟩

/-- Visiting a vertex takes it out of the fresh ones. -/
theorem freshIds_perm_visit {vertex : String} {successors : List String}
    (distinct : search.freshIds.Nodup) (found : search.fresh.lookup vertex = some successors) :
    search.freshIds.Perm (vertex :: (search.visit vertex successors).freshIds) := by
  have member : vertex ∈ search.freshIds :=
    List.mem_map.mpr ⟨_, Table.mem_of_lookup_eq_some found, rfl⟩
  have rest : (search.visit vertex successors).freshIds = search.freshIds.erase vertex := by
    rw [distinct.erase_eq_filter, freshIds, freshIds, List.filter_map]
    rfl
  rw [rest]
  exact List.perm_cons_erase member

namespace Explores

theorem distinct (explores : search.Explores graph) (sound : graph.WellFormed) :
    (search.freshIds ++ (search.pathIds ++ search.closed)).Nodup :=
  explores.parts.nodup_iff.mpr sound.vertices_nodup

theorem pathIds_nodup (explores : search.Explores graph) (sound : graph.WellFormed) :
    search.pathIds.Nodup :=
  (List.nodup_append.mp (List.nodup_append.mp (explores.distinct sound)).2.1).1

theorem not_closed_of_open (explores : search.Explores graph) (sound : graph.WellFormed)
    {vertex : String} (isOpen : vertex ∈ search.pathIds) : vertex ∉ search.closed :=
  fun closed => (List.nodup_append.mp (List.nodup_append.mp (explores.distinct sound)).2.1).2.2
    vertex isOpen vertex closed rfl

theorem not_fresh_of_open (explores : search.Explores graph) (sound : graph.WellFormed)
    {vertex : String} (isOpen : vertex ∈ search.pathIds) : vertex ∉ search.freshIds :=
  fun fresh => (List.nodup_append.mp (explores.distinct sound)).2.2 vertex fresh vertex
    (List.mem_append_left _ isOpen) rfl

/-- A vertex that is neither fresh nor open is closed. -/
theorem closed_of_mem (explores : search.Explores graph) {vertex : String}
    (member : vertex ∈ graph.vertices) (notFresh : vertex ∉ search.freshIds)
    (notOpen : vertex ∉ search.pathIds) : vertex ∈ search.closed := by
  have part := explores.parts.mem_iff.mpr member
  rw [List.mem_append, List.mem_append] at part
  exact (part.resolve_left notFresh).resolve_left notOpen

/-- Where no vertex is open, closed vertices only lead to closed ones. -/
theorem closed_of_leads (explores : search.Explores graph) (sound : graph.WellFormed)
    (noPath : search.path = []) {source target : String} (closed : source ∈ search.closed)
    (leads : graph.Leads source target) : target ∈ search.closed := by
  obtain ⟨before, after, split⟩ := List.append_of_mem closed
  rcases explores.closed_after before source after split target leads with later | back
  · rw [split]
    exact List.mem_append_right _ (List.mem_cons_of_mem _ later)
  · refine explores.closed_of_mem (sound.target_mem _ _ leads)
      (explores.back_visited source target back) ?_
    rw [pathIds, noPath]
    exact List.not_mem_nil

theorem closed_of_path (explores : search.Explores graph) (sound : graph.WellFormed)
    (noPath : search.path = []) {source target : String} (closed : source ∈ search.closed)
    (path : ReflTransGen graph.Leads source target) : target ∈ search.closed := by
  induction path with
  | refl => exact closed
  | tail _ leads ih => exact explores.closed_of_leads sound noPath ih leads

/-! ### The innermost open vertex -/

section Top

variable {vertex target : String} {listed later : List String} {path : List (String × List String)}

theorem pathIds_eq_cons (top : search.path = (vertex, listed) :: path) :
    search.pathIds = vertex :: path.map Prod.fst := by
  rw [pathIds, top, List.map_cons]

/-- The path does not go on from its innermost vertex. -/
theorem not_pathStep_top (explores : search.Explores graph) (sound : graph.WellFormed)
    (top : search.path = (vertex, listed) :: path) (other : String) :
    ¬ search.PathStep vertex other := by
  have ids := pathIds_eq_cons top
  rw [PathStep, ids]
  exact not_infix_of_nodup (ids ▸ explores.pathIds_nodup sound)

theorem onward_of_pathStep (explores : search.Explores graph) {source target : String}
    (step : search.PathStep source target) : search.Onward graph source target :=
  ⟨(explores.path_leads source target step).1, (explores.path_leads source target step).2, .inr step⟩

/-- The path leads from each open vertex to the innermost one, along arcs that are no back arcs. -/
theorem onward_innermost (explores : search.Explores graph)
    (top : search.path = (vertex, listed) :: path) {outer : String}
    (isOpen : outer ∈ search.pathIds) : ReflTransGen (search.Onward graph) outer vertex := by
  have ids := pathIds_eq_cons top
  refine reaches_innermost (fun source target within => ?_) outer (ids ▸ isOpen)
  exact explores.onward_of_pathStep (by rw [PathStep, ids]; exact within)

theorem leads_next (explores : search.Explores graph)
    (top : search.path = (vertex, target :: later) :: path) : graph.Leads vertex target :=
  explores.later_leads _ (top ▸ List.mem_cons_self) target List.mem_cons_self

theorem later_leads_rest (explores : search.Explores graph)
    (top : search.path = (vertex, target :: later) :: path) :
    ∀ frame ∈ (vertex, later) :: path, ∀ other ∈ frame.2, graph.Leads frame.1 other := by
  intro frame member other listed
  rcases List.mem_cons.mp member with rfl | outer
  · exact explores.later_leads (vertex, target :: later) (top ▸ List.mem_cons_self) other
      (List.mem_cons_of_mem _ listed)
  · exact explores.later_leads frame (top ▸ List.mem_cons_of_mem _ outer) other listed

/-- When the innermost vertex takes its next target, only that arc is left to be looked at. -/
theorem looked_rest (explores : search.Explores graph)
    (top : search.path = (vertex, target :: later) :: path) :
    ∀ frame ∈ (vertex, later) :: path, ∀ other, graph.Leads frame.1 other →
      other ∈ frame.2 ∨ search.Passed frame.1 other ∨ (frame.1, other) = (vertex, target) := by
  intro frame member other leads
  rcases List.mem_cons.mp member with rfl | outer
  · rcases explores.looked (vertex, target :: later) (top ▸ List.mem_cons_self) other leads with
      listed | passed
    · rcases List.mem_cons.mp listed with rfl | listed
      · exact .inr (.inr rfl)
      · exact .inl listed
    · exact .inr (.inl passed)
  · exact (explores.looked frame (top ▸ List.mem_cons_of_mem _ outer) other leads).imp_right .inl

end Top

/-! ### The path and the onward arcs after each move -/

/-- After a visit the path goes on to the visited vertex, and otherwise as before. -/
theorem pathStep_visit_iff (roots : List String) {path : List (String × List String)}
    {target : String} {successors : List String} (sameIds : path.map Prod.fst = search.pathIds)
    (source other : String) :
    ({ search with roots := roots, path := path }.visit target successors).PathStep source other ↔
      (other = target ∧ search.pathIds.head? = some source) ∨ search.PathStep source other := by
  have nextIds : ({ search with roots := roots, path := path }.visit target successors).pathIds =
      target :: search.pathIds := congrArg (target :: ·) sameIds
  rw [PathStep, nextIds, List.infix_cons_iff, List.cons_prefix_cons, PathStep]
  cases search.pathIds with
  | nil => simp
  | cons top outer => simp [eq_comm]

theorem onward_visit (roots : List String) {path : List (String × List String)}
    {target : String} {successors : List String} (sameIds : path.map Prod.fst = search.pathIds)
    {source other : String} (onward : search.Onward graph source other) :
    ({ search with roots := roots, path := path }.visit target successors).Onward graph
      source other :=
  ⟨onward.1, onward.2.1,
    onward.2.2.imp_right fun step => (pathStep_visit_iff roots sameIds source other).mpr (.inr step)⟩

/-- The path stays as it is when its innermost vertex looks at its next target. -/
theorem pathStep_rest {vertex target : String} {later : List String}
    {path : List (String × List String)} (top : search.path = (vertex, target :: later) :: path)
    (back : List (String × String)) :
    PathStep { search with path := (vertex, later) :: path, back := back } = search.PathStep := by
  funext source other
  rw [PathStep, PathStep, pathIds_eq_cons top]
  rfl

/-- Where the path went on to its innermost vertex, that is closed when the vertex is. -/
theorem settled_close {vertex : String} {path : List (String × List String)}
    (top : search.path = (vertex, []) :: path) {source target : String}
    (settled : target ∈ search.closed ∨ search.PathStep source target) :
    target ∈ vertex :: search.closed ∨ [target, source] <:+: path.map Prod.fst := by
  rcases settled with closed | step
  · exact .inl (List.mem_cons_of_mem _ closed)
  · rw [PathStep, pathIds_eq_cons top] at step
    refine (List.infix_cons_iff.mp step).imp_left fun front => ?_
    rw [(List.cons_prefix_cons.mp front).1]
    exact List.mem_cons_self

/-- An arc known to be no back arc is not the new one, whose target is open and whose source is
innermost. -/
theorem onward_meet (explores : search.Explores graph) (sound : graph.WellFormed)
    {vertex target : String} {later : List String} {path : List (String × List String)}
    (top : search.path = (vertex, target :: later) :: path)
    (isOpen : target ∈ search.path.map Prod.fst) {source other : String}
    (onward : search.Onward graph source other) :
    Onward graph
      { search with path := (vertex, later) :: path, back := search.back ++ [(vertex, target)] }
      source other := by
  obtain ⟨leads, old, settled⟩ := onward
  refine ⟨leads, fun back => ?_, settled.imp_right fun step => pathStep_rest top _ ▸ step⟩
  rcases mem_append_arc back with back | ⟨rfl, rfl⟩
  · exact old back
  · rcases settled with closed | step
    · exact explores.not_closed_of_open sound isOpen closed
    · exact explores.not_pathStep_top sound top other step

/-- **An arc that is known to be no back arc stays so**, whatever the search does next. -/
theorem onward_move (explores : search.Explores graph) (sound : graph.WellFormed)
    (moved : Move search next) {source target : String}
    (onward : search.Onward graph source target) : next.Onward graph source target := by
  cases moved with
  | dropRoot _ _ _ => exact onward
  | openRoot _ _ _ => exact onward_visit _ rfl onward
  | close top => exact ⟨onward.1, onward.2.1, settled_close top onward.2.2⟩
  | @openNext vertex _ later _ path top _ =>
    have sameIds : ((vertex, later) :: path).map Prod.fst = search.pathIds :=
      (pathIds_eq_cons top).symm
    exact onward_visit search.roots sameIds onward
  | meet top isOpen => exact explores.onward_meet sound top isOpen onward
  | pass top _ _ =>
    have stays := pathStep_rest top search.back
    exact ⟨onward.1, onward.2.1, onward.2.2.imp_right fun step => stays ▸ step⟩

/-! ### What each move keeps -/

theorem dropRoot (explores : search.Explores graph) (roots : List String) :
    Explores graph { search with roots := roots } :=
  { explores with }

/-- Opening a fresh vertex. Either there is no path yet, or the innermost vertex leads to it and has
looked at all else that it no longer lists. -/
theorem visit (explores : search.Explores graph) (sound : graph.WellFormed) (roots : List String)
    (path : List (String × List String)) {target : String} {successors : List String}
    (found : search.fresh.lookup target = some successors)
    (sameIds : path.map Prod.fst = search.pathIds)
    (joins : ∀ top, search.pathIds.head? = some top → graph.Leads top target)
    (later_leads : ∀ frame ∈ path, ∀ other ∈ frame.2, graph.Leads frame.1 other)
    (looked : ∀ frame ∈ path, ∀ other, graph.Leads frame.1 other →
      other ∈ frame.2 ∨ search.Passed frame.1 other ∨
        (other = target ∧ search.pathIds.head? = some frame.1)) :
    Explores graph ({ search with roots := roots, path := path }.visit target successors) := by
  have freshNodup : search.freshIds.Nodup := (List.nodup_append.mp (explores.distinct sound)).1
  have opened : search.freshIds.Perm
      (target :: ({ search with roots := roots, path := path }.visit target successors).freshIds) :=
    freshIds_perm_visit freshNodup found
  have targetFresh : target ∈ search.freshIds := opened.mem_iff.mpr List.mem_cons_self
  have nextIds : ({ search with roots := roots, path := path }.visit target successors).pathIds =
      target :: search.pathIds := congrArg (target :: ·) sameIds
  have nextStep := @pathStep_visit_iff search roots path target successors sameIds
  have ownSuccessors : successors = graph.successors target :=
    explores.fresh_eq _ (Table.mem_of_lookup_eq_some found)
  refine
    { parts := ?_, fresh_eq := ?_, path_leads := ?_, later_leads := ?_, looked := ?_
      closed_after := explores.closed_after, back_leads := explores.back_leads
      back_visited := ?_, back_returns := ?_ }
  · rw [nextIds]
    refine List.perm_middle.trans (List.Perm.trans ?_ explores.parts)
    exact opened.symm.append_right _
  · intro entry member
    exact explores.fresh_eq entry (List.mem_filter.mp member).1
  · intro source other step
    rcases (nextStep source other).mp step with ⟨rfl, top⟩ | step
    · exact ⟨joins source top, fun back => explores.back_visited _ _ back targetFresh⟩
    · exact explores.path_leads source other step
  · intro frame member other listed
    rcases List.mem_cons.mp member with rfl | member
    · exact graph.mem_successors_iff.mp (ownSuccessors ▸ listed)
    · exact later_leads frame member other listed
  · intro frame member other leads
    rcases List.mem_cons.mp member with rfl | member
    · exact .inl (ownSuccessors ▸ graph.mem_successors_iff.mpr leads)
    · rcases looked frame member other leads with listed | passed | top
      · exact .inl listed
      · exact .inr (passed.imp_right (Or.imp_right fun step => (nextStep _ _).mpr (.inr step)))
      · exact .inr (.inr (.inr ((nextStep _ _).mpr (.inl top))))
  · intro source other back fresh
    exact explores.back_visited source other back
      (opened.mem_iff.mpr (List.mem_cons_of_mem _ fresh))
  · intro source other back
    refine ReflTransGen.mono (fun _ _ onward => ?_) _ _ (explores.back_returns source other back)
    exact onward_visit roots sameIds onward

theorem openRoot (explores : search.Explores graph) (sound : graph.WellFormed)
    {root : String} {roots successors : List String} (atEnd : search.path = [])
    (found : search.fresh.lookup root = some successors) :
    Explores graph ({ search with roots := roots }.visit root successors) := by
  have noPath : search.pathIds = [] := by rw [pathIds, atEnd, List.map_nil]
  have opened := explores.visit sound roots [] found noPath.symm
    (fun top first => by simp [noPath] at first) (fun _ none => absurd none List.not_mem_nil)
    (fun _ none => absurd none List.not_mem_nil)
  rwa [← atEnd] at opened

theorem openNext (explores : search.Explores graph) (sound : graph.WellFormed)
    {vertex target : String} {later successors : List String} {path : List (String × List String)}
    (top : search.path = (vertex, target :: later) :: path)
    (found : search.fresh.lookup target = some successors) :
    Explores graph ({ search with path := (vertex, later) :: path }.visit target successors) := by
  have ids := pathIds_eq_cons top
  refine explores.visit sound search.roots _ found ids.symm ?_
    (explores.later_leads_rest top) ?_
  · intro outer first
    obtain rfl : vertex = outer := by simpa [ids] using first
    exact explores.leads_next top
  · intro frame member other leads
    refine (explores.looked_rest top frame member other leads).imp_right (Or.imp_right ?_)
    intro next
    obtain ⟨same, rfl⟩ := Prod.mk.inj next
    exact ⟨rfl, by rw [ids, same, List.head?_cons]⟩

/-- Closing the innermost vertex, which has looked at all its arcs. -/
theorem close (explores : search.Explores graph) (sound : graph.WellFormed) {vertex : String}
    {path : List (String × List String)} (top : search.path = (vertex, []) :: path) :
    Explores graph { search with path := path, closed := vertex :: search.closed } := by
  have ids := pathIds_eq_cons top
  have inner : ∀ frame ∈ path, frame ∈ search.path := fun frame member =>
    top ▸ List.mem_cons_of_mem _ member
  have oldStep : ∀ source target, [target, source] <:+: path.map Prod.fst →
      search.PathStep source target := fun source target within => by
    rw [PathStep, ids]
    exact List.infix_cons within
  refine
    { parts := ?_, fresh_eq := explores.fresh_eq, path_leads := ?_, later_leads := ?_, looked := ?_
      closed_after := ?_, back_leads := explores.back_leads
      back_visited := explores.back_visited, back_returns := ?_ }
  · refine List.Perm.trans ?_ explores.parts
    rw [ids]
    exact List.perm_middle.append_left _
  · exact fun source target step => explores.path_leads source target (oldStep source target step)
  · exact fun frame member => explores.later_leads frame (inner frame member)
  · intro frame member target leads
    rcases explores.looked frame (inner frame member) target leads with
      listed | closed | back | step
    · exact .inl listed
    · exact .inr ((settled_close top (.inl closed)).imp_right .inr)
    · exact .inr (.inr (.inl back))
    · exact .inr ((settled_close top (.inr step)).imp_right .inr)
  · intro before other after split target leads
    cases before with
    | nil =>
      obtain ⟨rfl, rfl⟩ := List.cons.inj split
      rcases explores.looked _ (top ▸ List.mem_cons_self) target leads with
        listed | closed | back | step
      · exact absurd listed List.not_mem_nil
      · exact .inl closed
      · exact .inr back
      · exact absurd step (explores.not_pathStep_top sound top target)
    | cons first before =>
      exact explores.closed_after before other after (List.cons.inj split).2 target leads
  · intro source target back
    refine ReflTransGen.mono (fun _ _ onward => ?_) _ _ (explores.back_returns source target back)
    exact explores.onward_move sound (.close top) onward

/-- Meeting an open vertex: the path leads from there to the innermost one. -/
theorem meet (explores : search.Explores graph) (sound : graph.WellFormed) {vertex target : String}
    {later : List String} {path : List (String × List String)}
    (top : search.path = (vertex, target :: later) :: path)
    (isOpen : target ∈ search.path.map Prod.fst) :
    Explores graph
      { search with path := (vertex, later) :: path, back := search.back ++ [(vertex, target)] } := by
  have ids := pathIds_eq_cons top
  have sameStep := pathStep_rest top (search.back ++ [(vertex, target)])
  refine
    { parts := ?_, fresh_eq := explores.fresh_eq, path_leads := ?_
      later_leads := explores.later_leads_rest top, looked := ?_, closed_after := ?_
      back_leads := ?_, back_visited := ?_, back_returns := ?_ }
  · refine List.Perm.trans ?_ explores.parts
    rw [ids]
    exact .rfl
  · intro source other step
    rw [sameStep] at step
    have onward := explores.onward_meet sound top isOpen (explores.onward_of_pathStep step)
    exact ⟨onward.1, onward.2.1⟩
  · intro frame member other leads
    rcases explores.looked_rest top frame member other leads with
      listed | (closed | back | step) | next
    · exact .inl listed
    · exact .inr (.inl closed)
    · exact .inr (.inr (.inl (List.mem_append_left _ back)))
    · exact .inr (.inr (.inr (sameStep ▸ step)))
    · exact .inr (.inr (.inl (List.mem_append_right _ (List.mem_singleton.mpr next))))
  · intro before other after split next leads
    exact (explores.closed_after before other after split next leads).imp_right
      (List.mem_append_left _)
  · intro source other back
    rcases mem_append_arc back with back | ⟨rfl, rfl⟩
    · exact explores.back_leads source other back
    · exact explores.leads_next top
  · intro source other back
    rcases mem_append_arc back with back | ⟨rfl, rfl⟩
    · exact explores.back_visited source other back
    · exact explores.not_fresh_of_open sound isOpen
  · intro source other back
    refine ReflTransGen.mono (fun _ _ => explores.onward_meet sound top isOpen) _ _ ?_
    rcases mem_append_arc back with back | ⟨rfl, rfl⟩
    · exact explores.back_returns source other back
    · exact explores.onward_innermost top isOpen

/-- Passing a closed vertex. -/
theorem pass (explores : search.Explores graph) (sound : graph.WellFormed) {vertex target : String}
    {later : List String} {path : List (String × List String)}
    (top : search.path = (vertex, target :: later) :: path)
    (known : search.fresh.lookup target = none) (notOpen : target ∉ search.path.map Prod.fst) :
    Explores graph { search with path := (vertex, later) :: path } := by
  have ids := pathIds_eq_cons top
  have closed : target ∈ search.closed := by
    have member := sound.target_mem _ _ (explores.leads_next top)
    exact explores.closed_of_mem member (not_fresh_of_lookup_eq_none known) notOpen
  have sameStep : PathStep { search with path := (vertex, later) :: path } = search.PathStep :=
    pathStep_rest top search.back
  have samePassed : Passed { search with path := (vertex, later) :: path } = search.Passed := by
    funext source other
    rw [Passed, Passed, sameStep]
  have sameOnward : Onward graph { search with path := (vertex, later) :: path } =
      search.Onward graph := by
    funext source other
    rw [Onward, Onward, sameStep]
  refine
    { parts := ?_, fresh_eq := explores.fresh_eq, path_leads := sameStep ▸ explores.path_leads
      later_leads := explores.later_leads_rest top, looked := ?_
      closed_after := explores.closed_after, back_leads := explores.back_leads
      back_visited := explores.back_visited, back_returns := sameOnward ▸ explores.back_returns }
  · refine List.Perm.trans ?_ explores.parts
    rw [ids]
    exact .rfl
  · intro frame member other leads
    rw [samePassed]
    rcases explores.looked_rest top frame member other leads with listed | passed | next
    · exact .inl listed
    · exact .inr passed
    · exact .inr (.inl ((Prod.mk.inj next).2 ▸ closed))

/-- **One step.** Every move keeps what the search keeps. -/
theorem move (explores : search.Explores graph) (sound : graph.WellFormed)
    (moved : Move search next) : next.Explores graph := by
  cases moved with
  | dropRoot _ _ _ => exact explores.dropRoot _
  | openRoot atEnd _ found => exact explores.openRoot sound atEnd found
  | close top => exact explores.close sound top
  | openNext top found => exact explores.openNext sound top found
  | meet top isOpen => exact explores.meet sound top isOpen
  | pass top known notOpen => exact explores.pass sound top known notOpen

end Explores

/-- The fresh vertices that are still to be visited as roots. -/
def RootsCover (search : Search) : Prop := ∀ vertex ∈ search.freshIds, vertex ∈ search.roots

/-- Roots are only dropped when they are visited. -/
theorem RootsCover.move (cover : search.RootsCover) (moved : Move search next) :
    next.RootsCover := by
  cases moved with
  | dropRoot _ first known =>
    intro vertex fresh
    rcases List.mem_cons.mp (first ▸ cover vertex fresh) with rfl | later
    · exact absurd fresh (not_fresh_of_lookup_eq_none known)
    · exact later
  | openRoot _ first _ =>
    intro vertex fresh
    obtain ⟨before, different⟩ := mem_freshIds_visit_iff.mp fresh
    exact (List.mem_cons.mp (first ▸ cover vertex before)).resolve_left different
  | openNext _ _ =>
    intro vertex fresh
    exact cover vertex (mem_freshIds_visit_iff.mp fresh).1
  | close _ => exact cover
  | meet _ _ => exact cover
  | pass _ _ _ => exact cover

end Search

namespace Digraph

variable {graph : Digraph}

/-- The beginning of a search. -/
theorem explores_start (graph : Digraph) (roots : List String) :
    Search.Explores graph
      { fresh := graph.vertices.map fun vertex => (vertex, graph.successors vertex)
        roots := roots
        path := []
        closed := []
        back := [] } where
  parts := by simp [Search.freshIds, Search.pathIds, Function.comp_def]
  fresh_eq entry member := by
    obtain ⟨vertex, _, rfl⟩ := List.mem_map.mp member
    rfl
  path_leads source target step := by
    have short := List.IsInfix.length_le step
    simp [Search.pathIds] at short
  later_leads _ none := absurd none List.not_mem_nil
  looked _ none := absurd none List.not_mem_nil
  closed_after before vertex after none := by simp at none
  back_leads _ _ none := absurd none List.not_mem_nil
  back_visited _ _ none := absurd none List.not_mem_nil
  back_returns _ _ none := absurd none List.not_mem_nil

/-- **A whole search.** It keeps what every step keeps, and no vertex is left open. -/
theorem explores_search (sound : graph.WellFormed) (roots : List String) :
    (graph.search roots).Explores graph ∧ (graph.search roots).path = [] := by
  have ended := Search.run_induction (motive := Search.Explores graph)
    (fun search next moved explores => explores.move sound moved) _ (graph.explores_start roots)
  exact ⟨ended.1, (Search.ended_of_step?_eq_none ended.2).1⟩

/-- A search of the whole graph closes every vertex. -/
theorem fresh_fullSearch (graph : Digraph) (first : Option String) :
    (graph.fullSearch first).freshIds = [] := by
  have ended := Search.run_induction (motive := Search.RootsCover)
    (fun search next moved cover => cover.move moved)
    { fresh := graph.vertices.map fun vertex => (vertex, graph.successors vertex)
      roots := first.toList ++ graph.vertices
      path := []
      closed := []
      back := [] }
    (fun vertex fresh => List.mem_append_right _ (by
      simpa [Search.freshIds, Function.comp_def] using fresh))
  refine List.eq_nil_iff_forall_not_mem.mpr fun vertex fresh => ?_
  have root := ended.1 vertex fresh
  rw [(Search.ended_of_step?_eq_none ended.2).2] at root
  exact absurd root List.not_mem_nil

theorem perm_closingOrder (sound : graph.WellFormed) (first : Option String) :
    (graph.closingOrder first).Perm graph.vertices := by
  obtain ⟨explores, noPath⟩ := explores_search sound (first.toList ++ graph.vertices)
  have parts := explores.parts
  have noFresh := graph.fresh_fullSearch first
  rw [fullSearch] at noFresh
  rw [noFresh, Search.pathIds, noPath] at parts
  exact parts

end Digraph

end ChartGuide
