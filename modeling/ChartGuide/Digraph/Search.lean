/-
**Depth-first search.**

The search visits every vertex that can be reached from its roots, once. It keeps the path of open
vertices from a root to the vertex it is at; a vertex is closed when all its arcs have been looked
at. An arc to an open vertex closes a cycle and is called a back arc.

* `Search.step?`: one step, which always brings the end nearer (`Search.remaining_lt_of_step?`).
* `Digraph.reachableFrom`: the vertices that can be reached from some vertices.
* `Digraph.backArcs`, `Digraph.closingOrder`: what a search of the whole graph finds.
-/

import ChartGuide.Digraph.Basic

namespace ChartGuide

/-- A search under way: the vertices not visited yet with their successors, the roots to go, the
open vertices from the innermost out with the successors not looked at yet, the closed vertices
from the last to the first, and the back arcs found. -/
structure Search where
  fresh : List (String × List String)
  roots : List String
  path : List (String × List String)
  closed : List String
  back : List (String × String)
  deriving DecidableEq, Repr

namespace Search

/-- Whether a vertex is open. -/
def isOpen (search : Search) (vertex : String) : Bool :=
  search.path.any fun frame => frame.1 == vertex

/-- Opens a vertex that was not visited yet. -/
def visit (search : Search) (vertex : String) (successors : List String) : Search :=
  { search with
    fresh := search.fresh.filter fun entry => entry.1 != vertex
    path := (vertex, successors) :: search.path }

/-- The next state of a search, if it is not over. -/
def step? (search : Search) : Option Search :=
  match search.path with
  | [] =>
    match search.roots with
    | [] => none
    | root :: roots =>
      let rest := { search with roots := roots }
      match search.fresh.lookup root with
      | some successors => some (rest.visit root successors)
      | none => some rest
  | (vertex, []) :: path => some { search with path := path, closed := vertex :: search.closed }
  | (vertex, next :: later) :: path =>
    let rest := { search with path := (vertex, later) :: path }
    match search.fresh.lookup next with
    | some successors => some (rest.visit next successors)
    | none =>
      if rest.isOpen next then some { rest with back := rest.back ++ [(vertex, next)] }
      else some rest

/-- The number of arcs in some entries, and `each` for every entry. -/
def pending (each : Nat) : List (String × List String) → Nat
  | [] => 0
  | (_, successors) :: rest => successors.length + each + pending each rest

/-- What is left to do: looking at the roots and at the arcs, closing the open vertices, and opening
and closing the fresh ones. -/
def remaining (search : Search) : Nat :=
  search.roots.length + pending 2 search.fresh + pending 1 search.path

theorem pending_filter_le (each : Nat) (kept : String × List String → Bool)
    (entries : List (String × List String)) :
    pending each (entries.filter kept) ≤ pending each entries := by
  induction entries with
  | nil => exact Nat.le_refl _
  | cons entry rest ih =>
    by_cases keep : kept entry = true
    · simpa [List.filter_cons_of_pos keep, pending] using ih
    · rw [List.filter_cons_of_neg keep, pending]
      omega

/-- Dropping a vertex saves its arcs and itself. -/
theorem pending_filter_of_lookup (each : Nat) {vertex : String} {successors : List String}
    {entries : List (String × List String)} (found : entries.lookup vertex = some successors) :
    pending each (entries.filter fun entry => entry.1 != vertex) + successors.length + each ≤
      pending each entries := by
  induction entries with
  | nil => simp at found
  | cons entry rest ih =>
    obtain ⟨other, listed⟩ := entry
    rw [List.lookup_cons] at found
    by_cases same : vertex = other
    · subst same
      obtain rfl : listed = successors := by simpa using found
      have fewer := pending_filter_le each (fun entry => entry.1 != vertex) rest
      simp only [bne_self_eq_false, Bool.false_eq_true, not_false_eq_true,
        List.filter_cons_of_neg, pending]
      omega
    · have apart : (other != vertex) = true := by simpa using fun equal => same equal.symm
      have later := ih (by simpa [beq_eq_false_iff_ne.mpr same] using found)
      simp only [apart, List.filter_cons_of_pos, pending]
      omega

/-- Visiting a fresh vertex leaves less to do. -/
theorem remaining_visit_lt (search : Search) {vertex : String} {successors : List String}
    (found : search.fresh.lookup vertex = some successors) :
    (search.visit vertex successors).remaining < search.remaining := by
  have fewer := pending_filter_of_lookup 2 found
  simp only [remaining, visit, pending]
  omega

theorem remaining_lt_of_step? {search next : Search} (stepped : search.step? = some next) :
    next.remaining < search.remaining := by
  unfold step? at stepped
  split at stepped
  · next pathEmpty =>
    split at stepped
    · simp at stepped
    · next root roots rootsLeft =>
      have fewer : { search with roots := roots }.remaining < search.remaining := by
        simp [remaining, rootsLeft]
      split at stepped
      · next successors found =>
        obtain rfl := Option.some.inj stepped
        have less := remaining_visit_lt { search with roots := roots } found
        omega
      · obtain rfl := Option.some.inj stepped
        exact fewer
  · next vertex path opened =>
    obtain rfl := Option.some.inj stepped
    simp [remaining, opened, pending]
  · next vertex successor later path opened =>
    have fewer : { search with path := (vertex, later) :: path }.remaining < search.remaining := by
      simp [remaining, opened, pending]
    split at stepped
    · next successors found =>
      obtain rfl := Option.some.inj stepped
      have less := remaining_visit_lt { search with path := (vertex, later) :: path } found
      omega
    · dsimp only at stepped
      split at stepped <;>
        (obtain rfl := Option.some.inj stepped
         exact fewer)

/-- The end of a search. -/
def run (search : Search) : Search :=
  match _stepped : search.step? with
  | some next => run next
  | none => search
termination_by search.remaining
decreasing_by exact remaining_lt_of_step? (by assumption)

end Search

namespace Digraph

/-- The finished search of a graph from some roots. -/
def search (graph : Digraph) (roots : List String) : Search :=
  Search.run
    { fresh := graph.vertices.map fun vertex => (vertex, graph.successors vertex)
      roots := roots
      path := []
      closed := []
      back := [] }

/-- The vertices that can be reached from some vertices of the graph, those included. -/
def reachableFrom (graph : Digraph) (roots : List String) : List String :=
  (graph.search roots).closed

/-- The search of the whole graph, from the preferred vertex first. -/
def fullSearch (graph : Digraph) (first : Option String) : Search :=
  graph.search (first.toList ++ graph.vertices)

/-- The arcs that close a cycle in the search of the whole graph. -/
def backArcs (graph : Digraph) (first : Option String) : List (String × String) :=
  (graph.fullSearch first).back

/-- The vertices from the last closed to the first closed. Arcs that are no back arcs lead
onward in this order. -/
def closingOrder (graph : Digraph) (first : Option String) : List String :=
  (graph.fullSearch first).closed

def isCyclic (graph : Digraph) : Bool := !(graph.backArcs none).isEmpty

end Digraph

namespace Flow

/-- The fault of starting a walk at a node that is not in the graph. -/
structure StrayStart where
  id : String
  deriving DecidableEq, Repr

def StrayStart.message (fault : StrayStart) : String :=
  "The node " ++ fault.id ++ " is not in the digraph."

/-- The ids that can be reached from the start; none without a start. -/
def reachableIds (flow : Flow) : Except StrayStart (List String) :=
  match flow.start with
  | none => .ok []
  | some start =>
    if start ∈ flow.digraph.vertices then .ok (flow.digraph.reachableFrom [start])
    else .error ⟨start⟩

end Flow

end ChartGuide
