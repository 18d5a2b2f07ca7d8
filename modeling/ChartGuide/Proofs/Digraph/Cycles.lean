/-
**Back arcs break exactly the cycles.**

Without the back arcs of a search of the whole graph, the order in which the search closes the
vertices lists them onward, so no cycle is left. From the target of a back arc a path of other arcs
returns to its source, so no back arc is set aside in vain.

* `Digraph.topological_closingOrder`: the onward list.
* `Digraph.leads_of_mem_backArcs`, `Digraph.returns_of_mem_backArcs`: what a back arc is.
* `Digraph.backArcs_ne_nil_iff`: there are back arcs exactly if there are cycles, wherever the search
  begins. So `Digraph.isCyclic` decides whether there are cycles (`Digraph.isCyclic_iff`).
-/

import ChartGuide.Proofs.Digraph.Search
import ChartGuide.Layout

namespace ChartGuide

open Relation

namespace Digraph

variable {graph : Digraph}

/-- An arc whose target returns to its source lies on a cycle. -/
theorem cyclic_of_returns {source target : String} (leads : graph.Leads source target)
    (returns : ReflTransGen graph.Leads target source) : graph.Cyclic :=
  ⟨source, TransGen.head' leads returns⟩

/-- Paths stay paths when fewer arcs are set aside. -/
theorem reflTransGen_without_mono {fewer more : List (String × String)} (subset : fewer ⊆ more)
    {source target : String} (path : ReflTransGen (graph.without more).Leads source target) :
    ReflTransGen (graph.without fewer).Leads source target := by
  refine ReflTransGen.mono (fun _ _ leads => ?_) _ _ path
  have kept := (graph.leads_without_iff more).mp leads
  exact (graph.leads_without_iff fewer).mpr ⟨kept.1, fun aside => kept.2 (subset aside)⟩

section Search

variable (sound : graph.WellFormed) (first : Option String)
include sound

/-- **Without the back arcs, the closing order leads onward.** -/
theorem topological_closingOrder :
    (graph.without (graph.backArcs first)).Topological (graph.closingOrder first) := by
  have explores := (explores_search sound (first.toList ++ graph.vertices)).1
  refine topological_of_after (sound.without _) (perm_closingOrder sound first) ?_
  intro before vertex later split target leads
  obtain ⟨leads, kept⟩ := (graph.leads_without_iff _).mp leads
  exact (explores.closed_after before vertex later split target leads).resolve_right kept

theorem leads_of_mem_backArcs {source target : String}
    (back : (source, target) ∈ graph.backArcs first) : graph.Leads source target :=
  (explores_search sound (first.toList ++ graph.vertices)).1.back_leads source target back

/-- **From the target of a back arc other arcs return to its source.** -/
theorem returns_of_mem_backArcs {source target : String}
    (back : (source, target) ∈ graph.backArcs first) :
    ReflTransGen (graph.without (graph.backArcs first)).Leads target source := by
  have explores := (explores_search sound (first.toList ++ graph.vertices)).1
  refine ReflTransGen.mono (fun _ _ onward => ?_) _ _
    (explores.back_returns source target back)
  exact (graph.leads_without_iff _).mpr ⟨onward.1, onward.2.1⟩

/-- Putting a single back arc back makes a cycle. -/
theorem cyclic_of_put_back {source target : String}
    (back : (source, target) ∈ graph.backArcs first) :
    (graph.without ((graph.backArcs first).filter (· ≠ (source, target)))).Cyclic := by
  have leads := leads_of_mem_backArcs sound first back
  have returns := returns_of_mem_backArcs sound first back
  refine cyclic_of_returns ((graph.leads_without_iff _).mpr ⟨leads, ?_⟩)
    (reflTransGen_without_mono (List.filter_subset_self _) returns)
  simp

/-- **There are back arcs exactly if there are cycles**, wherever the search begins. -/
theorem backArcs_ne_nil_iff : graph.backArcs first ≠ [] ↔ graph.Cyclic := by
  constructor
  · intro some
    obtain ⟨⟨source, target⟩, back⟩ := List.exists_mem_of_ne_nil _ some
    have returns := returns_of_mem_backArcs sound first back
    exact cyclic_of_returns (leads_of_mem_backArcs sound first back)
      (graph.without_nil ▸ reflTransGen_without_mono (List.nil_subset _) returns)
  · intro cyclic none
    have sorted := topological_closingOrder sound first
    rw [none, without_nil] at sorted
    exact sorted.not_cyclic cyclic

end Search

/-- The search decides whether a graph has cycles. -/
theorem isCyclic_iff (sound : graph.WellFormed) : graph.isCyclic = true ↔ graph.Cyclic := by
  rw [← backArcs_ne_nil_iff sound none]
  simp [isCyclic]

end Digraph

namespace Flow

/-- Back arcs need not be looked for in a graph without cycles: there are none. -/
theorem backArcs_eq (flow : Flow) : flow.backArcs = flow.digraph.backArcs flow.start := by
  rw [backArcs]
  split
  · rfl
  · next acyclic =>
    rw [Digraph.isCyclic_iff flow.wellFormed_digraph,
      ← Digraph.backArcs_ne_nil_iff flow.wellFormed_digraph flow.start] at acyclic
    exact (not_not.mp acyclic).symm

end Flow

end ChartGuide
