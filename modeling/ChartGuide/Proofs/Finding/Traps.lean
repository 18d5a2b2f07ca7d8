/-
**Traps need cycles.**

A node of a compiled flow without choices is an exit, so a trap has a choice, and what it leads to
is a trap again. There are finitely many nodes, so whoever walks on from a trap comes round in a
circle of traps. A flow without cycles has no traps.

* `exists_cycle_of_onward`: a walk on through finitely many places.
* `Flow.IsTrap`, `Flow.IsTrap.exists_onward`: a trap, and one step on from it.
* `Settings.traps_come_round`: the traps of a compiled flow.
-/

import ChartGuide.Proofs.Digraph.Cycles
import ChartGuide.Proofs.Finding
import Mathlib.Data.Fintype.Pigeonhole
import Mathlib.Data.Set.Finite.Basic

namespace ChartGuide

open Relation

/-! ### Walks that never end -/

/-- Whoever finds a way on from each of finitely many places comes round in a circle. -/
theorem exists_cycle_of_onward {α : Type} [Finite α] {Step : α → α → Prop}
    (onward : ∀ place, ∃ next, Step place next) (start : α) :
    ∃ place, ReflTransGen Step start place ∧ TransGen Step place place := by
  choose next step using onward
  have walk : ∀ place steps, ReflTransGen Step place (next^[steps] place) := by
    intro place steps
    induction steps with
    | zero => exact .refl
    | succ steps ih =>
      rw [Function.iterate_succ_apply']
      exact ih.tail (step _)
  -- Two times at which the walk is at the same place.
  obtain ⟨early, late, different, same⟩ :=
    Finite.exists_ne_map_eq_of_infinite fun steps => next^[steps] start
  wlog before : early < late generalizing early late
  · exact this late early different.symm same.symm
      (Nat.lt_of_le_of_ne (Nat.le_of_not_lt before) different.symm)
  obtain ⟨between, rfl⟩ := Nat.exists_eq_add_of_lt before
  have back := walk (next (next^[early] start)) between
  rw [← Function.iterate_succ_apply, ← Function.iterate_add_apply,
    show between.succ + early = early + between + 1 by omega, ← same] at back
  exact ⟨next^[early] start, walk start early, .head' (step _) back⟩

namespace Flow

variable {flow : Flow}

/-! ### Traps -/

/-- Whether the start leads to a node that leads to no exit. -/
structure IsTrap (flow : Flow) (start id : String) : Prop where
  contained : flow.contains id = true
  reached : flow.Reaches start id
  kept : ¬ flow.CanLeave id

/-- Whether a choice leads from one id to another, and both are of a kind. -/
def LeadsWithin (flow : Flow) (kind : String → Prop) (source target : String) : Prop :=
  target ∈ flow.successors source ∧ kind source ∧ kind target

theorem trap_mem_findings_iff {start : String} (starts : flow.start = some start)
    (contained : flow.contains start = true) {catalog : Option Catalog} {id : String} :
    .trap id ∈ flow.findings catalog ↔ flow.IsTrap start id := by
  rw [mem_findings_iff starts contained]
  constructor
  · rintro (⟨other, node, -, found⟩ | ⟨_, -, -, other⟩ | ⟨_, member, ⟨reached, kept⟩, same⟩)
    · obtain code | code := (Node.faultsLink_linkFinding? found).2 <;> simp [Finding.code] at code
    · cases other
    · obtain rfl := Finding.trap.inj same
      exact ⟨(flow.nodes.contains_iff id).mpr member, reached, kept⟩
  · intro trap
    exact .inr (.inr ⟨id, (flow.nodes.contains_iff id).mp trap.contained, ⟨trap.reached, trap.kept⟩,
      rfl⟩)

/-- What a trap leads to is a trap, if it is a node. -/
theorem IsTrap.next {start id target : String} (trap : flow.IsTrap start id)
    (leads : target ∈ flow.successors id) (contained : flow.contains target = true) :
    flow.IsTrap start target where
  contained := contained
  reached := trap.reached.tail leads
  kept := fun ⟨exit, node, found, role, path⟩ =>
    trap.kept ⟨exit, node, found, role, .head leads path⟩

/-- **One step on**: where only exits lack choices, a trap leads to a trap. -/
theorem IsTrap.exists_onward {start id : String} (trap : flow.IsTrap start id)
    (sound : flow.WellFormed)
    (leaves : ∀ node, flow.node? id = some node → node.choices = [] →
      node.role = .terminal ∨ node.role = .link) :
    ∃ target ∈ flow.successors id, flow.IsTrap start target := by
  obtain ⟨node, nodeFound⟩ : ∃ node, flow.node? id = some node :=
    Option.isSome_iff_exists.mp trap.contained
  cases offered : node.choices with
  | nil => exact absurd ⟨id, node, nodeFound, leaves node nodeFound offered, .refl⟩ trap.kept
  | cons choice rest =>
    have member : choice ∈ node.choices := offered ▸ List.mem_cons_self
    have leads : choice.target ∈ flow.successors id := by
      rw [successors, nodeFound]
      exact List.mem_map_of_mem member
    exact ⟨choice.target, leads,
      trap.next leads ((sound.node id node nodeFound).choice_leads choice member)⟩

/-- **A whole walk**: from a trap choices lead to a circle of traps. -/
theorem IsTrap.exists_cycle {start id : String} (trap : flow.IsTrap start id)
    (sound : flow.WellFormed)
    (leaves : ∀ id node, flow.node? id = some node → node.choices = [] →
      node.role = .terminal ∨ node.role = .link) :
    ∃ vertex, flow.Reaches id vertex ∧
      TransGen (flow.LeadsWithin (flow.IsTrap start)) vertex vertex := by
  -- The places of the walk are the traps, and there are no more of them than nodes.
  let Trap := { id // flow.IsTrap start id }
  have finite : Finite Trap :=
    flow.nodes.keys.finite_toSet.subset fun id trap =>
      (flow.nodes.contains_iff id).mp trap.contained
  have onward : ∀ place : Trap, ∃ next : Trap, flow.LeadsWithin (flow.IsTrap start) place next := by
    rintro ⟨place, isTrap⟩
    obtain ⟨next, leads, nextTrap⟩ := isTrap.exists_onward sound (leaves place)
    exact ⟨⟨next, nextTrap⟩, leads, isTrap, nextTrap⟩
  obtain ⟨⟨vertex, _⟩, path, cycle⟩ := exists_cycle_of_onward onward ⟨id, trap⟩
  exact ⟨vertex, path.lift Subtype.val fun _ _ within => within.1,
    cycle.lift Subtype.val fun _ _ within => within⟩

end Flow

namespace Settings

/-- **Traps need cycles.** From every trap of a compiled flow choices lead to a circle of traps, so
a compiled flow without cycles has no traps. -/
theorem traps_come_round (settings : Settings) (source : String) (prior : Prior) (now : String)
    (catalog : Option Catalog) :
    let flow := settings.compile source prior now
    ∃ findings, flow.inspect catalog = .ok findings ∧
      (∀ id, .trap id ∈ findings → ∃ vertex, flow.Reaches id vertex ∧
        TransGen (flow.LeadsWithin fun id => .trap id ∈ findings) vertex vertex) ∧
      (flow.digraph.isCyclic = false → ∀ id, .trap id ∉ findings) := by
  intro flow
  have sound : flow.WellFormed := settings.wellFormed_compile source prior now
  have comesRound : ∀ id, .trap id ∈ flow.findings catalog → ∃ vertex, flow.Reaches id vertex ∧
      TransGen (flow.LeadsWithin fun id => .trap id ∈ flow.findings catalog) vertex vertex := by
    intro id trap
    cases starts : flow.start with
    | none =>
      rw [Flow.findings_of_keys_eq_nil (sound.start_eq_none_iff.mp starts)] at trap
      cases trap
    | some start =>
      have traps : ∀ id, .trap id ∈ flow.findings catalog ↔ flow.IsTrap start id := fun _ =>
        Flow.trap_mem_findings_iff starts (sound.start_contained start starts)
      simp only [traps] at trap ⊢
      exact trap.exists_cycle sound fun _ _ => exit_of_leaf
  refine ⟨_, settings.inspect_compile source prior now catalog, comesRound,
    fun acyclic id trap => ?_⟩
  obtain ⟨vertex, -, cycle⟩ := comesRound id trap
  have cyclic : flow.digraph.Cyclic :=
    ⟨vertex, TransGen.mono (fun _ _ within => flow.leads_digraph_iff.mpr within.1) _ _ cycle⟩
  rw [← Digraph.isCyclic_iff flow.wellFormed_digraph, acyclic] at cyclic
  cases cyclic

/-- The flow of a chart whose start has a way out and a way into a circle. -/
def circling : Flow where
  id := usual.flowId
  title := usual.title
  description := usual.description
  start := some "S"
  nodes := .ofList
    [("S", { id := "S", text := "S", role := .question
             choices := [{ target := "A", label := some "A" },
               { target := "T", label := some "T" }] }),
      ("A", { id := "A", text := "A", role := .question
              choices := [{ target := "B", label := some "B" }] }),
      ("T", { id := "T", text := "T", role := .terminal }),
      ("B", { id := "B", text := "B", role := .question
              choices := [{ target := "A", label := some "A" }] })]
  source := "S --> A\nS --> T\nA --> B\nB --> A"
  metadata := { lastUpdated := .text "2020-01-02T03:04:05+00:00" }

example :
    usual.compile circling.source {} "2020-01-02T03:04:05+00:00" = circling ∧
      circling.inspect none = .ok [.trap "A", .trap "B"] :=
  ⟨by decide +kernel, by cbv⟩

end Settings

end ChartGuide
