/-
**What the findings about a flow say.**

The nodes that are named are told by paths of choices: one that the start does not lead to cannot
be reached, and one that it leads to, but that leads to no exit, is a trap. Choices may lead out of
the flow. An inspection is refused only where the target of a link cannot be looked up.

* `Node.linkFinding?_eq_some_iff`: what is found about a link, and `Flow.forall_not_faultsLink_iff`:
  no other finding faults it.
* `Flow.CanLeave`: the paths to the exits. A search decides them, like the paths from the start.
* `Flow.inspect_eq_ok`, `Settings.inspect_compile`: where nothing stands in the way of finding it,
  and `Flow.mem_findings_iff`: what is found.
* `Flow.inspect_exact`: the nodes that cannot be reached, and the traps.
-/

import ChartGuide.Finding
import ChartGuide.Proofs.Digraph.Reach
import ChartGuide.Proofs.Flow.Roles

namespace ChartGuide

open Relation

/-! ### Links -/

/-- What is found about a link: it has no target, or the catalog does not know it. -/
theorem Node.linkFinding?_eq_some_iff {node : Node} {id : String} {catalog : Option Catalog}
    {finding : Finding} :
    node.linkFinding? id catalog = some finding ↔ node.isLink = true ∧
      (node.nextFlow = .null ∧ finding = .unresolvedLink id ∨
        node.nextFlow ≠ .null ∧ finding = .unknownLinkTarget id node.nextFlow ∧
          ∃ known, catalog = some known ∧ known.contains node.nextFlow = false) := by
  rw [linkFinding?]
  by_cases link : node.isLink = true
  · by_cases missing : node.nextFlow = .null
    · simp [link, missing, @eq_comm _ finding]
    · cases catalog with
      | none => simp [link, missing]
      | some known => simp [link, missing, @eq_comm _ finding, and_comm]
  · simp [link]

/-- Nothing is wrong with a link that has a target in the catalog. -/
theorem Node.linkFinding?_eq_none_iff {node : Node} {id : String} {known : Catalog}
    (link : node.isLink = true) :
    node.linkFinding? id (some known) = none ↔
      node.nextFlow ≠ .null ∧ known.contains node.nextFlow = true := by
  rw [Option.eq_none_iff_forall_not_mem]
  simp only [Option.mem_def, linkFinding?_eq_some_iff, link]
  by_cases missing : node.nextFlow = .null <;> simp [missing]

/-- Whether a finding says that a link leads nowhere. -/
def Finding.FaultsLink (finding : Finding) (id : String) : Prop :=
  finding.nodeId? = some id ∧
    (finding.code = "unresolved_link" ∨ finding.code = "unknown_link_target")

theorem Node.faultsLink_linkFinding? {node : Node} {id : String} {catalog : Option Catalog}
    {finding : Finding} (found : node.linkFinding? id catalog = some finding) :
    finding.FaultsLink id := by
  obtain ⟨-, ⟨-, rfl⟩ | ⟨-, rfl, -⟩⟩ := Node.linkFinding?_eq_some_iff.mp found
  · exact ⟨rfl, .inl rfl⟩
  · exact ⟨rfl, .inr rfl⟩

/-! ### Kinds of findings -/

/-- The findings with one code are those of the part of a list that holds all of this kind. -/
theorem Finding.filter_code_eq {code : String} {before found after : List Finding}
    (earlier : ∀ finding ∈ before, finding.code ≠ code)
    (all : ∀ finding ∈ found, finding.code = code)
    (later : ∀ finding ∈ after, finding.code ≠ code) :
    (before ++ found ++ after).filter (fun finding => finding.code = code) = found := by
  rw [List.filter_append, List.filter_append,
    List.filter_eq_nil_iff.mpr (by simpa using earlier),
    List.filter_eq_self.mpr (by simpa using all),
    List.filter_eq_nil_iff.mpr (by simpa using later), List.nil_append, List.append_nil]

namespace Flow

variable {flow : Flow}

/-! ### Exits -/

/-- Whether a path of choices, possibly empty, leads to a terminal node or a link. -/
def CanLeave (flow : Flow) (id : String) : Prop :=
  ∃ exit node, flow.node? exit = some node ∧ (node.role = .terminal ∨ node.role = .link) ∧
    flow.Reaches id exit

theorem mem_exitIds_iff {id : String} :
    id ∈ flow.exitIds ↔
      ∃ node, flow.node? id = some node ∧ (node.role = .terminal ∨ node.role = .link) := by
  simp [exitIds, Table.mem_entries_iff, node?, Node.isTerminal, Node.isLink]

theorem contains_of_mem_exitIds {id : String} (isExit : id ∈ flow.exitIds) :
    flow.contains id = true := by
  obtain ⟨node, found, -⟩ := mem_exitIds_iff.mp isExit
  exact Option.isSome_iff_exists.mpr ⟨node, found⟩

/-- A search against the choices from the exits reaches what can leave. -/
theorem mem_leavingIds_iff {id : String} : id ∈ flow.leavingIds ↔ flow.CanLeave id := by
  rw [leavingIds, Digraph.mem_reachableFrom_reverse_iff flow.wellFormed_digraph
    fun _ isExit => mem_vertices_of_contains (contains_of_mem_exitIds isExit), CanLeave]
  simp only [mem_exitIds_iff, reaches_eq]
  constructor
  · rintro ⟨exit, ⟨node, found, role⟩, path⟩
    exact ⟨exit, node, found, role, path⟩
  · rintro ⟨exit, node, found, role, path⟩
    exact ⟨exit, ⟨node, found, role⟩, path⟩

/-- No choice leads away from an id without a node. -/
theorem successors_of_not_contains {id : String} (outside : ¬ flow.contains id = true) :
    flow.successors id = [] := by
  have noNode : flow.node? id = none :=
    (flow.nodes.get?_eq_none_iff id).mpr fun member =>
      outside ((flow.nodes.contains_iff id).mpr member)
  rw [successors, noNode]
  rfl

instance decidableReaches (flow : Flow) (start id : String) : Decidable (flow.Reaches start id) :=
  if contained : flow.contains start = true then
    decidable_of_iff (id ∈ flow.digraph.reachableFrom [start]) (mem_reachableFrom_iff contained)
  else
    decidable_of_iff (id = start) (by
      constructor
      · rintro rfl
        exact .refl
      · intro path
        obtain same | ⟨_, arc, _⟩ := ReflTransGen.cases_head path
        · exact same.symm
        · rw [successors_of_not_contains contained] at arc
          cases arc)

instance decidableCanLeave (flow : Flow) (id : String) : Decidable (flow.CanLeave id) :=
  decidable_of_iff (id ∈ flow.leavingIds) mem_leavingIds_iff

/-! ### Inspections -/

/-- A walk that begins at a node begins in the graph, and so do the walks from the exits. -/
theorem strayWalk?_eq_none {start : String} (contained : flow.contains start = true) :
    flow.strayWalk? start = none := by
  rw [strayWalk?, Option.map_eq_none_iff, List.find?_eq_none]
  intro id member
  have vertex : id ∈ flow.digraph.vertices := by
    rcases List.mem_cons.mp member with rfl | isExit
    · exact mem_vertices_of_contains contained
    · exact mem_vertices_of_contains (contains_of_mem_exitIds isExit)
  simpa using vertex

/-- **An inspection never fails if the targets of the links can be looked up**, wherever the choices
lead. -/
theorem inspect_eq_ok (usable : ∀ node ∈ flow.nodes.values, node.nextFlow.canBeKey = true)
    (catalog : Option Catalog) : flow.inspect catalog = .ok (flow.findings catalog) := by
  have noTarget : flow.unusableTarget? catalog = none := by
    rw [unusableTarget?, List.find?_eq_none]
    intro target member
    obtain ⟨node, link, rfl⟩ := List.mem_map.mp member
    simp [usable node (List.mem_of_mem_filter link)]
  have noFault : flow.inspectionFault? catalog = none := by
    rw [inspectionFault?, Option.bind_eq_none_iff]
    intro start isStart
    have contained : flow.contains start = true := (Option.mem_filter_iff.mp isStart).2
    rw [noTarget, strayWalk?_eq_none contained]
    rfl
  rw [inspect, noFault]

/-- Nothing is found about a flow without nodes. -/
theorem findings_of_keys_eq_nil (noKeys : flow.nodes.keys = []) {catalog : Option Catalog} :
    flow.findings catalog = [] := by
  rw [findings, if_pos (flow.nodes.isEmpty_iff.mpr noKeys)]

theorem findings_eq {start : String} (starts : flow.start = some start)
    (contained : flow.contains start = true) (catalog : Option Catalog) :
    flow.findings catalog =
      (flow.nodes.entries.filterMap fun (id, node) => node.linkFinding? id catalog) ++
        (flow.nodes.keys.filter fun id => ¬ flow.Reaches start id).map (.unreachable · start) ++
        (flow.nodes.keys.filter fun id => flow.Reaches start id ∧ ¬ flow.CanLeave id).map .trap := by
  have nonempty : ¬ flow.nodes.isEmpty = true := by
    rw [flow.nodes.isEmpty_iff]
    exact List.ne_nil_of_mem ((flow.nodes.contains_iff start).mp contained)
  have reached : ∀ id, (flow.digraph.reachableFrom [start]).contains id =
      decide (flow.Reaches start id) := fun id => by
    rw [List.contains_eq_mem, decide_eq_decide, mem_reachableFrom_iff contained]
  have leaving : ∀ id, flow.leavingIds.contains id = decide (flow.CanLeave id) := fun id => by
    rw [List.contains_eq_mem, decide_eq_decide, mem_leavingIds_iff]
  rw [findings, if_neg nonempty, starts, Option.filter_some_pos contained]
  simp only [findingsFrom, reached, leaving, decide_not, Bool.decide_and]

/-- What is found about a flow with a start: faults of its links, nodes that cannot be reached, and
traps. -/
theorem mem_findings_iff {start : String} (starts : flow.start = some start)
    (contained : flow.contains start = true) {catalog : Option Catalog} {finding : Finding} :
    finding ∈ flow.findings catalog ↔
      (∃ id node, flow.node? id = some node ∧ node.linkFinding? id catalog = some finding) ∨
        (∃ id ∈ flow.nodes.keys, ¬ flow.Reaches start id ∧ finding = .unreachable id start) ∨
        ∃ id ∈ flow.nodes.keys, (flow.Reaches start id ∧ ¬ flow.CanLeave id) ∧
          finding = .trap id := by
  rw [findings_eq starts contained]
  simp [Table.mem_entries_iff, node?, and_assoc, @eq_comm _ finding]

/-- Of the findings about a flow only that about the link itself faults a link. -/
theorem forall_not_faultsLink_iff {start id : String} {node : Node}
    (starts : flow.start = some start) (contained : flow.contains start = true)
    (found : flow.node? id = some node) {catalog : Option Catalog} :
    (∀ finding ∈ flow.findings catalog, ¬ finding.FaultsLink id) ↔
      node.linkFinding? id catalog = none := by
  simp only [mem_findings_iff starts contained]
  constructor
  · intro none
    refine Option.eq_none_iff_forall_not_mem.mpr fun finding wrong => ?_
    exact none finding (.inl ⟨id, node, found, wrong⟩) (Node.faultsLink_linkFinding? wrong)
  · rintro fine finding (⟨other, there, otherFound, wrong⟩ | ⟨_, -, -, rfl⟩ | ⟨_, -, -, rfl⟩) faults
    · obtain rfl : other = id :=
        Option.some.inj ((Node.faultsLink_linkFinding? wrong).1.symm.trans faults.1)
      obtain rfl : there = node := Option.some.inj (otherFound.symm.trans found)
      rw [fine] at wrong
      cases wrong
    · simp [Finding.FaultsLink, Finding.code] at faults
    · simp [Finding.FaultsLink, Finding.code] at faults

/-- **The inspection of a flow names exactly the nodes that cannot be reached, and exactly the
traps**, both in the order of the flow. Nothing is asked of the choices: they may lead out of the
flow. -/
theorem inspect_exact {start : String} (starts : flow.start = some start)
    (contained : flow.contains start = true)
    (usable : ∀ node ∈ flow.nodes.values, node.nextFlow.canBeKey = true)
    (catalog : Option Catalog) :
    ∃ findings, flow.inspect catalog = .ok findings ∧
      (findings.filter fun finding => finding.code = "unreachable_node") =
        (flow.nodes.keys.filter fun id => ¬ flow.Reaches start id).map (.unreachable · start) ∧
      (findings.filter fun finding => finding.code = "trap_node") =
        (flow.nodes.keys.filter fun id => flow.Reaches start id ∧ ¬ flow.CanLeave id).map .trap := by
  refine ⟨_, inspect_eq_ok usable catalog, ?_⟩
  rw [findings_eq starts contained]
  generalize linksFound : flow.nodes.entries.filterMap (fun (id, node) =>
    node.linkFinding? id catalog) = links
  have linkCode : ∀ finding ∈ links,
      finding.code = "unresolved_link" ∨ finding.code = "unknown_link_target" := by
    intro finding member
    obtain ⟨⟨id, node⟩, -, found⟩ := List.mem_filterMap.mp (linksFound ▸ member)
    exact (Node.faultsLink_linkFinding? found).2
  constructor
  · refine Finding.filter_code_eq (fun finding member => ?_)
      (List.forall_mem_map.mpr fun _ _ => rfl)
      (List.forall_mem_map.mpr fun _ _ => by simp [Finding.code])
    obtain code | code := linkCode finding member <;> simp [code]
  · rw [← List.append_nil (_ ++ _)]
    refine Finding.filter_code_eq (fun finding member => ?_)
      (List.forall_mem_map.mpr fun _ _ => rfl) (List.forall_mem_nil _)
    obtain link | unreachable := List.mem_append.mp member
    · obtain code | code := linkCode finding link <;> simp [code]
    · obtain ⟨id, -, rfl⟩ := List.mem_map.mp unreachable
      simp [Finding.code]

/-- A menu with a choice that leads nowhere and one that leads around in a circle, and a link with a
node before it that the menu does not lead to. -/
def menu : Flow where
  id := .text "menu"
  title := .text "Menu"
  description := .text ""
  start := some "MENU"
  nodes := .ofList
    [("BACK", { id := "BACK", text := "Back", role := .action, choices := [{ target := "LINK" }] }),
      ("LINK", { id := "LINK", text := "Elsewhere", role := .link
                 attributes := .ofList [(Node.nextFlowKey, .text "elsewhere")] }),
      ("MENU", { id := "MENU", text := "Menu", role := .question
                 choices := [{ target := "GONE" }, { target := "WAIT" }, { target := "END" }] }),
      ("WAIT", { id := "WAIT", text := "Wait", role := .action
                 choices := [{ target := "WAIT" }, { target := "GONE" }] }),
      ("END", { id := "END", text := "End", role := .terminal, choices := [{ target := "MENU" }] })]

theorem menu_inspect_exact :
    menu.start = some "MENU" ∧ menu.contains "MENU" = true ∧
      (∀ node ∈ menu.nodes.values, node.nextFlow.canBeKey = true) ∧
      ∃ findings, menu.inspect (some { settings := .usual }) = .ok findings ∧
        (findings.filter fun finding => finding.code = "unreachable_node") =
          (menu.nodes.keys.filter fun id => ¬ menu.Reaches "MENU" id).map (.unreachable · "MENU") ∧
        (findings.filter fun finding => finding.code = "trap_node") =
          (menu.nodes.keys.filter fun id =>
            menu.Reaches "MENU" id ∧ ¬ menu.CanLeave id).map .trap :=
  ⟨rfl, by decide, by decide, inspect_exact rfl (by decide) (by decide) _⟩

example : menu.inspect none =
    .ok [.unreachable "BACK" "MENU", .unreachable "LINK" "MENU", .trap "WAIT"] := by cbv

end Flow

/-- The inspection of a compiled flow never fails. -/
theorem Settings.inspect_compile (settings : Settings) (source : String) (prior : Prior)
    (now : String) (catalog : Option Catalog) :
    (settings.compile source prior now).inspect catalog =
      .ok ((settings.compile source prior now).findings catalog) :=
  Flow.inspect_eq_ok (fun _ member => canBeKey_compile member) catalog

end ChartGuide
