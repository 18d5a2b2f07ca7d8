/-
**The graph of a flow shows its choices.**

The graph is given at once, with the choices of a node collected by target. It may as well be drawn
choice by choice, in their order: a choice that leads where an arc leads extends the label of the
arc in place, and any other puts a new arc last, behind its ends. While choices are taken in, the
graph is at every moment the one of the choices so far (`Digraph.draw_ofEdges`), and the choices of
a flow come node by node, so what is drawn of them in the end is the graph of the flow
(`Flow.digraph_eq_ofEdges`).

* `Digraph.draw`, `Digraph.foldl_draw`: one choice more, and all of them.
* `joinLabels_append`, `joinLabels_map_some`: how labels are joined.
* `Flow.shownBy_digraph`, `Flow.notedBy_graph`: what the graph shows of the choices, and what it
  notes of the nodes.
* `Flow.digraph_projects`: both, with the ids where the flow begins and ends.
-/

import ChartGuide.Proofs.Digraph.Paths
import ChartGuide.Proofs.Flow.Choices
import Mathlib.Data.List.Nodup

namespace ChartGuide

/-! ### Labels -/

theorem intercalate_append_singleton (mark item : String) {items : List String}
    (some : items ≠ []) :
    mark.intercalate (items ++ [item]) = mark.intercalate items ++ mark ++ item := by
  induction items with
  | nil => exact absurd rfl some
  | cons first rest ih =>
    cases rest with
    | nil => rfl
    | cons second rest =>
      rw [List.cons_append, List.cons_append, String.intercalate_cons_cons, ← List.cons_append,
        ih (List.cons_ne_nil _ _), String.intercalate_cons_cons]
      simp only [String.append_assoc]

/-- One label more is joined to those before it. -/
theorem joinLabels_append {labels : List (Option String)} (some : labels ≠ [])
    (label : Option String) :
    joinLabels (labels ++ [label]) =
      .some ((joinLabels labels).getD "None" ++ " / " ++ label.getD "None") := by
  rcases labels with _ | ⟨first, _ | ⟨second, rest⟩⟩
  · exact absurd rfl some
  · rfl
  · have joined : joinLabels (first :: second :: rest ++ [label]) = .some
        (" / ".intercalate ((first :: second :: rest ++ [label]).map (·.getD "None"))) := rfl
    have several : (first :: second :: rest).map (·.getD "None") ≠ [] := List.cons_ne_nil _ _
    rw [joined, List.map_append, List.map_singleton, intercalate_append_singleton _ _ several]
    rfl

/-- Labels that are all there are joined by slashes. -/
theorem joinLabels_map_some (labels : List String) :
    joinLabels (labels.map some) = some (" / ".intercalate labels) := by
  rcases labels with _ | ⟨first, _ | ⟨second, rest⟩⟩
  · rfl
  · rfl
  · simp [joinLabels, Function.comp_def]

namespace Digraph

/-! ### One choice more -/

/-- The two ids that a choice of a node connects. -/
def edgeEnds (edge : String × Choice) : String × String := (edge.1, edge.2.target)

/-- The graph with a vertex, which is put last unless it is there. -/
def addVertex (graph : Digraph) (vertex : String) : Digraph :=
  if vertex ∈ graph.vertices then graph
  else { graph with vertices := graph.vertices ++ [vertex] }

/-- The arc with a longer label. -/
def extend (arc : Arc) (label : Option String) : Arc :=
  { arc with label := some (arc.label.getD "None" ++ " / " ++ label.getD "None") }

/-- The graph with one choice more. An arc that connects the same ids gets a longer label; if there
is none, an arc is put last, and before it those of its ends that are no vertices. -/
def draw (graph : Digraph) (edge : String × Choice) : Digraph :=
  if edgeEnds edge ∈ graph.arcs.map Arc.ends then
    { graph with
      arcs := graph.arcs.map fun arc =>
        if arc.ends = edgeEnds edge then extend arc edge.2.label else arc }
  else
    { (graph.addVertex edge.1).addVertex edge.2.target with
      arcs := graph.arcs ++ [⟨edge.1, edge.2.target, edge.2.label⟩] }

/-! ### All choices at once -/

/-- The labels of the choices that connect two ids. -/
def labelsBetween (edges : List (String × Choice)) (ends : String × String) :
    List (Option String) :=
  (edges.filter fun edge => edgeEnds edge == ends).map fun edge => edge.2.label

/-- The arc of all choices that connect two ids. -/
def arcBetween (edges : List (String × Choice)) (ends : String × String) : Arc :=
  ⟨ends.1, ends.2, joinLabels (labelsBetween edges ends)⟩

/-- The graph of some choices, if the ids that they leave are known. -/
def ofEdges (known : List String) (edges : List (String × Choice)) : Digraph where
  vertices := known ++ ((edges.map fun edge => edge.2.target).filter (· ∉ known)).eraseDups
  arcs := (edges.map edgeEnds).eraseDups.map (arcBetween edges)

theorem eq_of_vertices_of_arcs {first second : Digraph}
    (vertices : first.vertices = second.vertices) (arcs : first.arcs = second.arcs) :
    first = second := by
  cases first
  cases second
  exact Digraph.mk.injEq .. ▸ ⟨vertices, arcs⟩

theorem ends_ofEdges (known : List String) (edges : List (String × Choice)) :
    (ofEdges known edges).arcs.map Arc.ends = (edges.map edgeEnds).eraseDups := by
  rw [ofEdges, List.map_map]
  exact List.map_id _

section Append

variable (edges : List (String × Choice)) (edge : String × Choice)

theorem labelsBetween_append_singleton (ends : String × String) :
    labelsBetween (edges ++ [edge]) ends =
      if ends = edgeEnds edge then labelsBetween edges ends ++ [edge.2.label]
      else labelsBetween edges ends := by
  unfold labelsBetween
  rw [List.filter_append, List.map_append]
  split
  · next same => simp [same]
  · next different => simp [Ne.symm different]

variable {edges edge}

theorem labelsBetween_eq_nil_iff {ends : String × String} :
    labelsBetween edges ends = [] ↔ ends ∉ edges.map edgeEnds := by
  simp [labelsBetween, List.filter_eq_nil_iff]

/-- Of the arcs that are there, the one that connects the same ids gets a longer label. -/
theorem arcBetween_append_of_mem {ends : String × String} (drawn : ends ∈ edges.map edgeEnds) :
    arcBetween (edges ++ [edge]) ends =
      if ends = edgeEnds edge then extend (arcBetween edges ends) edge.2.label
      else arcBetween edges ends := by
  have several : labelsBetween edges ends ≠ [] := fun none =>
    labelsBetween_eq_nil_iff.mp none drawn
  rw [arcBetween, labelsBetween_append_singleton]
  split
  · rw [joinLabels_append several]
    rfl
  · rfl

/-- The first choice that connects two ids gives their arc its label. -/
theorem arcBetween_append_of_not_mem (new : edgeEnds edge ∉ edges.map edgeEnds) :
    arcBetween (edges ++ [edge]) (edgeEnds edge) =
      ⟨edge.1, edge.2.target, edge.2.label⟩ := by
  rw [arcBetween, labelsBetween_append_singleton, if_pos rfl, labelsBetween_eq_nil_iff.mpr new]
  rfl

variable (edges edge)

/-- The target of a choice is put behind the vertices unless it is one of them. -/
theorem vertices_ofEdges_append (known : List String) :
    (ofEdges known (edges ++ [edge])).vertices =
      ((ofEdges known edges).addVertex edge.2.target).vertices := by
  have listed : edge.2.target ∈ (ofEdges known edges).vertices ↔
      edge.2.target ∈ known ∨ edge.2.target ∈ (edges.map fun edge => edge.2.target) := by
    simp only [ofEdges, List.mem_append, List.mem_eraseDups, List.mem_filter, decide_eq_true_eq]
    tauto
  by_cases old : edge.2.target ∈ known
  · rw [addVertex, if_pos (listed.mpr (.inl old))]
    simp [ofEdges, old]
  · have new : [edge.2.target].filter (· ∉ known) = [edge.2.target] := by simp [old]
    have still : edge.2.target ∈ (edges.map fun edge => edge.2.target).filter (· ∉ known) ↔
        edge.2.target ∈ edges.map fun edge => edge.2.target := by simp [old]
    rw [addVertex, ofEdges, List.map_append, List.map_singleton, List.filter_append, new,
      eraseDups_append_singleton]
    simp only [still, listed, old, false_or]
    split
    · rfl
    · rw [ofEdges, List.append_assoc]

theorem arcs_ofEdges_append (known : List String) :
    (ofEdges known (edges ++ [edge])).arcs =
      (if edgeEnds edge ∈ edges.map edgeEnds then (edges.map edgeEnds).eraseDups
        else (edges.map edgeEnds).eraseDups ++ [edgeEnds edge]).map
          (arcBetween (edges ++ [edge])) := by
  have pairs : (edges ++ [edge]).map edgeEnds = edges.map edgeEnds ++ [edgeEnds edge] :=
    List.map_append
  rw [← eraseDups_append_singleton, ← pairs]
  rfl

/-- **The graph of some choices and one more** is drawn from the graph of those choices. -/
theorem draw_ofEdges {known : List String} (sourceKnown : edge.1 ∈ known) :
    (ofEdges known edges).draw edge = ofEdges known (edges ++ [edge]) := by
  have vertices := vertices_ofEdges_append edges edge known
  have arcs := arcs_ofEdges_append edges edge known
  by_cases drawn : edgeEnds edge ∈ edges.map edgeEnds
  · -- The target is a vertex, and no arc is new.
    have vertex : edge.2.target ∈ (ofEdges known edges).vertices := by
      by_cases old : edge.2.target ∈ known
      · exact List.mem_append_left _ old
      · obtain ⟨earlier, member, same⟩ := List.mem_map.mp drawn
        have target : edge.2.target ∈ edges.map fun edge => edge.2.target :=
          List.mem_map.mpr ⟨earlier, member, congrArg Prod.snd same⟩
        exact List.mem_append_right _
          (List.mem_eraseDups.mpr (List.mem_filter.mpr ⟨target, decide_eq_true old⟩))
    rw [addVertex, if_pos vertex] at vertices
    rw [if_pos drawn] at arcs
    rw [draw, if_pos (by rwa [ends_ofEdges, List.mem_eraseDups])]
    refine eq_of_vertices_of_arcs vertices.symm ?_
    rw [arcs, ofEdges, List.map_map]
    refine List.map_congr_left fun ends member => ?_
    rw [arcBetween_append_of_mem (List.mem_eraseDups.mp member)]
    rfl
  · -- The other arcs keep their labels.
    have kept : (edges.map edgeEnds).eraseDups.map (arcBetween (edges ++ [edge])) =
        (ofEdges known edges).arcs := by
      refine List.map_congr_left fun ends member => ?_
      have there := List.mem_eraseDups.mp member
      have other : ends ≠ edgeEnds edge := by
        rintro rfl
        exact drawn there
      rw [arcBetween_append_of_mem there, if_neg other]
    have source : (ofEdges known edges).addVertex edge.1 = ofEdges known edges :=
      if_pos (List.mem_append_left _ sourceKnown)
    rw [if_neg drawn, List.map_append, List.map_singleton, arcBetween_append_of_not_mem drawn,
      kept] at arcs
    rw [draw, if_neg (by rwa [ends_ofEdges, List.mem_eraseDups]), source]
    exact eq_of_vertices_of_arcs vertices.symm arcs.symm

end Append

/-- **Choices that are drawn one after the other** give their graph. -/
theorem foldl_draw {known : List String} {edges : List (String × Choice)}
    (sourcesKnown : ∀ edge ∈ edges, edge.1 ∈ known) :
    edges.foldl draw ⟨known, []⟩ = ofEdges known edges := by
  induction edges using List.reverseRecOn with
  | nil => simp [ofEdges]
  | append_singleton edges edge ih =>
    have earlier : ∀ other ∈ edges, other.1 ∈ known :=
      fun other member => sourcesKnown other (List.mem_append_left _ member)
    have last : edge.1 ∈ known :=
      sourcesKnown edge (List.mem_append_right _ List.mem_cons_self)
    rw [List.foldl_append, ih earlier, List.foldl_cons, List.foldl_nil,
      draw_ofEdges edges edge last]

end Digraph

/-! ### The choices of a flow -/

/-- Pairs that come key by key have no repetitions but those under one key. -/
theorem eraseDups_flatMap_pair {α β γ : Type} [BEq α] [LawfulBEq α] [BEq β] [LawfulBEq β]
    {key : γ → α} {entries : List γ} (distinct : (entries.map key).Nodup) (items : γ → List β) :
    (entries.flatMap fun entry => (items entry).map (key entry, ·)).eraseDups =
      entries.flatMap fun entry => (items entry).eraseDups.map (key entry, ·) := by
  induction entries with
  | nil => rfl
  | cons entry rest ih =>
    obtain ⟨fresh, later⟩ := List.nodup_cons.mp distinct
    have apart : (rest.flatMap fun entry => (items entry).map (key entry, ·)).removeAll
        ((items entry).map (key entry, ·)) =
          rest.flatMap fun entry => (items entry).map (key entry, ·) := by
      refine List.filter_eq_self.mpr fun pair member => ?_
      obtain ⟨other, there, inOther⟩ := List.mem_flatMap.mp member
      obtain ⟨item, _, rfl⟩ := List.mem_map.mp inOther
      have different : key other ≠ key entry := fun same => fresh (same ▸ List.mem_map_of_mem there)
      simp [Ne.symm different]
    have own : ((items entry).map (key entry, ·)).eraseDups =
        (items entry).eraseDups.map (key entry, ·) := by
      have once : ((items entry).eraseDups.map (key entry, ·)).Nodup :=
        (nodup_eraseDups _).map fun first second same => (Prod.mk.inj same).2
      rw [← eraseDups_map_eraseDups, eraseDups_of_nodup once]
    rw [List.flatMap_cons, List.eraseDups_append, apart, ih later, own, List.flatMap_cons]

namespace Flow

/-- The choices of the edges that leave an id are those of its node. -/
theorem ownedBy_edges_eq_choicesAt (flow : Flow) (id : String) :
    ownedBy id flow.edges = flow.choicesAt id := by
  have each : ∀ {entries : List (String × Node)}, (entries.map Prod.fst).Nodup →
      ownedBy id (entries.flatMap fun entry => entry.2.choices.map fun choice =>
        (entry.1, choice)) = ((entries.lookup id).map Node.choices).getD [] := by
    intro entries distinct
    induction entries with
    | nil => rfl
    | cons entry rest ih =>
      obtain ⟨fresh, later⟩ := List.nodup_cons.mp distinct
      rw [List.flatMap_cons, ownedBy_append, ih later, Table.lookup_cons_eq_if]
      by_cases same : id = entry.1
      · subst same
        have nowhere : rest.lookup entry.1 = none := by
          refine Option.eq_none_iff_forall_not_mem.mpr fun node found => fresh ?_
          exact List.mem_map.mpr ⟨_, Table.mem_of_lookup_eq_some found, rfl⟩
        simp [ownedBy, nowhere, List.filter_map, Function.comp_def]
      · simp [ownedBy, same, Ne.symm same, List.filter_map, Function.comp_def]
  exact each flow.nodes.nodup_keys

theorem labelsBetween_edges (flow : Flow) (source target : String) :
    Digraph.labelsBetween flow.edges (source, target) =
      ((flow.choicesAt source).filter fun choice => choice.target == target).map Choice.label := by
  have both : (fun edge : String × Choice => Digraph.edgeEnds edge == (source, target)) =
      fun edge => (fun choice : Choice => choice.target == target) edge.2 && edge.1 == source := by
    funext edge
    exact Bool.and_comm _ _
  rw [← ownedBy_edges_eq_choicesAt, ownedBy, List.filter_map, List.filter_filter, List.map_map,
    Digraph.labelsBetween, both]
  rfl

/-- **The graph of a flow is the graph of its choices.** -/
theorem digraph_eq_ofEdges (flow : Flow) :
    flow.digraph = Digraph.ofEdges flow.nodes.keys flow.edges := by
  have missing : flow.missingTargets =
      ((flow.edges.map fun edge => edge.2.target).filter (· ∉ flow.nodes.keys)).eraseDups := by
    rw [missingTargets]
    refine congrArg List.eraseDups (List.filter_congr fun id _ => ?_)
    rw [contains, Bool.eq_iff_iff, Bool.not_eq_true', ← Bool.not_eq_true,
      flow.nodes.contains_iff, decide_eq_true_eq]
  have pairs : (flow.edges.map Digraph.edgeEnds).eraseDups =
      flow.nodes.entries.flatMap fun entry =>
        (entry.2.choices.map Choice.target).eraseDups.map (entry.1, ·) := by
    rw [← eraseDups_flatMap_pair flow.nodes.nodup_keys, edges, List.map_flatMap]
    simp only [List.map_map]
    rfl
  rw [digraph, Digraph.ofEdges, missing, pairs, List.map_flatMap]
  refine congrArg _ (List.flatMap_congr fun entry member => ?_)
  have found : flow.node? entry.1 = some entry.2 := flow.nodes.mem_entries_iff.mp member
  rw [List.map_map]
  refine List.map_congr_left fun target _ => ?_
  rw [Function.comp_apply, Digraph.arcBetween, labelsBetween_edges, choicesAt_of_node? found]

/-- What a graph shows of a flow. It is what the choices draw. Its vertices are the ids of the flow
and then the targets that have no node. An arc connects two ids if a choice does, and there is one
for all such choices; if they all have labels, it has these, in their order. -/
structure ShownBy (flow : Flow) (graph : Digraph) : Prop where
  drawn : graph = flow.edges.foldl Digraph.draw ⟨flow.nodes.keys, []⟩
  vertices : graph.vertices = flow.nodes.keys ++
    ((flow.edges.map fun edge => edge.2.target).filter (· ∉ flow.nodes.keys)).eraseDups
  leads_iff : ∀ source target, graph.Leads source target ↔
    ∃ node, flow.node? source = some node ∧ ∃ choice ∈ node.choices, choice.target = target
  once : (graph.arcs.map Arc.ends).Nodup
  labels_joined : ∀ arc ∈ graph.arcs, ∀ labels : List String,
    ((flow.choicesAt arc.source).filter fun choice => choice.target == arc.target).map
      Choice.label = labels.map some → arc.label = some (" / ".intercalate labels)

theorem shownBy_digraph (flow : Flow) : flow.ShownBy flow.digraph where
  drawn := by
    have sources : ∀ edge ∈ flow.edges, edge.1 ∈ flow.nodes.keys := by
      intro edge member
      obtain ⟨node, found, -⟩ := flow.mem_edges_iff.mp member
      exact flow.nodes.mem_keys_iff.mpr ⟨node, found⟩
    rw [Digraph.foldl_draw sources, digraph_eq_ofEdges]
  vertices := by
    rw [digraph_eq_ofEdges]
    rfl
  leads_iff source target := by
    rw [leads_digraph_iff, mem_successors_iff]
    simp only [mem_edges_iff]
    constructor
    · rintro ⟨choice, ⟨node, found, member⟩, leads⟩
      exact ⟨node, found, choice, member, leads⟩
    · rintro ⟨node, found, choice, member, leads⟩
      exact ⟨choice, ⟨node, found, member⟩, leads⟩
  once := by
    rw [digraph_eq_ofEdges, Digraph.ends_ofEdges]
    exact nodup_eraseDups _
  labels_joined arc member labels all := by
    rw [digraph_eq_ofEdges] at member
    obtain ⟨ends, -, rfl⟩ := List.mem_map.mp member
    rw [← joinLabels_map_some, ← all]
    exact congrArg joinLabels (flow.labelsBetween_edges ends.1 ends.2)

/-- What the notes of a graph say of the flow. Beside the graph that shows the choices they name the
flow and its start. The vertices that have a note come first: they are those with a node, and the
note says what the node is. The start is marked, and no other vertex is. -/
structure NotedBy (flow : Flow) (graph : NotedDigraph) : Prop where
  graph_eq : graph.toDigraph = flow.digraph
  flowId_eq : graph.flowId = flow.id
  start_eq : graph.start = flow.start
  bare : ∃ missing, graph.vertices = graph.notes.keys ++ missing ∧
    ∀ id ∈ missing, flow.contains id = false
  noted : ∀ id note, graph.notes.get? id = some note ↔ ∃ node, flow.node? id = some node ∧
    note.role = node.role.name ∧ note.text = node.text ∧
      (note.isStart = true ↔ flow.start = some id)

theorem notedBy_graph (flow : Flow) : flow.NotedBy flow.graph where
  graph_eq := rfl
  flowId_eq := rfl
  start_eq := rfl
  bare := by
    refine ⟨flow.missingTargets, ?_, fun id member => ?_⟩
    · rw [graph, Table.keys_mapValues]
      rfl
    · have unknown := (List.mem_filter.mp (List.mem_eraseDups.mp member)).2
      rwa [Bool.not_eq_true'] at unknown
  noted id note := by
    rw [graph, Table.get?_mapValues, Option.map_eq_some_iff]
    refine exists_congr fun node => and_congr_right fun _ => ?_
    obtain ⟨role, text, isStart⟩ := note
    simp only [VertexNote.mk.injEq]
    constructor
    · rintro ⟨rfl, rfl, rfl⟩
      exact ⟨rfl, rfl, decide_eq_true_iff⟩
    · rintro ⟨rfl, rfl, marked⟩
      exact ⟨rfl, rfl, Bool.eq_iff_iff.mpr (decide_eq_true_iff.trans marked.symm)⟩

/-- The nodes where the flow begins are those that no choice leads to. -/
theorem rootIds_eq (flow : Flow) :
    flow.rootIds = flow.nodes.keys.filter fun id => ∀ edge ∈ flow.edges, edge.2.target ≠ id := by
  refine List.filter_congr fun id _ => ?_
  rw [Bool.eq_iff_iff, List.isEmpty_iff, List.eq_nil_iff_forall_not_mem, decide_eq_true_eq]
  simp only [Digraph.mem_predecessors_iff, leads_digraph_iff, mem_successors_iff]
  constructor
  · rintro nobody edge member target
    exact nobody edge.1 ⟨edge.2, member, target⟩
  · rintro nobody source ⟨choice, member, target⟩
    exact nobody (source, choice) member target

/-- The nodes where the flow ends are those that no arc leaves. -/
theorem leafIds_eq (flow : Flow) :
    flow.leafIds =
      flow.nodes.keys.filter fun id => ∀ arc ∈ flow.digraph.arcs, arc.source ≠ id := by
  rw [leafIds, Table.keys, List.filter_map]
  refine congrArg _ (List.filter_congr fun entry member => ?_)
  have found : flow.node? entry.1 = some entry.2 := flow.nodes.mem_entries_iff.mp member
  have leaves : (∃ arc ∈ flow.digraph.arcs, arc.source = entry.1) ↔
      ∃ choice, choice ∈ entry.2.choices := by
    constructor
    · rintro ⟨arc, there, source⟩
      obtain ⟨node, same, choice, chosen, -⟩ := (flow.shownBy_digraph.leads_iff entry.1
        arc.target).mp (List.mem_map.mpr ⟨arc, there, by rw [Arc.ends, source]⟩)
      obtain rfl := Option.some.inj (found.symm.trans same)
      exact ⟨choice, chosen⟩
    · rintro ⟨choice, chosen⟩
      obtain ⟨arc, there, ends⟩ := List.mem_map.mp ((flow.shownBy_digraph.leads_iff entry.1
        choice.target).mpr ⟨entry.2, found, choice, chosen, rfl⟩)
      exact ⟨arc, there, congrArg Prod.fst ends⟩
  rw [Bool.eq_iff_iff, List.isEmpty_iff, List.eq_nil_iff_forall_not_mem, Function.comp_apply,
    decide_eq_true_eq, ← not_exists, ← leaves]
  simp

/-- **The graph of a flow shows its choices**, and with it where the flow begins and ends. Its notes
say the rest: what the nodes are. -/
theorem digraph_projects (flow : Flow) :
    flow.ShownBy flow.digraph ∧
      flow.rootIds =
        flow.nodes.keys.filter (fun id => ∀ edge ∈ flow.edges, edge.2.target ≠ id) ∧
      flow.leafIds =
        flow.nodes.keys.filter (fun id => ∀ arc ∈ flow.digraph.arcs, arc.source ≠ id) ∧
      flow.NotedBy flow.graph :=
  ⟨flow.shownBy_digraph, flow.rootIds_eq, flow.leafIds_eq, flow.notedBy_graph⟩

/-- A loop and a choice without a node come between two choices with one target. -/
example :
    let choice := fun target label => ({ target := target, label := some label } : Choice)
    let choices := [choice "B" "no", choice "A" "yes", choice "C" "help", choice "B" "never"]
    let again : Node := { id := "A", text := "Again?", role := .question, choices := choices }
    let enough : Node := { id := "B", text := "Enough", role := .terminal }
    let flow : Flow := ⟨.null, .null, .null, some "A", .ofList [("A", again), ("B", enough)], "", {}⟩
    flow.digraph = ⟨["A", "B", "C"], [⟨"A", "B", some "no / never"⟩, ⟨"A", "A", some "yes"⟩,
      ⟨"A", "C", some "help"⟩]⟩ := by
  decide +kernel

end Flow

end ChartGuide
