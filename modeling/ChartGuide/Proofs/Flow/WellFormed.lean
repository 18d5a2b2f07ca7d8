/-
**Every chart compiles to a well formed flow.**

A flow is well formed when each node stands under its own id, is shown by a text without blanks at
its ends, and offers labelled choices to nodes of the flow, no two with the same label and target;
and when it has a start exactly if it has nodes, and the start is one of them.

* `Draft.Holds.finalize_eq_ok`: settling fails for no draft whose edges stay among its ids.
* `Draft.Holds.wellFormed_settle`: its flow is well formed if the ids are spelled and the faces are
  trimmed.
* `Settings.compile_wellFormed`: so compiling never fails, and the flow is well formed.
-/

import ChartGuide.Proofs.Digraph.Paths
import ChartGuide.Proofs.Flow.Choices
import ChartGuide.Proofs.Line
import ChartGuide.Proofs.Shape

namespace ChartGuide

/-- What a node of a flow promises: its id, what it is shown by, and where its choices lead. -/
structure Node.WellFormed (flow : Flow) (id : String) (node : Node) : Prop where
  id_eq : node.id = id
  text_ne_empty : node.text ≠ ""
  text_trimmed : Text.Trimmed node.text.toList
  choice_labelled : ∀ choice ∈ node.choices, choice.label ≠ none
  choice_leads : ∀ choice ∈ node.choices, flow.contains choice.target = true
  choices_distinct : (node.choices.map Choice.pair).Nodup

/-- What a flow promises to those who walk through it. -/
structure Flow.WellFormed (flow : Flow) : Prop where
  node : ∀ id node, flow.node? id = some node → node.WellFormed flow id
  start_eq_none_iff : flow.start = none ↔ flow.nodes.keys = []
  start_contained : ∀ id, flow.start = some id → flow.contains id = true

/-- Well formed flows are complete. -/
theorem Flow.WellFormed.complete {flow : Flow} (sound : flow.WellFormed) : flow.Complete := by
  rintro ⟨id, choice⟩ member
  obtain ⟨node, found, offered⟩ := flow.mem_edges_iff.mp member
  exact (sound.node id node found).choice_leads choice offered

/-- A well formed flow with nodes starts at one of them. -/
theorem Flow.WellFormed.exists_start_iff {flow : Flow} (sound : flow.WellFormed) :
    (∃ start, flow.start = some start) ↔ flow.nodes.keys ≠ [] := by
  rw [← Option.ne_none_iff_exists', ne_eq, sound.start_eq_none_iff]

theorem Spelled.trimmed {id : String} (spelled : Spelled id) : Text.Trimmed id.toList :=
  Text.trimmed_of_forall fun c member => Lexeme.isBlank_of_isIdentChar (spelled.chars c member)

/-- A node whose faces are trimmed is shown by a trimmed text that is not empty. -/
theorem shownText_presentable {id : String} {faces : List Face} (spelled : Spelled id)
    (trimmed : ∀ face ∈ faces, Text.Trimmed face.text.toList) :
    shownText id faces ≠ "" ∧ Text.Trimmed (shownText id faces).toList := by
  have idNonempty : id ≠ "" := fun empty => spelled.nonempty (by rw [empty]; rfl)
  rw [shownText]
  split
  · next face last =>
    split
    · exact ⟨idNonempty, spelled.trimmed⟩
    · next visible =>
      exact ⟨by simpa using visible, trimmed face (List.mem_of_getLast? last)⟩
  · exact ⟨idNonempty, spelled.trimmed⟩

namespace Draft.Holds

variable {draft : Draft} {ids : List String} {faces : List (String × Face)}
  {edges : List (String × Option String × String)} (settings : Settings) (source : String)
  (prior : Prior) (now : String)

/-- No label is taken from a node that is missing, if the edges of a draft lead to its ids. -/
theorem danglingTarget?_eq_none (holds : draft.Holds ids faces edges)
    (leads : ∀ edge ∈ edges, edge.2.2 ∈ ids) {id : String} {node : DraftNode}
    (entry : (id, node) ∈ draft.nodes.entries) : draft.danglingTarget? node = none := by
  rw [holds.entries] at entry
  obtain ⟨owner, _, equal⟩ := List.mem_map.mp entry
  obtain ⟨rfl, rfl⟩ := Prod.mk.inj equal
  rw [danglingTarget?, Option.map_eq_none_iff, List.find?_eq_none]
  intro choice choiceMember
  obtain ⟨edge, edgeMember, rfl⟩ := List.mem_map.mp choiceMember
  have target := leads _ (mem_ownedBy_iff.mp (List.mem_eraseDups.mp edgeMember))
  have there : draft.nodes.contains edge.2 = true :=
    (draft.nodes.contains_iff edge.2).mpr (holds.mem_keys target)
  show ¬ ((Choice.drawn edge).label.isNone && !draft.nodes.contains edge.2) = true
  rw [there]
  simp

/-- Settling fails for no draft whose edges lead to its ids. -/
theorem finalize_eq_ok (holds : draft.Holds ids faces edges)
    (leads : ∀ edge ∈ edges, edge.2.2 ∈ ids) :
    draft.finalize settings source prior now = .ok (draft.settle settings source prior now) := by
  have noFault : draft.missingNode? = none := by
    rw [missingNode?, Option.map_eq_none_iff, List.findSome?_eq_none_iff]
    intro node member
    obtain ⟨⟨id, stored⟩, entry, rfl⟩ := List.mem_map.mp member
    exact holds.danglingTarget?_eq_none leads entry
  rw [finalize, noFault]

/-- The flow of a draft is well formed if its ids are spelled, its faces trimmed, and its edges
lead to its ids. -/
theorem wellFormed_settle (holds : draft.Holds ids faces edges)
    (spelled : ∀ id ∈ ids, Spelled id)
    (trimmed : ∀ entry ∈ faces, Text.Trimmed entry.2.text.toList)
    (leads : ∀ edge ∈ edges, edge.2.2 ∈ ids) :
    (draft.settle settings source prior now).WellFormed where
  node id node found := by
    rw [holds.node?_settle] at found
    split at found
    · next mentioned =>
      obtain rfl := Option.some.inj found
      have ownTrimmed : ∀ face ∈ ownedBy id faces, Text.Trimmed face.text.toList :=
        fun face member => trimmed (id, face) (mem_ownedBy_iff.mp member)
      have shown := shownText_presentable (spelled id mentioned) ownTrimmed
      have drawn : ∀ choice ∈
          draft.settledChoices (.ofParts id (ownedBy id faces) (ownedBy id edges)),
          ∃ edge ∈ ownedBy id edges, choice = Choice.drawn (draft.finalEdge edge) := by
        intro choice member
        rw [settledChoices_ofParts] at member
        obtain ⟨final, finalMember, rfl⟩ := List.mem_map.mp member
        obtain ⟨edge, edgeMember, rfl⟩ := List.mem_map.mp (List.mem_eraseDups.mp finalMember)
        exact ⟨edge, edgeMember, rfl⟩
      refine ⟨rfl, shown.1, shown.2, fun choice member => ?_, fun choice member => ?_, ?_⟩
      · obtain ⟨edge, _, rfl⟩ := drawn choice member
        exact Option.some_ne_none _
      · obtain ⟨edge, edgeMember, rfl⟩ := drawn choice member
        rw [holds.contains_settle]
        exact leads (id, edge) (mem_ownedBy_iff.mp edgeMember)
      · show ((draft.settledChoices _).map Choice.pair).Nodup
        rw [settledChoices, Choice.map_pair_distinct]
        exact nodup_eraseDups _
    · cases found
  start_eq_none_iff := by
    rw [holds.start_settle, holds.keys_settle, ← head?_eraseDups, List.head?_eq_none_iff]
  start_contained id start := by
    rw [holds.start_settle] at start
    exact (holds.contains_settle settings source prior now id).mpr (List.mem_of_head? start)

end Draft.Holds

/-- What compiling gives is well formed. -/
theorem Settings.wellFormed_compile (settings : Settings) (source : String) (prior : Prior)
    (now : String) : (settings.compile source prior now).WellFormed :=
  (Draft.holds_ofSource source).wellFormed_settle settings source prior now
    (fun _ => Statement.spelled_of_mem_mentions) (fun _ => Statement.trimmed_of_mem_faces)
    (Statement.forall_target_mem_mentions _)

/-- Settling what was read from a chart does not fail. -/
theorem Draft.finalize_ofSource (settings : Settings) (source : String) (prior : Prior)
    (now : String) :
    (ofSource source).finalize settings source prior now =
      .ok (settings.compile source prior now) :=
  (holds_ofSource source).finalize_eq_ok settings source prior now
    (Statement.forall_target_mem_mentions _)

/-- **Every chart compiles to a well formed flow**, with any settings and any earlier flow. The
search for the opening quote of a shape's text always finds it, and every label can be taken from
its target, so nothing fails on the way. -/
theorem Settings.compile_wellFormed (settings : Settings) (source : String) (prior : Prior)
    (now : String) :
    (∀ (shape : Shape) (text : List Char), shape.readSearching text = .ok (shape.read? text)) ∧
      (Draft.ofSource source).finalize settings source prior now =
        .ok (settings.compile source prior now) ∧
      (settings.compile source prior now).WellFormed := by
  have holds := Draft.holds_ofSource source
  have leads : ∀ edge ∈ (Statement.ofSource source).flatMap Statement.edges,
      edge.2.2 ∈ (Statement.ofSource source).flatMap Statement.mentions :=
    fun edge member => (Statement.mem_flatMap_mentions member).2
  refine ⟨Shape.readSearching_eq, holds.finalize_eq_ok settings source prior now leads, ?_⟩
  exact holds.wellFormed_settle settings source prior now
    (fun id => Statement.spelled_of_mem_mentions)
    (fun entry => Statement.trimmed_of_mem_faces) leads

end ChartGuide
