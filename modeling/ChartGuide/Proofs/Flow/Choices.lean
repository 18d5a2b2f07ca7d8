/-
**The choices of a compiled flow are its edges, each once.**

A draft drops a choice that it has, when the labels are still open; settling it gives each choice
without a label the text of its target, and drops again what became equal. Both together keep the
first of the edges with the same final label and target (`Draft.settledChoices_ofParts`).

* `Choice.map_pair_distinct`: settling keeps the first choice of each label and target.
* `Settings.keys_compile`, `Settings.start_compile`, `Settings.mem_successors_compile_iff`: the ids,
  the start and the successors of a compiled flow, read off its chart.
* `Settings.choicesAt_compile`: the choices of a compiled node, read off the edges of the chart. No
  edge is lost.
-/

import ChartGuide.Compilation
import ChartGuide.Proofs.Draft.Records

namespace ChartGuide

namespace Choice

/-- What tells two choices of a node apart: the label and the target. -/
def pair (choice : Choice) : Option String × String := (choice.label, choice.target)

/-- Settling keeps the first choice of each label and target. -/
theorem map_pair_distinct (choices : List Choice) :
    (distinct choices).map pair = (choices.map pair).eraseDups := by
  induction choices with
  | nil => rfl
  | cons choice rest ih =>
    have samePair : (fun later : Choice =>
        !(later.label == choice.label && later.target == choice.target)) =
          (fun found => !found == choice.pair) ∘ pair := rfl
    rw [distinct, List.map_cons, List.map_cons, List.eraseDups_cons, samePair,
      ← List.filter_map, ih, filter_eraseDups]

theorem mem_of_mem_distinct {choices : List Choice} {choice : Choice}
    (member : choice ∈ distinct choices) : choice ∈ choices := by
  induction choices with
  | nil => exact member
  | cons first rest ih =>
    rcases List.mem_cons.mp member with rfl | later
    · exact List.mem_cons_self
    · exact List.mem_cons_of_mem _ (ih (List.mem_filter.mp later).1)

theorem length_distinct_le (choices : List Choice) :
    (distinct choices).length ≤ choices.length := by
  induction choices with
  | nil => exact Nat.le_refl 0
  | cons choice rest ih =>
    rw [distinct, List.length_cons, List.length_cons]
    exact Nat.succ_le_succ (Nat.le_trans (List.length_filter_le _ _) ih)

/-- A choice without tags and condition is known by its label and target. -/
theorem map_drawn_map_pair {choices : List Choice}
    (plain : ∀ choice ∈ choices, choice.tags = [] ∧ choice.condition = none) :
    (choices.map pair).map drawn = choices := by
  rw [List.map_map]
  refine (List.map_congr_left fun choice member => ?_).trans (List.map_id choices)
  obtain ⟨noTags, noCondition⟩ := plain choice member
  cases choice
  subst noTags noCondition
  rfl

end Choice

namespace Draft

/-- An edge with its final label: its own, or the text its target is shown by in the draft. -/
def finalEdge (draft : Draft) : Option String × String → Option String × String
  | (label, target) => (some (label.getD (draft.displayText target)), target)

/-- **Dropping repetitions before and after the labels are settled** is dropping them once, when all
labels are final. -/
theorem settledChoices_ofParts (draft : Draft) (id : String) (faces : List Face)
    (edges : List (Option String × String)) :
    draft.settledChoices (.ofParts id faces edges) =
      (edges.map draft.finalEdge).eraseDups.map Choice.drawn := by
  have labelled : ((edges.eraseDups.map Choice.drawn).map draft.labelled).map Choice.pair =
      edges.eraseDups.map draft.finalEdge := by
    rw [List.map_map, List.map_map]
    rfl
  have plain : ∀ choice ∈ draft.settledChoices (.ofParts id faces edges),
      choice.tags = [] ∧ choice.condition = none := by
    intro choice member
    obtain ⟨drawn, drawnMember, rfl⟩ := List.mem_map.mp (Choice.mem_of_mem_distinct member)
    obtain ⟨edge, _, rfl⟩ := List.mem_map.mp drawnMember
    exact ⟨rfl, rfl⟩
  rw [← Choice.map_drawn_map_pair plain, settledChoices, Choice.map_pair_distinct]
  show (((edges.eraseDups.map Choice.drawn).map draft.labelled).map Choice.pair).eraseDups.map _ = _
  rw [labelled, eraseDups_map_eraseDups]

namespace Holds

variable {draft : Draft} {ids : List String} {faces : List (String × Face)}
  {edges : List (String × Option String × String)}

theorem displayText (holds : draft.Holds ids faces edges) (id : String) :
    draft.displayText id = shownText id (ownedBy id faces) := by
  have expected : (draft.nodeAt id).text = shownText id (ownedBy id faces) :=
    congrArg DraftNode.text (holds.nodes id)
  rw [← expected, nodeAt, Draft.displayText]
  cases draft.nodes.get? id <;> rfl

end Holds

end Draft

namespace Flow

/-- The choices at an id, none if it has no node. -/
def choicesAt (flow : Flow) (id : String) : List Choice :=
  ((flow.node? id).map Node.choices).getD []

/-- The text of the node under an id, empty if it has none. -/
def textAt (flow : Flow) (id : String) : String := ((flow.node? id).map Node.text).getD ""

theorem successors_eq_map_choicesAt (flow : Flow) (id : String) :
    flow.successors id = (flow.choicesAt id).map Choice.target := by
  rw [successors, choicesAt]
  cases flow.node? id <;> rfl

theorem choicesAt_of_node? {flow : Flow} {id : String} {node : Node}
    (found : flow.node? id = some node) : flow.choicesAt id = node.choices := by
  rw [choicesAt, found]
  rfl

theorem findChoice?_of_node? {flow : Flow} {id : String} {node : Node}
    (found : flow.node? id = some node) (label : Value) :
    flow.findChoice? id label = node.findChoice? label := by
  rw [findChoice?, found]
  rfl

end Flow

namespace Node

variable {node : Node} {choice : Choice}

/-- A choice that is found has the label that it was looked for by. -/
theorem ofText?_label_of_findChoice? {label : Value}
    (found : node.findChoice? label = some choice) : Value.ofText? choice.label = label := by
  simpa using List.find?_some found

/-- The label of a choice finds the first choice of the node with this label. -/
theorem exists_findChoice? (member : choice ∈ node.choices) :
    ∃ first ∈ node.choices, node.findChoice? (.ofText? choice.label) = some first ∧
      first.label = choice.label := by
  have found : (node.findChoice? (.ofText? choice.label)).isSome = true :=
    List.find?_isSome.mpr ⟨choice, member, by simp⟩
  obtain ⟨first, firstFound⟩ := Option.isSome_iff_exists.mp found
  refine ⟨first, List.mem_of_find?_eq_some firstFound, firstFound, ?_⟩
  have same := ofText?_label_of_findChoice? firstFound
  revert same
  cases first.label <;> cases choice.label <;> simp [Value.ofText?]

end Node

namespace Draft.Holds

variable {draft : Draft} {ids : List String} {faces : List (String × Face)}
  {edges : List (String × Option String × String)} (settings : Settings) (source : String)
  (prior : Prior) (now : String)

theorem keys_settle (holds : draft.Holds ids faces edges) :
    (draft.settle settings source prior now).nodes.keys = ids.eraseDups :=
  (draft.nodes.keys_mapValues _).trans holds.keys

theorem start_settle (holds : draft.Holds ids faces edges) :
    (draft.settle settings source prior now).start = ids.head? :=
  holds.start?_eq.trans holds.start

/-- The node of a flow under an id: there is one if the id is mentioned. -/
theorem node?_settle (holds : draft.Holds ids faces edges) (id : String) :
    (draft.settle settings source prior now).node? id =
      if id ∈ ids then
        some (draft.settledNode settings id (.ofParts id (ownedBy id faces) (ownedBy id edges)))
      else none := by
  show (draft.nodes.mapValues (draft.settledNode settings)).get? id = _
  rw [Table.get?_mapValues, holds.get?]
  split <;> rfl

/-- The node of a mentioned id, read off its faces and its edges. -/
theorem exists_node?_settle (holds : draft.Holds ids faces edges) {id : String}
    (member : id ∈ ids) :
    ∃ node, (draft.settle settings source prior now).node? id = some node ∧ node.id = id ∧
      node.text = shownText id (ownedBy id faces) ∧
      node.choices = ((ownedBy id edges).map draft.finalEdge).eraseDups.map Choice.drawn := by
  have found := holds.node?_settle settings source prior now id
  rw [if_pos member] at found
  exact ⟨_, found, rfl, rfl, settledChoices_ofParts draft id _ _⟩

theorem contains_settle (holds : draft.Holds ids faces edges) (id : String) :
    (draft.settle settings source prior now).contains id = true ↔ id ∈ ids := by
  show ((draft.settle settings source prior now).node? id).isSome = true ↔ id ∈ ids
  rw [holds.node?_settle]
  split <;> simp [*]

theorem textAt_settle (holds : draft.Holds ids faces edges) {id : String} (mentioned : id ∈ ids) :
    (draft.settle settings source prior now).textAt id = draft.displayText id := by
  obtain ⟨node, found, _, text, _⟩ :=
    holds.exists_node?_settle settings source prior now mentioned
  rw [Flow.textAt, found, holds.displayText, ← text]
  rfl

/-- The choices of a flow at an id are the edges from there with their final labels, each once. -/
theorem choicesAt_settle (holds : draft.Holds ids faces edges) (id : String)
    (mentioned : ∀ edge ∈ ownedBy id edges, id ∈ ids) :
    (draft.settle settings source prior now).choicesAt id =
      ((ownedBy id edges).map draft.finalEdge).eraseDups.map Choice.drawn := by
  by_cases member : id ∈ ids
  · obtain ⟨node, found, _, _, choices⟩ :=
      holds.exists_node?_settle settings source prior now member
    rw [Flow.choicesAt, found, ← choices]
    rfl
  · -- An edge would mention the id, so there is none to draw a choice.
    have noEdge : ownedBy id edges = [] := by
      refine List.eq_nil_iff_forall_not_mem.mpr fun edge edgeMember => ?_
      exact member (mentioned edge edgeMember)
    rw [Flow.choicesAt, holds.node?_settle, if_neg member, noEdge]
    rfl

/-- The successors of a node are the targets of its edges. -/
theorem mem_successors_settle_iff (holds : draft.Holds ids faces edges) (id target : String)
    (mentioned : ∀ edge ∈ ownedBy id edges, id ∈ ids) :
    target ∈ (draft.settle settings source prior now).successors id ↔
      ∃ label, (label, target) ∈ ownedBy id edges := by
  rw [Flow.successors_eq_map_choicesAt,
    holds.choicesAt_settle settings source prior now id mentioned, List.map_map]
  constructor
  · intro member
    obtain ⟨final, finalMember, rfl⟩ := List.mem_map.mp member
    obtain ⟨edge, edgeMember, rfl⟩ := List.mem_map.mp (List.mem_eraseDups.mp finalMember)
    exact ⟨edge.1, edgeMember⟩
  · rintro ⟨label, edgeMember⟩
    refine List.mem_map.mpr ⟨draft.finalEdge (label, target), ?_, rfl⟩
    exact List.mem_eraseDups.mpr (List.mem_map_of_mem edgeMember)

end Draft.Holds

namespace Settings

/-- The ids of a compiled flow are those that its chart mentions, in the order of first mention. -/
theorem keys_compile (settings : Settings) (source : String) (prior : Prior) (now : String) :
    (settings.compile source prior now).nodes.keys =
      ((Statement.ofSource source).flatMap Statement.mentions).eraseDups :=
  (Draft.holds_ofSource source).keys_settle settings source prior now

/-- A session starts at the first of them. -/
theorem start_compile (settings : Settings) (source : String) (prior : Prior) (now : String) :
    (settings.compile source prior now).start =
      ((Statement.ofSource source).flatMap Statement.mentions).head? :=
  (Draft.holds_ofSource source).start_settle settings source prior now

theorem contains_compile_iff (settings : Settings) (source : String) (prior : Prior)
    (now id : String) :
    (settings.compile source prior now).contains id = true ↔
      id ∈ (Statement.ofSource source).flatMap Statement.mentions :=
  (Draft.holds_ofSource source).contains_settle settings source prior now id

/-- The successors of a compiled node are the targets of the edges that leave it. -/
theorem mem_successors_compile_iff (settings : Settings) (source : String) (prior : Prior)
    (now id target : String) :
    target ∈ (settings.compile source prior now).successors id ↔
      ∃ label, (id, label, target) ∈ (Statement.ofSource source).flatMap Statement.edges := by
  have mentioned : ∀ edge ∈ ownedBy id ((Statement.ofSource source).flatMap Statement.edges),
      id ∈ (Statement.ofSource source).flatMap Statement.mentions :=
    fun edge member => (Statement.mem_flatMap_mentions (mem_ownedBy_iff.mp member)).1
  unfold compile
  rw [(Draft.holds_ofSource source).mem_successors_settle_iff settings source prior now id target
    mentioned]
  simp only [mem_ownedBy_iff]

/-- The edges that leave a node with their final labels, by the texts that the flow shows. -/
theorem map_finalEdge_compile (settings : Settings) (source : String) (prior : Prior)
    (now id : String) :
    let flow := settings.compile source prior now
    let edges := ownedBy id ((Statement.ofSource source).flatMap Statement.edges)
    edges.map (Draft.ofSource source).finalEdge =
      edges.map fun edge => (some (edge.1.getD (flow.textAt edge.2)), edge.2) := by
  refine List.map_congr_left fun edge member => ?_
  have mentioned := (Statement.mem_flatMap_mentions (mem_ownedBy_iff.mp member)).2
  have text : (settings.compile source prior now).textAt edge.2 =
      (Draft.ofSource source).displayText edge.2 :=
    (Draft.holds_ofSource source).textAt_settle settings source prior now mentioned
  rw [text]
  rfl

/-- **The choices of a node are its edges, each once.** In the order of their lines, each edge that
leaves a node gives the choice with its label, or with the final text of its target if it has none;
of equal choices the first is kept. So no edge is lost: its ends are nodes, and the successors of a
node are the targets of its edges. -/
theorem choicesAt_compile (settings : Settings) (source : String) (prior : Prior) (now : String)
    (id : String) :
    let flow := settings.compile source prior now
    let edges := ownedBy id ((Statement.ofSource source).flatMap Statement.edges)
    flow.choicesAt id =
        ((edges.map fun edge =>
          (some (edge.1.getD (flow.textAt edge.2)), edge.2)).eraseDups.map Choice.drawn) ∧
      (∀ edge ∈ edges, flow.contains id = true ∧ flow.contains edge.2 = true) ∧
      ∀ target, target ∈ flow.successors id ↔ ∃ label, (label, target) ∈ edges := by
  intro flow edges
  have holds := Draft.holds_ofSource source
  have ends : ∀ edge ∈ edges, id ∈ (Statement.ofSource source).flatMap Statement.mentions ∧
      edge.2 ∈ (Statement.ofSource source).flatMap Statement.mentions := by
    intro edge member
    exact Statement.mem_flatMap_mentions (mem_ownedBy_iff.mp member)
  have finalEdges : (edges.map fun edge =>
      (some (edge.1.getD (flow.textAt edge.2)), edge.2)) =
        edges.map (Draft.ofSource source).finalEdge :=
    (settings.map_finalEdge_compile source prior now id).symm
  have mentioned : ∀ edge ∈ edges, id ∈ (Statement.ofSource source).flatMap Statement.mentions :=
    fun edge member => (ends edge member).1
  refine ⟨?_, fun edge member => ⟨?_, ?_⟩, fun target => ?_⟩
  · rw [finalEdges]
    exact holds.choicesAt_settle settings source prior now id mentioned
  · exact (holds.contains_settle settings source prior now id).mpr (ends edge member).1
  · exact (holds.contains_settle settings source prior now edge.2).mpr (ends edge member).2
  · exact holds.mem_successors_settle_iff settings source prior now id target mentioned

end Settings

end ChartGuide
