/-
**What the statements of a chart say, without a draft.**

An accepted line makes one statement. A statement mentions ids, gives faces to the ids that a shape
follows, and may draw an edge. From these three lists, taken over all lines in their order, the
parts of a node are read off at once: `shownText` from its last face, `impliedRole` from its last
face with a role, and its choices from the edges that leave it, each pair of label and target once.

* `Line.isSome_accepted?_iff`: the accepted lines are those reported as a declaration or an edge.
* `ownedBy`: what belongs to one id.
* `DraftNode.ofParts_declare`, `DraftNode.ofParts_addChoice`: one more face, one more edge.
-/

import ChartGuide.Draft.Basic
import ChartGuide.Proofs.Occurrences

namespace ChartGuide

/-- The statement of an accepted line. -/
def Line.accepted? : Line → Option Statement
  | .statement found => some found
  | _ => none

theorem Line.accepted?_eq_some_iff {line : Line} {found : Statement} :
    line.accepted? = some found ↔ line = .statement found := by
  cases line <;> simp [accepted?]

/-- The accepted lines are those reported as a declaration or an edge. -/
theorem Line.isSome_accepted?_iff (line : Line) :
    line.accepted?.isSome = true ↔ line.outcome = "declaration" ∨ line.outcome = "edge" := by
  cases line with
  | statement found => cases found <;> simp [accepted?, outcome]
  | _ => simp [accepted?, outcome]

/-- The faces that an end of an edge declares, with its id. -/
def Endpoint.faces (endpoint : Endpoint) : List (String × Face) :=
  endpoint.face.toList.map fun face => (endpoint.id, face)

namespace Statement

/-- The statements of a chart, in the order of its accepted lines. -/
def ofSource (source : String) : List Statement :=
  (Reading.ofSource source).filterMap fun reading => reading.line.accepted?

/-- The ids that a statement mentions: an edge mentions its source before its target. -/
def mentions : Statement → List String
  | .declaration id _ => [id]
  | .edge source _ target => [source.id, target.id]

/-- The faces that a statement declares, from left to right, with the ids they belong to. -/
def faces : Statement → List (String × Face)
  | .declaration id face => [(id, face)]
  | .edge source _ target => source.faces ++ target.faces

/-- The edge that a statement draws: its source with its label, if it has one, and its target. -/
def edges : Statement → List (String × Option String × String)
  | .edge source label target => [(source.id, label, target.id)]
  | .declaration _ _ => []

theorem mem_mentions_of_mem_edges {statement : Statement} {source target : String}
    {label : Option String} (drawn : (source, label, target) ∈ statement.edges) :
    source ∈ statement.mentions ∧ target ∈ statement.mentions := by
  cases statement with
  | declaration id face => exact absurd drawn List.not_mem_nil
  | edge left label right =>
    obtain ⟨rfl, rfl, rfl⟩ := by simpa [edges] using drawn
    simp [mentions]

/-- Both ends of an edge are mentioned somewhere in the chart that draws it. -/
theorem mem_flatMap_mentions {statements : List Statement} {source target : String}
    {label : Option String} (drawn : (source, label, target) ∈ statements.flatMap edges) :
    source ∈ statements.flatMap mentions ∧ target ∈ statements.flatMap mentions := by
  obtain ⟨statement, member, here⟩ := List.mem_flatMap.mp drawn
  obtain ⟨left, right⟩ := mem_mentions_of_mem_edges here
  exact ⟨List.mem_flatMap.mpr ⟨statement, member, left⟩,
    List.mem_flatMap.mpr ⟨statement, member, right⟩⟩

/-- What edges lead to is mentioned. -/
theorem forall_target_mem_mentions (statements : List Statement) :
    ∀ edge ∈ statements.flatMap edges, edge.2.2 ∈ statements.flatMap mentions :=
  fun _ drawn => (mem_flatMap_mentions drawn).2

end Statement

/-- The items of a list that belong to an id, in their order. -/
def ownedBy {α : Type} (id : String) (items : List (String × α)) : List α :=
  (items.filter fun item => item.1 == id).map Prod.snd

theorem ownedBy_append {α : Type} (id : String) (items later : List (String × α)) :
    ownedBy id (items ++ later) = ownedBy id items ++ ownedBy id later := by
  unfold ownedBy
  rw [List.filter_append, List.map_append]

theorem ownedBy_append_singleton {α : Type} (id owner : String) (items : List (String × α))
    (item : α) :
    ownedBy id (items ++ [(owner, item)]) =
      if owner = id then ownedBy id items ++ [item] else ownedBy id items := by
  rw [ownedBy_append]
  by_cases same : owner = id
  · simp [ownedBy, same]
  · simp [ownedBy, same]

theorem mem_ownedBy_iff {α : Type} {id : String} {items : List (String × α)} {item : α} :
    item ∈ ownedBy id items ↔ (id, item) ∈ items := by
  simp only [ownedBy, List.mem_map, List.mem_filter, beq_iff_eq]
  constructor
  · rintro ⟨⟨owner, _⟩, ⟨member, rfl⟩, rfl⟩
    exact member
  · intro member
    exact ⟨(id, item), ⟨member, rfl⟩, rfl⟩

/-- What a node is shown by: the text of its last face, and its id if that is empty or missing. -/
def shownText (id : String) (faces : List Face) : String :=
  match faces.getLast? with
  | some face => if face.text.isEmpty then id else face.text
  | none => id

/-- The role of the last face whose shape has one; a node without such a face is a question. -/
def impliedRole (faces : List Face) : Role :=
  (faces.filterMap fun face => face.shape.role?).getLast?.getD .question

/-- The choice with this label, if there is one, and this target. -/
def Choice.drawn : Option String × String → Choice
  | (label, target) => { target := target, label := label }

namespace DraftNode

/-- The node with these faces and these edges, first ones first. -/
def ofParts (id : String) (faces : List Face) (edges : List (Option String × String)) :
    DraftNode where
  id := id
  text := shownText id faces
  role := impliedRole faces
  choices := edges.eraseDups.map Choice.drawn

@[simp]
theorem id_ofParts (id : String) (faces : List Face) (edges : List (Option String × String)) :
    (ofParts id faces edges).id = id :=
  rfl

@[simp]
theorem role_ofParts (id : String) (faces : List Face) (edges : List (Option String × String)) :
    (ofParts id faces edges).role = impliedRole faces :=
  rfl

/-- Declaring a node gives it one more face. -/
theorem ofParts_declare (id : String) (faces : List Face) (edges : List (Option String × String))
    (face : Face) :
    (ofParts id faces edges).declare id face = ofParts id (faces ++ [face]) edges := by
  have text : shownText id (faces ++ [face]) = if face.text.isEmpty then id else face.text := by
    rw [shownText, List.getLast?_append]
    rfl
  have role : impliedRole (faces ++ [face]) = face.shape.role?.getD (impliedRole faces) := by
    rw [impliedRole, List.filterMap_append, List.getLast?_append]
    cases implied : face.shape.role? with
    | none => simp [implied, impliedRole]
    | some role => simp [implied]
  rw [declare, ofParts, ofParts, text, role]

/-- A node has a choice exactly when an edge draws it. -/
theorem ofParts_offers (id : String) (faces : List Face) (edges : List (Option String × String))
    (target : String) (label : Option String) :
    (ofParts id faces edges).offers target label = true ↔ (label, target) ∈ edges := by
  simp only [offers, ofParts, List.any_map, List.any_eq_true, Function.comp_apply, Choice.drawn,
    Bool.and_eq_true, beq_iff_eq, List.mem_eraseDups]
  constructor
  · rintro ⟨⟨_, _⟩, member, rfl, rfl⟩
    exact member
  · intro member
    exact ⟨(label, target), member, rfl, rfl⟩

/-- Adding a choice to a node draws one more edge, which adds a choice if it is not drawn yet. -/
theorem ofParts_addChoice (id : String) (faces : List Face) (edges : List (Option String × String))
    (target : String) (label : Option String) :
    (ofParts id faces edges).addChoice target label =
      (decide ((label, target) ∉ edges), ofParts id faces (edges ++ [(label, target)])) := by
  have offered := ofParts_offers id faces edges target label
  rw [addChoice]
  by_cases known : (label, target) ∈ edges
  · rw [if_pos (offered.mpr known), ofParts, ofParts, eraseDups_append_singleton, if_pos known,
      decide_eq_false (not_not.mpr known)]
  · rw [if_neg (mt offered.mp known), ofParts, ofParts, eraseDups_append_singleton,
      if_neg known, List.map_append, decide_eq_true known]
    rfl

end DraftNode

end ChartGuide
