/-
**The draft of a chart is what its statements say.**

`Draft.Holds` relates a draft to the ids mentioned, the faces declared and the edges drawn so far.
Each of the four ways to change a draft adds one item to one of the three lists, so each statement
adds its own (`Draft.Holds.apply`), and a whole chart adds them all (`Draft.holds_ofSource`).

* `Draft.ofSource_eq_reading`: the nodes of a draft are the mentioned ids in the order of first
  mention, each with the text of its last face, the role of its last face that has one, and its
  edges. The start is the first of them.
-/

import ChartGuide.Draft.Settle
import ChartGuide.Proofs.Draft.Statements
import ChartGuide.Proofs.Table

namespace ChartGuide

/-- Updating a value twice is updating it once by both. -/
theorem Table.upsertEntries_upsertEntries {κ α : Type} [DecidableEq κ] (key : κ)
    (first second : Option α → α) (entries : List (κ × α)) :
    upsertEntries key second (upsertEntries key first entries) =
      upsertEntries key (fun old => second (some (first old))) entries := by
  induction entries with
  | nil => simp [upsertEntries]
  | cons entry rest ih =>
    obtain ⟨other, value⟩ := entry
    by_cases here : other = key
    · simp [upsertEntries, here]
    · simp [upsertEntries, here, ih]

namespace Draft

/-- The node under an id, or the placeholder that a first mention would make. -/
def nodeAt (draft : Draft) (id : String) : DraftNode :=
  (draft.nodes.get? id).getD (.placeholder id)

/-- The nodes of a draft are their ids with what stands there. -/
theorem entries_eq_map_nodeAt (draft : Draft) :
    draft.nodes.entries = draft.nodes.keys.map fun id => (id, draft.nodeAt id) := by
  refine draft.nodes.entries_eq_map_keys draft.nodeAt fun id node found => ?_
  rw [nodeAt, found]
  rfl

/-! ### The four changes, node by node -/

theorem nodeAt_ensure (draft : Draft) (mentioned id : String) :
    (draft.ensure mentioned).nodeAt id = draft.nodeAt id := by
  rw [nodeAt, ensure, Table.insertIfNew, Table.get?_upsert]
  split
  · next same =>
    subst same
    rfl
  · rfl

theorem nodeAt_declare (draft : Draft) (declared : String) (face : Face) (id : String) :
    (draft.declare declared face).nodeAt id =
      if declared = id then (draft.nodeAt id).declare id face else draft.nodeAt id := by
  rw [nodeAt, declare, Table.get?_upsert]
  by_cases same : id = declared
  · subst same
    rw [if_pos rfl, if_pos rfl]
    rfl
  · rw [if_neg same, if_neg (Ne.symm same)]
    rfl

theorem nodeAt_addChoice (draft : Draft) (source target : String) (label : Option String)
    (there : source ∈ draft.nodes.keys) (id : String) :
    (draft.addChoice source target label).nodeAt id =
      if source = id then ((draft.nodeAt id).addChoice target label).2 else draft.nodeAt id := by
  obtain ⟨node, found⟩ := draft.nodes.mem_keys_iff.mp there
  rw [nodeAt, addChoice, modify, Table.get?_modify]
  by_cases same : id = source
  · subst same
    rw [if_pos rfl, if_pos rfl, nodeAt, found]
    rfl
  · rw [if_neg same, if_neg (Ne.symm same)]
    rfl

/-- Declaring a node mentions it first. -/
theorem declare_eq_ensure_declare (draft : Draft) (id : String) (face : Face) :
    draft.declare id face = (draft.ensure id).declare id face := by
  simp only [declare, ensure, Table.insertIfNew, Table.upsert, Table.upsertEntries_upsertEntries]
  rfl

theorem keys_ensure (draft : Draft) (id : String) :
    (draft.ensure id).nodes.keys =
      if id ∈ draft.nodes.keys then draft.nodes.keys else draft.nodes.keys ++ [id] :=
  draft.nodes.keys_upsert id _

theorem keys_declare (draft : Draft) (id : String) (face : Face)
    (there : id ∈ draft.nodes.keys) :
    (draft.declare id face).nodes.keys = draft.nodes.keys :=
  (draft.nodes.keys_upsert id _).trans (if_pos there)

/-! ### What a draft holds -/

/-- The draft holds the mentioned ids, the declared faces and the drawn edges. -/
structure Holds (draft : Draft) (ids : List String) (faces : List (String × Face))
    (edges : List (String × Option String × String)) : Prop where
  keys : draft.nodes.keys = ids.eraseDups
  start : draft.startCandidate = ids.head?
  nodes : ∀ id, draft.nodeAt id = .ofParts id (ownedBy id faces) (ownedBy id edges)

/-- The empty draft holds nothing. -/
theorem holds_empty : Holds empty [] [] [] :=
  ⟨rfl, rfl, fun _ => rfl⟩

namespace Holds

variable {draft : Draft} {ids : List String} {faces : List (String × Face)}
  {edges : List (String × Option String × String)}

theorem mem_keys (holds : draft.Holds ids faces edges) {id : String} (member : id ∈ ids) :
    id ∈ draft.nodes.keys := by
  rw [holds.keys]
  exact List.mem_eraseDups.mpr member

/-- One more mention in a draft that may have noted a start meanwhile. -/
theorem ensure_noted (holds : draft.Holds ids faces edges) (noted : Draft)
    (sameNodes : noted.nodes = draft.nodes) (id : String)
    (start : noted.startCandidate = (ids ++ [id]).head?) :
    (noted.ensure id).Holds (ids ++ [id]) faces edges where
  keys := by
    rw [keys_ensure, sameNodes, holds.keys, eraseDups_append_singleton]
    simp only [List.mem_eraseDups]
  start := start
  nodes owner := by
    rw [nodeAt_ensure, nodeAt, sameNodes]
    exact holds.nodes owner

theorem note_ensure (holds : draft.Holds ids faces edges) (id : String) :
    ((draft.note id).ensure id).Holds (ids ++ [id]) faces edges := by
  have noted : (draft.note id).startCandidate = (ids ++ [id]).head? := by
    rw [List.head?_append, ← holds.start]
    rfl
  exact holds.ensure_noted (draft.note id) rfl id noted

theorem ensure (holds : draft.Holds ids faces edges) (id : String) (later : ids ≠ []) :
    (draft.ensure id).Holds (ids ++ [id]) faces edges := by
  obtain ⟨first, rest, rfl⟩ := List.exists_cons_of_ne_nil later
  exact holds.ensure_noted draft rfl id holds.start

theorem declare (holds : draft.Holds ids faces edges) {id : String} (member : id ∈ ids)
    (face : Face) : (draft.declare id face).Holds ids (faces ++ [(id, face)]) edges where
  keys := by rw [keys_declare draft id face (holds.mem_keys member), holds.keys]
  start := holds.start
  nodes owner := by
    rw [nodeAt_declare, holds.nodes, ownedBy_append_singleton]
    split
    · exact DraftNode.ofParts_declare ..
    · rfl

theorem declareEndpoint (holds : draft.Holds ids faces edges) (endpoint : Endpoint)
    (member : endpoint.id ∈ ids) :
    (draft.declareEndpoint endpoint).Holds ids (faces ++ endpoint.faces) edges := by
  obtain ⟨id, face⟩ := endpoint
  cases face with
  | none => simpa [Draft.declareEndpoint, Endpoint.faces] using holds
  | some face => exact holds.declare member face

theorem addChoice (holds : draft.Holds ids faces edges) {source : String} (member : source ∈ ids)
    (target : String) (label : Option String) :
    (draft.addChoice source target label).Holds ids faces
      (edges ++ [(source, label, target)]) where
  keys := (draft.nodes.keys_modify source _).trans holds.keys
  start := holds.start
  nodes owner := by
    rw [nodeAt_addChoice draft source target label (holds.mem_keys member), holds.nodes,
      ownedBy_append_singleton]
    split
    · rw [DraftNode.ofParts_addChoice]
    · rfl

/-- **One statement.** It adds its mentions, its faces and its edges. -/
theorem apply (holds : draft.Holds ids faces edges) (statement : Statement) :
    (draft.apply statement).Holds (ids ++ statement.mentions) (faces ++ statement.faces)
      (edges ++ statement.edges) := by
  cases statement with
  | declaration id face =>
    have declared :=
      (holds.note_ensure id).declare (List.mem_append_right _ List.mem_cons_self) face
    rw [← declare_eq_ensure_declare] at declared
    simpa [Draft.apply, Statement.mentions, Statement.faces, Statement.edges] using declared
  | edge source label target =>
    have mentioned := (holds.note_ensure source.id).ensure target.id (by simp)
    have sourceIn : source.id ∈ ids ++ [source.id] ++ [target.id] := by simp
    have targetIn : target.id ∈ ids ++ [source.id] ++ [target.id] := by simp
    have declared := (mentioned.declareEndpoint source sourceIn).declareEndpoint target targetIn
    have drawn := declared.addChoice sourceIn target.id label
    simpa [Draft.apply, Statement.mentions, Statement.faces, Statement.edges] using drawn

/-- The nodes of a draft are the mentioned ids, in the order of first mention, with their faces and
edges. -/
theorem entries (holds : draft.Holds ids faces edges) :
    draft.nodes.entries =
      ids.eraseDups.map fun id => (id, .ofParts id (ownedBy id faces) (ownedBy id edges)) := by
  rw [entries_eq_map_nodeAt, holds.keys]
  exact List.map_congr_left fun id _ => Prod.ext rfl (holds.nodes id)

/-- The mentioned ids are those with a node, which has their faces and edges. -/
theorem get? (holds : draft.Holds ids faces edges) (id : String) :
    draft.nodes.get? id =
      if id ∈ ids then some (.ofParts id (ownedBy id faces) (ownedBy id edges)) else none := by
  split
  · next member =>
    obtain ⟨node, found⟩ := draft.nodes.mem_keys_iff.mp (holds.mem_keys member)
    have expected := holds.nodes id
    rw [nodeAt, found, Option.getD_some] at expected
    rw [found, expected]
  · next absent =>
    rw [Table.get?_eq_none_iff, holds.keys, List.mem_eraseDups]
    exact absent

theorem start_mem (holds : draft.Holds ids faces edges) {id : String}
    (start : draft.startCandidate = some id) : draft.nodes.contains id = true := by
  rw [Table.contains_iff]
  rw [holds.start] at start
  exact holds.mem_keys (List.mem_of_head? start)

/-- There is no start exactly when there are no nodes. -/
theorem start_eq_none_iff (holds : draft.Holds ids faces edges) :
    draft.startCandidate = none ↔ draft.nodes.keys = [] := by
  rw [holds.start, holds.keys, ← head?_eraseDups, List.head?_eq_none_iff]

theorem filter_start (holds : draft.Holds ids faces edges) :
    draft.startCandidate.filter draft.nodes.contains = draft.startCandidate := by
  cases start : draft.startCandidate with
  | none => rfl
  | some id => exact Option.filter_some_pos (holds.start_mem start)

theorem start?_eq (holds : draft.Holds ids faces edges) : draft.start? = draft.startCandidate := by
  rw [Draft.start?, holds.filter_start]
  cases start : draft.startCandidate with
  | none => simp [holds.start_eq_none_iff.mp start]
  | some id => rfl

end Holds

/-- **A run of statements.** It adds the mentions, faces and edges of each in turn. -/
theorem holds_foldl_apply (statements : List Statement) :
    (statements.foldl Draft.apply empty).Holds (statements.flatMap Statement.mentions)
      (statements.flatMap Statement.faces) (statements.flatMap Statement.edges) := by
  induction statements using List.reverseRecOn with
  | nil => exact holds_empty
  | append_singleton statements statement ih =>
    rw [List.foldl_append, List.flatMap_append, List.flatMap_append, List.flatMap_append]
    simpa using ih.apply statement

/-- Only the accepted lines of a chart change its draft. -/
theorem ofSource_eq_foldl_apply (source : String) :
    ofSource source = (Statement.ofSource source).foldl Draft.apply empty := by
  rw [ofSource, ofReadings, Statement.ofSource, List.foldl_filterMap]
  congr 1
  funext draft reading
  cases reading.line <;> rfl

/-- The draft of a chart holds what its statements say. -/
theorem holds_ofSource (source : String) :
    (ofSource source).Holds ((Statement.ofSource source).flatMap Statement.mentions)
      ((Statement.ofSource source).flatMap Statement.faces)
      ((Statement.ofSource source).flatMap Statement.edges) := by
  rw [ofSource_eq_foldl_apply]
  exact holds_foldl_apply _

/-- **The nodes of a chart are stored under their own ids.** -/
theorem id_eq_of_ofSource {source id : String} {node : DraftNode}
    (found : (ofSource source).nodes.get? id = some node) : node.id = id := by
  rw [(holds_ofSource source).get?] at found
  split at found
  · rw [← Option.some.inj found, DraftNode.id_ofParts]
  · cases found

/-- **The draft of a chart, read off its accepted lines.** Its nodes are the mentioned ids in the
order of first mention. Each is stored under its own id, is shown by the text of the last shape that
declared it, has the role of the last of them that implies one, and offers the edges that leave it.
The start is the first id, and it is never looked for elsewhere. -/
theorem ofSource_eq_reading (source : String) :
    let statements := Statement.ofSource source
    let ids := (statements.flatMap Statement.mentions).eraseDups
    let faces := fun id => ownedBy id (statements.flatMap Statement.faces)
    let edges := fun id => ownedBy id (statements.flatMap Statement.edges)
    let draft := ofSource source
    draft.nodes.entries =
        ids.map (fun id =>
          (id,
            { id := id
              text := shownText id (faces id)
              role := impliedRole (faces id)
              choices := (edges id).eraseDups.map Choice.drawn })) ∧
      draft.startCandidate = ids.head? ∧
      (draft.startCandidate = none ↔ draft.nodes.keys = []) ∧
      draft.startCandidate.filter draft.nodes.contains = draft.startCandidate ∧
      draft.start? = draft.startCandidate := by
  have holds := holds_ofSource source
  refine ⟨holds.entries, ?_, holds.start_eq_none_iff, holds.filter_start, holds.start?_eq⟩
  rw [head?_eraseDups]
  exact holds.start

end Draft

end ChartGuide
