/-
**Lines that may change places.**

Two lines are independent if no id is declared by both and they do not draw edges from the same
source. Whichever of them comes first, each id then has the same faces and the same edges in the
same order, and these make up its node in the draft. What a choice without a label is called depends
on the node it leads to, and so on the draft only through what stands under its ids.

So neighbouring lines that are independent may be swapped, and every id keeps its node. Ids may be
mentioned in another order, and if nothing was mentioned before, another of them may come first.

* `ownedBy_swap`: lists without common owners may be swapped.
* `Draft.get?_swap`: independent statements may be made in either order.
* `Draft.reordered_settle`: a draft is settled node by node, whatever order its nodes have.
* `Settings.compile_swapped`: the flow of a chart in which two neighbouring lines are swapped.
-/

import ChartGuide.Proofs.Draft.SkippedLines
import ChartGuide.Proofs.Flow.Choices

namespace ChartGuide

/-- Tables that answer alike have the same keys. -/
theorem Table.perm_keys {κ α : Type} [DecidableEq κ] {first second : Table κ α}
    (same : ∀ key, first.get? key = second.get? key) : first.keys.Perm second.keys := by
  rw [List.perm_ext_iff_of_nodup first.keys_nodup second.keys_nodup]
  intro key
  rw [mem_keys_iff, mem_keys_iff, same]

/-! ### Independent statements -/

/-- An id that owns nothing in a list. -/
theorem ownedBy_eq_nil {α : Type} {id : String} {items : List (String × α)}
    (foreign : id ∉ items.map Prod.fst) : ownedBy id items = [] := by
  refine List.eq_nil_iff_forall_not_mem.mpr fun item member => foreign ?_
  exact List.mem_map_of_mem (f := Prod.fst) (mem_ownedBy_iff.mp member)

/-- Lists without common owners may be swapped: to each owner they look the same. -/
theorem ownedBy_swap {α : Type} {first second : List (String × α)}
    (apart : ∀ owner ∈ first.map Prod.fst, owner ∉ second.map Prod.fst)
    (before after : List (String × α)) (id : String) :
    ownedBy id (before ++ (first ++ (second ++ after))) =
      ownedBy id (before ++ (second ++ (first ++ after))) := by
  simp only [ownedBy_append]
  by_cases owner : id ∈ first.map Prod.fst
  · rw [ownedBy_eq_nil (apart id owner), List.nil_append, List.nil_append]
  · rw [ownedBy_eq_nil owner, List.nil_append, List.nil_append]

/-- Statements that do not get in each other's way: no id is declared by both of two lists, and no
id is the source of edges in both. -/
structure Statement.Independent (first second : List Statement) : Prop where
  faces : ∀ id ∈ (first.flatMap faces).map Prod.fst, id ∉ (second.flatMap faces).map Prod.fst
  sources : ∀ id ∈ (first.flatMap edges).map Prod.fst, id ∉ (second.flatMap edges).map Prod.fst

instance (first second : List Statement) : Decidable (Statement.Independent first second) :=
  decidable_of_iff
    ((∀ id ∈ (first.flatMap Statement.faces).map Prod.fst,
        id ∉ (second.flatMap Statement.faces).map Prod.fst) ∧
      ∀ id ∈ (first.flatMap Statement.edges).map Prod.fst,
        id ∉ (second.flatMap Statement.edges).map Prod.fst)
    ⟨fun ⟨faces, sources⟩ => ⟨faces, sources⟩,
      fun independent => ⟨independent.faces, independent.sources⟩⟩

/-- **Independent statements commute**: made in either order, whatever is said before and later,
they leave the same node under every id. -/
theorem Draft.get?_swap {first second : List Statement}
    (independent : Statement.Independent first second) (before after : List Statement)
    (id : String) :
    ((before ++ (first ++ (second ++ after))).foldl apply empty).nodes.get? id =
      ((before ++ (second ++ (first ++ after))).foldl apply empty).nodes.get? id := by
  have mentioned :
      id ∈ (before ++ (first ++ (second ++ after))).flatMap Statement.mentions ↔
        id ∈ (before ++ (second ++ (first ++ after))).flatMap Statement.mentions := by
    simp only [List.flatMap_append, List.mem_append]
    rw [or_left_comm (a := id ∈ first.flatMap Statement.mentions)]
  have faces : ownedBy id ((before ++ (first ++ (second ++ after))).flatMap Statement.faces) =
      ownedBy id ((before ++ (second ++ (first ++ after))).flatMap Statement.faces) := by
    simp only [List.flatMap_append]
    exact ownedBy_swap independent.faces _ _ id
  have edges : ownedBy id ((before ++ (first ++ (second ++ after))).flatMap Statement.edges) =
      ownedBy id ((before ++ (second ++ (first ++ after))).flatMap Statement.edges) := by
    simp only [List.flatMap_append]
    exact ownedBy_swap independent.sources _ _ id
  rw [(holds_foldl_apply _).get?, (holds_foldl_apply _).get?, faces, edges]
  simp only [mentioned]

/-! ### Settling node by node -/

/-- Two flows with the same nodes, maybe in another order, and the same identity. Where sessions
start is left open, and so is the chart. -/
structure Flow.Reordered (first second : Flow) : Prop where
  keys : first.nodes.keys.Perm second.nodes.keys
  node? : ∀ id, first.node? id = second.node? id
  id : first.id = second.id
  title : first.title = second.title
  description : first.description = second.description
  metadata : first.metadata = second.metadata

namespace Draft

variable {draft other : Draft} (same : ∀ id, draft.nodes.get? id = other.nodes.get? id)

include same

theorem labelled_congr : draft.labelled = other.labelled := by
  funext choice
  unfold labelled displayText
  rw [same]

theorem settledNode_congr (settings : Settings) : draft.settledNode settings =
    other.settledNode settings := by
  funext id node
  unfold settledNode settledChoices
  rw [labelled_congr same]

/-- Drafts with the same node under every id are settled to the same nodes. -/
theorem reordered_settle (settings : Settings) (source otherSource : String) (prior : Prior)
    (now : String) :
    (draft.settle settings source prior now).Reordered
      (other.settle settings otherSource prior now) := by
  have nodes : ∀ id, (draft.settle settings source prior now).nodes.get? id =
      (other.settle settings otherSource prior now).nodes.get? id := by
    intro id
    show (draft.nodes.mapValues _).get? id = (other.nodes.mapValues _).get? id
    rw [Table.get?_mapValues, Table.get?_mapValues, same, settledNode_congr same]
  exact ⟨Table.perm_keys nodes, nodes, rfl, rfl, rfl, rfl⟩

end Draft

/-! ### Neighbouring lines -/

/-- Every statement mentions an id. -/
theorem Statement.mentions_ne_nil (statement : Statement) : statement.mentions ≠ [] := by
  cases statement <;> exact List.cons_ne_nil _ _

/-- Two lines that may change places: no id is declared with a shape by both, and they are not two
edges from the same source. A line that is not accepted may change places with any other. -/
def Line.Independent (first second : List Char) : Prop :=
  Statement.Independent (Statement.ofLine first).toList (Statement.ofLine second).toList

instance (first second : List Char) : Decidable (Line.Independent first second) :=
  inferInstanceAs (Decidable (Statement.Independent _ _))

/-- What a chart says in which two neighbours are looked at. -/
theorem Statement.ofSource_of_neighbours {source : String} {before after : List (List Char)}
    {first second : List Char} (lines : linesOf source = before ++ first :: second :: after) :
    ofSource source = before.filterMap ofLine ++
      ((ofLine first).toList ++ ((ofLine second).toList ++ after.filterMap ofLine)) := by
  have neighbours : (first :: second :: after).filterMap ofLine =
      (ofLine first).toList ++ ((ofLine second).toList ++ after.filterMap ofLine) := by
    rw [List.filterMap_cons, List.filterMap_cons]
    cases ofLine first <;> cases ofLine second <;> rfl
  rw [ofSource_eq_filterMap_linesOf, lines, List.filterMap_append, neighbours]

/-- The lines of a chart that is put together from lines of another one. -/
theorem linesOf_chartOf (source : String) {lines : List (List Char)} (filled : lines ≠ [])
    (taken : lines ⊆ linesOf source) : linesOf (chartOf lines) = lines := by
  unfold linesOf chartOf
  rw [String.toList_ofList]
  exact List.splitOn_intercalate '\n'
    (fun line member => Text.not_mem_of_mem_splitOn (taken member)) filled

/-- **Independent lines may be swapped.** If two neighbouring lines of a chart are swapped that do
not both declare an id and do not both draw an edge from one source, every id keeps its node, with
its text, role, choices and attributes. The order of the nodes may change, and the start only if no
line before them is accepted. -/
theorem Settings.compile_swapped (settings : Settings) {source : String}
    {before after : List (List Char)} {first second : List Char}
    (neighbours : linesOf source = before ++ first :: second :: after)
    (independent : Line.Independent first second) (prior : Prior) (now : String) :
    let flow := settings.compile source prior now
    let swapped := settings.compile (chartOf (before ++ second :: first :: after)) prior now
    flow.Reordered swapped ∧
      ((∃ line ∈ before, (Statement.ofLine line).isSome = true) → flow.start = swapped.start) := by
  intro flow swapped
  have exchanged : linesOf (chartOf (before ++ second :: first :: after)) =
      before ++ second :: first :: after := by
    refine linesOf_chartOf source (by simp) ?_
    rw [neighbours]
    exact ((List.Perm.swap first second after).append_left before).subset
  have statements := Statement.ofSource_of_neighbours neighbours
  have swappedStatements := Statement.ofSource_of_neighbours exchanged
  refine ⟨?_, ?_⟩
  · refine Draft.reordered_settle (fun id => ?_) settings _ _ prior now
    rw [Draft.ofSource_eq_foldl_apply, Draft.ofSource_eq_foldl_apply, statements, swappedStatements]
    exact Draft.get?_swap independent _ _ id
  · rintro ⟨line, member, accepted⟩
    obtain ⟨statement, made⟩ := Option.isSome_iff_exists.mp accepted
    have earlier : (before.filterMap Statement.ofLine).flatMap Statement.mentions ≠ [] := by
      intro noIds
      refine statement.mentions_ne_nil (List.flatMap_eq_nil_iff.mp noIds statement ?_)
      exact List.mem_filterMap.mpr ⟨line, member, made⟩
    show (settings.compile _ prior now).start = (settings.compile _ prior now).start
    rw [start_compile, start_compile, statements, swappedStatements]
    simp only [List.flatMap_append]
    rw [List.head?_append_of_ne_nil _ earlier, List.head?_append_of_ne_nil _ earlier]

/-- The second and the third line of this chart mention new ids, and the last one takes its label
from what the second declares. In front of a chart the swapped lines decide where it starts. -/
theorem Settings.compile_swapped_declaration :
    let second := "C{done}".toList
    let third := "B[x] --> C".toList
    let source := "S --> A\nC{done}\nB[x] --> C\nA --> C"
    let swapped := "S --> A\nB[x] --> C\nC{done}\nA --> C"
    (linesOf source = ["S --> A".toList] ++ second :: third :: ["A --> C".toList] ∧
        Line.Independent second third ∧
        (∃ line ∈ ["S --> A".toList], (Statement.ofLine line).isSome = true) ∧
        ∀ (settings : Settings) (prior : Prior) (now : String),
          (settings.compile source prior now).Reordered (settings.compile swapped prior now) ∧
            (settings.compile source prior now).start =
              (settings.compile swapped prior now).start) ∧
      (usual.compile source {} "").nodes.keys ≠ (usual.compile swapped {} "").nodes.keys ∧
      Line.Independent "A --> B".toList "C --> D".toList ∧
      (usual.compile "A --> B\nC --> D" {} "").start ≠
        (usual.compile "C --> D\nA --> B" {} "").start := by
  intro second third source swapped
  have neighbours : linesOf source =
      ["S --> A".toList] ++ second :: third :: ["A --> C".toList] := by decide +kernel
  have independent : Line.Independent second third := by decide +kernel
  have accepted : ∃ line ∈ ["S --> A".toList], (Statement.ofLine line).isSome = true := by
    decide +kernel
  have exchanged : chartOf (["S --> A".toList] ++ third :: second :: ["A --> C".toList]) =
      swapped := by decide +kernel
  refine ⟨⟨neighbours, independent, accepted, fun settings prior now => ?_⟩, ?_, ?_, ?_⟩
  · obtain ⟨reordered, start⟩ := settings.compile_swapped neighbours independent prior now
    rw [exchanged] at reordered start
    exact ⟨reordered, start accepted⟩
  all_goals decide +kernel

end ChartGuide
