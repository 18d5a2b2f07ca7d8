/-
**A chart, line by line.**

Each line of a chart is read on its own, so a chart says what its lines say. A draft is known once
it is known what it holds, and so charts whose lines hold the same give the same draft, and the same
nodes and start once they are compiled.

* `Statement.ofSource_chartOf`: the statements of a chart are those of its lines.
* `Draft.Holds.unique`: what a draft holds determines it.
* `Draft.foldl_apply_declared_source`: an edge that declares its source does what the declaration
  and the edge do one after the other.
* `Draft.ofSource_between`: among other lines only what lines say matters.
* `Settings.sameNodes_compile`: the nodes of a flow depend on the draft of its chart alone.
-/

import ChartGuide.Compilation
import ChartGuide.Proofs.Draft.Records

namespace ChartGuide

/-- The chart with these lines. -/
def chartOf (lines : List (List Char)) : String := String.ofList (['\n'].intercalate lines)

namespace Statement

/-- What a line says, if it is accepted. -/
def ofLine (line : List Char) : Option Statement := (Line.read (Text.trim line)).accepted?

/-- The statements of a chart, line by line. -/
theorem ofSource_eq_filterMap (source : String) :
    ofSource source = (source.toList.splitOn '\n').filterMap ofLine := by
  rw [ofSource, Reading.ofSource, List.filterMap_map]
  show ((source.toList.splitOn '\n').zipIdx 1).filterMap (ofLine ∘ Prod.fst) = _
  rw [← List.filterMap_map, List.zipIdx_map_fst]

/-- **A chart says what its lines say**, if none of them is more than one line. -/
theorem ofSource_chartOf {lines : List (List Char)} (oneLine : ∀ line ∈ lines, '\n' ∉ line) :
    ofSource (chartOf lines) = lines.filterMap ofLine := by
  rw [ofSource_eq_filterMap, chartOf, String.toList_ofList]
  by_cases empty : lines = []
  · -- The chart without lines still has one line, which is blank.
    rw [empty]
    rfl
  · rw [List.splitOn_intercalate '\n' oneLine empty]

end Statement

namespace Draft

/-- **What a draft holds determines it**: its ids in the order of first mention, and what makes up
the node under each. -/
theorem Holds.unique {draft other : Draft} {ids otherIds : List String}
    {faces otherFaces : List (String × Face)}
    {edges otherEdges : List (String × Option String × String)}
    (holds : draft.Holds ids faces edges) (otherHolds : other.Holds otherIds otherFaces otherEdges)
    (sameIds : ids.eraseDups = otherIds.eraseDups)
    (sameNodes : ∀ id, DraftNode.ofParts id (ownedBy id faces) (ownedBy id edges) =
      DraftNode.ofParts id (ownedBy id otherFaces) (ownedBy id otherEdges)) :
    draft = other := by
  have nodes : draft.nodes = other.nodes := by
    refine Table.eq_of_entries_eq ?_
    rw [holds.entries, otherHolds.entries, sameIds]
    exact List.map_congr_left fun id _ => Prod.ext rfl (sameNodes id)
  have start : draft.startCandidate = other.startCandidate := by
    rw [holds.start, otherHolds.start, ← head?_eraseDups, sameIds, head?_eraseDups]
  cases draft
  cases other
  exact congrArg₂ Draft.mk nodes start

/-- **An edge that declares its source** does what the declaration and then the edge do, wherever it
stands among other statements. -/
theorem foldl_apply_declared_source (before after : List Statement) (id : String) (face : Face)
    (label : Option String) (target : Endpoint) :
    (before ++ .edge ⟨id, some face⟩ label target :: after).foldl apply empty =
      (before ++ .declaration id face :: .edge ⟨id, none⟩ label target :: after).foldl
        apply empty := by
  refine (holds_foldl_apply _).unique (holds_foldl_apply _) ?_ fun owner => ?_
  · -- The edge mentions its source once more.
    have known : id ∈ before.flatMap Statement.mentions ++ [id] :=
      List.mem_append_right _ List.mem_cons_self
    have again := eraseDups_append_cons_of_mem known
      (target.id :: after.flatMap Statement.mentions)
    simpa [Statement.mentions] using again.symm
  · have sameFaces : (before ++ .edge ⟨id, some face⟩ label target :: after).flatMap
        Statement.faces = (before ++ .declaration id face :: .edge ⟨id, none⟩ label target ::
          after).flatMap Statement.faces := by
      simp [Statement.faces, Endpoint.faces]
    have sameEdges : (before ++ .edge ⟨id, some face⟩ label target :: after).flatMap
        Statement.edges = (before ++ .declaration id face :: .edge ⟨id, none⟩ label target ::
          after).flatMap Statement.edges := by
      simp [Statement.edges]
    rw [sameFaces, sameEdges]

/-- The draft of a chart is what its lines do one after the other, here with some lines among
others. -/
theorem ofSource_between {before after : List (List Char)}
    (around : ∀ line ∈ before ++ after, '\n' ∉ line) (lines : List (List Char))
    (oneLine : ∀ line ∈ lines, '\n' ∉ line) :
    ofSource (chartOf (before ++ (lines ++ after))) =
      (before.filterMap Statement.ofLine ++ (lines.filterMap Statement.ofLine ++
        after.filterMap Statement.ofLine)).foldl apply empty := by
  rw [ofSource_eq_foldl_apply, Statement.ofSource_chartOf, List.filterMap_append,
    List.filterMap_append]
  intro line member
  rcases List.mem_append.mp member with first | later
  · exact around line (List.mem_append_left _ first)
  · rcases List.mem_append.mp later with here | last
    · exact oneLine line here
    · exact around line (List.mem_append_right _ last)

end Draft

/-- Two flows with the same nodes in the same order, and with the same start. -/
structure Flow.SameNodes (first second : Flow) : Prop where
  nodes : first.nodes = second.nodes
  start : first.start = second.start

/-- Charts that give the same draft are compiled to the same nodes. -/
theorem Settings.sameNodes_compile {first second : String}
    (same : Draft.ofSource first = Draft.ofSource second) (settings : Settings) (prior : Prior)
    (now : String) :
    (settings.compile first prior now).SameNodes (settings.compile second prior now) where
  nodes := congrArg (fun draft => draft.nodes.mapValues (draft.settledNode settings)) same
  start := congrArg Draft.start? same

end ChartGuide
