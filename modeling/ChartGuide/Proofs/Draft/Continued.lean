/-
**Charts that go on.**

Lines behind a chart add to what it says, and what it said still comes first: its ids keep their
places at the front, so the start stays, and its edges are still drawn, so no successor is lost.
Texts and roles may change, and with them labels, so that choices become equal and are dropped.

A chart that is repeated right behind itself adds nothing. No id and no edge of the second copy is
new, and the last face of each node is the one that was last before.

* `Statement.ofSource_append`: a chart and a chart behind it say what each of them says.
* `Draft.foldl_apply_repeated`: statements that are made again do not change a draft.
* `Settings.compile_twice`: a chart written twice over is compiled to the same nodes.
* `Settings.compile_continued`: what lines behind a chart leave as it is.
-/

import ChartGuide.Proofs.Draft.SkippedLines
import ChartGuide.Proofs.Flow.Choices

namespace ChartGuide

theorem linesOf_append (source more : String) :
    linesOf (source ++ "\n" ++ more) = linesOf source ++ linesOf more := by
  have joined : (source ++ "\n" ++ more).toList = source.toList ++ '\n' :: more.toList := by
    simp
  unfold linesOf
  rw [joined, List.splitOn_append_cons_self]

/-- A chart and a chart behind it say what each of them says. -/
theorem Statement.ofSource_append (source more : String) :
    ofSource (source ++ "\n" ++ more) = ofSource source ++ ofSource more := by
  simp only [ofSource_eq_filterMap_linesOf, linesOf_append, List.filterMap_append]

/-! ### Repeated statements -/

section Repeated

variable {α : Type} (before repeated after : List α)

/-- Items that are repeated right behind themselves do not count again. -/
theorem eraseDups_repeated [BEq α] [LawfulBEq α] :
    (before ++ (repeated ++ (repeated ++ after))).eraseDups =
      (before ++ (repeated ++ after)).eraseDups := by
  have known : repeated ⊆ before ++ repeated := List.subset_append_right _ _
  have again := eraseDups_append_append_of_subset known after
  simpa using again

/-- Nor do they change which item is last. -/
theorem getLast?_repeated :
    (before ++ (repeated ++ (repeated ++ after))).getLast? =
      (before ++ (repeated ++ after)).getLast? := by
  simp only [List.getLast?_append]
  cases after.getLast? <;> cases repeated.getLast? <;> rfl

end Repeated

namespace DraftNode

/-- A node whose faces and edges are repeated is the same node. -/
theorem ofParts_repeated (id : String) (before repeated after : List Face)
    (first again last : List (Option String × String)) :
    ofParts id (before ++ (repeated ++ (repeated ++ after)))
        (first ++ (again ++ (again ++ last))) =
      ofParts id (before ++ (repeated ++ after)) (first ++ (again ++ last)) := by
  have text : shownText id (before ++ (repeated ++ (repeated ++ after))) =
      shownText id (before ++ (repeated ++ after)) := by
    unfold shownText
    rw [getLast?_repeated]
  have role : impliedRole (before ++ (repeated ++ (repeated ++ after))) =
      impliedRole (before ++ (repeated ++ after)) := by
    unfold impliedRole
    simp only [List.filterMap_append]
    rw [getLast?_repeated]
  unfold ofParts
  rw [text, role, eraseDups_repeated]

end DraftNode

/-- **Statements that are made again** right after they were made do not change a draft, whatever
was said before and whatever is said later. -/
theorem Draft.foldl_apply_repeated (before repeated after : List Statement) :
    (before ++ (repeated ++ (repeated ++ after))).foldl apply empty =
      (before ++ (repeated ++ after)).foldl apply empty := by
  refine (holds_foldl_apply _).unique (holds_foldl_apply _) ?_ fun id => ?_
  · simp only [List.flatMap_append]
    exact eraseDups_repeated _ _ _
  · simp only [List.flatMap_append, ownedBy_append]
    exact DraftNode.ofParts_repeated id _ _ _ _ _ _

namespace Settings

/-- **A chart written twice over** is compiled to the same nodes, in the same order, with the same
start. -/
theorem compile_twice (settings : Settings) (source : String) (prior otherPrior : Prior)
    (now later : String) :
    (settings.compile (source ++ "\n" ++ source) prior now).SameNodes
      (settings.compile source otherPrior later) := by
  have sameDraft : Draft.ofSource (source ++ "\n" ++ source) = Draft.ofSource source := by
    have again := Draft.foldl_apply_repeated [] (Statement.ofSource source) []
    rw [Draft.ofSource_eq_foldl_apply, Draft.ofSource_eq_foldl_apply, Statement.ofSource_append]
    simpa using again
  exact (settings.sameNodes_compile sameDraft prior now).trans
    (settings.sameNodes_compile_later source prior otherPrior now later)

/-! ### Appended lines -/

/-- **Appended lines take nothing away.** The ids of a chart are the first ids of every chart that
goes on from it, sessions start at the same node if there is one, and each node keeps its
successors. -/
theorem compile_continued (settings : Settings) (source more : String) (prior otherPrior : Prior)
    (now later : String) :
    let first := settings.compile source prior now
    let second := settings.compile (source ++ "\n" ++ more) otherPrior later
    first.nodes.keys <+: second.nodes.keys ∧
      (first.nodes.keys ≠ [] → second.start = first.start) ∧
      ∀ id, first.successors id ⊆ second.successors id := by
  intro first second
  refine ⟨?_, fun filled => ?_, fun id target member => ?_⟩
  · show (settings.compile source prior now).nodes.keys <+:
      (settings.compile (source ++ "\n" ++ more) otherPrior later).nodes.keys
    rw [keys_compile, keys_compile, Statement.ofSource_append, List.flatMap_append,
      List.eraseDups_append]
    exact List.prefix_append _ _
  · change (settings.compile source prior now).nodes.keys ≠ [] at filled
    show (settings.compile (source ++ "\n" ++ more) otherPrior later).start =
      (settings.compile source prior now).start
    rw [start_compile, start_compile, Statement.ofSource_append, List.flatMap_append]
    refine List.head?_append_of_ne_nil _ fun noIds => filled ?_
    rw [keys_compile, noIds]
    rfl
  · change target ∈ (settings.compile source prior now).successors id at member
    show target ∈ (settings.compile (source ++ "\n" ++ more) otherPrior later).successors id
    rw [mem_successors_compile_iff] at member ⊢
    obtain ⟨label, drawn⟩ := member
    rw [Statement.ofSource_append, List.flatMap_append]
    exact ⟨label, List.mem_append_left _ drawn⟩

/-- The first line behind this chart gives a node the text that a choice to it has as its label, so
that two choices become one and their node is no question any more. -/
theorem compile_continued_merging :
    let source := "A[go] -->|on| B\nA --> B"
    let first := usual.compile source {} ""
    let second := usual.compile (source ++ "\n" ++ "B[on]\nB --> A") {} ""
    (first.nodes.keys <+: second.nodes.keys ∧ first.nodes.keys ≠ [] ∧
        second.start = first.start ∧ ∀ id, first.successors id ⊆ second.successors id) ∧
      first.textAt "B" ≠ second.textAt "B" ∧
      ((first.node? "A").map Node.role, (second.node? "A").map Node.role) =
        (some .question, some .action) ∧
      ((first.choicesAt "A").map Choice.label, (second.choicesAt "A").map Choice.label) =
        ([some "on", some "B"], [some "on"]) := by
  intro source first second
  have filled : first.nodes.keys ≠ [] := by decide +kernel
  obtain ⟨ids, start, successors⟩ :=
    usual.compile_continued source "B[on]\nB --> A" {} {} "" ""
  refine ⟨⟨ids, filled, start filled, successors⟩, ?_, ?_, ?_⟩
  all_goals decide +kernel

end Settings

end ChartGuide
