/-
**What is made of a draft that was put together by hand.**

A chart gives a draft with a node for every target, under its own id, and without repeated choices.
A draft whose nodes were made, changed and given choices one by one promises nothing of that:
choices may lead to ids without a node, may repeat each other, and may have tags and conditions, a
node may have any attributes and another id than the one it is stored under, and the first id seen
may have no node. Such a draft is refused exactly if a label has to be taken from a node that is not
there, with the first such id. Labels are given before choices are compared, so a repeated choice
without a label is looked at like any other.

* `Choice.distinct_eq_firsts`: which choices are kept, told by their places in the list.
* `Draft.missingNode?_eq_some_iff`, `Draft.missingNode?_eq_none_iff`: when a draft is refused.
* `Draft.settlesNode_settledNode`, `Draft.settles_settle`: what becomes of a node and of the draft.
* `Draft.finalize_exact`: refused or settled, for every draft.
-/

import ChartGuide.Proofs.Flow.Choices
import Mathlib.Data.List.Forall2

namespace ChartGuide

namespace Choice

/-! ### Repetitions -/

/-- The choices whose label and target no choice before them has. -/
def firsts (choices : List Choice) : List Choice :=
  (choices.zipIdx.filter fun entry =>
    entry.1.pair ∉ (choices.take entry.2).map pair).map Prod.fst

theorem distinct_append_singleton (choices : List Choice) (last : Choice) :
    distinct (choices ++ [last]) =
      if last.pair ∈ choices.map pair then distinct choices else distinct choices ++ [last] := by
  induction choices with
  | nil => rfl
  | cons choice rest ih =>
    have samePair : (last.label == choice.label && last.target == choice.target) =
        (last.pair == choice.pair) := rfl
    rw [List.cons_append, distinct, ih, distinct, List.map_cons]
    by_cases later : last.pair ∈ rest.map pair
    · rw [if_pos later, if_pos (List.mem_cons_of_mem _ later)]
    · rw [if_neg later, List.filter_append, List.filter_singleton, samePair]
      by_cases same : last.pair = choice.pair
      · simp [same]
      · have other : (last.pair == choice.pair) = false := beq_eq_false_iff_ne.mpr same
        simp [same, other, later]

theorem firsts_append_singleton (choices : List Choice) (last : Choice) :
    firsts (choices ++ [last]) =
      if last.pair ∈ choices.map pair then firsts choices else firsts choices ++ [last] := by
  have earlier : (choices.zipIdx.filter fun entry =>
      entry.1.pair ∉ ((choices ++ [last]).take entry.2).map pair) =
        choices.zipIdx.filter fun entry =>
          entry.1.pair ∉ (choices.take entry.2).map pair := by
    refine List.filter_congr fun entry member => ?_
    have before : entry.2 ≤ choices.length := Nat.le_of_lt (List.snd_lt_of_mem_zipIdx member)
    rw [List.take_append_of_le_length before]
  rw [firsts, List.zipIdx_append, List.filter_append, List.map_append, earlier, firsts]
  by_cases repeated : last.pair ∈ choices.map pair
  · simp [repeated]
  · simp [repeated]

/-- **The first choice of each label and target is kept.** -/
theorem distinct_eq_firsts (choices : List Choice) : distinct choices = firsts choices := by
  induction choices using List.reverseRecOn with
  | nil => rfl
  | append_singleton choices last ih =>
    rw [distinct_append_singleton, firsts_append_singleton, ih]

end Choice

namespace Draft

/-! ### Labels that cannot be taken -/

/-- The choices of all nodes, node by node. -/
def allChoices (draft : Draft) : List Choice := draft.nodes.values.flatMap DraftNode.choices

/-- A choice that has no label and leads to no node. -/
def Dangles (draft : Draft) (choice : Choice) : Prop :=
  choice.label = none ∧ choice.target ∉ draft.nodes.keys

/-- The first choice that dangles leads to this id. -/
def FirstDangling (draft : Draft) (id : String) : Prop :=
  ∃ before choice after, draft.allChoices = before ++ choice :: after ∧
    (∀ earlier ∈ before, ¬ draft.Dangles earlier) ∧ draft.Dangles choice ∧ choice.target = id

theorem dangles_iff (draft : Draft) (choice : Choice) :
    (choice.label.isNone && !draft.nodes.contains choice.target) = true ↔
      draft.Dangles choice := by
  rw [Bool.and_eq_true, Option.isNone_iff_eq_none, Bool.not_eq_true', ← Bool.not_eq_true,
    draft.nodes.contains_iff]
  rfl

/-- Looking node by node finds what is first among all choices. -/
theorem missingNode?_eq_find? (draft : Draft) :
    draft.missingNode? = (draft.allChoices.find? fun choice =>
      choice.label.isNone && !draft.nodes.contains choice.target).map fun choice =>
        ⟨choice.target⟩ := by
  rw [missingNode?, allChoices, List.find?_flatMap, List.map_findSome?, List.map_findSome?]
  refine congrArg (List.findSome? · _) (funext fun node => ?_)
  rw [Function.comp_apply, Function.comp_apply, danglingTarget?, Option.map_map]
  rfl

theorem missingNode?_eq_some_iff (draft : Draft) {fault : MissingNode} :
    draft.missingNode? = some fault ↔ draft.FirstDangling fault.id := by
  rw [missingNode?_eq_find?, Option.map_eq_some_iff]
  constructor
  · rintro ⟨choice, found, rfl⟩
    obtain ⟨dangles, before, after, whole, sound⟩ := List.find?_eq_some_iff_append.mp found
    refine ⟨before, choice, after, whole, fun earlier member first => ?_,
      (draft.dangles_iff choice).mp dangles, rfl⟩
    have passed := sound earlier member
    rw [(draft.dangles_iff earlier).mpr first] at passed
    cases passed
  · rintro ⟨before, choice, after, whole, sound, dangles, target⟩
    refine ⟨choice, List.find?_eq_some_iff_append.mpr
      ⟨(draft.dangles_iff choice).mpr dangles, before, after, whole, fun earlier member => ?_⟩,
      congrArg MissingNode.mk target⟩
    rw [Bool.not_eq_true', ← Bool.not_eq_true, draft.dangles_iff]
    exact sound earlier member

theorem missingNode?_eq_none_iff (draft : Draft) :
    draft.missingNode? = none ↔ ∀ choice ∈ draft.allChoices, ¬ draft.Dangles choice := by
  simp only [missingNode?_eq_find?, Option.map_eq_none_iff, List.find?_eq_none, dangles_iff]

/-! ### Settled nodes -/

/-- A choice with its label: its own, or the text of the node that it leads to. -/
inductive Labels (draft : Draft) : Choice → Choice → Prop
  | kept (choice : Choice) (label : String) (own : choice.label = some label) :
      Labels draft choice choice
  | taken (choice : Choice) (node : DraftNode) (missing : choice.label = none)
      (found : draft.nodes.get? choice.target = some node) :
      Labels draft choice { choice with label := some node.text }

/-- What becomes of a node: each choice gets its label, and then the first of each label and target
is kept. Its role goes by its own id. Its final id is the one that it is stored under, and so is the
id that a link is looked up by: a link of the link table notes its target among the attributes, and
nothing else changes them. -/
structure SettlesNode (draft : Draft) (settings : Settings) (id : String) (node : DraftNode)
    (final : Node) : Prop where
  id_eq : final.id = id
  text_eq : final.text = node.text
  suggestions_eq : final.suggestions = node.suggestions
  role_eq : final.role = settings.finalRole node.id node.role final.choices.length
  choices_eq : ∃ labelled, List.Forall₂ draft.Labels node.choices labelled ∧
    final.choices = Choice.firsts labelled
  linked : final.role = .link → ∀ target, settings.linkTargets.get? id = some (some target) →
    final.attributes = node.attributes.insert Node.nextFlowKey (.text target)
  unlinked : (final.role = .link → ∀ target, settings.linkTargets.get? id ≠ some (some target)) →
    final.attributes = node.attributes

/-- What becomes of a draft: the same ids in the same order, each with its node, and the first id
seen as the start, or the first id if that has no node. -/
structure Settles (draft : Draft) (settings : Settings) (flow : Flow) : Prop where
  keys_eq : flow.nodes.keys = draft.nodes.keys
  start_seen : ∀ id ∈ draft.nodes.keys, draft.startCandidate = some id → flow.start = some id
  start_first : (∀ id ∈ draft.nodes.keys, draft.startCandidate ≠ some id) →
    flow.start = draft.nodes.keys.head?
  node : ∀ id node, draft.nodes.get? id = some node →
    ∃ final, flow.node? id = some final ∧ draft.SettlesNode settings id node final

theorem labels_labelled {draft : Draft} {choice : Choice} (sound : ¬ draft.Dangles choice) :
    draft.Labels choice (draft.labelled choice) := by
  cases own : choice.label with
  | some label =>
    have same : draft.labelled choice = choice := by
      rw [labelled, own, Option.getD_some, ← own]
    rw [same]
    exact .kept choice label own
  | none =>
    have known : choice.target ∈ draft.nodes.keys := not_not.mp fun absent => sound ⟨own, absent⟩
    obtain ⟨node, found⟩ := draft.nodes.mem_keys_iff.mp known
    have text : draft.labelled choice = { choice with label := some node.text } := by
      rw [labelled, displayText, own, found]
      rfl
    rw [text]
    exact .taken choice node own found

theorem finalAttributes_of_link {settings : Settings} {id target : String}
    (named : settings.linkTargets.get? id = some (some target))
    (attributes : Table String Value) :
    settings.finalAttributes id .link attributes =
      attributes.insert Node.nextFlowKey (.text target) := by
  have found : settings.linkTarget? id = some target := by
    rw [Settings.linkTarget?, named]
    rfl
  simp only [Settings.finalAttributes, found]

theorem finalAttributes_of_not_link {settings : Settings} {id : String} {role : Role}
    (other : role = .link → ∀ target, settings.linkTargets.get? id ≠ some (some target))
    (attributes : Table String Value) :
    settings.finalAttributes id role attributes = attributes := by
  unfold Settings.finalAttributes
  split
  · next target found =>
    exact absurd (Option.join_eq_some_iff.mp found) (other rfl target)
  · rfl

theorem settlesNode_settledNode {draft : Draft} (settings : Settings) (id : String)
    {node : DraftNode} (sound : ∀ choice ∈ node.choices, ¬ draft.Dangles choice) :
    draft.SettlesNode settings id node (draft.settledNode settings id node) where
  id_eq := rfl
  text_eq := rfl
  suggestions_eq := rfl
  role_eq := rfl
  choices_eq := by
    refine ⟨node.choices.map draft.labelled, ?_, Choice.distinct_eq_firsts _⟩
    rw [List.forall₂_map_right_iff, List.forall₂_same]
    exact fun choice member => labels_labelled (sound choice member)
  linked link target named := by
    show settings.finalAttributes id (draft.settledNode settings id node).role _ = _
    rw [link]
    exact finalAttributes_of_link named node.attributes
  unlinked other := finalAttributes_of_not_link other node.attributes

/-- **A draft without dangling choices is settled.** -/
theorem settles_settle {draft : Draft}
    (sound : ∀ choice ∈ draft.allChoices, ¬ draft.Dangles choice) (settings : Settings)
    (source : String) (prior : Prior) (now : String) :
    draft.Settles settings (draft.settle settings source prior now) where
  keys_eq := draft.nodes.keys_mapValues _
  start_seen id known seen := by
    have there : draft.nodes.contains id = true := (draft.nodes.contains_iff id).mpr known
    show draft.start? = some id
    rw [start?, seen, Option.filter_some, if_pos there]
    rfl
  start_first unknown := by
    have none : draft.startCandidate.filter draft.nodes.contains = .none := by
      refine Option.filter_eq_none_iff.mpr fun id seen there => ?_
      exact unknown id ((draft.nodes.contains_iff id).mp there) seen
    show draft.start? = _
    rw [start?, none, Option.none_or]
  node id node found := by
    refine ⟨draft.settledNode settings id node, ?_, ?_⟩
    · show (draft.nodes.mapValues (draft.settledNode settings)).get? id = _
      rw [Table.get?_mapValues, found]
      rfl
    · refine settlesNode_settledNode settings id fun choice member => sound choice ?_
      have listed : node ∈ draft.nodes.values :=
        List.mem_map.mpr ⟨(id, node), draft.nodes.mem_entries_iff.mpr found, rfl⟩
      exact List.mem_flatMap.mpr ⟨node, listed, member⟩

/-! ### Finalizing -/

/-- There is a first choice that dangles exactly if one dangles. -/
theorem exists_firstDangling_iff (draft : Draft) :
    (∃ id, draft.FirstDangling id) ↔ ∃ choice ∈ draft.allChoices, draft.Dangles choice := by
  constructor
  · rintro ⟨id, before, choice, after, whole, -, dangles, -⟩
    exact ⟨choice, whole ▸ List.mem_append_right before List.mem_cons_self, dangles⟩
  · rintro ⟨choice, member, dangles⟩
    have faulty : draft.missingNode? ≠ none := fun none =>
      draft.missingNode?_eq_none_iff.mp none choice member dangles
    obtain ⟨fault, found⟩ := Option.ne_none_iff_exists'.mp faulty
    exact ⟨fault.id, draft.missingNode?_eq_some_iff.mp found⟩

theorem finalize_eq_error_iff (draft : Draft) (settings : Settings) (source : String)
    (prior : Prior) (now : String) {fault : MissingNode} :
    draft.finalize settings source prior now = .error fault ↔ draft.FirstDangling fault.id := by
  rw [← missingNode?_eq_some_iff, finalize]
  cases draft.missingNode? <;> simp

theorem finalize_eq_settle {draft : Draft}
    (sound : ∀ choice ∈ draft.allChoices, ¬ draft.Dangles choice) (settings : Settings)
    (source : String) (prior : Prior) (now : String) :
    draft.finalize settings source prior now = .ok (draft.settle settings source prior now) := by
  rw [finalize, draft.missingNode?_eq_none_iff.mpr sound]

/-- **Every draft is refused or settled.** It is refused exactly if a choice dangles, for the id
that the first such choice leads to; else it becomes a flow. -/
theorem finalize_exact (draft : Draft) (settings : Settings) (source : String) (prior : Prior)
    (now : String) :
    let result := draft.finalize settings source prior now
    (∀ fault, result = .error fault ↔ draft.FirstDangling fault.id) ∧
      ((∃ fault, result = .error fault) ↔ ∃ choice ∈ draft.allChoices, draft.Dangles choice) ∧
      ((∃ flow, result = .ok flow ∧ draft.Settles settings flow) ↔
        ∀ choice ∈ draft.allChoices, ¬ draft.Dangles choice) := by
  intro result
  have refused : ∀ fault, result = .error fault ↔ draft.FirstDangling fault.id :=
    fun _ => draft.finalize_eq_error_iff settings source prior now
  have refusedIff : (∃ fault, result = .error fault) ↔
      ∃ choice ∈ draft.allChoices, draft.Dangles choice := by
    rw [← exists_firstDangling_iff]
    constructor
    · rintro ⟨fault, failed⟩
      exact ⟨fault.id, (refused fault).mp failed⟩
    · rintro ⟨id, first⟩
      exact ⟨⟨id⟩, (refused ⟨id⟩).mpr first⟩
  refine ⟨refused, refusedIff, ?_, fun sound =>
    ⟨_, finalize_eq_settle sound settings source prior now,
      settles_settle sound settings source prior now⟩⟩
  rintro ⟨flow, succeeded, -⟩ choice member dangles
  obtain ⟨fault, failed⟩ := refusedIff.mpr ⟨choice, member, dangles⟩
  rw [failed] at succeeded
  cases succeeded

/-- The second choice repeats the first one once it has its label. -/
example :
    let choices : List Choice := [{ target := "B", label := some "Stop", tags := ["late"] },
      { target := "B" }, { target := "C", label := some "On" }, { target := "D" },
      { target := "C" }]
    let draft : Draft :=
      ⟨.ofList [("A", { id := "A", text := "A", choices := choices }),
        ("B", { id := "B", text := "Stop" })], some "Z"⟩
    draft.missingNode? = some ⟨"D"⟩ ∧ (draft.ensure "D").missingNode? = some ⟨"C"⟩ ∧
      draft.settledChoices { id := "A", text := "A", choices := choices.take 3 } =
        [{ target := "B", label := some "Stop", tags := ["late"] },
          { target := "C", label := some "On" }] ∧
      draft.start? = some "A" := by
  decide +kernel

/-- A node that is renamed by hand becomes a link by its new name, and looks for a target under the
id that it is stored under. -/
example :
    let draft : Draft := ⟨.ofList [("A", { id := "GO_CORE", text := "Onward" }),
      ("GO_CORE", { id := "A", text := "Back" })], none⟩
    (draft.settle .usual "" .absent "").nodes.values.map (fun node =>
        (node.id, node.role, node.nextFlow)) =
      [("A", .link, .null), ("GO_CORE", .terminal, .null)] ∧
      draft.finalizeEvents .usual = [.inertLink "A"] := by
  decide +kernel

end Draft

end ChartGuide
