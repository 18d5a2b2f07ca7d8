/-
**The roles of a compiled flow.**

Links are told by their ids. Of the other nodes those without choices are terminal, and no others,
so a session that reaches a terminal node finds no way on.

* `Draft.isTerminal_settledNode_iff`, `Draft.nextFlow_settledNode`: what settling makes of a node.
* `Settings.isTerminal_compile_iff`, `Settings.exit_of_leaf`: so the terminal nodes of a compiled
  flow are its leaves.
* `Settings.isLink_compile_iff`, `Settings.nextFlow_compile`: the links of a compiled flow are those
  that its ids tell, and each notes the target that the link table names.
* `Settings.canBeKey_compile`: the target of a link is a text or missing.
* `Settings.role_compile`: the role of each node, from its id, the shapes that declare it and the
  number of its choices.
* `Catalog.WellFormed.edit`: flows stay well-formed if those that are registered are.
-/

import ChartGuide.Proofs.Catalog
import ChartGuide.Proofs.Flow.WellFormed

namespace ChartGuide

theorem Settings.finalRole_eq_terminal_iff (settings : Settings) {id : String} {role : Role}
    {choices : Nat} :
    settings.finalRole id role choices = .terminal ↔
      settings.isLinkId id = false ∧ choices = 0 := by
  unfold finalRole
  by_cases link : settings.isLinkId id = true
  · simp [link]
  · by_cases leaf : choices = 0
    · simp [link, leaf]
    · simp only [link, leaf, if_false, Bool.false_eq_true]
      split
      · split <;> simp
      · split <;> simp [*]

theorem Settings.finalRole_of_isLinkId (settings : Settings) {id : String}
    (link : settings.isLinkId id = true) (role : Role) (choices : Nat) :
    settings.finalRole id role choices = .link := by
  rw [finalRole, if_pos link]

/-- Only the id of a node makes it a link, if nothing else has. -/
theorem Settings.finalRole_eq_link_iff (settings : Settings) {id : String} {role : Role}
    (drawn : role ≠ .link) {choices : Nat} :
    settings.finalRole id role choices = .link ↔ settings.isLinkId id = true := by
  unfold finalRole
  by_cases link : settings.isLinkId id = true
  · simp [link]
  · simp only [link, if_false, Bool.false_eq_true]
    split
    · simp
    · split
      · split <;> simp
      · split <;> simp [drawn]

/-- A node with one choice does what its shape says, and leads on if its shape says that it ends. -/
theorem Settings.finalRole_of_single (settings : Settings) {id : String}
    (other : settings.isLinkId id = false) (role : Role) :
    settings.finalRole id role 1 = if role = .terminal then .action else role := by
  simp [finalRole, other]

/-- A node with several choices asks something. -/
theorem Settings.finalRole_of_several (settings : Settings) {id : String}
    (other : settings.isLinkId id = false) (role : Role) {choices : Nat} (several : 2 ≤ choices) :
    settings.finalRole id role choices = if role = .diagnosis then .diagnosis else .question := by
  have some : choices ≠ 0 := by omega
  rw [finalRole, other, if_neg Bool.false_ne_true, if_neg some, if_pos (Nat.lt_of_succ_le several)]

/-- A node makes no decision unless it was one before. -/
theorem Settings.finalRole_ne_decision (settings : Settings) (id : String) {role : Role}
    (drawn : role ≠ .decision) (choices : Nat) : settings.finalRole id role choices ≠ .decision := by
  by_cases link : settings.isLinkId id = true
  · rw [settings.finalRole_of_isLinkId link]
    decide
  · have other : settings.isLinkId id = false := Bool.eq_false_iff.mpr link
    match choices with
    | 0 =>
      rw [settings.finalRole_eq_terminal_iff.mpr ⟨other, rfl⟩]
      decide
    | 1 =>
      rw [settings.finalRole_of_single other]
      split
      · decide
      · exact drawn
    | more + 2 =>
      rw [settings.finalRole_of_several other role (by omega)]
      split <;> decide

/-- The roles that shapes imply. -/
theorem impliedRole_mem (faces : List Face) :
    impliedRole faces ∈ [Role.question, .diagnosis, .action, .terminal] := by
  have drawn : ∀ role ∈ faces.filterMap fun face => face.shape.role?,
      role ∈ [Role.question, .diagnosis, .action, .terminal] := by
    intro role member
    obtain ⟨⟨shape, text⟩, -, implied⟩ := List.mem_filterMap.mp member
    cases shape <;> cases implied <;> decide
  unfold impliedRole
  cases last : (faces.filterMap fun face => face.shape.role?).getLast? with
  | none => decide
  | some role => exact drawn role (List.mem_of_getLast? last)

/-- No shape makes a link. -/
theorem impliedRole_ne_link (faces : List Face) : impliedRole faces ≠ .link :=
  fun link => absurd (link ▸ impliedRole_mem faces) (by decide)

theorem impliedRole_ne_decision (faces : List Face) : impliedRole faces ≠ .decision :=
  fun decision => absurd (decision ▸ impliedRole_mem faces) (by decide)

theorem Draft.choices_settledNode (draft : Draft) (settings : Settings) (id : String)
    (node : DraftNode) : (draft.settledNode settings id node).choices = draft.settledChoices node :=
  rfl

/-- The role of a settled node is that of its draft, as its id there and the number of its choices
let it stand. -/
theorem Draft.role_settledNode (draft : Draft) (settings : Settings) (id : String)
    (node : DraftNode) : (draft.settledNode settings id node).role =
      settings.finalRole node.id node.role (draft.settledNode settings id node).choices.length :=
  rfl

/-- Of the nodes that are no links, those without choices are terminal. -/
theorem Draft.isTerminal_settledNode_iff (draft : Draft) (settings : Settings) (id : String)
    (node : DraftNode) :
    (draft.settledNode settings id node).isTerminal = true ↔
      (draft.settledNode settings id node).isLink = false ∧
        (draft.settledNode settings id node).choices = [] := by
  have leafIff : (draft.settledNode settings id node).choices.length = 0 ↔
      (draft.settledNode settings id node).choices = [] := List.length_eq_zero_iff
  constructor
  · intro terminal
    have role : (draft.settledNode settings id node).role = .terminal := beq_iff_eq.mp terminal
    refine ⟨by rw [Node.isLink, role]; rfl, leafIff.mp ?_⟩
    rw [draft.role_settledNode] at role
    exact (settings.finalRole_eq_terminal_iff.mp role).2
  · rintro ⟨noLink, leaf⟩
    have other : settings.isLinkId node.id = false := by
      refine Bool.eq_false_iff.mpr fun link => ?_
      rw [Node.isLink, draft.role_settledNode, settings.finalRole_of_isLinkId link] at noLink
      cases noLink
    rw [Node.isTerminal, beq_iff_eq, draft.role_settledNode]
    exact settings.finalRole_eq_terminal_iff.mpr ⟨other, leafIff.mpr leaf⟩

/-- A link notes its target, if it has one, and no other node notes any. -/
theorem Draft.nextFlow_settledNode (draft : Draft) (settings : Settings) (id : String)
    {node : DraftNode} (blank : node.attributes = ∅) :
    (draft.settledNode settings id node).nextFlow =
      if (draft.settledNode settings id node).isLink then .ofText? (settings.linkTarget? id)
      else .null := by
  have noted : (draft.settledNode settings id node).attributes =
      settings.finalAttributes id (draft.settledNode settings id node).role ∅ := blank ▸ rfl
  rw [Node.nextFlow, Node.isLink, noted]
  generalize (draft.settledNode settings id node).role = role
  by_cases link : role = .link
  · subst link
    cases target : settings.linkTarget? id with
    | none =>
      simp only [Settings.finalAttributes, target]
      rfl
    | some flow =>
      simp only [Settings.finalAttributes, target]
      exact congrArg (Option.getD · Value.null) ((Table.get?_upsert ∅ _ _ _).trans (if_pos rfl))
  · rw [if_neg (by simpa using link), Settings.finalAttributes]
    · rfl
    · exact fun _ isLink _ => link isLink

namespace Settings

variable {settings : Settings} {source : String} {prior : Prior} {now id : String} {node : Node}

/-- A node of a compiled flow was settled from the faces and the edges that its chart gives it. -/
theorem eq_settledNode (found : (settings.compile source prior now).node? id = some node) :
    node = (Draft.ofSource source).settledNode settings id
      (.ofParts id (ownedBy id ((Statement.ofSource source).flatMap Statement.faces))
        (ownedBy id ((Statement.ofSource source).flatMap Statement.edges))) := by
  have settled := (Draft.holds_ofSource source).node?_settle settings source prior now id
  rw [← compile, found] at settled
  split at settled
  · exact Option.some.inj settled
  · cases settled

/-- Every node of a compiled flow was settled from the node of its draft under the same id. -/
theorem exists_settledNode (found : (settings.compile source prior now).node? id = some node) :
    ∃ unsettled : DraftNode, (Draft.ofSource source).nodes.get? id = some unsettled ∧
      unsettled.attributes = ∅ ∧ unsettled.role ≠ .link ∧
      node = (Draft.ofSource source).settledNode settings id unsettled := by
  have settled := eq_settledNode found
  obtain ⟨unsettled, there, -⟩ := Option.map_eq_some_iff.mp
    (((Draft.ofSource source).nodes.get?_mapValues _ id).symm.trans found)
  have parts := (Draft.holds_ofSource source).get? id
  rw [there] at parts
  split at parts
  · obtain rfl := Option.some.inj parts
    exact ⟨_, there, rfl, impliedRole_ne_link _, settled⟩
  · cases parts

theorem isTerminal_compile_iff (found : (settings.compile source prior now).node? id = some node) :
    node.isTerminal = true ↔ node.isLink = false ∧ node.choices = [] := by
  obtain ⟨unsettled, -, -, -, rfl⟩ := exists_settledNode found
  exact (Draft.ofSource source).isTerminal_settledNode_iff settings id unsettled

/-- Only terminal nodes and links have no choices. -/
theorem exit_of_leaf (found : (settings.compile source prior now).node? id = some node)
    (leaf : node.choices = []) : node.role = .terminal ∨ node.role = .link := by
  by_cases link : node.isLink = true
  · exact .inr (by simpa [Node.isLink] using link)
  · have terminal := (isTerminal_compile_iff found).mpr ⟨Bool.eq_false_iff.mpr link, leaf⟩
    exact .inl (by simpa [Node.isTerminal] using terminal)

/-- The links of a compiled flow are the nodes with the link mark: a node of a chart has the id that
it is stored under. -/
theorem isLink_compile_iff (found : (settings.compile source prior now).node? id = some node) :
    node.isLink = true ↔ settings.isLinkId id = true := by
  obtain ⟨unsettled, there, -, drawn, rfl⟩ := exists_settledNode found
  rw [Node.isLink, beq_iff_eq, ← Draft.id_eq_of_ofSource there]
  exact settings.finalRole_eq_link_iff drawn

/-- A compiled link notes the flow that the link table names for it. -/
theorem nextFlow_compile (found : (settings.compile source prior now).node? id = some node) :
    node.nextFlow = if node.isLink then .ofText? (settings.linkTarget? id) else .null := by
  obtain ⟨unsettled, -, blank, -, rfl⟩ := exists_settledNode found
  exact (Draft.ofSource source).nextFlow_settledNode settings id blank

/-- The target of a compiled link can be looked up. -/
theorem canBeKey_compile (member : node ∈ (settings.compile source prior now).nodes.values) :
    node.nextFlow.canBeKey = true := by
  obtain ⟨⟨id, _⟩, entry, rfl⟩ := List.mem_map.mp member
  rw [nextFlow_compile ((Table.mem_entries_iff _).mp entry)]
  split
  · cases settings.linkTarget? id <;> rfl
  · rfl

/-! ### The role of a node, read off its chart -/

/-- The choices of a compiled node are its edges with their final labels, each once. -/
theorem length_choices_compile
    (found : (settings.compile source prior now).node? id = some node) :
    node.choices.length =
      ((ownedBy id ((Statement.ofSource source).flatMap Statement.edges)).map fun edge =>
        (some (edge.1.getD ((settings.compile source prior now).textAt edge.2)),
          edge.2)).eraseDups.length := by
  rw [← settings.map_finalEdge_compile source prior now id, eq_settledNode found,
    Draft.choices_settledNode, Draft.settledChoices_ofParts, List.length_map]

/-- The role of a compiled node is settled by its id, what its shapes imply and how many choices it
has. -/
theorem role_eq_finalRole (found : (settings.compile source prior now).node? id = some node) :
    node.role = settings.finalRole id
      (impliedRole (ownedBy id ((Statement.ofSource source).flatMap Statement.faces)))
      node.choices.length := by
  rw [eq_settledNode found, Draft.role_settledNode, DraftNode.id_ofParts, DraftNode.role_ofParts]

/-- **The role of each node of a compiled flow.** A node is a link exactly if its id begins with the
link mark. Any other node is terminal exactly if it has no choices, which is to say that no edge
leaves it. With one choice it has the role of the last shape that declared it and implies one, and
is a question without such a shape, save that an end becomes an action. With several choices it
is a diagnosis if it was declared as one, and else a question. Choices are counted after the labels
are final: edges that then say the same and lead to the same node count once. Nothing is ever a
decision. -/
theorem role_compile (found : (settings.compile source prior now).node? id = some node) :
    let flow := settings.compile source prior now
    let statements := Statement.ofSource source
    let drawn := impliedRole (ownedBy id (statements.flatMap Statement.faces))
    let edges := (ownedBy id (statements.flatMap Statement.edges)).map fun edge =>
      (some (edge.1.getD (flow.textAt edge.2)), edge.2)
    let count := node.choices.length
    (node.role = .link ↔ settings.linkMark.toList <+: id.toList) ∧
      (¬ settings.linkMark.toList <+: id.toList →
        (node.role = .terminal ↔ count = 0) ∧
        (count = 1 → node.role = if drawn = .terminal then .action else drawn) ∧
        (2 ≤ count → node.role = if drawn = .diagnosis then .diagnosis else .question)) ∧
      node.role ≠ .decision ∧
      count = edges.eraseDups.length ∧
      (count = 0 ↔ edges = []) ∧
      (count = 1 ↔ ∃ edge, edges ≠ [] ∧ ∀ other ∈ edges, other = edge) := by
  intro flow statements drawn edges count
  have role : node.role = settings.finalRole id drawn count := role_eq_finalRole found
  have counted : count = edges.eraseDups.length := length_choices_compile found
  have marked : settings.isLinkId id = true ↔ settings.linkMark.toList <+: id.toList :=
    List.isPrefixOf_iff_prefix
  refine ⟨?_, fun unmarked => ⟨?_, fun single => ?_, fun several => ?_⟩, ?_, counted, ?_, ?_⟩
  · rw [role, settings.finalRole_eq_link_iff (impliedRole_ne_link _), marked]
  · have other : settings.isLinkId id = false := Bool.eq_false_iff.mpr (mt marked.mp unmarked)
    rw [role, settings.finalRole_eq_terminal_iff]
    exact and_iff_right other
  · have other : settings.isLinkId id = false := Bool.eq_false_iff.mpr (mt marked.mp unmarked)
    rw [role, single, settings.finalRole_of_single other]
  · have other : settings.isLinkId id = false := Bool.eq_false_iff.mpr (mt marked.mp unmarked)
    rw [role, settings.finalRole_of_several other drawn several]
  · rw [role]
    exact settings.finalRole_ne_decision id (impliedRole_ne_decision _) count
  · rw [counted, List.length_eq_zero_iff, eraseDups_eq_nil_iff]
  · rw [counted, List.length_eq_one_iff]
    exact exists_congr fun edge => eraseDups_eq_singleton_iff

/-- A node declared as an end, with two edges that say the same once the text of their target is
known. -/
def startTwice : Flow :=
  Settings.usual.compile "S([Start]) --> A\nS -->|Go| A\nA[Go]" {} "2020-01-02T03:04:05+00:00"

theorem role_compile_startTwice :
    ∃ node, startTwice.node? "S" = some node ∧
      ¬ Settings.usual.linkMark.toList <+: "S".toList ∧ node.choices.length = 1 ∧
      node.role = .action := by
  have there : (startTwice.node? "S").isSome = true := by decide +kernel
  obtain ⟨node, found⟩ := Option.isSome_iff_exists.mp there
  have unmarked : ¬ Settings.usual.linkMark.toList <+: "S".toList := by decide +kernel
  have single : node.choices.length = 1 := by
    rw [length_choices_compile found]
    decide +kernel
  obtain ⟨-, others, -⟩ := role_compile found
  have role := (others unmarked).2.1 single
  exact ⟨node, found, unmarked, single, role.trans (by decide +kernel)⟩

namespace Produces

variable {flow : Flow}

theorem wellFormed (produced : settings.Produces flow) : flow.WellFormed := by
  obtain ⟨source, prior, now, -, rfl⟩ := produced
  exact settings.wellFormed_compile source prior now

/-- **The terminal nodes of a compiled flow are its leaves**, links aside. -/
theorem isTerminal_iff (produced : settings.Produces flow) (found : flow.node? id = some node) :
    node.isTerminal = true ↔ node.isLink = false ∧ node.choices = [] := by
  obtain ⟨source, prior, now, -, rfl⟩ := produced
  exact isTerminal_compile_iff found

end Produces

end Settings

/-! ### Catalogs of well-formed flows -/

namespace Catalog

/-- Whether every flow is well-formed. -/
def WellFormed (catalog : Catalog) : Prop :=
  ∀ id flow, catalog.flow? id = some flow → flow.WellFormed

variable {catalog : Catalog}

theorem Compiled.wellFormed (compiled : catalog.Compiled) : catalog.WellFormed := by
  intro id flow found
  obtain ⟨settings, produced⟩ := compiled id flow found
  exact produced.wellFormed

/-- What compiling puts into a catalog is well-formed, so only registered flows matter. -/
theorem WellFormed.edit (sound : catalog.WellFormed) {change : Edit}
    (registered : ∀ flow, change = .register flow → flow.WellFormed) :
    (catalog.edit change).WellFormed := by
  intro id flow found
  obtain before | ⟨-, rfl | ⟨target, source, title, description, now, rfl, rfl⟩⟩ :=
    flow?_edit_cases found
  · exact sound id flow before
  · exact registered flow rfl
  · exact catalog.settings.wellFormed_compile source _ now

end Catalog

end ChartGuide
