/-
**Charts that grow under a session.**

A session walks through a flow, and the chart of the flow is compiled again with lines behind it.
Labels, texts and roles of the nodes on the way may change, so that an answer is no label of its
node any more and a session stands at a node that is terminal no longer: `State.Sound` is more than
lasts. What lasts is the way itself, since the ids, the start and the successors of a chart are
those of its statements, and statements are only added.

* `Flow.Continues`: what a flow keeps of an earlier one, and `Settings.continues_compile`: lines
  behind a chart keep it.
* `State.Walks.continued`: who walks through a flow walks through one that goes on from it.
* `World.Develops`: a session acts, the catalog is edited but not where the session walks, or a
  chart is extended. `World.inStep_of_develops`: what is left of the session's promises after any
  number of these.
* `World.extended_not_stranding`: so no extension takes the ground from under a session.
-/

import ChartGuide.Proofs.Draft.Continued
import ChartGuide.Proofs.Session.Interleaving
import ChartGuide.Proofs.Session.Way

namespace ChartGuide

open Relation

/-! ### Flows that go on -/

/-- Whether a flow keeps what a walk through an earlier flow meets: its nodes, its start and the
successors of each node. -/
structure Flow.Continues (later earlier : Flow) : Prop where
  contains : ∀ id, earlier.contains id = true → later.contains id = true
  start : ∀ id, earlier.start = some id → later.start = some id
  successors : ∀ id, earlier.successors id ⊆ later.successors id

/-- **Lines behind a chart take nothing away from a walk**, whatever is known of an earlier flow and
with whatever settings the chart was compiled before. -/
theorem Settings.continues_compile (settings before : Settings) (source more : String)
    (prior priorBefore : Prior) (now nowBefore : String) :
    (settings.compile (source ++ "\n" ++ more) prior now).Continues
      (before.compile source priorBefore nowBefore) where
  contains id there := by
    rw [contains_compile_iff] at there ⊢
    rw [Statement.ofSource_append, List.flatMap_append]
    exact List.mem_append_left _ there
  start id starts := by
    rw [start_compile] at starts ⊢
    rw [Statement.ofSource_append, List.flatMap_append, List.head?_append, starts, Option.some_or]
  successors id target member := by
    rw [mem_successors_compile_iff] at member ⊢
    obtain ⟨label, drawn⟩ := member
    rw [Statement.ofSource_append, List.flatMap_append]
    exact ⟨label, List.mem_append_left _ drawn⟩

namespace Catalog

/-- Whether the flow under an id, if there is one, is what its chart compiles to, with whatever
settings. -/
def ChartedAt (catalog : Catalog) (id : Value) : Prop :=
  ∀ flow, catalog.flow? id = some flow →
    ∃ settings prior now, flow = Settings.compile settings flow.source prior now

variable {catalog : Catalog} {id : Value}

theorem Compiled.chartedAt (compiled : catalog.Compiled) (id : Value) : catalog.ChartedAt id := by
  intro flow found
  obtain ⟨settings, source, prior, now, -, rfl⟩ := compiled id flow found
  exact ⟨settings, prior, now, rfl⟩

theorem ChartedAt.wellFormed (charted : catalog.ChartedAt id) {flow : Flow}
    (found : catalog.flow? id = some flow) : flow.WellFormed := by
  obtain ⟨settings, prior, now, own⟩ := charted flow found
  rw [own]
  exact settings.wellFormed_compile flow.source prior now

theorem chartedAt_compileSource (named : id.isBlank = false) (source : String)
    (title description : Value) (now : String) :
    (catalog.compileSource id source title description now).ChartedAt id := by
  intro flow found
  rw [catalog.flow?_compileSource named, if_pos rfl] at found
  obtain rfl := Option.some.inj found
  exact ⟨_, _, _, rfl⟩

/-- When a chart is extended, its flow goes on from the one that was there. -/
theorem ChartedAt.exists_continues (charted : catalog.ChartedAt id) {old : Flow}
    (registered : catalog.flow? id = some old) (named : id.isBlank = false) (more : String)
    (title description : Value) (now : String) :
    ∃ later,
      (catalog.compileSource id (old.source ++ "\n" ++ more) title description now).flow? id =
        some later ∧
      later.source = old.source ++ "\n" ++ more ∧ later.Continues old := by
  obtain ⟨settings, prior, before, own⟩ := charted old registered
  have continues := catalog.settings.continues_compile settings old.source more
    (catalog.priorOf id title description) prior now before
  rw [← own] at continues
  exact ⟨_, (catalog.flow?_compileSource named ..).trans (if_pos rfl), rfl, continues⟩

end Catalog

namespace Session

variable {catalog : Catalog} {session : Option State} {state : State}

/-! ### Walks that last -/

/-- Who walks through a flow walks through one that goes on from it. -/
theorem State.Walks.continued {earlier later : Flow} (walks : state.Walks earlier)
    (continues : later.Continues earlier) : state.Walks later where
  stands := continues.contains _ walks.stands
  begins := by
    cases first : state.history.head? with
    | none =>
      have empty := List.head?_eq_none_iff.mp first
      exact absurd empty (by simp [State.history])
    | some start => exact (continues.start start (walks.begins.symm.trans first)).symm
  leads := walks.leads.imp fun source _ next => continues.successors source next

namespace World

/-- Whether an edit of the catalog spares a session that walks through the flow under an id: the
flow stays as it is, or the session walks elsewhere, and a flow that is there afterwards is
compiled. -/
def Spares (world : World) (id : Value) (change : Catalog.Edit) : Prop :=
  (world.catalog.edit change).flow? id = world.catalog.flow? id ∨
    (∀ state, world.session = some state → state.flowId ≠ id) ∧
      (world.catalog.edit change).ChartedAt id

/-- How a world develops around the flow under an id: the session acts, there or elsewhere, the
catalog is edited and the session spared, or the chart of the flow is compiled again with lines
behind it. -/
inductive Develops (id : Value) (world : World) : World → Prop where
  | acted (ticket : String) (action : Action) :
      Develops id world (world.turn (.act ticket action))
  | edited {change : Catalog.Edit} (spared : world.Spares id change) :
      Develops id world (world.turn (.edit change))
  | extended {old : Flow} (registered : world.catalog.flow? id = some old) (more : String)
      (title description : Value) (now : String) :
      Develops id world (world.turn
        (.edit (.compile id (old.source ++ "\n" ++ more) title description now)))

/-- Whether the flow under an id, if there is one, is compiled, and the session, if it names this
flow, walks through it. -/
structure InStep (id : Value) (world : World) : Prop where
  charted : world.catalog.ChartedAt id
  walksIn : ∀ state, world.session = some state → state.flowId = id → state.WalksIn world.catalog

namespace InStep

variable {world : World} {id : Value}

theorem acted (inStep : world.InStep id) (ticket : String) (action : Action) :
    (world.turn (.act ticket action)).InStep id := by
  refine ⟨inStep.charted, fun state performed here => ?_⟩
  obtain same | move := move_of_perform performed
  · exact inStep.walksIn state same here
  · subst here
    exact walksIn_of_move (fun _ => inStep.charted.wellFormed) inStep.walksIn move

theorem edited (inStep : world.InStep id) {change : Catalog.Edit}
    (spared : world.Spares id change) : (world.turn (.edit change)).InStep id := by
  obtain alone | ⟨elsewhere, charted⟩ := spared
  · refine ⟨fun flow found => inStep.charted flow (alone.symm.trans found),
      fun state walking here => ?_⟩
    obtain ⟨flow, found, walks⟩ := inStep.walksIn state walking here
    subst here
    exact ⟨flow, alone.trans found, walks⟩
  · exact ⟨charted, fun state walking here => absurd here (elsewhere state walking)⟩

theorem extended (inStep : world.InStep id) (named : id.isBlank = false) {old : Flow}
    (registered : world.catalog.flow? id = some old) (more : String) (title description : Value)
    (now : String) :
    (world.turn (.edit (.compile id (old.source ++ "\n" ++ more) title description now))).InStep
      id := by
  refine ⟨Catalog.chartedAt_compileSource named _ title description now,
    fun state walking here => ?_⟩
  obtain ⟨flow, found, walks⟩ := inStep.walksIn state walking here
  subst here
  obtain rfl := Option.some.inj (registered.symm.trans found)
  obtain ⟨further, filed, -, continues⟩ := inStep.charted.exists_continues registered named more
    title description now
  exact ⟨further, filed, walks.continued continues⟩

theorem develops {later : World} (inStep : world.InStep id) (named : id.isBlank = false)
    (develops : world.Develops id later) : later.InStep id := by
  cases develops with
  | acted ticket action => exact inStep.acted ticket action
  | edited spared => exact inStep.edited spared
  | extended registered more title description now =>
    exact inStep.extended named registered more title description now

end InStep

/-- **A session keeps to its way** through a flow that is spared or extended, however often it acts
and the catalog changes. -/
theorem inStep_of_develops {world : World} {id : Value} (named : id.isBlank = false)
    (charted : catalog.ChartedAt id)
    (reached : ReflTransGen (Develops id) { catalog := catalog } world) : world.InStep id := by
  induction reached with
  | refl => exact ⟨charted, fun _ fresh => nomatch fresh⟩
  | tail _ develops ih => exact ih.develops named develops

/-- **Extending a flow strands no session.** A session that was begun in a compiled flow, and acted
while the chart of the flow was extended or stayed as it was, stands at a node after the chart is
extended once more. Its history still begins at the start and goes along choices. Whatever happened
to other flows does not matter, nor what happened to this one while the session was elsewhere. -/
theorem extended_not_stranding {world : World} (charted : catalog.ChartedAt state.flowId)
    (reached : ReflTransGen (Develops state.flowId) { catalog := catalog } world)
    (walking : world.session = some state) (named : state.flowId.isBlank = false) (more : String)
    (title description : Value) (now : String) :
    ∃ old new node, world.catalog.flow? state.flowId = some old ∧
      let later := world.turn
        (.edit (.compile state.flowId (old.source ++ "\n" ++ more) title description now))
      later.session = some state ∧
        later.catalog.flow? state.flowId = some new ∧ new.source = old.source ++ "\n" ++ more ∧
        state.currentNode later.catalog = .ok node ∧
        state.history.head? = new.start ∧
        state.history.IsChain fun source target => target ∈ new.successors source := by
  have inStep := inStep_of_develops named charted reached
  obtain ⟨old, registered, walks⟩ := inStep.walksIn state walking rfl
  obtain ⟨new, found, source, continues⟩ := inStep.charted.exists_continues registered named more
    title description now
  have further := walks.continued continues
  obtain ⟨node, stands⟩ := (State.exists_currentNode_iff found).mpr further.stands
  exact ⟨old, new, node, registered, walking, found, source, stands, further.begins, further.leads⟩

/-- A chart with one choice. -/
def strip : Catalog :=
  .after .usual [.compile (.text "strip") "A --> B" .null .null "2020-01-02T03:04:05+00:00"]

/-- A session that takes the choice and succeeds. -/
def succeeded : World :=
  [.act "session-1" (.start (.text "strip")), .act "session-1" (.choose (.text "B"))].foldl turn
    { catalog := strip }

/-- Another flow is put in, with a choice that leads to no node. Then the session goes on along a
choice that its own chart is extended by. -/
def lengthened : World :=
  [.edit (.register unfinished),
    .edit (.compile (.text "strip") ("A --> B" ++ "\n" ++ "B --> C") .null .null
      "2020-01-02T03:04:06+00:00"),
    .act "session-1" (.choose (.text "C"))].foldl turn succeeded

theorem extended_not_stranding_lengthened :
    ∃ state old new node, strip.ChartedAt state.flowId ∧
      ReflTransGen (Develops state.flowId) { catalog := strip } lengthened ∧
      lengthened.session = some state ∧ state.history = ["A", "B", "C"] ∧
      state.flowId.isBlank = false ∧ lengthened.catalog.flow? state.flowId = some old ∧
      let later := lengthened.turn
        (.edit (.compile state.flowId (old.source ++ "\n" ++ "C[Done]\nC --> A") .null .null
          "2020-01-02T03:04:07+00:00"))
      later.session = some state ∧
        later.catalog.flow? state.flowId = some new ∧
        new.source = old.source ++ "\n" ++ "C[Done]\nC --> A" ∧
        state.currentNode later.catalog = .ok node ∧
        state.history.head? = new.start ∧
        state.history.IsChain fun source target => target ∈ new.successors source := by
  have walked : lengthened.session.map (fun state => (state.flowId, state.history)) =
      some (.text "strip", ["A", "B", "C"]) := by
    decide +kernel
  obtain ⟨state, walking, same⟩ := Option.map_eq_some_iff.mp walked
  obtain ⟨flowId, history⟩ := Prod.mk.inj same
  have charted : strip.ChartedAt state.flowId :=
    (Catalog.produced_after .usual (by decide)).compiled.chartedAt _
  have other : succeeded.Spares (.text "strip") (.register unfinished) :=
    .inl ((Catalog.flow?_register _ unfinished _).trans (if_neg (by decide)))
  have filed : ((succeeded.turn (.edit (.register unfinished))).catalog.flow? (.text "strip")).map
      Flow.source = some "A --> B" := by decide +kernel
  obtain ⟨flow, registered, source⟩ := Option.map_eq_some_iff.mp filed
  have extended := Develops.extended registered "B --> C" .null .null "2020-01-02T03:04:06+00:00"
  rw [source] at extended
  have reached : ReflTransGen (Develops (.text "strip")) { catalog := strip } lengthened :=
    ((((ReflTransGen.refl.tail (.acted _ _)).tail (.acted _ _)).tail (.edited other)).tail
      extended).tail (.acted _ _)
  rw [← flowId] at reached
  have named : state.flowId.isBlank = false := by rw [flowId]; rfl
  obtain ⟨old, new, node, kept⟩ := extended_not_stranding charted reached walking named
    "C[Done]\nC --> A" .null .null "2020-01-02T03:04:07+00:00"
  exact ⟨state, old, new, node, charted, reached, walking, history, named, kept⟩

end World

end Session

end ChartGuide
