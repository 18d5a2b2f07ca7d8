/-
**Links that an inspection accepts.**

An inspection, following a link and beginning a session each ask in their own way where a link
leads. In a catalog of compiled flows they agree that it leads to a flow that is there. An
inspection looks no further, whereas a session also needs a start: the chart of the flow may have
no nodes.

* `Catalog.resolveLink?_eq_some_iff`: the flow that a link leads to.
* `Catalog.Compiled.acceptsLink_iff`: the links that an inspection accepts.
* `State.exists_followLink_iff`: the links that can be followed are those that are accepted and lead
  to a flow with nodes.
* `State.accepted_link_not_followed`: a link that is accepted and cannot be followed.
-/

import ChartGuide.Proofs.Finding
import ChartGuide.Proofs.Session

namespace ChartGuide

/-- Whether none of the findings says that a link leads nowhere. -/
def AcceptsLink (findings : List Finding) (id : String) : Prop :=
  ∀ finding ∈ findings, ¬ finding.FaultsLink id

namespace Catalog

variable {catalog : Catalog} {flowId : Value} {id : String} {flow : Flow} {node : Node}

/-- A link leads to the flow under its target, if it has one. -/
theorem resolveLink?_eq_some_iff (registered : catalog.flow? flowId = some flow)
    (found : flow.node? id = some node) (link : node.isLink = true) {target : Flow} :
    catalog.resolveLink? flowId id = some target ↔
      node.nextFlow ≠ .null ∧ catalog.flow? node.nextFlow = some target := by
  rw [resolveLink?, registered, Option.bind_some, found, Option.bind_some, link]
  by_cases missing : node.nextFlow = .null <;> simp [missing]

/-- The flows of a catalog can be inspected if they are compiled. -/
theorem Compiled.inspect_eq_ok (compiled : catalog.Compiled)
    (registered : catalog.flow? flowId = some flow) (known : Option Catalog) :
    flow.inspect known = .ok (flow.findings known) := by
  obtain ⟨settings, source, prior, now, -, rfl⟩ := compiled flowId flow registered
  exact settings.inspect_compile source prior now known

/-- **An inspection accepts exactly the links that lead to a flow.** -/
theorem Compiled.acceptsLink_iff (compiled : catalog.Compiled)
    (registered : catalog.flow? flowId = some flow) (found : flow.node? id = some node)
    (link : node.isLink = true) :
    AcceptsLink (flow.findings (some catalog)) id ↔
      ∃ target, catalog.resolveLink? flowId id = some target := by
  have sound := Session.wellFormed_of_compiled compiled registered
  have nonempty : flow.nodes.keys ≠ [] :=
    List.ne_nil_of_mem (flow.nodes.mem_keys_iff.mpr ⟨node, found⟩)
  obtain ⟨start, starts⟩ := sound.exists_start_iff.mpr nonempty
  have contained := sound.start_contained start starts
  rw [AcceptsLink, Flow.forall_not_faultsLink_iff starts contained found,
    Node.linkFinding?_eq_none_iff link]
  simp only [resolveLink?_eq_some_iff registered found link, exists_and_left]
  exact and_congr_right fun _ => Option.isSome_iff_exists

end Catalog

namespace Session

variable {catalog : Catalog} {ticket : String} {state : State} {flow : Flow} {node : Node}

/-- Following a link begins a session in the flow that it leads to. -/
theorem State.followLink_eq (compiled : catalog.Compiled)
    (registered : catalog.flow? state.flowId = some flow)
    (stands : flow.node? state.current = some node) (link : node.isLink = true) :
    state.followLink catalog ticket =
      (catalog.resolveLink? state.flowId state.current).elim (.error (.noTarget state.current))
        fun target => begin catalog ticket target.id := by
  have current : state.currentNode catalog = .ok node :=
    currentNode_eq_ok_iff.mpr ⟨flow, registered, stands⟩
  have own : node.id = state.current := id_eq_of_currentNode compiled current
  rw [followLink, current]
  simp only [link, own, Bool.not_true, Bool.false_eq_true, if_false]
  cases catalog.resolveLink? state.flowId state.current <;> rfl

/-- A session can begin in a flow exactly if the flow has nodes. -/
theorem exists_begin_iff {flowId : Value} (registered : catalog.flow? flowId = some flow)
    (sound : flow.WellFormed) :
    (∃ fresh, begin catalog ticket flowId = .ok fresh) ↔ flow.nodes.keys ≠ [] := by
  rw [← sound.exists_start_iff]
  simp [begin_eq_ok_iff, registered]

/-- **A link can be followed exactly if an inspection accepts it and the flow it leads to has
nodes.** The session is then at the start of that flow. An inspection does not look into the flow: a
link to one without nodes is accepted, and following it is refused. -/
theorem State.exists_followLink_iff {settings : Settings} {edits : List Catalog.Edit}
    (reached : Catalog.after settings edits = catalog) (compiled : catalog.Compiled)
    (registered : catalog.flow? state.flowId = some flow)
    (stands : flow.node? state.current = some node) (link : node.isLink = true)
    (ticket : String) :
    ∃ findings, flow.inspect (some catalog) = .ok findings ∧
      ((∃ fresh, state.followLink catalog ticket = .ok fresh) ↔
        AcceptsLink findings state.current ∧
          ∃ target, catalog.flow? node.nextFlow = some target ∧ target.nodes.keys ≠ []) ∧
      (∀ fresh, state.followLink catalog ticket = .ok fresh →
        ∃ target start, catalog.flow? node.nextFlow = some target ∧ target.start = some start ∧
          fresh = { ticket := ticket, flowId := node.nextFlow, current := start }) ∧
      (AcceptsLink findings state.current →
        ∃ target, catalog.flow? node.nextFlow = some target ∧ (target.nodes.keys = [] →
          state.followLink catalog ticket = .error (.noStart node.nextFlow))) := by
  refine ⟨_, compiled.inspect_eq_ok registered _, ?_⟩
  rw [compiled.acceptsLink_iff registered stands link,
    followLink_eq compiled registered stands link]
  cases resolved : catalog.resolveLink? state.flowId state.current with
  | none => simp
  | some target =>
    obtain ⟨-, found⟩ :=
      (Catalog.resolveLink?_eq_some_iff registered stands link).mp resolved
    have sound := wellFormed_of_compiled compiled found
    -- A session begins under the id of the flow, which is the target that the link notes.
    have filed : catalog.Filed := reached ▸ Catalog.filed_after settings edits
    rw [Option.elim_some, filed _ target found]
    refine ⟨?_, fun fresh begun => ?_, fun _ => ⟨target, found, fun empty => ?_⟩⟩
    · rw [exists_begin_iff found sound]
      simp [found]
    · obtain ⟨flow, start, there, starts, rfl⟩ := begin_eq_ok_iff.mp begun
      exact ⟨flow, start, there, starts, rfl⟩
    · simp only [begin, found, sound.start_eq_none_iff.mpr empty]

/-- A flow with the given chart, and one that begins with a link to it. -/
def linkEdits (chart : String) : List Catalog.Edit :=
  [.compile (.text "coreSystem") chart .null .null "2020-01-02T03:04:05+00:00",
    .compile (.text "entry") "GO_CORE[Core]" .null .null "2020-01-02T03:04:06+00:00"]

def linkedTo (chart : String) : Catalog := .after .usual (linkEdits chart)

theorem compiled_linkedTo (chart : String) : (linkedTo chart).Compiled :=
  (Catalog.produced_after .usual (by simp [linkEdits, Catalog.Edit.isCompilingOrRemoving])).compiled

/-- A session that stands at the link. -/
def atLink : State where
  ticket := "session-1"
  flowId := .text "entry"
  current := "GO_CORE"

/-- Whether a session stands at a link can be computed. -/
theorem exists_link_of_currentNode (catalog : Catalog) (state : State)
    (there : (state.currentNode catalog).toOption.any Node.isLink = true) :
    ∃ flow node, catalog.flow? state.flowId = some flow ∧ flow.node? state.current = some node ∧
      node.isLink = true := by
  cases current : state.currentNode catalog with
  | error fault =>
    rw [current] at there
    cases there
  | ok node =>
    rw [current] at there
    obtain ⟨flow, registered, stands⟩ := currentNode_eq_ok_iff.mp current
    exact ⟨flow, node, registered, stands, there⟩

theorem State.exists_followLink_iff_atLink :
    ∃ flow node, Catalog.after .usual (linkEdits "A --> B") = linkedTo "A --> B" ∧
      (linkedTo "A --> B").Compiled ∧ (linkedTo "A --> B").flow? atLink.flowId = some flow ∧
      flow.node? atLink.current = some node ∧ node.isLink = true ∧
      ∃ findings, flow.inspect (some (linkedTo "A --> B")) = .ok findings ∧
        ((∃ fresh, atLink.followLink (linkedTo "A --> B") "session-2" = .ok fresh) ↔
          AcceptsLink findings atLink.current ∧ ∃ target,
            (linkedTo "A --> B").flow? node.nextFlow = some target ∧ target.nodes.keys ≠ []) ∧
        (∀ fresh, atLink.followLink (linkedTo "A --> B") "session-2" = .ok fresh →
          ∃ target start, (linkedTo "A --> B").flow? node.nextFlow = some target ∧
            target.start = some start ∧
            fresh = { ticket := "session-2", flowId := node.nextFlow, current := start }) ∧
        (AcceptsLink findings atLink.current →
          ∃ target, (linkedTo "A --> B").flow? node.nextFlow = some target ∧
            (target.nodes.keys = [] → atLink.followLink (linkedTo "A --> B") "session-2" =
              .error (.noStart node.nextFlow))) := by
  obtain ⟨flow, node, registered, stands, link⟩ :=
    exists_link_of_currentNode (linkedTo "A --> B") atLink (by decide +kernel)
  exact ⟨flow, node, rfl, compiled_linkedTo _, registered, stands, link,
    exists_followLink_iff rfl (compiled_linkedTo _) registered stands link "session-2"⟩

example : atLink.followLink (linkedTo "A --> B") "session-2" =
    .ok { ticket := "session-2", flowId := .text "coreSystem", current := "A" } := by
  decide +kernel

/-- **An accepted link is not followed.** It leads to a flow that is there, and the chart of this
flow has no nodes, so no session can begin in it. -/
theorem State.accepted_link_not_followed :
    (linkedTo "").Compiled ∧
      after (linkedTo "") [("session-1", .start (.text "entry"))] = some atLink ∧
      ∃ flow node findings, (linkedTo "").flow? atLink.flowId = some flow ∧
        flow.node? atLink.current = some node ∧ node.isLink = true ∧
        flow.inspect (some (linkedTo "")) = .ok findings ∧ AcceptsLink findings atLink.current ∧
        atLink.followLink (linkedTo "") "session-2" = .error (.noStart (.text "coreSystem")) ∧
        ¬ ((∃ fresh, atLink.followLink (linkedTo "") "session-2" = .ok fresh) ↔
          AcceptsLink findings atLink.current) := by
  obtain ⟨flow, node, registered, stands, link⟩ :=
    exists_link_of_currentNode (linkedTo "") atLink (by decide +kernel)
  have resolves : ((linkedTo "").resolveLink? atLink.flowId atLink.current).isSome = true := by
    decide +kernel
  have accepts : AcceptsLink (flow.findings (some (linkedTo ""))) atLink.current :=
    ((compiled_linkedTo "").acceptsLink_iff registered stands link).mpr
      (Option.isSome_iff_exists.mp resolves)
  have refused : atLink.followLink (linkedTo "") "session-2" =
      .error (.noStart (.text "coreSystem")) := by
    decide +kernel
  refine ⟨compiled_linkedTo "", by decide +kernel, flow, node, _, registered, stands, link,
    (compiled_linkedTo "").inspect_eq_ok registered _, accepts, refused, fun follows => ?_⟩
  obtain ⟨fresh, followed⟩ := follows.mpr accepts
  rw [refused] at followed
  cases followed

end Session

end ChartGuide
