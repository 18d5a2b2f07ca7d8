/-
**Who says that a link leads nowhere.**

A compilation notes the links that lead nowhere in its trace and warns of each, an inspection finds
them, and a catalog follows the others. The compilation asks the link table by the id of a node,
and the others ask the node for the flow that it notes. In a compiled flow the two agree, because
the link mark alone makes a link and the link table alone gives it a target: an entry that names no
flow is no target, and the empty text is one.

* `Settings.inertIds`: the ids with the link mark for which the link table names no flow.
* `Settings.inertLinks_compileTrace`, `Settings.warnings_compileEvents`,
  `Settings.unresolved_findings_compile`: the trace, the warnings and the inspection name these ids,
  in the order of the flow.
* `Settings.reports_compile_iff`: what an inspection and a catalog report about a node.
* `Settings.linkReports_agree`: all reports agree, and each link has exactly one fate.
-/

import ChartGuide.Proofs.Session.Links
import ChartGuide.Proofs.Trace

namespace ChartGuide

/-- What becomes of a link: it has no target, its target is unknown, or it leads to a flow. -/
inductive LinkFate where
  | noTarget
  | unknownTarget
  | resolved
  deriving DecidableEq, Repr

/-- The code of the finding that reports a fate. A link that leads to a flow is not reported. -/
def LinkFate.code? : LinkFate → Option String
  | noTarget => some "unresolved_link"
  | unknownTarget => some "unknown_link_target"
  | resolved => none

/-- Whether a fate of a link is reported: by the findings about its flow, or by the catalog that
follows the link. -/
def LinkFate.Reported (findings : List Finding) (catalog : Catalog) (flowId : Value) (id : String) :
    LinkFate → Prop
  | noTarget =>
    ∃ finding ∈ findings, finding.code = "unresolved_link" ∧ finding.nodeId? = some id
  | unknownTarget =>
    ∃ finding ∈ findings, finding.code = "unknown_link_target" ∧ finding.nodeId? = some id
  | resolved => ∃ target, catalog.resolveLink? flowId id = some target

namespace Flow

variable {flow : Flow}

/-- Only what is found about a link itself has one of the two codes and names the link. -/
theorem exists_link_finding_iff {start id code : String} {node : Node}
    (starts : flow.start = some start) (contained : flow.contains start = true)
    (found : flow.node? id = some node) (catalog : Option Catalog)
    (aboutLinks : code = "unresolved_link" ∨ code = "unknown_link_target") :
    (∃ finding ∈ flow.findings catalog, finding.code = code ∧ finding.nodeId? = some id) ↔
      (node.linkFinding? id catalog).map Finding.code = some code := by
  simp only [mem_findings_iff starts contained, Option.map_eq_some_iff]
  constructor
  · rintro ⟨finding, ⟨other, there, otherFound, wrong⟩ | ⟨_, -, -, rfl⟩ | ⟨_, -, -, rfl⟩, kind,
      named⟩
    · obtain rfl : other = id :=
        Option.some.inj ((Node.faultsLink_linkFinding? wrong).1.symm.trans named)
      obtain rfl : there = node := Option.some.inj (otherFound.symm.trans found)
      exact ⟨finding, wrong, kind⟩
    · obtain rfl | rfl := aboutLinks <;> simp [Finding.code] at kind
    · obtain rfl | rfl := aboutLinks <;> simp [Finding.code] at kind
  · rintro ⟨finding, wrong, kind⟩
    exact ⟨finding, .inl ⟨id, node, found, wrong⟩, kind, (Node.faultsLink_linkFinding? wrong).1⟩

end Flow

namespace Settings

/-- The ids of a flow that have the link mark and for which the link table names no flow. -/
def inertIds (settings : Settings) (flow : Flow) : List String :=
  flow.nodes.keys.filter fun id => settings.isLinkId id && (settings.linkTarget? id).isNone

/-- What becomes of a link with the given id in a catalog. -/
def linkFate (settings : Settings) (catalog : Catalog) (id : String) : LinkFate :=
  match settings.linkTarget? id with
  | none => .noTarget
  | some target => if catalog.contains (.text target) then .resolved else .unknownTarget

variable {settings : Settings} {source : String} {prior : Prior} {now id : String} {node : Node}

/-! ### Links that lead nowhere -/

theorem leadsNowhere_compile (found : (settings.compile source prior now).node? id = some node) :
    settings.leadsNowhere node =
        (settings.isLinkId id && (settings.linkTarget? id).isNone) ∧ node.id = id := by
  have own : node.id = id :=
    ((settings.wellFormed_compile source prior now).node id node found).id_eq
  have link : node.isLink = settings.isLinkId id := Bool.eq_iff_iff.mpr (isLink_compile_iff found)
  exact ⟨by rw [leadsNowhere, own, link], own⟩

/-- The nodes that lead nowhere, told by their ids. -/
theorem map_id_leadsNowhere (settings : Settings) (source : String) (prior : Prior)
    (now : String) :
    ((settings.compile source prior now).nodes.values.filter settings.leadsNowhere).map Node.id =
      settings.inertIds (settings.compile source prior now) :=
  Table.map_filter_values _ fun _ _ found => leadsNowhere_compile found

/-- The trace notes them. -/
theorem inertLinks_compileTrace (settings : Settings) (source : String) (prior : Prior)
    (now : String) :
    (settings.compileTrace source prior now).datum? "finalize" "inert_links" =
      some (.list ((settings.inertIds (settings.compile source prior now)).map .text)) := by
  rw [← map_id_leadsNowhere, List.map_map]
  rfl

/-- Settling the draft of a chart reports them: no node stops it, so each one is looked at. -/
theorem finalizeEvents_ofSource (settings : Settings) (source : String) (prior : Prior)
    (now : String) :
    (Draft.ofSource source).finalizeEvents settings =
      (settings.inertIds (settings.compile source prior now)).map .inertLink := by
  have all : ∀ entry ∈ (Draft.ofSource source).nodes.entries,
      ((Draft.ofSource source).danglingTarget? entry.2).isNone = true := by
    intro entry member
    rw [Option.isNone_iff_eq_none]
    exact (Draft.holds_ofSource source).danglingTarget?_eq_none
      (Statement.forall_target_mem_mentions _) member
  have values : (settings.compile source prior now).nodes.values =
      (Draft.ofSource source).nodes.entries.map fun entry =>
        (Draft.ofSource source).settledNode settings entry.1 entry.2 := by
    show ((Draft.ofSource source).nodes.entries.map _).map Prod.snd = _
    rw [List.map_map]
    rfl
  rw [← map_id_leadsNowhere, values, List.map_map]
  unfold Draft.finalizeEvents
  rw [List.takeWhile_eq_self_iff.mpr all]
  rfl

/-- Reading a chart warns of nothing. -/
theorem filter_isWarning_scanEvents (readings : List Reading) :
    (Draft.scanEvents readings).filter Event.isWarning = [] := by
  rw [List.filter_eq_nil_iff]
  intro event member
  rcases List.mem_append.mp member with skipped | last
  · obtain ⟨reading, -, reported⟩ := List.mem_filterMap.mp skipped
    obtain ⟨fault, -, rfl⟩ := Option.map_eq_some_iff.mp reported
    exact Bool.false_ne_true
  · rw [List.mem_singleton.mp last]
    exact Bool.false_ne_true

/-- The compilation warns of them, and of nothing else. -/
theorem warnings_compileEvents (settings : Settings) (source : String) (prior : Prior)
    (now : String) :
    (settings.compileEvents source).filter Event.isWarning =
      (settings.inertIds (settings.compile source prior now)).map .inertLink := by
  show (Draft.scanEvents (Reading.ofSource source) ++
    (Draft.ofSource source).finalizeEvents settings).filter Event.isWarning = _
  rw [List.filter_append, filter_isWarning_scanEvents, List.nil_append,
    settings.finalizeEvents_ofSource source prior now]
  exact List.filter_eq_self.mpr (List.forall_mem_map.mpr fun _ _ => rfl)

/-- What is found about a node: it has the link mark, and the link table names no flow for it, or
one that the catalog does not know. -/
theorem linkFinding?_compile (found : (settings.compile source prior now).node? id = some node)
    (catalog : Option Catalog) :
    node.linkFinding? id catalog =
      if settings.isLinkId id then
        match settings.linkTarget? id with
        | none => some (.unresolvedLink id)
        | some target =>
          if catalog.any fun known => !known.contains (.text target) then
            some (.unknownLinkTarget id (.text target))
          else none
      else none := by
  have link : node.isLink = settings.isLinkId id := Bool.eq_iff_iff.mpr (isLink_compile_iff found)
  unfold Node.linkFinding?
  rw [nextFlow_compile found, link]
  by_cases marked : settings.isLinkId id = true
  · cases settings.linkTarget? id <;> simp [marked, Value.ofText?]
  · simp [marked]

/-- The nodes that are found to have no target. -/
theorem filter_linkFinding?_compile
    (found : (settings.compile source prior now).node? id = some node) (catalog : Option Catalog) :
    (node.linkFinding? id catalog).filter (fun finding => finding.code = "unresolved_link") =
      if settings.isLinkId id && (settings.linkTarget? id).isNone then some (.unresolvedLink id)
      else none := by
  rw [linkFinding?_compile found]
  by_cases marked : settings.isLinkId id = true
  · cases settings.linkTarget? id with
    | none => simp [marked, Finding.code]
    | some target =>
      simp only [marked, if_true, Option.isNone_some, Bool.and_false, Bool.false_eq_true, if_false]
      split <;> simp [Finding.code]
  · simp [marked]

/-- An inspection finds them, in whatever catalog it looks. -/
theorem unresolved_findings_compile (settings : Settings) (source : String) (prior : Prior)
    (now : String) (catalog : Option Catalog) :
    ((settings.compile source prior now).findings catalog).filter
        (fun finding => finding.code = "unresolved_link") =
      (settings.inertIds (settings.compile source prior now)).map .unresolvedLink := by
  have sound := settings.wellFormed_compile source prior now
  by_cases empty : (settings.compile source prior now).nodes.keys = []
  · rw [Flow.findings_of_keys_eq_nil empty, inertIds, empty]
    rfl
  · obtain ⟨start, starts⟩ := sound.exists_start_iff.mpr empty
    have inert : (settings.inertIds (settings.compile source prior now)).map
        Finding.unresolvedLink =
          (settings.compile source prior now).nodes.entries.filterMap fun entry =>
            if settings.isLinkId entry.1 && (settings.linkTarget? entry.1).isNone then
              some (Finding.unresolvedLink entry.1)
            else none := by
      unfold inertIds Table.keys
      rw [← List.filterMap_eq_map, List.filterMap_filter, List.filterMap_map]
      rfl
    rw [Flow.findings_eq starts (sound.start_contained start starts), inert, List.filter_append,
      List.filter_append, List.filter_filterMap]
    rw [List.filter_eq_nil_iff.mpr (List.forall_mem_map.mpr fun _ _ => by simp [Finding.code]),
      List.filter_eq_nil_iff.mpr (List.forall_mem_map.mpr fun _ _ => by simp [Finding.code]),
      List.append_nil, List.append_nil]
    refine List.filterMap_congr fun entry member => ?_
    exact filter_linkFinding?_compile ((Table.mem_entries_iff _).mp member) catalog

/-! ### Fates -/

variable {catalog : Catalog} {flowId : Value}

/-- A compiled link is followed to the flow that its entry in the link table names. -/
theorem resolveLink?_compile_eq_some_iff
    (registered : catalog.flow? flowId = some (settings.compile source prior now))
    (found : (settings.compile source prior now).node? id = some node) {target : Flow} :
    catalog.resolveLink? flowId id = some target ↔ settings.isLinkId id = true ∧
      ∃ name, settings.linkTarget? id = some name ∧ catalog.flow? (.text name) = some target := by
  have noted := nextFlow_compile found
  rw [← isLink_compile_iff found]
  by_cases link : node.isLink = true
  · rw [Catalog.resolveLink?_eq_some_iff registered found link, noted, if_pos link]
    cases settings.linkTarget? id <;> simp [link, Value.ofText?]
  · unfold Catalog.resolveLink?
    simp [registered, found, link]

/-- The finding about a compiled link tells its fate. -/
theorem map_code_linkFinding?_compile
    (found : (settings.compile source prior now).node? id = some node) :
    (node.linkFinding? id (some catalog)).map Finding.code =
      if settings.isLinkId id then (settings.linkFate catalog id).code? else none := by
  rw [linkFinding?_compile found, linkFate]
  by_cases marked : settings.isLinkId id = true
  · rw [if_pos marked, if_pos marked]
    cases settings.linkTarget? id with
    | none => rfl
    | some target =>
      by_cases there : catalog.contains (.text target) = true <;>
        simp [there, Finding.code, LinkFate.code?]
  · rw [if_neg marked, if_neg marked]
    rfl

/-- A link is followed if that is its fate. -/
theorem exists_resolveLink?_compile_iff
    (registered : catalog.flow? flowId = some (settings.compile source prior now))
    (found : (settings.compile source prior now).node? id = some node) :
    (∃ target, catalog.resolveLink? flowId id = some target) ↔
      settings.isLinkId id = true ∧ settings.linkFate catalog id = .resolved := by
  simp only [resolveLink?_compile_eq_some_iff registered found, exists_and_left]
  refine and_congr_right fun _ => ?_
  unfold linkFate
  cases settings.linkTarget? id with
  | none => simp
  | some name =>
    have there : (∃ flow, catalog.flow? (.text name) = some flow) ↔
        catalog.contains (.text name) = true := Option.isSome_iff_exists.symm
    by_cases known : catalog.contains (.text name) = true <;> simp [there, known]

/-- **A link has the one fate that the link table and the catalog give it**, and other nodes have
none. -/
theorem reports_compile_iff
    (registered : catalog.flow? flowId = some (settings.compile source prior now))
    (found : (settings.compile source prior now).node? id = some node) (fate : LinkFate) :
    fate.Reported ((settings.compile source prior now).findings (some catalog)) catalog flowId id ↔
      settings.isLinkId id = true ∧ settings.linkFate catalog id = fate := by
  have sound := settings.wellFormed_compile source prior now
  have nonempty : (settings.compile source prior now).nodes.keys ≠ [] :=
    List.ne_nil_of_mem ((Table.mem_keys_iff _).mpr ⟨node, found⟩)
  obtain ⟨start, starts⟩ := sound.exists_start_iff.mpr nonempty
  have contained := sound.start_contained start starts
  -- The codes tell the fates apart.
  have told : ∀ fate code : _, LinkFate.code? fate = some code →
      ((node.linkFinding? id (some catalog)).map Finding.code = some code ↔
        settings.isLinkId id = true ∧ settings.linkFate catalog id = fate) := by
    intro fate code known
    rw [map_code_linkFinding?_compile found]
    by_cases marked : settings.isLinkId id = true
    · rw [if_pos marked, ← known]
      generalize settings.linkFate catalog id = other
      cases other <;> cases fate <;> simp [marked, LinkFate.code?]
    · simp [marked]
  cases fate with
  | noTarget =>
    exact (Flow.exists_link_finding_iff starts contained found _ (.inl rfl)).trans (told _ _ rfl)
  | unknownTarget =>
    exact (Flow.exists_link_finding_iff starts contained found _ (.inr rfl)).trans (told _ _ rfl)
  | resolved => exact exists_resolveLink?_compile_iff registered found

/-- **All reports about links agree.** The trace, the warnings and the inspection name the same ids,
in the order of the flow: those with the link mark for which the link table names no flow. In a
catalog that has the flow, exactly one thing is reported about each link: that it has no target,
that its target is unknown, or the flow it leads to, which is the one that the link table names.
Nothing is reported about the other nodes. -/
theorem linkReports_agree (settings : Settings) (source : String) (prior : Prior) (now : String) :
    let flow := settings.compile source prior now
    let inert := settings.inertIds flow
    (settings.compileTrace source prior now).datum? "finalize" "inert_links" =
        some (.list (inert.map .text)) ∧
      (settings.compileEvents source).filter Event.isWarning = inert.map .inertLink ∧
      (∀ known : Option Catalog, ∃ findings, flow.inspect known = .ok findings ∧
        findings.filter (fun finding => finding.code = "unresolved_link") =
          inert.map .unresolvedLink) ∧
      ∀ catalog flowId, catalog.flow? flowId = some flow →
        ∃ findings, flow.inspect (some catalog) = .ok findings ∧
          ∀ id node, flow.node? id = some node →
            (node.isLink = true → (∃! fate, LinkFate.Reported findings catalog flowId id fate) ∧
              ∀ target, catalog.resolveLink? flowId id = some target →
                ∃ name, settings.linkTarget? id = some name ∧
                  catalog.flow? (.text name) = some target) ∧
            (node.isLink = false →
              ∀ fate, ¬ LinkFate.Reported findings catalog flowId id fate) := by
  refine ⟨settings.inertLinks_compileTrace source prior now,
    settings.warnings_compileEvents source prior now,
    fun known => ⟨_, settings.inspect_compile source prior now known,
      settings.unresolved_findings_compile source prior now known⟩,
    fun catalog flowId registered => ⟨_, settings.inspect_compile source prior now _,
      fun id node found => ?_⟩⟩
  have reports := reports_compile_iff registered found
  constructor
  · intro link
    have marked := (isLink_compile_iff found).mp link
    constructor
    · refine ⟨settings.linkFate catalog id, (reports _).mpr ⟨marked, rfl⟩, fun fate reported => ?_⟩
      exact ((reports fate).mp reported).2.symm
    · intro target resolved
      exact ((resolveLink?_compile_eq_some_iff registered found).mp resolved).2
  · intro other fate reported
    have link := (isLink_compile_iff found).mpr ((reports fate).mp reported).1
    exact Bool.false_ne_true (other.symm.trans link)

/-- Settings with a link mark and a link table of their own: a flow, no flow, and the empty text. -/
def signposted : Settings where
  linkMark := "TO_"
  linkTargets := .ofList [("TO_A", some "hall"), ("TO_B", none), ("TO_C", some "")]

/-- Three links, one for each entry of the table, and a node that is no link. -/
def junctionChart : String := "TO_A --> TO_B\nTO_B --> TO_C\nTO_C --> X"

def junction : Flow :=
  signposted.compile junctionChart ⟨.text "junction", .null, .null, .absent⟩
    "2020-01-02T03:04:05+00:00"

/-- The flow that the first link leads to, and the flow of the links. -/
def crossroads : Catalog :=
  .after signposted [.compile (.text "hall") "H" .null .null "2020-01-02T03:04:05+00:00",
    .register junction]

theorem linkReports_agree_junction :
    (signposted.compileEvents junctionChart).filter Event.isWarning = [.inertLink "TO_B"] ∧
      crossroads.flow? (.text "junction") = some junction ∧
      ∃ findings, junction.inspect (some crossroads) = .ok findings ∧
        (∃! fate, LinkFate.Reported findings crossroads (.text "junction") "TO_A" fate) ∧
        (∃! fate, LinkFate.Reported findings crossroads (.text "junction") "TO_B" fate) ∧
        (∃! fate, LinkFate.Reported findings crossroads (.text "junction") "TO_C" fate) ∧
        ∀ fate, ¬ LinkFate.Reported findings crossroads (.text "junction") "X" fate := by
  have registered : crossroads.flow? (.text "junction") = some junction := by decide +kernel
  obtain ⟨-, warnings, -, reports⟩ := linkReports_agree signposted junctionChart
    ⟨.text "junction", .null, .null, .absent⟩ "2020-01-02T03:04:05+00:00"
  obtain ⟨findings, inspected, fates⟩ := reports crossroads (.text "junction") registered
  have there : ∀ id ∈ ["TO_A", "TO_B", "TO_C", "X"], ∃ node, junction.node? id = some node ∧
      node.isLink = (id != "X") := by
    decide +kernel
  obtain ⟨a, aFound, aLink⟩ := there "TO_A" (by decide)
  obtain ⟨b, bFound, bLink⟩ := there "TO_B" (by decide)
  obtain ⟨c, cFound, cLink⟩ := there "TO_C" (by decide)
  obtain ⟨x, xFound, xLink⟩ := there "X" (by decide)
  exact ⟨warnings.trans (by decide +kernel), registered, findings, inspected,
    ((fates _ a aFound).1 aLink).1, ((fates _ b bFound).1 bLink).1, ((fates _ c cFound).1 cLink).1,
    (fates _ x xFound).2 xLink⟩

end Settings

end ChartGuide
