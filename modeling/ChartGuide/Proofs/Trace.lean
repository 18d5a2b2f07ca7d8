/-
**A trace tells the truth about the flow that it was recorded for.**

The records of a trace are made line by line, before labels are settled and equal choices are
dropped. They still say what the flow holds, in both directions: no edge and no id is lost on the
way, and none is made up. A record names the ends of an edge in one text; since the ids of a chart
hold no blanks, the text can be read in one way only.

The stages count what there is: the tally of the roles lists each role once with the number of its
nodes, and settling a draft only drops choices.

* `entries_tally`: a tally lists what occurs, with how often it does.
* `Spelled.eq_of_arrow`: the text of an edge gives its ends away.
* `Settings.exists_declares_iff`, `Settings.exists_draws_iff`: the records of accepted lines.
* `Reading.forall₂_pointsAt`: the findings about lines point at the records of skipped lines.
* `Workbench.check_text`: a check finds what the lines of the chart say, and leaves the workbench as
  it was.
* `Draft.length_edges_settle_le`: settling adds no choices.
* `Workbench.compileTraced_truthful`: everything a trace promises, for every chart.
-/

import ChartGuide.Proofs.Draft.SkippedLines
import ChartGuide.Proofs.Flow.WellFormed
import ChartGuide.Workbench
import Mathlib.Algebra.Order.BigOperators.Group.List
import Mathlib.Algebra.Order.Group.Nat

namespace ChartGuide

/-! ### Tallies -/

section Tally

variable {κ : Type} [DecidableEq κ]

theorem tally_append_singleton (items : List κ) (item : κ) :
    tally (items ++ [item]) = (tally items).upsert item fun count => count.getD 0 + 1 := by
  unfold tally
  rw [List.foldl_append]
  rfl

/-- A tally lists what occurs in the order of first occurrence. -/
theorem keys_tally (items : List κ) : (tally items).keys = items.eraseDups := by
  induction items using List.reverseRecOn with
  | nil => rfl
  | append_singleton items item ih =>
    rw [tally_append_singleton, Table.keys_upsert, ih, eraseDups_append_singleton]
    simp only [List.mem_eraseDups]

/-- What occurs is counted. -/
theorem get?_tally (items : List κ) (item : κ) :
    (tally items).get? item = if item ∈ items then some (items.count item) else none := by
  induction items using List.reverseRecOn with
  | nil => rfl
  | append_singleton items last ih =>
    rw [tally_append_singleton, Table.get?_upsert, List.count_append]
    by_cases here : item = last
    · subst here
      by_cases known : item ∈ items
      · simp [ih, known]
      · simp [ih, known, List.count_eq_zero_of_not_mem known]
    · have apart : ¬ last = item := fun same => here same.symm
      simp [ih, here, apart]

/-- A tally lists what occurs, each thing once, with how often it does. -/
theorem entries_tally (items : List κ) :
    (tally items).entries = items.eraseDups.map fun item => (item, items.count item) := by
  rw [← keys_tally]
  refine (tally items).entries_eq_map_keys (fun item => items.count item) ?_
  intro item count found
  rw [get?_tally] at found
  split at found
  · exact (Option.some.inj found).symm
  · cases found

end Tally

/-! ### The ends of an edge, read off its text -/

theorem splitOn_arrow (source target : String) :
    (source ++ " -> " ++ target).toList.splitOn ' ' =
      source.toList.splitOn ' ' ++ ['-', '>'] :: target.toList.splitOn ' ' := by
  have parts : (source ++ " -> " ++ target).toList =
      source.toList ++ ' ' :: (['-', '>'] ++ ' ' :: target.toList) := by
    simp
  have arrow : ['-', '>'].splitOn ' ' = [['-', '>']] := by decide
  rw [parts, List.splitOn_append_cons_self, List.splitOn_append_cons_self, arrow]
  rfl

namespace Spelled

theorem splitOn_blank {id : String} (spelled : Spelled id) :
    id.toList.splitOn ' ' = [id.toList] :=
  List.splitOn_eq_singleton fun member =>
    absurd (Lexeme.isBlank_of_isIdentChar (spelled.chars ' ' member)) (by decide)

/-- **The text of an edge gives its ends away**, whatever other ends one may try. -/
theorem eq_of_arrow {source target : String} (sourceSpelled : Spelled source)
    (targetSpelled : Spelled target) {other next : String}
    (same : source ++ " -> " ++ target = other ++ " -> " ++ next) :
    source = other ∧ target = next := by
  have pieces := congrArg (fun text : String => text.toList.splitOn ' ') same
  simp only [splitOn_arrow, sourceSpelled.splitOn_blank, targetSpelled.splitOn_blank] at pieces
  obtain ⟨first, others, left⟩ := List.exists_cons_of_ne_nil (List.splitOn_ne_nil ' ' other.toList)
  obtain ⟨last, rest, right⟩ := List.exists_cons_of_ne_nil (List.splitOn_ne_nil ' ' next.toList)
  rw [left, right] at pieces
  -- Three pieces on one side leave one piece for each end on the other.
  have few : others = [] ∧ rest = [] := by
    have count := congrArg List.length pieces
    simp only [List.length_append, List.length_cons, List.length_nil] at count
    exact ⟨List.length_eq_zero_iff.mp (by omega), List.length_eq_zero_iff.mp (by omega)⟩
  obtain ⟨rfl, rfl⟩ := few
  simp only [List.cons_append, List.nil_append, List.cons.injEq, and_true, true_and] at pieces
  obtain ⟨sourceEq, targetEq⟩ := pieces
  have whole : [' '].intercalate (other.toList.splitOn ' ') = other.toList :=
    List.intercalate_splitOn ' '
  have nextWhole : [' '].intercalate (next.toList.splitOn ' ') = next.toList :=
    List.intercalate_splitOn ' '
  rw [left, List.intercalate_singleton] at whole
  rw [right, List.intercalate_singleton] at nextWhole
  exact ⟨String.toList_inj.mp (sourceEq.trans whole),
    String.toList_inj.mp (targetEq.trans nextWhole)⟩

end Spelled

/-- The text of an edge of a chart gives its ends away. -/
theorem Statement.eq_of_arrow {chart source target other next : String} {label : Option String}
    (drawn : (source, label, target) ∈ (ofSource chart).flatMap edges)
    (same : source ++ " -> " ++ target = other ++ " -> " ++ next) :
    source = other ∧ target = next := by
  obtain ⟨sourceMember, targetMember⟩ := mem_flatMap_mentions drawn
  exact (spelled_of_mem_mentions sourceMember).eq_of_arrow (spelled_of_mem_mentions targetMember)
    same

/-! ### Records of accepted lines -/

/-- A chart mentions what it declares on a line of its own, and the ends of its edges. -/
theorem Statement.mem_flatMap_mentions_iff (statements : List Statement) (id : String) :
    id ∈ statements.flatMap mentions ↔ (∃ face, .declaration id face ∈ statements) ∨
      ∃ other, (∃ label, (id, label, other) ∈ statements.flatMap edges) ∨
        ∃ label, (other, label, id) ∈ statements.flatMap edges := by
  constructor
  · intro mentioned
    obtain ⟨statement, member, here⟩ := List.mem_flatMap.mp mentioned
    cases statement with
    | declaration declared face =>
      obtain rfl := List.mem_singleton.mp here
      exact Or.inl ⟨face, member⟩
    | edge source label target =>
      have drawn : (source.id, label, target.id) ∈ statements.flatMap edges :=
        List.mem_flatMap.mpr ⟨_, member, List.mem_singleton_self _⟩
      rcases List.mem_cons.mp here with rfl | last
      · exact Or.inr ⟨target.id, Or.inl ⟨label, drawn⟩⟩
      · obtain rfl := List.mem_singleton.mp last
        exact Or.inr ⟨source.id, Or.inr ⟨label, drawn⟩⟩
  · rintro (⟨face, member⟩ | ⟨other, ⟨label, forth⟩ | ⟨label, back⟩⟩)
    · exact List.mem_flatMap.mpr ⟨_, member, List.mem_singleton_self id⟩
    · exact (mem_flatMap_mentions forth).1
    · exact (mem_flatMap_mentions back).2

/-- The record of a line that declares a node. -/
structure LineRecord.Declares (entry : LineRecord) (id : String) : Prop where
  outcome : entry.outcome = "declaration"
  detail : entry.detail = id

/-- The record of a line that draws an edge. -/
structure LineRecord.Draws (entry : LineRecord) (source target : String) : Prop where
  outcome : entry.outcome = "edge"
  detail : entry.detail = source ++ " -> " ++ target

namespace Settings

variable (settings : Settings) (source : String) (prior : Prior) (now : String)

/-- An accepted line of a trace reports a statement of the chart. -/
theorem exists_statement_of_mem_lines {entry : LineRecord}
    (member : entry ∈ (settings.compileTrace source prior now).lines)
    (accepted : entry.outcome = "declaration" ∨ entry.outcome = "edge") :
    ∃ statement ∈ Statement.ofSource source, entry.outcome = (Line.statement statement).outcome ∧
      entry.detail = (Line.statement statement).detail := by
  obtain ⟨reading, readingMember, rfl⟩ := List.mem_map.mp member
  obtain ⟨statement, found⟩ :=
    Option.isSome_iff_exists.mp (reading.line.isSome_accepted?_iff.mpr accepted)
  have line := Line.accepted?_eq_some_iff.mp found
  refine ⟨statement, List.mem_filterMap.mpr ⟨reading, readingMember, found⟩, ?_⟩
  rw [← line]
  exact ⟨rfl, rfl⟩

/-- Each statement of the chart is reported. -/
theorem exists_mem_lines_of_statement {statement : Statement}
    (member : statement ∈ Statement.ofSource source) :
    ∃ entry ∈ (settings.compileTrace source prior now).lines,
      entry.outcome = (Line.statement statement).outcome ∧
        entry.detail = (Line.statement statement).detail := by
  obtain ⟨reading, readingMember, found⟩ := List.mem_filterMap.mp member
  refine ⟨Trace.lineRecord reading, List.mem_map_of_mem readingMember, ?_⟩
  rw [← Line.accepted?_eq_some_iff.mp found]
  exact ⟨rfl, rfl⟩

/-- The declarations on record are those of the chart. -/
theorem exists_declares_iff (id : String) :
    (∃ entry ∈ (settings.compileTrace source prior now).lines, entry.Declares id) ↔
      ∃ face, .declaration id face ∈ Statement.ofSource source := by
  constructor
  · rintro ⟨entry, recorded, outcome, detail⟩
    obtain ⟨statement, member, sameOutcome, sameDetail⟩ :=
      settings.exists_statement_of_mem_lines source prior now recorded (Or.inl outcome)
    rw [outcome] at sameOutcome
    rw [detail] at sameDetail
    cases statement with
    | declaration declared face =>
      obtain rfl : id = declared := sameDetail
      exact ⟨face, member⟩
    | edge first label last =>
      have same : "declaration" = "edge" := sameOutcome
      exact absurd same (by decide)
  · rintro ⟨face, member⟩
    obtain ⟨entry, recorded, outcome, detail⟩ :=
      settings.exists_mem_lines_of_statement source prior now member
    exact ⟨entry, recorded, outcome, detail⟩

/-- The edges on record are those of the chart. -/
theorem exists_draws_iff (id target : String) :
    (∃ entry ∈ (settings.compileTrace source prior now).lines, entry.Draws id target) ↔
      ∃ label, (id, label, target) ∈ (Statement.ofSource source).flatMap Statement.edges := by
  constructor
  · rintro ⟨entry, recorded, outcome, detail⟩
    obtain ⟨statement, member, sameOutcome, sameDetail⟩ :=
      settings.exists_statement_of_mem_lines source prior now recorded (Or.inr outcome)
    rw [outcome] at sameOutcome
    rw [detail] at sameDetail
    cases statement with
    | declaration declared face =>
      have same : "edge" = "declaration" := sameOutcome
      exact absurd same (by decide)
    | edge first label last =>
      have drawn : (first.id, label, last.id) ∈
          (Statement.ofSource source).flatMap Statement.edges :=
        List.mem_flatMap.mpr ⟨_, member, List.mem_singleton_self _⟩
      obtain ⟨rfl, rfl⟩ := Statement.eq_of_arrow drawn sameDetail.symm
      exact ⟨label, drawn⟩
  · rintro ⟨label, drawn⟩
    obtain ⟨statement, member, here⟩ := List.mem_flatMap.mp drawn
    obtain ⟨entry, recorded, outcome, detail⟩ :=
      settings.exists_mem_lines_of_statement source prior now member
    cases statement with
    | declaration declared face => exact absurd here List.not_mem_nil
    | edge first label last =>
      obtain ⟨rfl, rfl, rfl⟩ := by simpa [Statement.edges] using here
      exact ⟨entry, recorded, outcome, detail⟩

end Settings

/-! ### Records of skipped lines -/

/-- The finding about a line that is not understood. -/
def Reading.finding? (reading : Reading) : Option Finding :=
  reading.line.fault?.map fun fault =>
    .unrecognizedLine reading.number fault.message reading.text

/-- The findings about the lines of a chart, read off the lines. -/
def lineFindings (source : String) : List Finding :=
  (Reading.ofSource source).filterMap Reading.finding?

/-- The finding points at the line of the record and says of it what the record says. -/
structure Finding.PointsAt (finding : Finding) (entry : LineRecord) : Prop where
  code : finding.code = "unrecognized_line"
  message : finding.message =
    "Line " ++ toString entry.number ++ " ignored (" ++ entry.detail ++ "): " ++ entry.text
  line : finding.lineNumber? = some entry.number
  noNode : finding.nodeId? = none
  severity : finding.severity = "warning"

/-- The findings about lines are those about the records of the lines that are not understood. -/
theorem Reading.filterMap_finding? (readings : List Reading) :
    readings.filterMap finding? = ((readings.map Trace.lineRecord).filter fun entry =>
      entry.outcome == "unrecognized").map LineRecord.finding := by
  induction readings with
  | nil => rfl
  | cons reading rest ih =>
    obtain ⟨number, text, line⟩ := reading
    cases line with
    | unrecognized fault => exact congrArg (List.cons _) ih
    | statement statement => cases statement <;> exact ih
    | _ => exact ih

/-- The findings about lines point at the records of the lines that are not understood, in order. -/
theorem Reading.forall₂_pointsAt (readings : List Reading) :
    List.Forall₂ Finding.PointsAt (readings.filterMap finding?)
      ((readings.map Trace.lineRecord).filter fun entry => entry.outcome == "unrecognized") := by
  rw [filterMap_finding?, List.forall₂_map_left_iff, List.forall₂_same]
  exact fun entry _ => ⟨rfl, rfl, rfl, rfl, rfl⟩

/-- As many lines are reported as not understood as are skipped. -/
theorem Reading.length_skipped (readings : List Reading) :
    (readings.filterMap fun reading => reading.line.fault?).length =
      ((readings.map Trace.lineRecord).filter fun entry =>
        entry.outcome == "unrecognized").length := by
  have found : (readings.filterMap finding?).length =
      (readings.filterMap fun reading => reading.line.fault?).length := by
    rw [List.length_filterMap_eq_countP, List.length_filterMap_eq_countP]
    congr 1
    funext reading
    exact Option.isSome_map
  rw [← found, filterMap_finding?, List.length_map]

/-- The lines of a trace are numbered in increasing order. -/
theorem Settings.pairwise_numbers (settings : Settings) (source : String) (prior : Prior)
    (now : String) :
    ((settings.compileTrace source prior now).lines.map LineRecord.number).Pairwise (· < ·) := by
  have numbers : (settings.compileTrace source prior now).lines.map LineRecord.number =
      (List.range' 1 (linesOf source).length).map Int.ofNat := by
    rw [lines_compileTrace, List.map_map, ← List.zipIdx_map_snd, List.map_map]
    rfl
  rw [numbers]
  exact List.pairwise_map.mpr (List.Pairwise.imp Int.ofNat_lt.mpr List.pairwise_lt_range')

/-! ### Counting choices -/

/-- Settling a draft adds no choices. -/
theorem Draft.length_edges_settle_le (draft : Draft) (settings : Settings) (source : String)
    (prior : Prior) (now : String) :
    (draft.settle settings source prior now).edges.length ≤ draft.choiceCount := by
  have edges : (draft.settle settings source prior now).edges.length =
      (draft.nodes.entries.map fun entry => (draft.settledChoices entry.2).length).sum := by
    show ((draft.nodes.entries.map _).flatMap _).length = _
    rw [List.length_flatMap, List.map_map]
    refine congrArg List.sum (List.map_congr_left fun entry _ => ?_)
    exact List.length_map ..
  have choices : draft.choiceCount =
      (draft.nodes.entries.map fun entry => entry.2.choices.length).sum := by
    unfold choiceCount Table.values
    rw [List.length_flatMap, List.map_map]
    rfl
  rw [edges, choices]
  refine List.sum_le_sum fun entry _ => ?_
  exact (Choice.length_distinct_le _).trans (List.length_map _).le

/-! ### The promises of a trace -/

/-- What a stage of a trace notes under a name. -/
def Trace.datum? (trace : Trace) (stage name : String) : Option Value :=
  (trace.stage? stage).bind fun found => found.data.get? name

/-- The names of the roles that the nodes of a flow play, node by node. -/
def Flow.roleNames (flow : Flow) : List String := flow.nodes.values.map fun node => node.role.name

/-- What a trace promises about the flow of a chart. -/
structure Trace.Truthful (trace : Trace) (source : String) (flow : Flow) : Prop where
  /-- Each line has a record with its number and its trimmed text. -/
  lines : trace.lines.map (fun entry => (entry.number, entry.text)) =
    ((linesOf source).zipIdx 1).map fun line => ((line.2 : Int), String.ofList (Text.trim line.1))
  /-- The edges of the flow are those on record. -/
  edges : ∀ id target, target ∈ flow.successors id ↔ ∃ entry ∈ trace.lines, entry.Draws id target
  /-- The nodes of the flow are declared on record, or they are ends of edges on record. -/
  ids : ∀ id, flow.contains id = true ↔
    ∃ entry ∈ trace.lines, entry.Declares id ∨ ∃ other, entry.Draws id other ∨ entry.Draws other id
  scannedNodes : trace.datum? "scan" "nodes" = some (.list (flow.nodes.keys.map .text))
  scannedStart : trace.datum? "scan" "start_candidate" = some (.ofText? flow.start)
  /-- As many choices were found as the flow has, or more. -/
  scannedChoices : ∃ found : Nat,
    trace.datum? "scan" "options" = some (.integer found) ∧ flow.edges.length ≤ found
  skippedLines : trace.datum? "scan" "skipped_lines" =
    some (.integer (trace.linesWith "unrecognized").length)
  /-- The skipped lines are found when the chart is checked, with the same numbers. -/
  findings : List.Forall₂ Finding.PointsAt (lineFindings source) (trace.linesWith "unrecognized")
  increasing : ((trace.linesWith "unrecognized").map LineRecord.number).Pairwise (· < ·)
  /-- The roles are counted: each one that occurs is noted once, with the number of its nodes. -/
  roles : trace.datum? "finalize" "roles" =
    some (.dict (flow.roleNames.eraseDups.map fun name =>
      (name, .integer (flow.roleNames.count name))))

/-- The trace of a compilation keeps its promises. -/
theorem Settings.truthful_compileTrace (settings : Settings) (source : String) (prior : Prior)
    (now : String) :
    (settings.compileTrace source prior now).Truthful source
      (settings.compile source prior now) where
  lines := by
    rw [lines_compileTrace, List.map_map]
    rfl
  edges id target := by
    rw [mem_successors_compile_iff, exists_draws_iff]
  ids id := by
    rw [contains_compile_iff, Statement.mem_flatMap_mentions_iff]
    simp only [← settings.exists_declares_iff source prior now,
      ← settings.exists_draws_iff source prior now]
    constructor
    · rintro (⟨entry, recorded, declares⟩ |
        ⟨other, ⟨entry, recorded, forth⟩ | ⟨entry, recorded, back⟩⟩)
      · exact ⟨entry, recorded, Or.inl declares⟩
      · exact ⟨entry, recorded, Or.inr ⟨other, Or.inl forth⟩⟩
      · exact ⟨entry, recorded, Or.inr ⟨other, Or.inr back⟩⟩
    · rintro ⟨entry, recorded, declares | ⟨other, forth | back⟩⟩
      · exact Or.inl ⟨entry, recorded, declares⟩
      · exact Or.inr ⟨other, Or.inl ⟨entry, recorded, forth⟩⟩
      · exact Or.inr ⟨other, Or.inr ⟨entry, recorded, back⟩⟩
  scannedNodes := by
    have keys : (settings.compile source prior now).nodes.keys =
        (Draft.ofSource source).nodes.keys := (Draft.ofSource source).nodes.keys_mapValues _
    rw [keys]
    rfl
  scannedStart := by
    have start : (settings.compile source prior now).start =
        (Draft.ofSource source).startCandidate := (Draft.holds_ofSource source).start?_eq
    rw [start]
    rfl
  scannedChoices :=
    ⟨(Draft.ofSource source).choiceCount, rfl, Draft.length_edges_settle_le ..⟩
  skippedLines := by
    have skipped : ((Reading.ofSource source).filterMap fun reading =>
        reading.line.fault?).length =
          ((settings.compileTrace source prior now).linesWith "unrecognized").length :=
      Reading.length_skipped _
    rw [← skipped]
    rfl
  findings := Reading.forall₂_pointsAt (Reading.ofSource source)
  increasing := by
    have lines := settings.pairwise_numbers source prior now
    exact lines.sublist (List.filter_sublist.map _)
  roles := by
    show some (Value.dict ((tally _).entries.map _)) = _
    rw [entries_tally, List.map_map]
    rfl

/-- A check compiles the chart for its trace, and finds what the lines say. -/
theorem Workbench.check_text (bench : Workbench) (source now : String) :
    bench.check (.text source) now = (.ok (lineFindings source), bench) := by
  rw [lineFindings, Reading.filterMap_finding?]
  rfl

/-- **A traced compilation hands over a flow and a trace that tells the truth about it**, for every
chart, whatever the settings and the earlier flow are. The workbench stays as it was, and any other
one, with whatever settings, finds in a check of the chart the lines that the trace says were
skipped. -/
theorem Workbench.compileTraced_truthful (bench : Workbench) (source : String) (prior : Prior)
    (now : String) :
    ∃ flow trace, bench.compileTraced (.text source) prior now = (.ok (flow, trace), bench) ∧
      (Draft.ofSource source).finalize bench.settings source prior now = .ok flow ∧
      trace.Truthful source flow ∧
      ∀ (other : Workbench) (later : String),
        other.check (.text source) later = (.ok (lineFindings source), other) := by
  have leads : ∀ edge ∈ (Statement.ofSource source).flatMap Statement.edges,
      edge.2.2 ∈ (Statement.ofSource source).flatMap Statement.mentions :=
    fun edge member => (Statement.mem_flatMap_mentions member).2
  exact ⟨_, _, rfl,
    (Draft.holds_ofSource source).finalize_eq_ok bench.settings source prior now leads,
    bench.settings.truthful_compileTrace source prior now,
    fun other later => other.check_text source later⟩

end ChartGuide
