/-
**Traces: the record of one compilation.**

A trace holds a record for each line of the chart and a few stages with named data. An author reads
it to find out why a node or an edge is missing.

* `Trace.lineRecord`, `Stage.report`, `Trace.summary`, `Trace.dump`: the trace as text.
* `Trace.ofCompilation`: the trace of reading a chart into a draft and settling the draft.
-/

import ChartGuide.Draft.Settle
import ChartGuide.Tally
import ChartGuide.Text.Column

namespace ChartGuide

/-- What became of a line. -/
structure LineRecord where
  number : Int
  text : String
  outcome : String
  detail : String := ""
  deriving DecidableEq, Repr

/-- The record as one line of a report. -/
def LineRecord.report (entry : LineRecord) : String :=
  Text.alignRight 4 (toString entry.number) ++ " [" ++ entry.outcome ++ "] " ++ entry.text ++
    if entry.detail.isEmpty then "" else " (" ++ entry.detail ++ ")"

/-- The state of affairs at some point of a compilation. -/
structure Stage where
  name : String
  data : Table String Value
  deriving DecidableEq, Repr

/-- The stage as lines of a report; long values are cut. -/
def Stage.report (stage : Stage) : String :=
  "\n".intercalate <| ("=== Stage: " ++ stage.name ++ " ===") ::
    stage.data.entries.map fun (key, value) =>
      "  " ++ key ++ ": " ++ Text.shortened 100 value.plain

/-- The record of one compilation. -/
structure Trace where
  source : String := ""
  lines : List LineRecord := []
  stages : List Stage := []
  deriving DecidableEq, Repr, Inhabited

namespace Trace

def addLine (trace : Trace) (entry : LineRecord) : Trace :=
  { trace with lines := trace.lines ++ [entry] }

def addStage (trace : Trace) (stage : Stage) : Trace :=
  { trace with stages := trace.stages ++ [stage] }

def stage? (trace : Trace) (name : String) : Option Stage :=
  trace.stages.find? fun stage => stage.name == name

def linesWith (trace : Trace) (outcome : String) : List LineRecord :=
  trace.lines.filter fun entry => entry.outcome == outcome

/-- How many lines had each outcome, the most frequent outcomes first. -/
def outcomeCounts (trace : Trace) : List (String × Nat) :=
  (tally (trace.lines.map LineRecord.outcome)).entries.mergeSort fun first second =>
    second.2 ≤ first.2

/-- A ruled line. -/
def rule (mark : Char) (width : Nat) : String := "".pushn mark width

/-- The stages and the number of lines with each outcome. -/
def summary (trace : Trace) : String :=
  "\n".intercalate <|
    [rule '=' 60, "COMPILE TRACE SUMMARY", rule '=' 60, "",
      "Input: " ++ Text.quoted (Text.leading 100 trace.source) ++ Text.dotsBeyond 100 trace.source,
      "", "Pipeline stages: " ++ toString trace.stages.length] ++
    trace.stages.map (fun stage => "  " ++ stage.name) ++
    ["", "Lines: " ++ toString trace.lines.length] ++
    trace.outcomeCounts.map fun (outcome, count) => "  " ++ outcome ++ ": " ++ toString count

/-- The summary, every stage and every line. -/
def dump (trace : Trace) : String :=
  "\n".intercalate <|
    [trace.summary, "", rule '=' 60, "DETAILED TRACE", rule '=' 60, "", "PIPELINE STAGES:",
      rule '-' 40] ++
    trace.stages.flatMap (fun stage => [stage.report, ""]) ++
    ["LINES:", rule '-' 40] ++ trace.lines.map LineRecord.report

/-! ### The trace of a compilation -/

/-- The record of a reading. -/
def lineRecord (reading : Reading) : LineRecord :=
  ⟨reading.number, reading.text, reading.line.outcome, reading.line.detail⟩

/-- What was collected from the lines. -/
def scanStage (readings : List Reading) (draft : Draft) : Stage where
  name := "scan"
  data := .ofList
    [("nodes", .list (draft.nodes.keys.map .text)),
      ("options", .integer draft.choiceCount),
      ("start_candidate", .ofText? draft.startCandidate),
      ("skipped_lines", .integer (readings.filterMap fun reading => reading.line.fault?).length)]

/-- What was made of the draft. -/
def finalizeStage (settings : Settings) (flow : Flow) : Stage where
  name := "finalize"
  data := .ofList
    [("start_node_id", .ofText? flow.start),
      ("roles", .dict ((tally (flow.nodes.values.map fun node => node.role.name)).mapValues
        fun _ count => .integer count).entries),
      ("inert_links",
        .list ((flow.nodes.values.filter settings.leadsNowhere).map fun node => .text node.id))]

/-- The trace of reading a chart into a draft and settling the draft into a flow. -/
def ofCompilation (settings : Settings) (source : String) (readings : List Reading)
    (draft : Draft) (flow : Flow) : Trace where
  source := source
  lines := readings.map lineRecord
  stages := [scanStage readings draft, finalizeStage settings flow]

end Trace

end ChartGuide
