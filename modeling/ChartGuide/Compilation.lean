/-
**Compiling a chart into a flow.**

A chart is read line by line into a draft, and the draft is settled into a flow. Every text
compiles: a line that is not understood is skipped and reported. Settling a draft that was read
from a chart cannot fail, since an edge makes both its nodes.

* `Settings.compile`: the flow of a chart.
* `Settings.compileTrace`, `Settings.compileEvents`: what happened on the way.
* `sourceText`: only a text is a chart.
-/

import ChartGuide.Trace

namespace ChartGuide

/-- Why something is no chart: it is not a text. -/
inductive SourceFault where
  | notText (kind : String)
  deriving DecidableEq, Repr

def SourceFault.message : SourceFault → String
  | notText kind => "flowchart source must be a str, not " ++ kind

/-- The text of a chart; other values are refused. -/
def sourceText : Value → Except SourceFault String
  | .text source => .ok source
  | other => .error (.notText other.kindName)

/-- What reading a chart reports: the skipped lines, and then the size of the draft. -/
def Draft.scanEvents (readings : List Reading) : List Event :=
  let skipped := readings.filterMap fun reading =>
    reading.line.fault?.map fun fault => Event.skippedLine reading.number fault reading.text
  let draft := Draft.ofReadings readings
  skipped ++ [.scanned draft.nodes.size draft.choiceCount skipped.length]

namespace Settings

/-- The flow of a chart, with the identity of an earlier flow. The time `now` is noted where the
earlier flow has none. -/
def compile (settings : Settings) (source : String) (prior : Prior) (now : String) : Flow :=
  (Draft.ofSource source).settle settings source prior now

/-- The trace of compiling a chart. -/
def compileTrace (settings : Settings) (source : String) (prior : Prior) (now : String) : Trace :=
  .ofCompilation settings source (Reading.ofSource source) (Draft.ofSource source)
    (settings.compile source prior now)

/-- What compiling a chart reports. -/
def compileEvents (settings : Settings) (source : String) : List Event :=
  let readings := Reading.ofSource source
  Draft.scanEvents readings ++ (Draft.ofReadings readings).finalizeEvents settings

end Settings

end ChartGuide
