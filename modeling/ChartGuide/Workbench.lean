/-
**A place to compile charts while editing them.**

A workbench holds settings and the trace of the last compilation that asked for it. A compilation
that does not ask drops the trace. Refused charts, traced compilations that hand their trace over,
and line checks, which go through such a compilation, leave it alone.
-/

import ChartGuide.Compilation
import ChartGuide.Finding

namespace ChartGuide

/-- Settings and the trace kept from the last compilation, if it asked for it. -/
structure Workbench where
  settings : Settings
  kept : Option Trace := none

namespace Workbench

/-- Compiles a chart and hands its trace over with the flow. -/
def compileTraced (bench : Workbench) (source : Value) (prior : Prior) (now : String) :
    Except SourceFault (Flow × Trace) × Workbench :=
  ((sourceText source).map fun text =>
    (bench.settings.compile text prior now, bench.settings.compileTrace text prior now), bench)

/-- Compiles a chart, and keeps its trace if asked to. -/
def compile (bench : Workbench) (source : Value) (prior : Prior) (now : String) (keep : Bool) :
    Except SourceFault Flow × Workbench :=
  if keep then
    match bench.compileTraced source prior now with
    | (.error fault, after) => (.error fault, after)
    | (.ok (flow, trace), after) => (.ok flow, { after with kept := some trace })
  else
    match sourceText source with
    | .error fault => (.error fault, bench)
    | .ok text => (.ok (bench.settings.compile text prior now), { bench with kept := none })

/-- Looks for lines of a chart that are not understood, in the trace of its compilation. -/
def check (bench : Workbench) (source : Value) (now : String) :
    Except SourceFault (List Finding) × Workbench :=
  let (outcome, after) := bench.compileTraced source .absent now
  (outcome.map fun (_, trace) => trace.findings, after)

end Workbench

end ChartGuide
