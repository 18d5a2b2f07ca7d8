/-
**One workbench and many calls.**

A chart can be compiled with a trace written along line by line, or without one. The trace is only
ever appended to: what is read into the draft never depends on it, and what it ends with is the
trace of the compilation. So a flow does not tell whether a trace was asked for.

A workbench keeps one thing from one call to the next, the trace of the last accepted compilation,
and looks at it in no call. So no call leaks into a later one.

* `Scan`, `Settings.record`: compiling a chart line by line with a trace that may be written along.
* `Settings.record_eq_ok`: the flow, and the trace that it began with and what was appended.
* `Workbench.Call`, `Workbench.after`: a workbench after calls.
* `Workbench.call_eq`, `Workbench.kept_after`: what one call does, and what is kept after many.
* `Workbench.call_after`: each call answers like that of a fresh workbench.
-/

import ChartGuide.Proofs.Flow.WellFormed
import ChartGuide.Workbench

namespace ChartGuide

/-! ### Compiling line by line -/

/-- A chart while it is read: the draft, the number of skipped lines, and the trace, if one is
written. -/
structure Scan where
  draft : Draft := .empty
  skipped : Nat := 0
  trace : Option Trace := none

namespace Scan

/-- One more line. -/
def read (scan : Scan) (reading : Reading) : Scan where
  draft := scan.draft.applyLine reading.line
  skipped := if reading.line.fault?.isSome then scan.skipped + 1 else scan.skipped
  trace := scan.trace.map fun trace => trace.addLine (Trace.lineRecord reading)

/-- All lines of a chart. -/
def ofSource (source : String) (trace : Option Trace) : Scan :=
  (Reading.ofSource source).foldl read { trace := trace }

/-- What was collected, at the end of the chart. -/
def stage (scan : Scan) : Stage where
  name := "scan"
  data := .ofList
    [("nodes", .list (scan.draft.nodes.keys.map .text)),
      ("options", .integer scan.draft.choiceCount),
      ("start_candidate", .ofText? scan.draft.startCandidate),
      ("skipped_lines", .integer scan.skipped)]

/-- What readings add to the draft, to the number of skipped lines and to the trace. None of the
three depends on the others. -/
theorem foldl_read (readings : List Reading) (scan : Scan) :
    readings.foldl read scan =
      { draft := readings.foldl (fun draft reading => draft.applyLine reading.line) scan.draft
        skipped := scan.skipped + (readings.filterMap fun reading => reading.line.fault?).length
        trace := scan.trace.map fun trace =>
          { trace with lines := trace.lines ++ readings.map Trace.lineRecord } } := by
  induction readings generalizing scan with
  | nil =>
    obtain ⟨draft, skipped, trace⟩ := scan
    cases trace <;> simp
  | cons reading rest ih =>
    rw [List.foldl_cons, ih]
    obtain ⟨draft, skipped, trace⟩ := scan
    congr 1
    · cases fault : reading.line.fault? with
      | none => simp [read, fault]
      | some reason => simp [read, fault, Nat.add_assoc, Nat.add_comm 1]
    · cases trace <;> simp [read, Trace.addLine]

/-- What is collected is what the trace of a compilation notes. -/
theorem stage_ofSource (source : String) (trace : Option Trace) :
    (ofSource source trace).stage =
      Trace.scanStage (Reading.ofSource source) (Draft.ofSource source) := by
  unfold ofSource
  rw [foldl_read]
  simp only [stage, Nat.zero_add]
  rfl

end Scan

namespace Settings

/-- The flow of a chart that is compiled line by line, and the given trace after that. -/
def record (settings : Settings) (source : String) (prior : Prior) (now : String)
    (trace : Option Trace) : Except MissingNode (Flow × Option Trace) :=
  let scan := Scan.ofSource source trace
  let scanned := scan.trace.map fun trace => trace.addStage scan.stage
  (scan.draft.finalize settings source prior now).map fun flow =>
    (flow, scanned.map fun trace => trace.addStage (Trace.finalizeStage settings flow))

/-- **A trace that is written along changes nothing**, and it gets exactly what the trace of the
compilation consists of. -/
theorem record_eq_ok (settings : Settings) (source : String) (prior : Prior) (now : String)
    (trace : Option Trace) :
    settings.record source prior now trace =
      .ok (settings.compile source prior now, trace.map fun before =>
        { before with
          lines := before.lines ++ (settings.compileTrace source prior now).lines
          stages := before.stages ++ (settings.compileTrace source prior now).stages }) := by
  have draft : (Scan.ofSource source trace).draft = Draft.ofSource source := by
    unfold Scan.ofSource
    rw [Scan.foldl_read]
    rfl
  have written : (Scan.ofSource source trace).trace = trace.map fun before =>
      { before with lines := before.lines ++ (Reading.ofSource source).map Trace.lineRecord } := by
    unfold Scan.ofSource
    rw [Scan.foldl_read]
  unfold record
  simp only [draft, written, Draft.finalize_ofSource, Scan.stage_ofSource]
  cases trace with
  | none => rfl
  | some before =>
    show Except.ok (_, some ((Trace.addStage (Trace.addStage _ _) _))) = _
    simp only [Trace.addStage, List.append_assoc]
    rfl

end Settings

/-! ### Calls -/

namespace Workbench

/-- Every chart is compiled, and its trace is kept or not. -/
theorem compile_text (bench : Workbench) (source : String) (prior : Prior) (now : String)
    (keep : Bool) :
    bench.compile (.text source) prior now keep =
      (.ok (bench.settings.compile source prior now), { bench with
        kept := if keep then some (bench.settings.compileTrace source prior now) else none }) := by
  cases keep <;> rfl

/-- What can be asked of a workbench: to compile a chart and keep its trace or not, to compile it
and hand the trace over, or to check its lines. -/
inductive Call where
  | compile (source : Value) (prior : Prior) (now : String) (keep : Bool)
  | compileTraced (source : Value) (prior : Prior) (now : String)
  | check (source : Value) (now : String)

/-- What an accepted call answers. -/
inductive Reply where
  | compiled (flow : Flow)
  | traced (flow : Flow) (trace : Trace)
  | checked (findings : List Finding)

def call (bench : Workbench) : Call → Except SourceFault Reply × Workbench
  | .compile source prior now keep =>
    let (outcome, after) := bench.compile source prior now keep
    (outcome.map .compiled, after)
  | .compileTraced source prior now =>
    let (outcome, after) := bench.compileTraced source prior now
    (outcome.map fun (flow, trace) => .traced flow trace, after)
  | .check source now =>
    let (outcome, after) := bench.check source now
    (outcome.map .checked, after)

/-- The workbench after calls, the first of them at a fresh one. -/
def after (settings : Settings) (calls : List Call) : Workbench :=
  calls.foldl (fun bench call => (bench.call call).2) { settings := settings }

/-- What an accepted compilation leaves behind: its trace if it keeps it, and else none. Refused
charts and the other calls leave nothing of their own. -/
def Call.leaves? (settings : Settings) : Call → Option (Option Trace)
  | .compile (.text source) prior now keep =>
    some (if keep then some (settings.compileTrace source prior now) else none)
  | _ => none

/-- **One call.** It does not look at the trace that is kept, and it leaves behind what it leaves of
its own, or what was there. -/
theorem call_eq (bench : Workbench) (call : Call) :
    bench.call call = ((({ settings := bench.settings } : Workbench).call call).1,
      { bench with kept := (call.leaves? bench.settings).getD bench.kept }) := by
  cases call with
  | compile source prior now keep => cases keep <;> cases source <;> rfl
  | compileTraced source prior now => rfl
  | check source now => rfl

theorem settings_call (bench : Workbench) (call : Call) :
    (bench.call call).2.settings = bench.settings := by
  rw [call_eq]

theorem kept_call (bench : Workbench) (call : Call) :
    (bench.call call).2.kept = (call.leaves? bench.settings).getD bench.kept := by
  rw [call_eq]

/-- Calls leave behind what the last of them leaves that leaves anything. -/
theorem kept_foldl_call (calls : List Call) (bench : Workbench) :
    (calls.foldl (fun bench call => (bench.call call).2) bench).kept =
      ((calls.filterMap (Call.leaves? bench.settings)).getLast?).getD bench.kept := by
  induction calls generalizing bench with
  | nil => rfl
  | cons call rest ih =>
    rw [List.foldl_cons, ih, bench.settings_call, bench.kept_call]
    cases left : call.leaves? bench.settings with
    | none => rw [List.filterMap_cons_none left, Option.getD_none]
    | some trace =>
      rw [List.filterMap_cons_some left, List.getLast?_cons, Option.getD_some, Option.getD_some]

theorem settings_after (settings : Settings) (calls : List Call) :
    (after settings calls).settings = settings :=
  List.foldlRecOn calls _ (motive := fun bench : Workbench => bench.settings = settings) rfl
    fun bench same call _ => (settings_call bench call).trans same

/-- **What is kept after calls** is what the last accepted compilation left. -/
theorem kept_after (settings : Settings) (calls : List Call) :
    (after settings calls).kept =
      (calls.filterMap (Call.leaves? settings)).getLast?.join := by
  rw [after, kept_foldl_call]
  cases (calls.filterMap (Call.leaves? settings)).getLast? <;> rfl

/-- **Calls do not leak into each other.** After any calls, refused ones among them, every call
answers as on a fresh workbench. Compiling gives the same flow or the same refusal whether the
trace is kept, handed over or not asked for, and line by line the trace that is written along is the
one that is kept or handed over. What is kept is the trace of the last accepted compilation, if that
one asked for it, and nothing if not: compilations that hand their trace over, checks and refused
calls change nothing. -/
theorem call_after (settings : Settings) (calls : List Call) :
    let fresh : Workbench := { settings := settings }
    let bench := after settings calls
    bench.kept = (calls.filterMap (Call.leaves? settings)).getLast?.join ∧
      (∀ call, (bench.call call).1 = (fresh.call call).1) ∧
      (∀ call, call.leaves? settings = none → (bench.call call).2 = bench) ∧
      (∀ source prior now keep,
        (bench.compile source prior now keep).1 = (fresh.compile source prior now false).1) ∧
      (∀ source prior now, (bench.compileTraced source prior now).1.map Prod.fst =
        (fresh.compile source prior now false).1) ∧
      ∀ source prior now, ∃ flow trace,
        settings.record source prior now none = .ok (flow, none) ∧
        settings.record source prior now (some { source := source }) = .ok (flow, some trace) ∧
        (∀ keep, bench.compile (.text source) prior now keep =
          (.ok flow, { fresh with kept := if keep then some trace else none })) ∧
        bench.compileTraced (.text source) prior now = (.ok (flow, trace), bench) := by
  intro fresh bench
  have same : bench.settings = settings := settings_after settings calls
  refine ⟨kept_after settings calls, fun call => ?_, fun call leavesNothing => ?_,
    fun source prior now keep => ?_, fun source prior now => ?_, fun source prior now => ?_⟩
  · rw [call_eq, same]
  · have nothing : call.leaves? bench.settings = none := same.symm ▸ leavesNothing
    rw [call_eq, nothing]
    rfl
  · unfold Workbench.compile Workbench.compileTraced
    rw [same]
    cases keep <;> cases sourceText source <;> rfl
  · unfold Workbench.compile Workbench.compileTraced
    rw [same]
    cases sourceText source <;> rfl
  · refine ⟨settings.compile source prior now, settings.compileTrace source prior now,
      settings.record_eq_ok source prior now none,
      settings.record_eq_ok source prior now (some { source := source }), fun keep => ?_, ?_⟩
    · rw [compile_text, same]
    · unfold Workbench.compileTraced
      rw [same]
      rfl

/-- A refused chart, a trace that is handed over and a check leave the kept trace alone. -/
example : ((after .usual
    [.compile (.text "A --> B") {} "" true, .compile .null {} "" false,
      .compileTraced (.text "C") {} "", .check (.text "-->") ""]).kept.map Trace.source) =
        some "A --> B" := by
  decide +kernel

end Workbench

end ChartGuide
