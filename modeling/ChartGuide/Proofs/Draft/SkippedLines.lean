/-
**Lines that are skipped.**

What is recorded of a line is decided by its own trimmed text. A line is blank, a comment, a
directive or not understood as a whole, before anything of it reaches the draft: an edge without a
target does not even declare the source that it shows a shape for. So such lines may be taken out of
a chart, any number of them at once, and the flow keeps its nodes and its start.

* `LineRecord.Faithful`: the record of a line says what its text does.
* `Statement.ofSource_withoutLines`: a chart says the same without its skipped lines.
* `Settings.compile_withoutLines`: and it is compiled to the same nodes.
-/

import ChartGuide.Proofs.Draft.Lines
import Mathlib.Data.List.Basic

namespace ChartGuide

/-- The lines of a chart. -/
def linesOf (source : String) : List (List Char) := source.toList.splitOn '\n'

theorem Statement.ofSource_eq_filterMap_linesOf (source : String) :
    ofSource source = (linesOf source).filterMap ofLine :=
  ofSource_eq_filterMap source

/-- The pieces of a text hold none of the marks that it is split at. -/
theorem Text.not_mem_of_mem_splitOn {mark : Char} {text piece : List Char}
    (member : piece ∈ text.splitOn mark) : mark ∉ piece := by
  rw [List.splitOn_eq_splitOnP] at member
  induction text generalizing piece with
  | nil =>
    rw [List.splitOnP_nil, List.mem_singleton] at member
    rw [member]
    exact List.not_mem_nil
  | cons c rest ih =>
    obtain ⟨first, others, pieces⟩ :=
      List.exists_cons_of_ne_nil (List.splitOnP_ne_nil (fun d => d == mark) rest)
    rw [List.splitOnP_cons_eq_if_modifyHead] at member
    split at member
    · rcases List.mem_cons.mp member with rfl | later
      · exact List.not_mem_nil
      · exact ih later
    · next other =>
      rw [pieces, List.modifyHead_cons] at member
      rw [pieces] at ih
      rcases List.mem_cons.mp member with rfl | later
      · have different : mark ≠ c := fun same => other (by simp [same])
        exact List.not_mem_cons_of_ne_of_not_mem different (ih List.mem_cons_self)
      · exact ih (List.mem_cons_of_mem _ later)

/-- The lines of a chart, with their numbers, are one line each. -/
theorem newline_not_mem_of_mem_zipIdx {source : String} {line : List Char × Nat}
    (member : line ∈ (linesOf source).zipIdx 1) : '\n' ∉ line.1 := by
  have there := List.mem_map_of_mem (f := Prod.fst) member
  rw [List.zipIdx_map_fst] at there
  exact Text.not_mem_of_mem_splitOn there

theorem Statement.ofSource_eq_filterMap_zipIdx (source : String) :
    ofSource source = ((linesOf source).zipIdx 1).filterMap fun line => ofLine line.1 := by
  rw [ofSource_eq_filterMap_linesOf, ← List.zipIdx_map_fst 1 (linesOf source),
    List.filterMap_map, List.zipIdx_map_fst]
  rfl

/-- The chart without the lines of some numbers, which are counted from one. -/
def withoutLines (dropped : Int → Bool) (source : String) : String :=
  chartOf <| (((linesOf source).zipIdx 1).filter fun line => !dropped line.2).map Prod.fst

/-- A line is not accepted exactly when it is reported in one of these four ways. -/
theorem Line.accepted?_eq_none_iff (line : Line) :
    line.accepted? = none ↔
      line.outcome ∈ ["blank", "comment", "directive", "unrecognized"] := by
  cases line with
  | statement found => cases found <;> simp [accepted?, outcome]
  | _ => simp [accepted?, outcome]

/-! ### Records -/

/-- The record says what the text of its line does, read by itself. -/
structure LineRecord.Faithful (entry : LineRecord) : Prop where
  outcome : entry.outcome = (Line.read entry.text.toList).outcome
  detail : entry.detail = (Line.read entry.text.toList).detail

/-- Each line of a chart has a record. -/
theorem Settings.lines_compileTrace (settings : Settings) (source : String) (prior : Prior)
    (now : String) :
    (settings.compileTrace source prior now).lines =
      ((linesOf source).zipIdx 1).map fun line =>
        Trace.lineRecord (Reading.ofLine line.2 line.1) := by
  show (((linesOf source).zipIdx 1).map fun line => Reading.ofLine line.2 line.1).map
    Trace.lineRecord = _
  rw [List.map_map]
  rfl

/-- All records of a trace are faithful. -/
theorem Settings.faithful_of_mem_lines {settings : Settings} {source : String} {prior : Prior}
    {now : String} {entry : LineRecord}
    (member : entry ∈ (settings.compileTrace source prior now).lines) : entry.Faithful := by
  rw [lines_compileTrace] at member
  obtain ⟨line, -, rfl⟩ := List.mem_map.mp member
  constructor
  all_goals simp [Trace.lineRecord, Reading.ofLine]

/-! ### Charts without some of their lines -/

/-- A chart without lines that say nothing says the same. -/
theorem Statement.ofSource_withoutLines {dropped : Int → Bool} {source : String}
    (silent : ∀ line ∈ (linesOf source).zipIdx 1, dropped line.2 = true → ofLine line.1 = none) :
    ofSource (withoutLines dropped source) = ofSource source := by
  have oneLine : ∀ line ∈ (((linesOf source).zipIdx 1).filter fun line => !dropped line.2).map
      Prod.fst, '\n' ∉ line := by
    intro line member
    obtain ⟨entry, kept, rfl⟩ := List.mem_map.mp member
    exact newline_not_mem_of_mem_zipIdx (List.mem_filter.mp kept).1
  rw [withoutLines, ofSource_chartOf oneLine, ofSource_eq_filterMap_zipIdx, List.filterMap_map,
    List.filterMap_filter]
  refine List.filterMap_congr fun line member => ?_
  cases drop : dropped line.2 with
  | true => simp [silent line member drop]
  | false => simp

theorem Flow.SameNodes.trans {first second third : Flow} (left : first.SameNodes second)
    (right : second.SameNodes third) : first.SameNodes third :=
  ⟨left.nodes.trans right.nodes, left.start.trans right.start⟩

/-- The nodes and the start of a flow come from the draft of its chart alone, whatever earlier flow
there is and whenever it is compiled. -/
theorem Settings.sameNodes_compile_later (settings : Settings) (source : String)
    (prior otherPrior : Prior) (now later : String) :
    (settings.compile source prior now).SameNodes (settings.compile source otherPrior later) :=
  ⟨rfl, rfl⟩

/-- **Skipped lines have no effect.** Each line has a record with its trimmed text, and lines with
the same text, of whatever charts, are reported alike. Without any of the lines that are reported as
blank, comment, directive or unrecognized, a chart is compiled to the same nodes and start. -/
theorem Settings.compile_withoutLines (settings : Settings) (source : String) (prior : Prior)
    (now : String) :
    let entries := (settings.compileTrace source prior now).lines
    entries.map (fun entry => (entry.number, entry.text)) =
        ((linesOf source).zipIdx 1).map (fun line =>
          ((line.2 : Int), String.ofList (Text.trim line.1))) ∧
      (∀ (otherSettings : Settings) (otherSource : String) (otherPrior : Prior) (later : String),
        ∀ entry ∈ entries,
        ∀ other ∈ (otherSettings.compileTrace otherSource otherPrior later).lines,
          entry.text = other.text → entry.outcome = other.outcome ∧ entry.detail = other.detail) ∧
      ∀ dropped : Int → Bool,
        (∀ entry ∈ entries, dropped entry.number = true →
          entry.outcome ∈ ["blank", "comment", "directive", "unrecognized"]) →
        ∀ (otherPrior : Prior) (later : String),
          (settings.compile source prior now).SameNodes
            (settings.compile (withoutLines dropped source) otherPrior later) := by
  intro entries
  have recorded : entries = _ := settings.lines_compileTrace source prior now
  refine ⟨?_, ?_, ?_⟩
  · rw [recorded, List.map_map]
    rfl
  · intro otherSettings otherSource otherPrior later entry member other otherMember same
    have faithful := faithful_of_mem_lines member
    have otherFaithful := faithful_of_mem_lines otherMember
    rw [faithful.outcome, faithful.detail, otherFaithful.outcome, otherFaithful.detail, same]
    exact ⟨rfl, rfl⟩
  · intro dropped skipped otherPrior later
    have silent : ∀ line ∈ (linesOf source).zipIdx 1, dropped line.2 = true →
        Statement.ofLine line.1 = none := by
      intro line member drop
      rw [recorded] at skipped
      exact (Line.accepted?_eq_none_iff _).mpr
        (skipped _ (List.mem_map_of_mem member) drop)
    have sameDraft : Draft.ofSource source = Draft.ofSource (withoutLines dropped source) := by
      rw [Draft.ofSource_eq_foldl_apply, Draft.ofSource_eq_foldl_apply,
        Statement.ofSource_withoutLines silent]
    exact (settings.sameNodes_compile sameDraft prior now).trans
      (settings.sameNodes_compile_later _ prior otherPrior now later)

/-- Two lines of seven say something. Of the others the first and the last are edges that show
shapes, but the first has no target and the last has no source. -/
theorem Settings.compile_withoutLines_two_of_seven :
    let source := "A[x] -->\nB(y)\n\n%% note\nB -->|on| C\nstyle B\n--> D[z]"
    let dropped := fun number : Int => number ∉ [2, 5]
    (∀ (settings : Settings) (prior : Prior) (now : String),
      ∀ entry ∈ (settings.compileTrace source prior now).lines, dropped entry.number →
        entry.outcome ∈ ["blank", "comment", "directive", "unrecognized"]) ∧
    ∀ (settings : Settings) (prior otherPrior : Prior) (now later : String),
      (settings.compile source prior now).SameNodes
        (settings.compile "B(y)\nB -->|on| C" otherPrior later) := by
  intro source dropped
  have records : ∀ entry ∈ (Reading.ofSource source).map Trace.lineRecord, dropped entry.number →
      entry.outcome ∈ ["blank", "comment", "directive", "unrecognized"] := by decide +kernel
  have short : withoutLines (fun number => dropped number) source = "B(y)\nB -->|on| C" := by
    decide +kernel
  refine ⟨fun _ _ _ => records, fun settings prior otherPrior now later => ?_⟩
  have same := (settings.compile_withoutLines source prior now).2.2 (fun number => dropped number)
    (fun entry member drop => records entry member (of_decide_eq_true drop)) otherPrior later
  rwa [short] at same

end ChartGuide
