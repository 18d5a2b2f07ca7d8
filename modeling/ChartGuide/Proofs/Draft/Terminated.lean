/-
**Lines that end with a semicolon.**

An author may end lines with semicolons. A semicolon behind a line that says something neither makes
nor spoils a lexeme, and it ends a word as the end of the line does. So the line is read as without
it: as a comment, a directive, a statement or not understood, for the same reason. Two kinds of
lines are different. A semicolon alone is not a blank line, and the end of a block must stand by
itself.

* `Line.isDirective_append`, `Line.read_append_of_idle`: a line with blanks and semicolons behind
  it.
* `Line.read_trim_semicolon`: a line with a semicolon, as it is trimmed and read.
* `terminated`, `linesOf_terminated`: a chart with semicolons behind some of its lines.
* `Settings.compile_terminated`: it is reported on as before and compiled to the same nodes.
-/

import ChartGuide.Proofs.Draft.SkippedLines
import ChartGuide.Proofs.Line.Arrows
import ChartGuide.Proofs.Line.Directives
import ChartGuide.Proofs.Token.Idle

namespace ChartGuide

/-! ### Words -/

/-- A character does not lie in two tables whose intervals are apart. -/
theorem Text.within_eq_false_of_apart {first second : List (Nat × Nat)}
    (apart : ∀ interval ∈ first, ∀ other ∈ second,
      interval.2 < other.1 ∨ other.2 < interval.1) {c : Char}
    (inside : within first c = true) : within second c = false := by
  obtain ⟨interval, member, here⟩ := List.any_eq_true.mp inside
  refine List.any_eq_false.mpr fun other otherMember there => ?_
  simp only [Bool.and_eq_true, decide_eq_true_eq] at here there
  have between := apart interval member other otherMember
  omega

/-- No blank belongs to a word. -/
theorem Text.isWordChar_of_isBlank {c : Char} (blank : isBlank c = true) :
    isWordChar c = false := by
  have apart : ∀ interval ∈ blanks, ∀ other ∈ lettersAndNumbers,
      interval.2 < other.1 ∨ other.2 < interval.1 := by decide +kernel
  have beyond := within_eq_false_of_apart apart blank
  by_cases ascii : c.toNat < 128
  · rw [isWordChar_ascii c ascii]
    refine Bool.eq_false_iff.mpr fun plain => ?_
    rw [Lexeme.isBlank_of_isIdentChar (Lexeme.isIdentChar_of_isPlainChar plain)] at blank
    cases blank
  · rw [isWordChar, if_neg ascii, beyond]

namespace Line

theorem apart_of_mem_directiveWords {word : List Char} (member : word ∈ directiveWords) :
    Apart word := by
  intro c inWord
  have plain := (plain_of_mem_directiveWords word member).2 c inWord
  refine ⟨Lexeme.isBlank_of_isIdentChar (Lexeme.isIdentChar_of_isPlainChar plain), ?_⟩
  rintro rfl
  exact absurd plain (by decide)

section Append

variable {tail : List Char} (idle : Idle tail)
include idle

/-- A word ends in front of blanks and semicolons as at the end of a line. -/
theorem endsWord_append (after : List Char) : endsWord (after ++ tail) = endsWord after := by
  cases after with
  | cons c rest => rfl
  | nil =>
    cases tail with
    | nil => rfl
    | cons c rest =>
      have foreign : Text.isWordChar c = false := by
        rcases idle c List.mem_cons_self with blank | rfl
        · exact Text.isWordChar_of_isBlank blank
        · decide
      simp [endsWord, foreign]

/-- Directives stay directives, and no others come about, save that the end of a block must stand
by itself. -/
theorem isDirective_append (filled : ';' ∈ tail) {text : List Char}
    (notEnd : text ≠ ['e', 'n', 'd']) : isDirective (text ++ tail) = isDirective text := by
  have rule : ['-', '-', '-'].isPrefixOf (text ++ tail) = ['-', '-', '-'].isPrefixOf text := by
    refine Text.isPrefixOf_append (fun c member first => ?_) text
    obtain rfl : c = '-' := by simpa using member
    exact idle.not_mem (by decide) (by decide) (List.mem_of_head? first)
  have stillNotEnd : text ++ tail ≠ ['e', 'n', 'd'] := by
    intro same
    have inEnd : ';' ∈ ['e', 'n', 'd'] := same ▸ List.mem_append_right text filled
    exact absurd inEnd (by decide)
  have words : (directiveWords.any fun word => (word.isPrefixOf? (text ++ tail)).any endsWord) =
      directiveWords.any fun word => (word.isPrefixOf? text).any endsWord := by
    rw [Bool.eq_iff_iff, List.any_eq_true, List.any_eq_true]
    refine exists_congr fun word => and_congr_right fun member => ?_
    rw [Text.isPrefixOf?_append_of_idle idle (apart_of_mem_directiveWords member), Option.any_map]
    simp only [endsWord_append idle]
  rw [isDirective, isDirective, rule, words, beq_eq_false_iff_ne.mpr notEnd,
    beq_eq_false_iff_ne.mpr stillNotEnd]

/-- **A line with blanks and semicolons behind it is read as it is alone**, if something stands in
it and it is not just the end of a block. -/
theorem read_append_of_idle (filled : ';' ∈ tail) {text : List Char} (worded : text ≠ [])
    (notEnd : text ≠ ['e', 'n', 'd']) : read (text ++ tail) = read text := by
  have noComment : ['%', '%'].isPrefixOf (text ++ tail) = ['%', '%'].isPrefixOf text := by
    refine Text.isPrefixOf_append (fun c member first => ?_) text
    obtain rfl : c = '%' := by simpa using member
    exact idle.not_mem (by decide) (by decide) (List.mem_of_head? first)
  obtain ⟨front, last, longer, alone, together, lastKind, longerKind⟩ :=
    Token.exists_scan_append idle text
  have statement : statement? (Token.scan (text ++ tail)) = statement? (Token.scan text) := by
    rw [alone, together, statement?_append_loose lastKind, statement?_append_loose longerKind]
  have empty : text.isEmpty = false := by simpa using worded
  have stillFilled : (text ++ tail).isEmpty = false := by simp [worded]
  rw [read, read, empty, stillFilled, noComment, isDirective_append idle filled notEnd, statement]

end Append

/-- **A semicolon behind a line does not change what it says**, if the line is not blank and not
just the end of a block. -/
theorem read_trim_semicolon {line : List Char} (worded : Text.trim line ≠ [])
    (notEnd : Text.trim line ≠ ['e', 'n', 'd']) :
    read (Text.trim (line ++ [';'])) = read (Text.trim line) := by
  obtain ⟨front, back, whole, frontBlank, backBlank⟩ := Text.exists_trim line
  have trimmed : Text.Trimmed (Text.trim line ++ (back ++ [';'])) :=
    Text.trimmed_append worded (List.cons_ne_nil _ _) (Text.trimmed_trim line).head
      (fun c last => by
        obtain rfl := Option.some.inj last
        decide) back
  have text : Text.trim (line ++ [';']) = Text.trim line ++ (back ++ [';']) := by
    have parts : line ++ [';'] = front ++ ((Text.trim line ++ (back ++ [';'])) ++ []) := by
      rw [List.append_nil, ← List.append_assoc, ← List.append_assoc, List.append_assoc front,
        ← whole]
    rw [parts, Text.trim_between frontBlank trimmed Text.forall_isBlank_nil]
  have idle : Idle (back ++ [';']) := by
    intro c member
    rcases List.mem_append.mp member with blank | semicolon
    · exact .inl (backBlank c blank)
    · exact .inr (List.mem_singleton.mp semicolon)
  rw [text]
  exact read_append_of_idle idle (List.mem_append_right _ List.mem_cons_self) worded notEnd

end Line

/-! ### Charts -/

/-- The chart with a semicolon behind the lines of some numbers, which are counted from one. -/
def terminated (chosen : Int → Bool) (source : String) : String :=
  chartOf <| ((linesOf source).zipIdx 1).map fun line =>
    if chosen line.2 then line.1 ++ [';'] else line.1

/-- Counting lines that were counted gives the same numbers. -/
theorem zipIdx_map_zipIdx {α β : Type} (items : List α) (first : Nat) (change : α × Nat → β) :
    ((items.zipIdx first).map change).zipIdx first =
      (items.zipIdx first).map fun item => (change item, item.2) := by
  induction items generalizing first with
  | nil => rfl
  | cons item rest ih => simp only [List.zipIdx_cons, List.map_cons, ih]

theorem linesOf_terminated (chosen : Int → Bool) (source : String) :
    linesOf (terminated chosen source) = ((linesOf source).zipIdx 1).map fun line =>
      if chosen line.2 then line.1 ++ [';'] else line.1 := by
  have some : ((linesOf source).zipIdx 1).map (fun line =>
      if chosen line.2 then line.1 ++ [';'] else line.1) ≠ [] := by
    have lines : linesOf source ≠ [] := List.splitOnP_ne_nil _ source.toList
    simpa using lines
  have oneLine : ∀ line ∈ ((linesOf source).zipIdx 1).map (fun line =>
      if chosen line.2 then line.1 ++ [';'] else line.1), '\n' ∉ line := by
    intro line member
    obtain ⟨entry, there, rfl⟩ := List.mem_map.mp member
    have alone := newline_not_mem_of_mem_zipIdx there
    split
    · simpa using alone
    · exact alone
  rw [linesOf, terminated, chartOf, String.toList_ofList,
    List.splitOn_intercalate '\n' oneLine some]

namespace Settings

/-- **Semicolons at the ends of lines do not matter.** -/
theorem compile_terminated (settings : Settings) (source : String) (prior otherPrior : Prior)
    (now later : String) (chosen : Int → Bool)
    (worded : ∀ line ∈ (linesOf source).zipIdx 1, chosen line.2 = true →
      Text.trim line.1 ≠ [] ∧ Text.trim line.1 ≠ ['e', 'n', 'd']) :
    (settings.compileTrace (terminated chosen source) otherPrior later).lines.map
        (fun entry => (entry.number, entry.outcome, entry.detail)) =
      (settings.compileTrace source prior now).lines.map
        (fun entry => (entry.number, entry.outcome, entry.detail)) ∧
      (settings.compile (terminated chosen source) otherPrior later).SameNodes
        (settings.compile source prior now) := by
  have same : ∀ line ∈ (linesOf source).zipIdx 1,
      Line.read (Text.trim (if chosen line.2 then line.1 ++ [';'] else line.1)) =
        Line.read (Text.trim line.1) := by
    intro line member
    split
    · next picked =>
      obtain ⟨filled, notEnd⟩ := worded line member picked
      exact Line.read_trim_semicolon filled notEnd
    · rfl
  refine ⟨?_, ?_⟩
  · rw [lines_compileTrace, lines_compileTrace, linesOf_terminated, zipIdx_map_zipIdx]
    simp only [List.map_map]
    refine List.map_congr_left fun line member => ?_
    simp [Trace.lineRecord, Reading.ofLine, same line member]
  · have sameStatements : Statement.ofSource (terminated chosen source) =
        Statement.ofSource source := by
      rw [Statement.ofSource_eq_filterMap_linesOf, linesOf_terminated, List.filterMap_map,
        Statement.ofSource_eq_filterMap_zipIdx]
      refine List.filterMap_congr fun line member => ?_
      rw [Function.comp_apply, Statement.ofLine, same line member, Statement.ofLine]
    have sameDraft : Draft.ofSource (terminated chosen source) = Draft.ofSource source := by
      rw [Draft.ofSource_eq_foldl_apply, Draft.ofSource_eq_foldl_apply, sameStatements]
    exact (settings.sameNodes_compile sameDraft otherPrior later).trans
      (settings.sameNodes_compile_later source otherPrior prior later now)

/-- Six of eight lines get a semicolon: a directive, a comment, edges with closed shapes and with a
pipe that is not closed, and a line that is not understood. -/
theorem compile_terminated_six_of_eight :
    let source := "graph TD\nA[x] --> B((y))\n\n%% note \nsubgraph s\nB -->|on C\nend\nA & D["
    let longer := "graph TD;\nA[x] --> B((y));\n\n%% note ;\nsubgraph s;\nB -->|on C;\nend\nA & D[;"
    let chosen := fun number : Int => decide (number ∉ [3, 7])
    (∀ line ∈ (linesOf source).zipIdx 1, chosen line.2 = true →
      Text.trim line.1 ≠ [] ∧ Text.trim line.1 ≠ ['e', 'n', 'd']) ∧
    ∀ (settings : Settings) (prior otherPrior : Prior) (now later : String),
      (settings.compileTrace longer otherPrior later).lines.map
          (fun entry => (entry.number, entry.outcome, entry.detail)) =
        (settings.compileTrace source prior now).lines.map
          (fun entry => (entry.number, entry.outcome, entry.detail)) ∧
      (settings.compile longer otherPrior later).SameNodes
        (settings.compile source prior now) := by
  intro source longer chosen
  have worded : ∀ line ∈ (linesOf source).zipIdx 1, chosen line.2 = true →
      Text.trim line.1 ≠ [] ∧ Text.trim line.1 ≠ ['e', 'n', 'd'] := by decide +kernel
  have written : terminated chosen source = longer := by decide +kernel
  refine ⟨worded, fun settings prior otherPrior now later => ?_⟩
  have same := settings.compile_terminated source prior otherPrior now later chosen worded
  rwa [written] at same

end Settings

end ChartGuide
