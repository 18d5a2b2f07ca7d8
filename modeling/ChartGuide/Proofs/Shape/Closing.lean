/-
**Where a bare text is closed.**

The bracket that closes a shape may stand in the text as well, and its places may overlap, as those
of `)))` do in `))))`. A text is closed at the first bracket after which a shape may end. If a shape
may end after none of them, it is closed at the first of all.

* `Shape.firstEnding?_of_passed`: a bracket after which no shape may end is passed over.
* `Shape.searchFrom_eq`: going from one bracket to the next, with the first of all in mind, finds
  the first after which a shape may end.
* `Shape.closing_exact`: the column at which a text is closed, for every line.
-/

import ChartGuide.Proofs.Shape
import ChartGuide.Proofs.Text.Places

namespace ChartGuide.Shape

/-! ### The closing brackets of a line -/

section Line

variable (shape : Shape) (line : List Char) (start : Nat)

/-- The columns of a line, from `start` on, at which the closing bracket of the shape stands. -/
def closings : Set Nat := {column | start ≤ column ∧ shape.closer <+: line.drop column}

/-- Those of them after which the shape may end. -/
def endings : Set Nat :=
  {column ∈ shape.closings line start | MayEnd (line.drop (column + shape.closer.length))}

/-- The first closing bracket, from `start` on. -/
def firstClosing? : Option Nat := Text.cutColumn? shape.closer (fun _ => true) line start

/-- The first of them after which the shape may end. -/
def firstEnding? : Option Nat := Text.cutColumn? shape.closer endsBefore line start

/-- The column at which a bare text is closed that begins at the column `start`. -/
def closingColumn? : Option Nat :=
  (closing? shape.closer (line.drop start)).map fun (inside, _) => start + inside.length

variable {shape line start} {column : Nat}

theorem endings_subset : shape.endings line start ⊆ shape.closings line start :=
  fun _ ending => ending.1

theorem places_closer : Text.places shape.closer (fun _ => true) line start =
    shape.closings line start := by
  ext column
  simp only [Text.places, closings, and_true]

theorem places_closer_endsBefore : Text.places shape.closer endsBefore line start =
    shape.endings line start := by
  ext column
  simp only [Text.places, endings, closings, endsBefore_iff, Set.mem_ofPred_eq, and_assoc]

theorem firstClosing?_eq_none_iff :
    shape.firstClosing? line start = none ↔ shape.closings line start = ∅ := by
  rw [← places_closer]
  exact Text.cutColumn?_eq_none_iff shape.closer_ne_nil

theorem firstClosing?_eq_some_iff : shape.firstClosing? line start = some column ↔
    IsLeast (shape.closings line start) column := by
  rw [← places_closer]
  exact Text.cutColumn?_eq_some_iff shape.closer_ne_nil

theorem firstEnding?_eq_none_iff :
    shape.firstEnding? line start = none ↔ shape.endings line start = ∅ := by
  rw [← places_closer_endsBefore]
  exact Text.cutColumn?_eq_none_iff shape.closer_ne_nil

theorem firstEnding?_eq_some_iff : shape.firstEnding? line start = some column ↔
    IsLeast (shape.endings line start) column := by
  rw [← places_closer_endsBefore]
  exact Text.cutColumn?_eq_some_iff shape.closer_ne_nil

/-- A bare text is closed where the shape may end, or else at the first bracket. -/
theorem closingColumn?_eq : shape.closingColumn? line start =
    (shape.firstEnding? line start).or (shape.firstClosing? line start) := by
  rw [closingColumn?, closing?, Option.map_or]
  rfl

/-! ### From one bracket to the next -/

/-- The next bracket stands behind, and within the line. -/
theorem inLine_of_firstClosing? (found : shape.firstClosing? line start = some column) :
    start ≤ column ∧ column < line.length := by
  obtain ⟨behind, stands⟩ := (firstClosing?_eq_some_iff.mp found).1
  exact ⟨behind, Text.lt_length_of_isPrefix_drop shape.closer_ne_nil stands⟩

variable (shape line) in
/-- Goes from one bracket to the next, up to one after which the shape may end, and back to the
`first` bracket if there is none. -/
def searchFrom (first : Option Nat) : Option Nat → Option Nat
  | none => first
  | some here =>
    if endsBefore (line.drop (here + shape.closer.length)) then some here
    else searchFrom first (shape.firstClosing? line (here + 1))
termination_by here => here.elim 0 fun column => line.length - column + 1
decreasing_by
  cases next : shape.firstClosing? line (here + 1) with
  | none => exact Nat.succ_pos _
  | some there =>
    have within := inLine_of_firstClosing? next
    simp only [Option.elim_some]
    omega

variable (shape line start) in
/-- The column at which a bare text is closed, by going from bracket to bracket. -/
def searchClosing? : Option Nat :=
  shape.searchFrom line (shape.firstClosing? line start) (shape.firstClosing? line start)

/-- A first bracket after which the shape may end is the one to choose. -/
theorem firstEnding?_of_endsBefore (found : shape.firstClosing? line start = some column)
    (ends : endsBefore (line.drop (column + shape.closer.length)) = true) :
    shape.firstEnding? line start = some column := by
  have least := firstClosing?_eq_some_iff.mp found
  exact firstEnding?_eq_some_iff.mpr ⟨⟨least.1, endsBefore_iff.mp ends⟩,
    fun other ending => least.2 (endings_subset ending)⟩

/-- **A bracket after which the shape may not end is passed over**, and no other one with it. -/
theorem firstEnding?_of_passed (found : shape.firstClosing? line start = some column)
    (passed : ¬ endsBefore (line.drop (column + shape.closer.length)) = true) :
    shape.firstEnding? line start = shape.firstEnding? line (column + 1) := by
  have least := firstClosing?_eq_some_iff.mp found
  have same : shape.endings line start = shape.endings line (column + 1) := by
    ext other
    constructor
    · rintro ⟨⟨behind, stands⟩, mayEnd⟩
      have notBefore : column ≤ other := least.2 ⟨behind, stands⟩
      have different : column ≠ other := by
        rintro rfl
        exact passed (endsBefore_iff.mpr mayEnd)
      exact ⟨⟨Nat.lt_of_le_of_ne notBefore different, stands⟩, mayEnd⟩
    · rintro ⟨⟨behind, stands⟩, mayEnd⟩
      have start_le : start ≤ column := least.1.1
      exact ⟨⟨by omega, stands⟩, mayEnd⟩
  refine Option.ext fun other => ?_
  rw [firstEnding?_eq_some_iff, firstEnding?_eq_some_iff, same]

/-- **The search from bracket to bracket** finds the first one after which the shape may end, or
else gives what it was told to. -/
theorem searchFrom_eq (first : Option Nat) : shape.searchFrom line first
    (shape.firstClosing? line start) = (shape.firstEnding? line start).or first := by
  -- Each call of the search is for the first bracket from some column on, and that column moves.
  generalize stands : shape.firstClosing? line start = here
  fun_induction searchFrom shape line first here generalizing start with
  | case1 =>
    have empty := firstClosing?_eq_none_iff.mp stands
    have none : shape.firstEnding? line start = none :=
      firstEnding?_eq_none_iff.mpr (Set.subset_eq_empty endings_subset empty)
    rw [none, Option.none_or]
  | case2 here ends => rw [firstEnding?_of_endsBefore stands ends, Option.some_or]
  | case3 here passed ih => rw [firstEnding?_of_passed stands passed, ih rfl]

end Line

/-! ### The column of the closing bracket -/

/-- What is promised of the column at which a bare text is closed that begins at `start`. There is
one unless no closing bracket stands from there on. It is the first bracket after which the shape
may end, or the first of all if there is no such bracket. -/
structure ClosedAt (shape : Shape) (line : List Char) (start : Nat) (found : Option Nat) :
    Prop where
  none_iff : found = none ↔ ∀ column, start ≤ column → ¬ shape.closer <+: line.drop column
  ends : ∀ column, found = some column → (shape.endings line start).Nonempty →
    IsLeast (shape.endings line start) column
  falls_back : ∀ column, found = some column → ¬ (shape.endings line start).Nonempty →
    IsLeast (shape.closings line start) column

theorem closedAt_closingColumn? (shape : Shape) (line : List Char) (start : Nat) :
    shape.ClosedAt line start (shape.closingColumn? line start) where
  none_iff := by
    have nowhere_iff : shape.closings line start = ∅ ↔
        ∀ column, start ≤ column → ¬ shape.closer <+: line.drop column := by
      simp [Set.eq_empty_iff_forall_notMem, closings]
    rw [closingColumn?_eq, Option.or_eq_none_iff, firstEnding?_eq_none_iff,
      firstClosing?_eq_none_iff, ← nowhere_iff]
    exact ⟨And.right, fun empty => ⟨Set.subset_eq_empty endings_subset empty, empty⟩⟩
  ends column found filled := by
    rw [closingColumn?_eq] at found
    rcases Option.or_eq_some_iff.mp found with ending | ⟨nowhere, -⟩
    · exact firstEnding?_eq_some_iff.mp ending
    · exact absurd (firstEnding?_eq_none_iff.mp nowhere) filled.ne_empty
  falls_back column found none := by
    have empty := Set.not_nonempty_iff_eq_empty.mp none
    rw [closingColumn?_eq, firstEnding?_eq_none_iff.mpr empty, Option.none_or] at found
    exact firstClosing?_eq_some_iff.mp found

/-- The text is what stands up to the closing bracket, and what follows stands behind it. -/
theorem closing?_eq_some_iff {shape : Shape} {line inside after : List Char} {start : Nat} :
    closing? shape.closer (line.drop start) = some (inside, after) ↔
      ∃ column, shape.closingColumn? line start = some column ∧
        inside = (line.drop start).take (column - start) ∧
        after = line.drop (column + shape.closer.length) := by
  have parts : ∀ {front back : List Char},
      closing? shape.closer (line.drop start) = some (front, back) →
      front = (line.drop start).take (start + front.length - start) ∧
        back = line.drop (start + front.length + shape.closer.length) := by
    intro front back found
    have whole := eq_append_of_closing? found
    rw [Nat.add_sub_cancel_left, ← List.drop_drop, ← List.drop_drop, whole, List.take_left,
      List.drop_left, List.drop_left]
    exact ⟨rfl, rfl⟩
  constructor
  · intro found
    exact ⟨start + inside.length, by rw [closingColumn?, found, Option.map_some], parts found⟩
  · rintro ⟨column, at_column, rfl, rfl⟩
    obtain ⟨⟨front, back⟩, found, rfl⟩ := Option.map_eq_some_iff.mp at_column
    obtain ⟨front_eq, back_eq⟩ := parts found
    rw [← front_eq, ← back_eq, found]

/-- **A bare text is closed at the first bracket after which the shape may end, or else at the first
of all**, for every line, column and shape. The search from bracket to bracket finds this column,
and the text and what follows it are cut there. -/
theorem closing_exact (shape : Shape) (line : List Char) (start : Nat) :
    shape.ClosedAt line start (shape.closingColumn? line start) ∧
      shape.searchClosing? line start = shape.closingColumn? line start ∧
      ∀ inside after, closing? shape.closer (line.drop start) = some (inside, after) ↔
        ∃ column, shape.closingColumn? line start = some column ∧
          inside = (line.drop start).take (column - start) ∧
          after = line.drop (column + shape.closer.length) := by
  refine ⟨closedAt_closingColumn? shape line start, ?_, fun inside after => closing?_eq_some_iff⟩
  rw [searchClosing?, searchFrom_eq, closingColumn?_eq]

/-- Three brackets stand twice in four, and a bracket inside the text closes it only if no other one
stands where a shape may end. -/
example : doubleCircle.closingColumn? "))))".toList 0 = some 1 ∧
    rounded.closingColumn? "Is (x) set?) --> B".toList 0 = some 11 ∧
    rounded.closingColumn? "Is (x) set?) B".toList 0 = some 5 := by
  decide +kernel

end ChartGuide.Shape
