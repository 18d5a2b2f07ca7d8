/-
**The places of a mark, as columns of a line.**

A line that is read from some column on is cut at the least of the columns at which the mark stands
and what follows it is accepted. Places may overlap: each column is looked at on its own.

* `mem_places_iff`: a place is a way to take apart what is read of the line.
* `cutColumn?_eq_none_iff`: a line without places is not cut.
* `cutColumn?_eq_some_iff`: a line is cut at the least of its places.
-/

import ChartGuide.Proofs.Text.Cut
import Mathlib.Order.Bounds.Basic

namespace ChartGuide.Text

/-- The columns of a line, from `start` on, at which the mark stands and what follows it is
accepted. -/
def places (mark : List Char) (accepted : List Char → Bool) (line : List Char) (start : Nat) :
    Set Nat :=
  {column | start ≤ column ∧ mark <+: line.drop column ∧
    accepted (line.drop (column + mark.length)) = true}

/-- The column at which a line is cut that is read from `start` on. -/
def cutColumn? (mark : List Char) (accepted : List Char → Bool) (line : List Char) (start : Nat) :
    Option Nat :=
  (cut? mark accepted (line.drop start)).map fun (before, _) => start + before.length

variable {mark : List Char} {accepted : List Char → Bool} {line : List Char} {start column : Nat}

/-- A mark stands within the line. -/
theorem lt_length_of_isPrefix_drop (nonempty : mark ≠ []) (stands : mark <+: line.drop column) :
    column < line.length := by
  have filled := List.length_pos_iff.mpr nonempty
  have fits := stands.length_le
  rw [List.length_drop] at fits
  omega

/-- A place is a way to take apart what is read of the line. -/
theorem mem_places_iff (nonempty : mark ≠ []) :
    column ∈ places mark accepted line start ↔
      ∃ before after, line.drop start = before ++ (mark ++ after) ∧ accepted after = true ∧
        column = start + before.length := by
  constructor
  · rintro ⟨behind, stands, fits⟩
    have inside := lt_length_of_isPrefix_drop nonempty stands
    obtain ⟨after, there⟩ := stands
    obtain ⟨width, rfl⟩ := Nat.exists_eq_add_of_le behind
    have wide : width ≤ (line.drop start).length := by
      rw [List.length_drop]
      omega
    refine ⟨(line.drop start).take width, after, ?_, ?_, ?_⟩
    · rw [there, ← List.drop_drop, List.take_append_drop]
    · rwa [← List.drop_drop, ← there, List.drop_left] at fits
    · rw [List.length_take_of_le wide]
  · rintro ⟨before, after, whole, fits, rfl⟩
    have there : line.drop (start + before.length) = mark ++ after := by
      rw [← List.drop_drop, whole, List.drop_left]
    refine ⟨Nat.le_add_right _ _, ⟨after, there.symm⟩, ?_⟩
    rwa [← List.drop_drop, there, List.drop_left]

/-- **A line without places is not cut.** -/
theorem cutColumn?_eq_none_iff (nonempty : mark ≠ []) :
    cutColumn? mark accepted line start = none ↔ places mark accepted line start = ∅ := by
  rw [cutColumn?, Option.map_eq_none_iff, Set.eq_empty_iff_forall_notMem]
  constructor
  · intro nowhere column place
    obtain ⟨before, after, whole, fits, -⟩ := (mem_places_iff nonempty).mp place
    obtain ⟨front, back, found⟩ := exists_cut? nonempty accepted before after fits
    rw [← whole, nowhere] at found
    cases found
  · intro empty
    refine Option.eq_none_iff_forall_not_mem.mpr fun (before, after) found => ?_
    obtain ⟨whole, fits⟩ := eq_append_of_cut? found
    exact empty _ ((mem_places_iff nonempty).mpr ⟨before, after, whole, fits, rfl⟩)

theorem isLeast_of_cutColumn? (nonempty : mark ≠ [])
    (found : cutColumn? mark accepted line start = some column) :
    IsLeast (places mark accepted line start) column := by
  obtain ⟨⟨before, after⟩, cut, rfl⟩ := Option.map_eq_some_iff.mp found
  obtain ⟨whole, fits⟩ := eq_append_of_cut? cut
  refine ⟨(mem_places_iff nonempty).mpr ⟨before, after, whole, fits, rfl⟩, fun other place => ?_⟩
  obtain ⟨front, back, apart, accepts, rfl⟩ := (mem_places_iff nonempty).mp place
  exact Nat.add_le_add_left (length_le_of_cut? cut apart accepts) start

/-- **A line is cut at the least of its places.** -/
theorem cutColumn?_eq_some_iff (nonempty : mark ≠ []) :
    cutColumn? mark accepted line start = some column ↔
      IsLeast (places mark accepted line start) column := by
  refine ⟨isLeast_of_cutColumn? nonempty, fun least => ?_⟩
  cases found : cutColumn? mark accepted line start with
  | none =>
    have empty := (cutColumn?_eq_none_iff nonempty).mp found
    exact absurd least.nonempty (Set.not_nonempty_iff_eq_empty.mpr empty)
  | some other => rw [(isLeast_of_cutColumn? nonempty found).unique least]

end ChartGuide.Text
