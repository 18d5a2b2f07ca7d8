/-
**Lines with an arrow.**

The first arrow of a line parts it: what stands before the arrow is the source of an edge, and what
the arrow leads to is read off the tokens after it, wherever these stand.

* `Line.aim?`: the label and the target behind an arrow.
* `Line.statement?_append_loose`: loose text at the end of a line says nothing.
* `Line.statement?_arrow`: what the tokens of a line with an arrow say.
-/

import ChartGuide.Line
import ChartGuide.Proofs.Token.Columns
import Mathlib.Data.List.TakeDrop

namespace ChartGuide.Line

/-- What an arrow in front of some tokens leads to: a label, if there is one, and a target. -/
def aim? (tokens : List Token) : Option (Option String × Endpoint) :=
  (endpoint? (splitLabel tokens).2).map fun target => ((splitLabel tokens).1, target)

/-- The edge from a source to where an arrow leads. -/
def edgeFrom (source : Endpoint) (aim : Option String × Endpoint) : Statement :=
  .edge source aim.1 aim.2

/-- Where tokens stand does not matter for the end of an edge. -/
theorem endpoint?_moved (columns : Nat) (tokens : List Token) :
    endpoint? (tokens.map (Token.moved columns)) = endpoint? tokens := by
  cases tokens with
  | nil => rfl
  | cons first rest =>
    obtain ⟨kind, value, start, stop⟩ := first
    cases rest with
    | nil => cases kind <;> rfl
    | cons second rest =>
      obtain ⟨next, text, start, stop⟩ := second
      cases kind <;> cases next <;> rfl

theorem aim?_moved (columns : Nat) (tokens : List Token) :
    aim? (tokens.map (Token.moved columns)) = aim? tokens := by
  have split : splitLabel (tokens.map (Token.moved columns)) =
      ((splitLabel tokens).1, (splitLabel tokens).2.map (Token.moved columns)) := by
    cases tokens with
    | nil => rfl
    | cons first rest =>
      obtain ⟨kind, value, start, stop⟩ := first
      cases kind <;> rfl
  rw [aim?, split, endpoint?_moved, aim?]

/-- A line with an arrow is parted at the first one. -/
theorem span_arrow {left : List Token} (noArrow : ∀ token ∈ left, isArrow token = false)
    {arrow : Token} (here : isArrow arrow = true) (after : List Token) :
    (left ++ arrow :: after).span (fun token => !isArrow token) = (left, arrow :: after) := by
  have before : ∀ token ∈ left, (!isArrow token) = true := by simpa using noArrow
  rw [List.span_eq_takeWhile_dropWhile, List.takeWhile_append_of_pos before,
    List.dropWhile_append_of_pos before, List.takeWhile_cons_of_neg (by simp [here]),
    List.dropWhile_cons_of_neg (by simp [here]), List.append_nil]

theorem span_noArrow {tokens : List Token} (noArrow : ∀ token ∈ tokens, isArrow token = false) :
    tokens.span (fun token => !isArrow token) = (tokens, []) := by
  have all : ∀ token ∈ tokens, (!isArrow token) = true := by simpa using noArrow
  rw [List.span_eq_takeWhile_dropWhile, List.takeWhile_eq_self_iff.mpr all,
    List.dropWhile_eq_nil_iff.mpr all]

/-- **A line with an arrow** says an edge from what stands before its first arrow to where that
arrow leads, and nothing if it leads nowhere. -/
theorem statement?_arrow {left : List Token} {source : Endpoint}
    (noArrow : ∀ token ∈ left, isArrow token = false) (found : endpoint? left = some source)
    (arrow : Arrow) (value : String) (start stop : Nat) (after : List Token) :
    statement? (left ++ ⟨.arrow arrow, value, start, stop⟩ :: after) =
      (aim? after).elim (.error .missingTarget) fun aim => .ok (edgeFrom source aim) := by
  have here : isArrow ⟨.arrow arrow, value, start, stop⟩ = true := rfl
  rw [statement?, span_arrow noArrow here after]
  simp only [found, aim?]
  cases endpoint? (splitLabel after).2 with
  | none => rfl
  | some target => rfl

/-- It does not matter in which columns the tokens from the arrow on stand. -/
theorem statement?_append_moved {left : List Token} {source : Endpoint}
    (noArrow : ∀ token ∈ left, isArrow token = false) (found : endpoint? left = some source)
    (arrow : Arrow) (value : String) (start stop : Nat) (after : List Token) (columns : Nat) :
    statement? (left ++ (⟨.arrow arrow, value, start, stop⟩ :: after).map (Token.moved columns)) =
      (aim? after).elim (.error .missingTarget) fun aim => .ok (edgeFrom source aim) := by
  rw [List.map_cons, ← aim?_moved columns]
  exact statement?_arrow noArrow found arrow value _ _ _

/-! ### Loose text at the end -/

section Loose

variable {loose : List Token} (kind : ∀ token ∈ loose, token.kind = .text)
include kind

theorem endpoint?_append_loose (tokens : List Token) :
    endpoint? (tokens ++ loose) = endpoint? tokens := by
  cases loose with
  | nil => rw [List.append_nil]
  | cons text more =>
    obtain ⟨kindOf, value, start, stop⟩ := text
    obtain rfl : kindOf = .text := kind _ List.mem_cons_self
    match tokens with
    | [] => rfl
    | [⟨first, _, _, _⟩] => cases first <;> rfl
    | ⟨first, _, _, _⟩ :: ⟨second, _, _, _⟩ :: _ => cases first <;> cases second <;> rfl

theorem splitLabel_append_loose (tokens : List Token) :
    splitLabel (tokens ++ loose) = ((splitLabel tokens).1, (splitLabel tokens).2 ++ loose) := by
  cases tokens with
  | cons first rest =>
    obtain ⟨kindOf, value, start, stop⟩ := first
    cases kindOf <;> rfl
  | nil =>
    cases loose with
    | nil => rfl
    | cons text more =>
      obtain ⟨kindOf, value, start, stop⟩ := text
      obtain rfl : kindOf = .text := kind _ List.mem_cons_self
      rfl

/-- **Loose text at the end of a line says nothing.** -/
theorem statement?_append_loose (tokens : List Token) :
    statement? (tokens ++ loose) = statement? tokens := by
  cases first : tokens.find? isArrow with
  | some arrow =>
    obtain ⟨here, left, after, rfl, before⟩ := List.find?_eq_some_iff_append.mp first
    have noArrow : ∀ token ∈ left, isArrow token = false := by simpa using before
    rw [List.append_assoc, List.cons_append, statement?, statement?, span_arrow noArrow here,
      span_arrow noArrow here]
    simp only [splitLabel_append_loose kind, endpoint?_append_loose kind]
  | none =>
    have noArrow : ∀ token ∈ tokens, isArrow token = false := by simpa using first
    have still : ∀ token ∈ tokens ++ loose, isArrow token = false := by
      refine List.forall_mem_append.mpr ⟨noArrow, fun token member => ?_⟩
      rw [isArrow, kind token member]
    rw [statement?, statement?, span_noArrow still, span_noArrow noArrow]
    simp only [endpoint?_append_loose kind]

end Loose

end ChartGuide.Line
