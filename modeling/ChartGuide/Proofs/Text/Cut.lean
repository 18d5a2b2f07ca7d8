/-
**Cuts whose place is known.**

* `cut?_append_of_not_mem`: a text is cut at the first place of the character that the mark begins
  with, and so at the first place of a character (`cutFirst?_append_cons`).
* `not_mem_of_cutFirst?`: what is cut off in front of a character does not hold it.
* `cutFirst?_mark_append`: a text that begins with the mark is cut at once.
* `search_of_trimLeft`: the character that a text begins with, blanks aside, is found by looking for
  it from the front.
* `exists_cut?`: a text that can be cut somewhere is cut, and at the first such place
  (`length_le_of_cut?`).
* `cut?_append_of_some`: a cut stays where it is when more is written after the text, and
  `cut?_append_of_apart` says that there is no other cut if the mark has no part in what is written.
-/

import ChartGuide.Proofs.Text.Trim
import ChartGuide.Text.Cut

namespace ChartGuide.Text

/-- A text is cut at the first place of the character that the mark begins with, if the mark stands
there and the rest is acceptable. -/
theorem cut?_append_of_not_mem {c : Char} {before : List Char} (absent : c ∉ before)
    (mark : List Char) {accepted : List Char → Bool} {after : List Char}
    (fits : accepted after = true) :
    cut? (c :: mark) accepted (before ++ (c :: mark ++ after)) = some (before, after) := by
  induction before with
  | nil =>
    have here : List.isPrefixOf? (c :: mark) (c :: (mark ++ after)) = some after :=
      isPrefixOf?_eq_some_iff.mpr (List.cons_append).symm
    rw [List.nil_append, List.cons_append, cut?, here, Option.filter_some_pos fits]
  | cons d before ih =>
    obtain ⟨different, later⟩ := not_or.mp (mt List.mem_cons.mpr absent)
    have elsewhere : List.isPrefixOf? (c :: mark) (d :: (before ++ (c :: mark ++ after))) =
        none := by
      show (if c == d then List.isPrefixOf? mark (before ++ (c :: mark ++ after)) else none) = none
      rw [if_neg (by simpa using different)]
    rw [List.cons_append, cut?, elsewhere, Option.filter_none, ih later]
    rfl

theorem cutFirst?_append_cons {c : Char} {before : List Char} (absent : c ∉ before)
    (after : List Char) : cutFirst? [c] (before ++ c :: after) = some (before, after) :=
  cut?_append_of_not_mem absent [] rfl

/-- A text is cut at the first place of a character, so what is cut off does not hold it. -/
theorem not_mem_of_cutFirst? {c : Char} {text before after : List Char}
    (found : cutFirst? [c] text = some (before, after)) : c ∉ before := by
  intro member
  obtain ⟨front, back, rfl, absent⟩ := List.eq_append_cons_of_mem member
  have whole : text = front ++ c :: (back ++ c :: after) := by
    simpa using (eq_append_of_cut? found).1
  rw [whole, cutFirst?_append_cons absent] at found
  have shorter := congrArg List.length (Prod.mk.inj (Option.some.inj found)).1
  simp only [List.length_append, List.length_cons] at shorter
  omega

theorem cutFirst?_mark_append {mark : List Char} (nonempty : mark ≠ []) (after : List Char) :
    cutFirst? mark (mark ++ after) = some ([], after) := by
  obtain ⟨c, rest, rfl⟩ := List.exists_cons_of_ne_nil nonempty
  exact cut?_append_of_not_mem List.not_mem_nil rest rfl

/-- The fault of a search for a mark that is nowhere in the text. -/
structure MissingMark where
  mark : List Char
  deriving DecidableEq, Repr

/-- The text after the first place of the mark, which must be somewhere. -/
def search (mark text : List Char) : Except MissingMark (List Char) :=
  match cutFirst? mark text with
  | some (_, after) => .ok after
  | none => .error ⟨mark⟩

/-- The character that a text begins with, blanks aside, is found by looking for it from the
front. -/
theorem search_of_trimLeft {c : Char} {text rest : List Char} (begins : trimLeft text = c :: rest) :
    search [c] text = .ok rest := by
  have kept : isBlank c = false := not_of_head?_dropWhile (congrArg List.head? begins)
  have absent : c ∉ text.takeWhile isBlank := by
    intro member
    have blank := List.all_eq_true.mp List.all_takeWhile c member
    rw [kept] at blank
    cases blank
  have whole : text = text.takeWhile isBlank ++ c :: rest := by
    rw [← begins]
    exact List.takeWhile_append_dropWhile.symm
  rw [search, whole, cutFirst?_append_cons absent]

/-- A text that can be cut somewhere is cut, there or before. -/
theorem exists_cut? {mark : List Char} (nonempty : mark ≠ []) (accepted : List Char → Bool)
    (before after : List Char) (fits : accepted after = true) :
    ∃ front back, cut? mark accepted (before ++ (mark ++ after)) = some (front, back) := by
  induction before with
  | nil =>
    obtain ⟨c, rest, rfl⟩ := List.exists_cons_of_ne_nil nonempty
    have here : List.isPrefixOf? (c :: rest) (c :: (rest ++ after)) = some after :=
      isPrefixOf?_eq_some_iff.mpr (List.cons_append).symm
    refine ⟨[], after, ?_⟩
    rw [List.nil_append, List.cons_append, cut?, here, Option.filter_some_pos fits]
  | cons c before ih =>
    obtain ⟨front, back, later⟩ := ih
    rw [List.cons_append, cut?]
    split
    · exact ⟨_, _, rfl⟩
    · rw [later]
      exact ⟨_, _, rfl⟩

/-- Nothing that is accepted stands before the place where a text is cut. -/
theorem length_le_of_cut? {mark : List Char} {accepted : List Char → Bool}
    {text before after : List Char} (found : cut? mark accepted text = some (before, after))
    {front back : List Char} (whole : text = front ++ (mark ++ back))
    (fits : accepted back = true) : before.length ≤ front.length := by
  induction text generalizing before front with
  | nil => cases found
  | cons c rest ih =>
    rw [cut?] at found
    split at found
    · obtain ⟨rfl, -⟩ := Prod.mk.inj (Option.some.inj found)
      exact Nat.zero_le _
    · next nowhere =>
      obtain ⟨⟨passed, behind⟩, later, equal⟩ := Option.map_eq_some_iff.mp found
      obtain ⟨rfl, rfl⟩ := Prod.mk.inj equal
      cases front with
      | nil =>
        have here : mark.isPrefixOf? (c :: rest) = some back := isPrefixOf?_eq_some_iff.mpr whole
        rw [here, Option.filter_some_pos fits] at nowhere
        cases nowhere
      | cons d front => exact Nat.succ_le_succ (ih later (List.cons.inj whole).2)

/-! ### Longer texts -/

/-- Whether a mark stands at the head of a text that is long enough does not depend on what
follows. -/
theorem isPrefixOf?_append {mark text : List Char} (long : mark.length ≤ text.length)
    (tail : List Char) :
    mark.isPrefixOf? (text ++ tail) = (mark.isPrefixOf? text).map (· ++ tail) := by
  cases found : mark.isPrefixOf? text with
  | some after =>
    refine isPrefixOf?_eq_some_iff.mpr ?_
    rw [isPrefixOf?_eq_some_iff.mp found, List.append_assoc]
  | none =>
    refine Option.eq_none_iff_forall_not_mem.mpr fun after longer => ?_
    have whole := isPrefixOf?_eq_some_iff.mp longer
    have front : mark <+: text :=
      List.prefix_of_prefix_length_le ⟨after, whole.symm⟩ (List.prefix_append text tail) long
    obtain ⟨between, rfl⟩ := front
    rw [isPrefixOf?_eq_some_iff.mpr rfl] at found
    cases found

/-- A mark that a text does not begin with stands at the head of a longer text as before. -/
theorem isPrefixOf_append {mark tail : List Char} (apart : ∀ c ∈ mark, tail.head? ≠ some c)
    (text : List Char) : mark.isPrefixOf (text ++ tail) = mark.isPrefixOf text := by
  induction mark generalizing text with
  | nil => rw [List.isPrefixOf, List.isPrefixOf]
  | cons c mark ih =>
    cases text with
    | nil =>
      cases tail with
      | nil => rfl
      | cons d rest =>
        have different : (c == d) = false :=
          beq_eq_false_iff_ne.mpr fun same => apart c List.mem_cons_self (congrArg some same.symm)
        show (c == d && mark.isPrefixOf rest) = false
        rw [different, Bool.false_and]
    | cons d text =>
      rw [List.cons_append, List.isPrefixOf, List.isPrefixOf,
        ih fun c member => apart c (List.mem_cons_of_mem _ member)]

/-- What is left after a mark goes on into what is written behind the text, if the mark cannot. -/
theorem isPrefixOf?_append_of_apart {mark tail : List Char}
    (apart : ∀ c ∈ mark, tail.head? ≠ some c) (text : List Char) :
    mark.isPrefixOf? (text ++ tail) = (mark.isPrefixOf? text).map (· ++ tail) := by
  cases found : mark.isPrefixOf? text with
  | some after =>
    refine isPrefixOf?_eq_some_iff.mpr ?_
    rw [isPrefixOf?_eq_some_iff.mp found, List.append_assoc]
  | none =>
    refine Option.eq_none_iff_forall_not_mem.mpr fun after longer => ?_
    have still : mark.isPrefixOf (text ++ tail) = true :=
      List.isPrefixOf_iff_prefix.mpr ⟨after, (isPrefixOf?_eq_some_iff.mp longer).symm⟩
    rw [isPrefixOf_append apart] at still
    obtain ⟨rest, whole⟩ := List.isPrefixOf_iff_prefix.mp still
    rw [isPrefixOf?_eq_some_iff.mpr whole.symm] at found
    cases found

/-- **A cut stays where it is when more is written after the text**, if that makes no rest more or
less acceptable. -/
theorem cut?_append_of_some {mark : List Char} {accepted : List Char → Bool} {tail : List Char}
    (same : ∀ rest, accepted (rest ++ tail) = accepted rest) {text before after : List Char}
    (found : cut? mark accepted text = some (before, after)) :
    cut? mark accepted (text ++ tail) = some (before, after ++ tail) := by
  induction text generalizing before with
  | nil => cases found
  | cons c rest ih =>
    have long : mark.length ≤ (c :: rest).length := by
      have whole := congrArg List.length (eq_append_of_cut? found).1
      simp only [List.length_append] at whole
      omega
    have here : (mark.isPrefixOf? (c :: (rest ++ tail))).filter accepted =
        ((mark.isPrefixOf? (c :: rest)).filter accepted).map (· ++ tail) := by
      rw [← List.cons_append, isPrefixOf?_append long, Option.filter_map]
      congr 2
      exact funext same
    rw [List.cons_append, cut?, here]
    rw [cut?] at found
    cases stands : (mark.isPrefixOf? (c :: rest)).filter accepted with
    | some rest =>
      rw [stands] at found
      obtain ⟨rfl, rfl⟩ := Prod.mk.inj (Option.some.inj found)
      rfl
    | none =>
      rw [stands] at found
      obtain ⟨⟨front, back⟩, later, equal⟩ := Option.map_eq_some_iff.mp found
      obtain ⟨rfl, rfl⟩ := Prod.mk.inj equal
      rw [Option.map_none]
      simp only [ih later, Option.map_some]

/-- **No cut is made, and none is lost, by what is written after the text**, if the mark has no part
in it. -/
theorem cut?_append_of_apart {mark : List Char} (nonempty : mark ≠ [])
    {accepted : List Char → Bool} {tail : List Char} (apart : ∀ c ∈ mark, c ∉ tail)
    (same : ∀ rest, accepted (rest ++ tail) = accepted rest) (text : List Char) :
    cut? mark accepted (text ++ tail) =
      (cut? mark accepted text).map fun (before, after) => (before, after ++ tail) := by
  induction text with
  | nil =>
    refine Option.eq_none_iff_forall_not_mem.mpr fun (before, after) found => ?_
    obtain ⟨c, member⟩ := List.exists_mem_of_ne_nil mark nonempty
    refine apart c member ?_
    rw [← List.nil_append tail, (eq_append_of_cut? found).1]
    exact List.mem_append_right _ (List.mem_append_left _ member)
  | cons c rest ih =>
    have notFirst : ∀ d ∈ mark, tail.head? ≠ some d :=
      fun d member first => apart d member (List.mem_of_head? first)
    have here : (mark.isPrefixOf? (c :: (rest ++ tail))).filter accepted =
        ((mark.isPrefixOf? (c :: rest)).filter accepted).map (· ++ tail) := by
      rw [← List.cons_append, isPrefixOf?_append_of_apart notFirst, Option.filter_map]
      congr 2
      exact funext same
    rw [List.cons_append, cut?, here, ih, cut?]
    cases (mark.isPrefixOf? (c :: rest)).filter accepted with
    | some after => rfl
    | none => cases cut? mark accepted rest <;> rfl

theorem cutFirst?_append_of_some {mark text before after : List Char}
    (found : cutFirst? mark text = some (before, after)) (tail : List Char) :
    cutFirst? mark (text ++ tail) = some (before, after ++ tail) :=
  cut?_append_of_some (fun _ => rfl) found

end ChartGuide.Text
