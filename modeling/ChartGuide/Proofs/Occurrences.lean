/-
**Lists without their repetitions.**

Ids are listed in the order of first mention, and of equal choices the first is kept: in both cases
`List.eraseDups` keeps the first occurrence of each item.

* `nodup_eraseDups`, `eraseDups_of_nodup`: no item is left twice, and a list without repetitions is
  left alone.
* `eraseDups_append_singleton`: one more item counts if it is new, and
  `eraseDups_append_append_of_subset` says that items in the midst do not count if they are not.
* `eraseDups_eq_singleton_iff`: one item is left if nothing but repetitions of it is there.
* `filter_eraseDups`: repetitions may be dropped before some items are taken out, or after.
* `eraseDups_map_eraseDups`: repetitions may also be dropped before a function that makes more
  items equal.
-/

import Mathlib.Data.List.Induction

namespace ChartGuide

variable {α β : Type} [BEq α] [LawfulBEq α] [BEq β] [LawfulBEq β]

theorem nodup_eraseDups : ∀ items : List α, items.eraseDups.Nodup
  | [] => List.nodup_nil
  | item :: rest => by
    rw [List.eraseDups_cons]
    refine List.nodup_cons.mpr ⟨?_, nodup_eraseDups _⟩
    rw [List.mem_eraseDups, List.mem_filter]
    rintro ⟨_, different⟩
    simp at different
termination_by items => items.length
decreasing_by exact Nat.lt_succ_of_le (List.length_filter_le _ rest)

theorem eraseDups_of_nodup {items : List α} (distinct : items.Nodup) :
    items.eraseDups = items := by
  induction items with
  | nil => rfl
  | cons item rest ih =>
    obtain ⟨fresh, restDistinct⟩ := List.nodup_cons.mp distinct
    have kept : rest.filter (fun other => !other == item) = rest := by
      refine List.filter_eq_self.mpr fun other member => ?_
      have apart : other ≠ item := fun same => fresh (same ▸ member)
      simp [apart]
    rw [List.eraseDups_cons, kept, ih restDistinct]

theorem eraseDups_append_singleton (items : List α) (item : α) :
    (items ++ [item]).eraseDups =
      if item ∈ items then items.eraseDups else items.eraseDups ++ [item] := by
  rw [List.eraseDups_append]
  by_cases known : item ∈ items
  · simp [List.removeAll, known]
  · simp [List.removeAll, known, List.eraseDups_cons]

/-- Items that occurred before do not count again. -/
theorem eraseDups_append_append_of_subset {items again : List α} (known : again ⊆ items)
    (later : List α) : (items ++ (again ++ later)).eraseDups = (items ++ later).eraseDups := by
  have dropped : (again ++ later).removeAll items = later.removeAll items := by
    have none : again.filter (fun item => !items.elem item) = [] :=
      List.filter_eq_nil_iff.mpr fun item member => by simp [known member]
    unfold List.removeAll
    rw [List.filter_append, none, List.nil_append]
  rw [List.eraseDups_append, List.eraseDups_append, dropped]

theorem eraseDups_append_cons_of_mem {items : List α} {item : α} (known : item ∈ items)
    (later : List α) : (items ++ item :: later).eraseDups = (items ++ later).eraseDups := by
  have single : [item] ⊆ items := List.cons_subset.mpr ⟨known, List.nil_subset _⟩
  exact eraseDups_append_append_of_subset single later

omit [LawfulBEq α] in
theorem head?_eraseDups (items : List α) : items.eraseDups.head? = items.head? := by
  cases items with
  | nil => rfl
  | cons item rest => rw [List.eraseDups_cons, List.head?_cons, List.head?_cons]

omit [LawfulBEq α] in
theorem eraseDups_eq_nil_iff {items : List α} : items.eraseDups = [] ↔ items = [] := by
  rw [← List.head?_eq_none_iff, head?_eraseDups, List.head?_eq_none_iff]

/-- One item is left exactly if there are items, and all are equal to it. -/
theorem eraseDups_eq_singleton_iff {items : List α} {item : α} :
    items.eraseDups = [item] ↔ items ≠ [] ∧ ∀ other ∈ items, other = item := by
  cases items with
  | nil => simp
  | cons first rest =>
    rw [List.eraseDups_cons, List.cons.injEq, eraseDups_eq_nil_iff, List.filter_eq_nil_iff,
      List.forall_mem_cons]
    simp only [ne_eq, reduceCtorEq, not_false_eq_true, true_and]
    refine and_congr_right fun same => ?_
    simp [same]

/-- Repetitions may be dropped before some items are taken out, or after. -/
theorem filter_eraseDups (keep : α → Bool) (items : List α) :
    items.eraseDups.filter keep = (items.filter keep).eraseDups := by
  -- Items join at the end, where the first occurrences are already known.
  induction items using List.reverseRecOn with
  | nil => rfl
  | append_singleton items item ih =>
    rw [eraseDups_append_singleton, List.filter_append]
    by_cases kept : keep item = true
    · have single : [item].filter keep = [item] := by simp [kept]
      have stillKnown : item ∈ items.filter keep ↔ item ∈ items := by simp [kept]
      rw [single, eraseDups_append_singleton]
      simp only [stillKnown]
      split
      · exact ih
      · rw [List.filter_append, ih, single]
    · have dropped : [item].filter keep = [] := by simp [kept]
      rw [dropped, List.append_nil]
      split
      · exact ih
      · rw [List.filter_append, dropped, List.append_nil, ih]

/-- Repetitions may also be dropped before a function that makes more items equal. -/
theorem eraseDups_map_eraseDups (change : α → β) (items : List α) :
    (items.eraseDups.map change).eraseDups = (items.map change).eraseDups := by
  induction items using List.reverseRecOn with
  | nil => rfl
  | append_singleton items item ih =>
    have sameImages :
        change item ∈ items.eraseDups.map change ↔ change item ∈ items.map change := by
      simp only [List.mem_map, List.mem_eraseDups]
    rw [List.map_append, List.map_singleton, eraseDups_append_singleton,
      eraseDups_append_singleton]
    by_cases known : item ∈ items
    · rw [if_pos known, if_pos (List.mem_map_of_mem known), ih]
    · rw [if_neg known, List.map_append, List.map_singleton, eraseDups_append_singleton, ih]
      simp only [sameImages]

/-- Where the keys of some items are distinct, only one item has the key of an item. -/
theorem filter_eq_singleton_of_nodup {γ : Type} {key : γ → α} {items : List γ} {item : γ}
    (distinct : (items.map key).Nodup) (member : item ∈ items) :
    (items.filter fun other => key other == key item) = [item] := by
  induction items with
  | nil => exact absurd member List.not_mem_nil
  | cons first rest ih =>
    obtain ⟨fresh, later⟩ := List.nodup_cons.mp distinct
    rcases List.mem_cons.mp member with rfl | inRest
    · have noOther : (rest.filter fun other => key other == key item) = [] := by
        refine List.filter_eq_nil_iff.mpr fun other otherMember same => fresh ?_
        rw [← eq_of_beq same]
        exact List.mem_map_of_mem otherMember
      rw [List.filter_cons, if_pos (beq_self_eq_true (key item)), noOther]
    · have different : ¬ (key first == key item) = true := by
        intro same
        rw [eq_of_beq same] at fresh
        exact fresh (List.mem_map_of_mem inRest)
      rw [List.filter_cons, if_neg different, ih later inRest]

end ChartGuide
