/-
**What a table holds, read off its keys and its values.**

* `mem_entries_iff`: the entries of a table are its keys with their values.
* `entries_eq_map_keys`: a table is known once its keys are, in their order, and the value of each.
* `map_filter_values`: values that tell their keys are picked as their keys are.
* `get?_modify`: modifying a value changes it and no other.
* `erase_insert`, `erase_eq_self_iff`: what was put in and is erased again leaves no trace, and
  erasing what is not there changes nothing.
* `entries_foldl_erase`: erasing several keys.
* `entries_insert_of_not_mem`, `ofList_entries`: a new key comes last, so a table is read back from
  its entries.
-/

import ChartGuide.Table

namespace ChartGuide.Table

variable {κ α : Type}

theorem eq_of_entries_eq {first second : Table κ α} (same : first.entries = second.entries) :
    first = second := by
  cases first
  cases second
  simpa using same

theorem isEmpty_iff (table : Table κ α) : table.isEmpty = true ↔ table.keys = [] := by
  rw [isEmpty, keys, List.isEmpty_iff, List.map_eq_nil_iff]

variable [DecidableEq κ]

theorem lookup_eq_some_of_mem {entries : List (κ × α)} {key : κ} {value : α}
    (distinct : (entries.map Prod.fst).Nodup) (member : (key, value) ∈ entries) :
    entries.lookup key = some value := by
  induction entries with
  | nil => exact absurd member List.not_mem_nil
  | cons entry rest ih =>
    obtain ⟨other, stored⟩ := entry
    obtain ⟨fresh, restDistinct⟩ := List.nodup_cons.mp distinct
    rw [lookup_cons_eq_if]
    rcases List.mem_cons.mp member with equal | later
    · obtain ⟨rfl, rfl⟩ := Prod.mk.inj equal
      exact if_pos rfl
    · have apart : key ≠ other := by
        rintro rfl
        exact fresh (List.mem_map.mpr ⟨(key, value), later, rfl⟩)
      rw [if_neg apart]
      exact ih restDistinct later

theorem mem_of_lookup_eq_some {entries : List (κ × α)} {key : κ} {value : α}
    (found : entries.lookup key = some value) : (key, value) ∈ entries := by
  induction entries with
  | nil => cases found
  | cons entry rest ih =>
    obtain ⟨other, stored⟩ := entry
    rw [lookup_cons_eq_if] at found
    split at found
    · next same =>
      rw [same, Option.some.inj found]
      exact List.mem_cons_self
    · exact List.mem_cons_of_mem _ (ih found)

theorem mem_entries_iff (table : Table κ α) {key : κ} {value : α} :
    (key, value) ∈ table.entries ↔ table.get? key = some value :=
  ⟨lookup_eq_some_of_mem table.nodup_keys, mem_of_lookup_eq_some⟩

theorem mem_keys_iff (table : Table κ α) {key : κ} :
    key ∈ table.keys ↔ ∃ value, table.get? key = some value := by
  rw [← contains_iff, contains, Option.isSome_iff_exists]

/-- A table is its keys with the values they have. -/
theorem entries_eq_map_keys (table : Table κ α) (value : κ → α)
    (agrees : ∀ key stored, table.get? key = some stored → stored = value key) :
    table.entries = table.keys.map fun key => (key, value key) := by
  have each : ∀ entry ∈ table.entries, entry = (entry.1, value entry.1) := by
    intro entry member
    exact Prod.ext rfl (agrees entry.1 entry.2 (table.mem_entries_iff.mp member))
  rw [keys, List.map_map]
  exact (List.map_id' table.entries).symm.trans (List.map_congr_left each)

/-- Picking values that tell their keys is picking keys. -/
theorem map_filter_values (table : Table κ α) {pick : α → Bool} {wanted : κ → Bool} {own : α → κ}
    (agrees : ∀ key value, table.get? key = some value → pick value = wanted key ∧ own value = key) :
    (table.values.filter pick).map own = table.keys.filter wanted := by
  have each : ∀ entry ∈ table.entries, pick entry.2 = wanted entry.1 ∧ own entry.2 = entry.1 :=
    fun entry member => agrees entry.1 entry.2 (table.mem_entries_iff.mp member)
  have picked : table.entries.filter (pick ∘ Prod.snd) = table.entries.filter (wanted ∘ Prod.fst) :=
    List.filter_congr fun entry member => (each entry member).1
  unfold values keys
  rw [List.filter_map, List.filter_map, picked, List.map_map]
  exact List.map_congr_left fun entry member => (each entry (List.mem_filter.mp member).1).2

theorem get?_modify (table : Table κ α) (key : κ) (change : α → α) (wanted : κ) :
    (table.modify key change).get? wanted =
      if wanted = key then (table.get? key).map change else table.get? wanted := by
  simp only [get?, modify]
  induction table.entries with
  | nil => simp
  | cons entry rest ih =>
    obtain ⟨other, value⟩ := entry
    simp only [List.map_cons, lookup_cons_eq_if, ih]
    by_cases here : wanted = other
    · subst here
      by_cases same : wanted = key
      · subst same
        simp
      · simp [same]
    · by_cases same : wanted = key
      · subst same
        simp [here]
      · simp [here, same]

/-! ### Erasing -/

theorem filter_upsertEntries (key : κ) (update : Option α → α) (entries : List (κ × α)) :
    (upsertEntries key update entries).filter (fun entry => entry.1 ≠ key) =
      entries.filter fun entry => entry.1 ≠ key := by
  induction entries with
  | nil => simp [upsertEntries]
  | cons entry rest ih =>
    obtain ⟨other, value⟩ := entry
    by_cases here : other = key
    · simp [upsertEntries, here]
    · rw [upsertEntries, if_neg here, List.filter_cons, List.filter_cons, ih]

/-- A value that was put in and is erased again leaves no trace. -/
theorem erase_insert (table : Table κ α) (key : κ) (value : α) :
    (table.insert key value).erase key = table.erase key :=
  eq_of_entries_eq (filter_upsertEntries key _ table.entries)

/-- Erasing changes nothing exactly if the key is not there. -/
theorem erase_eq_self_iff (table : Table κ α) (key : κ) :
    table.erase key = table ↔ key ∉ table.keys := by
  constructor
  · intro same
    rw [← get?_eq_none_iff, ← same, get?_erase, if_pos rfl]
  · intro absent
    refine eq_of_entries_eq (List.filter_eq_self.mpr fun entry member => ?_)
    refine decide_eq_true fun same => absent ?_
    exact List.mem_map.mpr ⟨entry, member, same⟩

/-- Erasing keys one after the other drops their entries. -/
theorem entries_foldl_erase (keys : List κ) (table : Table κ α) :
    (keys.foldl erase table).entries = table.entries.filter fun entry => entry.1 ∉ keys := by
  induction keys generalizing table with
  | nil =>
    refine (List.filter_eq_self.mpr fun entry _ => ?_).symm
    exact decide_eq_true List.not_mem_nil
  | cons key keys ih =>
    rw [List.foldl_cons, ih, erase, List.filter_filter]
    refine List.filter_congr fun entry _ => ?_
    simp [Bool.and_comm]

/-! ### Tables put together -/

/-- A key that is not there comes last. -/
theorem upsertEntries_of_not_mem {key : κ} {entries : List (κ × α)}
    (new : key ∉ entries.map Prod.fst) (update : Option α → α) :
    upsertEntries key update entries = entries ++ [(key, update none)] := by
  induction entries with
  | nil => rfl
  | cons entry rest ih =>
    obtain ⟨other, stored⟩ := entry
    rw [List.map_cons, List.mem_cons, not_or] at new
    rw [upsertEntries, if_neg (Ne.symm new.1), ih new.2, List.cons_append]

theorem entries_insert_of_not_mem {table : Table κ α} {key : κ} (new : key ∉ table.keys)
    (value : α) : (table.insert key value).entries = table.entries ++ [(key, value)] :=
  upsertEntries_of_not_mem new _

/-- Entries with keys of their own are put in behind what is there. -/
theorem entries_foldl_insert (table : Table κ α) (entries : List (κ × α))
    (distinct : (table.keys ++ entries.map Prod.fst).Nodup) :
    (entries.foldl (fun table entry => table.insert entry.1 entry.2) table).entries =
      table.entries ++ entries := by
  induction entries generalizing table with
  | nil => simp
  | cons entry rest ih =>
    obtain ⟨key, value⟩ := entry
    have new : key ∉ table.keys := by
      intro there
      have apart := (List.nodup_append.mp distinct).2.2 key there key
      exact apart List.mem_cons_self rfl
    have put := entries_insert_of_not_mem new value
    have keys : (table.insert key value).keys = table.keys ++ [key] := by
      rw [Table.keys, put, List.map_append]
      rfl
    rw [List.foldl_cons, ih _ (by simpa [keys] using distinct), put, List.append_assoc]
    rfl

/-- A table is read back from its entries. -/
theorem ofList_entries (table : Table κ α) : ofList table.entries = table :=
  eq_of_entries_eq (entries_foldl_insert empty table.entries table.nodup_keys)

end ChartGuide.Table
