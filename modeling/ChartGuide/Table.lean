/-
**Tables in the order of first insertion.**

A table pairs distinct keys with values and remembers the order in which the keys came in.
Overwriting a value keeps the key's place; a key that is erased and put back comes last.

The view of a table is `get?` together with `keys`, and each operation has one law for each:

* `get?_upsert`, `keys_upsert`: updating or adding an entry.
* `get?_erase`, `keys_erase`: dropping one.
* `get?_mapValues`, `keys_mapValues`: changing every value in place.
* `contains_iff`: a key is in the table exactly when it has a value.
-/

namespace ChartGuide

/-- Entries with distinct keys, oldest key first. -/
structure Table (κ : Type) (α : Type) where
  entries : List (κ × α)
  nodup_keys : (entries.map Prod.fst).Nodup

namespace Table

variable {κ α β : Type}

def keys (table : Table κ α) : List κ := table.entries.map Prod.fst

def values (table : Table κ α) : List α := table.entries.map Prod.snd

def size (table : Table κ α) : Nat := table.entries.length

def isEmpty (table : Table κ α) : Bool := table.entries.isEmpty

def empty : Table κ α := ⟨[], List.nodup_nil⟩

instance : EmptyCollection (Table κ α) := ⟨empty⟩

instance : Inhabited (Table κ α) := ⟨empty⟩

instance [Repr κ] [Repr α] : Repr (Table κ α) := ⟨fun table width => reprPrec table.entries width⟩

instance [DecidableEq κ] [DecidableEq α] : DecidableEq (Table κ α) := fun first second =>
  decidable_of_iff (first.entries = second.entries) <| by
    cases first; cases second; simp

theorem keys_nodup (table : Table κ α) : table.keys.Nodup := table.nodup_keys

section Lookup

variable [DecidableEq κ]

/-- Looking a key up: the first entry decides, if its key is the one. -/
theorem lookup_cons_eq_if (wanted key : κ) (value : α) (rest : List (κ × α)) :
    ((key, value) :: rest).lookup wanted =
      if wanted = key then some value else rest.lookup wanted := by
  by_cases same : wanted = key
  · simp [same]
  · simp [List.lookup_cons, beq_eq_false_iff_ne.mpr same, same]

def get? (table : Table κ α) (key : κ) : Option α := table.entries.lookup key

def contains (table : Table κ α) (key : κ) : Bool := (table.get? key).isSome

theorem contains_iff (table : Table κ α) (key : κ) :
    table.contains key = true ↔ key ∈ table.keys := by
  simp only [contains, get?, keys, List.lookup_isSome_iff, List.mem_map]
  constructor
  · rintro ⟨entry, member, same⟩
    exact ⟨entry, member, (eq_of_beq same).symm⟩
  · rintro ⟨entry, member, rfl⟩
    exact ⟨entry, member, beq_self_eq_true _⟩

/-- A key has no value exactly when it is not in the table. -/
theorem get?_eq_none_iff (table : Table κ α) (key : κ) :
    table.get? key = none ↔ key ∉ table.keys := by
  rw [← contains_iff, contains]
  simp

end Lookup

section Update

variable [DecidableEq κ]

/-- The entries after `update` was applied to the value of `key`; a new key comes last. -/
def upsertEntries (key : κ) (update : Option α → α) : List (κ × α) → List (κ × α)
  | [] => [(key, update none)]
  | (other, value) :: rest =>
    if other = key then (key, update (some value)) :: rest
    else (other, value) :: upsertEntries key update rest

/-- Updating adds the key at the end unless it is there. -/
theorem keys_upsertEntries (key : κ) (update : Option α → α) (entries : List (κ × α)) :
    (upsertEntries key update entries).map Prod.fst =
      if key ∈ entries.map Prod.fst then entries.map Prod.fst
      else entries.map Prod.fst ++ [key] := by
  induction entries with
  | nil => simp [upsertEntries]
  | cons entry rest ih =>
    obtain ⟨other, value⟩ := entry
    by_cases same : other = key
    · simp [upsertEntries, same]
    · have different : ¬ key = other := fun equal => same equal.symm
      simp only [upsertEntries, same, if_false, List.map_cons, ih, List.mem_cons, different,
        false_or]
      split <;> simp

/-- Updating changes the value of its key and no other. -/
theorem lookup_upsertEntries (key : κ) (update : Option α → α) (entries : List (κ × α))
    (wanted : κ) :
    (upsertEntries key update entries).lookup wanted =
      if wanted = key then some (update (entries.lookup key)) else entries.lookup wanted := by
  induction entries with
  | nil => by_cases same : wanted = key <;> simp [upsertEntries, same]
  | cons entry rest ih =>
    obtain ⟨other, value⟩ := entry
    by_cases here : other = key
    · subst here
      simp only [upsertEntries, if_true, lookup_cons_eq_if]
      split <;> rfl
    · have apart : ¬ key = other := fun equal => here equal.symm
      simp only [upsertEntries, here, if_false, lookup_cons_eq_if, ih, apart]
      by_cases same : wanted = other
      · have different : ¬ wanted = key := fun equal => here (same.symm.trans equal)
        simp [same, here]
      · simp [same]

/-- Applies `update` to the value of a key, to `none` if it has none; a new key comes last. -/
def upsert (table : Table κ α) (key : κ) (update : Option α → α) : Table κ α :=
  ⟨upsertEntries key update table.entries, by
    rw [keys_upsertEntries]
    split
    · exact table.nodup_keys
    · next absent =>
      refine List.nodup_append.mpr ⟨table.nodup_keys, by simp, ?_⟩
      intro first member second last equal
      rw [List.mem_singleton] at last
      exact absent (last ▸ equal ▸ member)⟩

/-- Gives a key a value. -/
def insert (table : Table κ α) (key : κ) (value : α) : Table κ α :=
  table.upsert key fun _ => value

/-- Gives a key a value unless it has one. -/
def insertIfNew (table : Table κ α) (key : κ) (value : α) : Table κ α :=
  table.upsert key fun old => old.getD value

/-- Applies a function to the value of a key, if it has one. -/
def modify (table : Table κ α) (key : κ) (change : α → α) : Table κ α :=
  ⟨table.entries.map fun (other, value) => (other, if other = key then change value else value), by
    simpa [Function.comp_def] using table.nodup_keys⟩

/-- Drops a key and its value. -/
def erase (table : Table κ α) (key : κ) : Table κ α :=
  ⟨table.entries.filter fun entry => entry.1 ≠ key,
    (List.filter_sublist.map Prod.fst).nodup table.nodup_keys⟩

/-- The table of a list of entries; a later value of a key overwrites an earlier one. -/
def ofList (entries : List (κ × α)) : Table κ α :=
  entries.foldl (fun table (key, value) => table.insert key value) empty

end Update

/-- Applies a function to every value, in place. -/
def mapValues (table : Table κ α) (change : κ → α → β) : Table κ β :=
  ⟨table.entries.map fun (key, value) => (key, change key value), by
    simpa [Function.comp_def] using table.nodup_keys⟩

section Laws

theorem keys_mapValues (table : Table κ α) (change : κ → α → β) :
    (table.mapValues change).keys = table.keys := by
  simp [keys, mapValues, Function.comp_def]

variable [DecidableEq κ]

theorem get?_upsert (table : Table κ α) (key : κ) (update : Option α → α) (wanted : κ) :
    (table.upsert key update).get? wanted =
      if wanted = key then some (update (table.get? key)) else table.get? wanted :=
  lookup_upsertEntries key update table.entries wanted

theorem keys_upsert (table : Table κ α) (key : κ) (update : Option α → α) :
    (table.upsert key update).keys =
      if key ∈ table.keys then table.keys else table.keys ++ [key] :=
  keys_upsertEntries key update table.entries

/-- Erasing drops its key and keeps the order of the others. -/
theorem keys_erase (table : Table κ α) (key : κ) :
    (table.erase key).keys = table.keys.filter (· ≠ key) := by
  simp [keys, erase, List.filter_map, Function.comp_def]

theorem get?_erase (table : Table κ α) (key wanted : κ) :
    (table.erase key).get? wanted = if wanted = key then none else table.get? wanted := by
  simp only [get?, erase]
  induction table.entries with
  | nil => simp
  | cons entry rest ih =>
    obtain ⟨other, value⟩ := entry
    by_cases here : other = key
    · subst here
      simp only [ne_eq, not_true_eq_false, decide_false, Bool.false_eq_true, not_false_eq_true,
        List.filter_cons_of_neg, lookup_cons_eq_if]
      rw [ih]
      split <;> rfl
    · simp only [ne_eq, here, not_false_eq_true, decide_true, List.filter_cons_of_pos,
        lookup_cons_eq_if]
      rw [ih]
      by_cases same : wanted = other
      · have different : ¬ wanted = key := fun equal => here (same.symm.trans equal)
        simp [same, here]
      · simp [same]

theorem get?_mapValues (table : Table κ α) (change : κ → α → β) (key : κ) :
    (table.mapValues change).get? key = (table.get? key).map (change key) := by
  simp only [get?, mapValues]
  induction table.entries with
  | nil => rfl
  | cons entry rest ih =>
    obtain ⟨other, value⟩ := entry
    simp only [List.map_cons, lookup_cons_eq_if, ih]
    split
    · next same => simp [same]
    · rfl

theorem keys_modify (table : Table κ α) (key : κ) (change : α → α) :
    (table.modify key change).keys = table.keys := by
  simp [keys, modify, Function.comp_def]

end Laws

end Table

end ChartGuide
