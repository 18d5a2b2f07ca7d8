/-
**Cutting a text at a mark.**

`cut?` looks for the first place where a mark stands and what follows it is acceptable, and gives
the text before the mark and the text after it. Places may overlap: in `)))` the mark `))` stands
twice.

* `isPrefixOf?_eq_some_iff`: what is left after a mark at the head.
* `eq_append_of_cut?`: a cut loses nothing but the mark.
* `length_of_cut?`: what follows a cut is no longer than the text.
-/

namespace ChartGuide.Text

/-- The first cut of the text at the nonempty `mark` whose rest is `accepted`: the text before the
mark and the text after it. -/
def cut? (mark : List Char) (accepted : List Char → Bool) :
    List Char → Option (List Char × List Char)
  | [] => none
  | c :: rest =>
    match (mark.isPrefixOf? (c :: rest)).filter accepted with
    | some after => some ([], after)
    | none => (cut? mark accepted rest).map fun (before, after) => (c :: before, after)

/-- The first cut of the text at the mark, whatever follows. -/
def cutFirst? (mark : List Char) : List Char → Option (List Char × List Char) :=
  cut? mark fun _ => true

/-- A mark stands at the head of a text exactly when the text is the mark and what is left. -/
theorem isPrefixOf?_eq_some_iff {mark text after : List Char} :
    mark.isPrefixOf? text = some after ↔ text = mark ++ after := by
  induction mark generalizing text with
  | nil =>
    show some text = some after ↔ text = [] ++ after
    simp
  | cons m mark ih =>
    cases text with
    | nil =>
      show none = some after ↔ [] = m :: mark ++ after
      simp
    | cons c text =>
      show (if m == c then mark.isPrefixOf? text else none) = some after ↔
        c :: text = m :: mark ++ after
      by_cases same : m = c
      · simp [same, ih]
      · have other : ¬ c = m := fun equal => same equal.symm
        simp [same, other]

/-- A cut loses nothing but the mark, and what follows it is accepted. -/
theorem eq_append_of_cut? {mark : List Char} {accepted : List Char → Bool}
    {text before after : List Char} (found : cut? mark accepted text = some (before, after)) :
    text = before ++ (mark ++ after) ∧ accepted after = true := by
  induction text generalizing before with
  | nil => simp [cut?] at found
  | cons c rest ih =>
    rw [cut?] at found
    split at found
    · next here =>
      obtain ⟨rfl, rfl⟩ := Prod.mk.inj (Option.some.inj found)
      obtain ⟨stands, fits⟩ := Option.filter_eq_some_iff.mp here
      exact ⟨by simpa using isPrefixOf?_eq_some_iff.mp stands, fits⟩
    · obtain ⟨⟨front, back⟩, later, equal⟩ := Option.map_eq_some_iff.mp found
      obtain ⟨rfl, rfl⟩ := Prod.mk.inj equal
      obtain ⟨split, fits⟩ := ih later
      exact ⟨by simp [split], fits⟩

/-- What follows a cut is no longer than the text. -/
theorem length_of_cut? {mark : List Char} {accepted : List Char → Bool}
    {text before after : List Char} (found : cut? mark accepted text = some (before, after)) :
    after.length ≤ text.length := by
  have whole := (eq_append_of_cut? found).1
  simp only [whole, List.length_append]
  omega

end ChartGuide.Text
