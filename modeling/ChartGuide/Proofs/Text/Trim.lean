/-
**Trimmed texts: no blank stands at either end.**

Everything a flow shows was trimmed once, and a line is read only after trimming.

* `trimmed_trim`: trimming leaves a trimmed text.
* `trim_eq_self`: a trimmed text is left alone by trimming.
* `trimmed_of_forall`: a text without blanks is trimmed.
* `trim_between`: trimming takes off the blanks around a trimmed text, and `exists_trim` says that
  it takes off nothing else.
-/

import ChartGuide.Text.Blank
import Mathlib.Data.List.TakeWhile

namespace ChartGuide.Text

/-- No blank stands at either end of the text. -/
structure Trimmed (text : List Char) : Prop where
  head : ∀ c, text.head? = some c → isBlank c = false
  last : ∀ c, text.getLast? = some c → isBlank c = false

/-- What is left after dropping from the front begins with a character that is kept. -/
theorem not_of_head?_dropWhile {p : Char → Bool} {text : List Char} {c : Char}
    (first : (text.dropWhile p).head? = some c) : p c = false := by
  have stops := List.head?_dropWhile_not p text
  rw [first] at stops
  exact stops

theorem trimLeft_eq_self {text : List Char}
    (front : ∀ c, text.head? = some c → isBlank c = false) : trimLeft text = text := by
  cases text with
  | nil => rfl
  | cons c rest => exact List.dropWhile_cons_of_neg (by simp [front c rfl])

/-- Trimming takes the blanks at the end off what trimming the front left. -/
theorem trim_isPrefix (text : List Char) : trim text <+: trimLeft text := by
  rw [← List.reverse_suffix, trim, List.reverse_reverse]
  exact List.dropWhile_suffix isBlank

theorem trimmed_trim (text : List Char) : Trimmed (trim text) where
  head c first := by
    obtain ⟨blanks, whole⟩ := trim_isPrefix text
    have front : (trimLeft text).head? = some c := by
      rw [← whole, List.head?_append, first]
      rfl
    exact not_of_head?_dropWhile front
  last c final := by
    rw [trim, List.getLast?_reverse] at final
    exact not_of_head?_dropWhile final

theorem trim_eq_self {text : List Char} (trimmed : Trimmed text) : trim text = text := by
  have back : text.reverse.dropWhile isBlank = text.reverse :=
    trimLeft_eq_self fun c final => trimmed.last c (by rwa [List.head?_reverse] at final)
  rw [trim, trimLeft_eq_self trimmed.head, back, List.reverse_reverse]

theorem trimmed_of_forall {text : List Char} (kept : ∀ c ∈ text, isBlank c = false) :
    Trimmed text where
  head c first := kept c (List.mem_of_head? first)
  last c final := kept c (List.mem_of_getLast? final)

theorem trimmed_append {front back : List Char} (nonempty : front ≠ []) (filled : back ≠ [])
    (head : ∀ c, front.head? = some c → isBlank c = false)
    (last : ∀ c, back.getLast? = some c → isBlank c = false) (middle : List Char) :
    Trimmed (front ++ (middle ++ back)) where
  head c first := by
    rw [List.head?_append, List.head?_eq_some_head nonempty] at first
    exact head c ((List.head?_eq_some_head nonempty).trans first)
  last c final := by
    rw [← List.append_assoc, List.getLast?_append, List.getLast?_eq_some_getLast filled] at final
    exact last c ((List.getLast?_eq_some_getLast filled).trans final)

/-! ### Parts of a text -/

theorem trimLeft_append_of_ne_nil {text : List Char} (kept : trimLeft text ≠ [])
    (tail : List Char) : trimLeft (text ++ tail) = trimLeft text ++ tail := by
  have some : (text.dropWhile isBlank).isEmpty ≠ true := fun none => kept (List.isEmpty_iff.mp none)
  rw [trimLeft, List.dropWhile_append, if_neg some]
  rfl

theorem trimLeft_append_of_eq_nil {text : List Char} (blank : trimLeft text = [])
    (tail : List Char) : trimLeft (text ++ tail) = trimLeft tail := by
  rw [trimLeft] at blank
  rw [trimLeft, List.dropWhile_append, blank, List.isEmpty_nil, if_pos rfl]
  rfl

/-- A run of characters does not go on into a text that begins with a foreign one. -/
theorem takeWhile_append_of_head {p : Char → Bool} {tail : List Char}
    (stops : ∀ c, tail.head? = some c → p c = false) (text : List Char) :
    (text ++ tail).takeWhile p = text.takeWhile p := by
  induction text with
  | nil =>
    cases tail with
    | nil => rfl
    | cons c rest => exact List.takeWhile_cons_of_neg (by simp [stops c rfl])
  | cons c text ih => rw [List.cons_append, List.takeWhile_cons, List.takeWhile_cons, ih]

theorem dropWhile_append_of_head {p : Char → Bool} {tail : List Char}
    (stops : ∀ c, tail.head? = some c → p c = false) (text : List Char) :
    (text ++ tail).dropWhile p = text.dropWhile p ++ tail := by
  induction text with
  | nil =>
    cases tail with
    | nil => rfl
    | cons c rest => exact List.dropWhile_cons_of_neg (by simp [stops c rfl])
  | cons c text ih =>
    rw [List.cons_append, List.dropWhile_cons, List.dropWhile_cons, ih]
    split <;> rfl

/-- A text with a character that is no blank is not taken off as a whole. -/
theorem trimLeft_ne_nil {text : List Char} {c : Char} (member : c ∈ text)
    (kept : isBlank c = false) : trimLeft text ≠ [] := by
  intro nothing
  rw [List.dropWhile_eq_nil_iff.mp nothing c member] at kept
  cases kept

/-- Where nothing stands, nothing but blanks stands. -/
theorem forall_isBlank_nil : ∀ c ∈ ([] : List Char), isBlank c = true :=
  fun _ none => absurd none List.not_mem_nil

/-- Trimming takes off the blanks around a trimmed text. -/
theorem trim_between {front middle back : List Char} (before : ∀ c ∈ front, isBlank c = true)
    (trimmed : Trimmed middle) (after : ∀ c ∈ back, isBlank c = true) :
    trim (front ++ (middle ++ back)) = middle := by
  have noFront : trimLeft (front ++ (middle ++ back)) = trimLeft (middle ++ back) :=
    List.dropWhile_append_of_pos before
  have noBack : ∀ text : List Char, (back.reverse ++ text).dropWhile isBlank =
      text.dropWhile isBlank :=
    fun text => List.dropWhile_append_of_pos fun c member => after c (List.mem_reverse.mp member)
  rw [trim, noFront]
  cases middle with
  | nil =>
    have nothing : trimLeft ([] ++ back) = [] := List.dropWhile_eq_nil_iff.mpr after
    rw [nothing]
    rfl
  | cons c rest =>
    have kept : trimLeft (c :: rest ++ back) = c :: rest ++ back := trimLeft_eq_self trimmed.head
    have stays : trimLeft (c :: rest).reverse = (c :: rest).reverse :=
      trimLeft_eq_self fun d final => trimmed.last d (by rwa [List.head?_reverse] at final)
    rw [kept, List.reverse_append, noBack]
    exact (congrArg List.reverse stays).trans (List.reverse_reverse _)

/-- Trimming takes off nothing but blanks. -/
theorem exists_trim (text : List Char) :
    ∃ front back, text = front ++ (trim text ++ back) ∧ (∀ c ∈ front, isBlank c = true) ∧
      ∀ c ∈ back, isBlank c = true := by
  refine ⟨text.takeWhile isBlank, ((trimLeft text).reverse.takeWhile isBlank).reverse, ?_,
    fun c member => List.all_eq_true.mp List.all_takeWhile c member,
    fun c member => List.all_eq_true.mp List.all_takeWhile c (List.mem_reverse.mp member)⟩
  rw [trim, ← List.reverse_append, List.takeWhile_append_dropWhile, List.reverse_reverse]
  exact List.takeWhile_append_dropWhile.symm

/-- A text with a space in its midst is trimmed part by part, if its parts have blanks only where
the text has its ends. -/
theorem trim_append_space {first last gap back : List Char} (firstParts : first = gap ++ trim first)
    (before : ∀ c ∈ gap, isBlank c = true) (nonempty : trim first ≠ [])
    (lastParts : last = trim last ++ back) (after : ∀ c ∈ back, isBlank c = true)
    (filled : trim last ≠ []) :
    trim (first ++ ' ' :: last) = trim first ++ ' ' :: trim last := by
  have trimmed : Trimmed (trim first ++ ([' '] ++ trim last)) :=
    trimmed_append nonempty filled (trimmed_trim first).head (trimmed_trim last).last _
  have whole : first ++ ' ' :: last = gap ++ ((trim first ++ ([' '] ++ trim last)) ++ back) := by
    refine (congrArg₂ (· ++ ' ' :: ·) firstParts lastParts).trans ?_
    simp
  rw [whole, trim_between before trimmed after]
  rfl

end ChartGuide.Text
