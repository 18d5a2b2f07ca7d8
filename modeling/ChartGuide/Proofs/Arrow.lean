/-
**How arrows are written.**

`Arrow.Spelling` lists the arrows by their lengths: each is a shortest arrow of its style with any
number of further dots, equals signs or hyphens, and with or without a head where the style allows
both.

* `Arrow.read?_eq_some_iff`: an arrow is read exactly if it was written in one of these ways and
  what follows does not make it longer.
* `Arrow.isSome_read?_append`: a text that begins with an arrow still does when more is written.
* `Arrow.read?_append`: the same arrow is read before a text that takes no part in arrows.
* `Arrow.longest_of_read?`: no longer arrow is written where one is read, and
  `Arrow.read?_eq_none_iff` says that none is written where none is read.
-/

import ChartGuide.Arrow
import ChartGuide.Proofs.Text.Trim

namespace ChartGuide.Arrow

theorem read?_eq_none_of_ne {c : Char} (notHyphen : c ≠ '-') (notEquals : c ≠ '=')
    (rest : List Char) : read? (c :: rest) = none := by
  unfold read?
  split
  · next equal => exact absurd (List.cons.inj equal).1 notHyphen
  · next equal => exact absurd (List.cons.inj equal).1 notEquals
  · next equal => exact absurd (List.cons.inj equal).1 notHyphen
  · rfl

/-- No arrow begins with a hyphen that neither a hyphen nor a dot follows. -/
theorem read?_eq_none_of_single {rest : List Char}
    (single : ∀ c, rest.head? = some c → c ≠ '-' ∧ c ≠ '.') : read? ('-' :: rest) = none := by
  unfold read?
  split
  · next equal => exact absurd rfl (single '.' (by rw [(List.cons.inj equal).2]; rfl)).2
  · next equal => cases equal
  · next equal => exact absurd rfl (single '-' (by rw [(List.cons.inj equal).2]; rfl)).1
  · rfl

/-- An arrow as it is written, with the number of characters that make it longer than need be. -/
inductive Spelling where
  | dotted (more : Nat) (headed : Bool)
  | thickHeaded (more : Nat)
  | thickBare (more : Nat)
  | plain (more : Nat)
  | line (more : Nat)
  deriving DecidableEq, Repr

namespace Spelling

/-- The style of a written arrow. -/
def arrow : Spelling → Arrow
  | dotted _ _ => .dotted
  | thickHeaded _ => .thick
  | thickBare _ => .thick
  | plain _ => .plain
  | line _ => .line

/-- The characters of a written arrow. -/
def text : Spelling → List Char
  | dotted more true => '-' :: '.' :: (List.replicate more '.' ++ ['-', '>'])
  | dotted more false => '-' :: '.' :: (List.replicate more '.' ++ ['-'])
  | thickHeaded more => '=' :: '=' :: (List.replicate more '=' ++ ['>'])
  | thickBare more => '=' :: '=' :: '=' :: List.replicate more '='
  | plain more => '-' :: '-' :: (List.replicate more '-' ++ ['>'])
  | line more => '-' :: '-' :: '-' :: List.replicate more '-'

/-- The signs that make a written arrow longer. -/
def continued : Spelling → List Char
  | dotted _ true => []
  | dotted _ false => ['>']
  | thickHeaded _ => []
  | thickBare _ => ['=', '>']
  | plain _ => []
  | line _ => ['-', '>']

/-- A text that does not make the written arrow in front of it any longer. -/
def Stops (spelling : Spelling) (after : List Char) : Prop :=
  ∀ c, after.head? = some c → c ∉ spelling.continued

end Spelling

/-- The signs that arrows are written with. -/
def signs : List Char := ['-', '=', '>', '.']

theorem mem_signs_of_mem_text {spelling : Spelling} {c : Char} (member : c ∈ spelling.text) :
    c ∈ signs := by
  rcases spelling with ⟨more, _ | _⟩ | more | more | more | more <;>
    simp only [Spelling.text, List.mem_cons, List.mem_append, List.mem_replicate, List.not_mem_nil,
      or_false] at member <;>
    simp only [signs, List.mem_cons, List.not_mem_nil, or_false] <;>
    grind

theorem mem_signs_of_mem_continued {spelling : Spelling} {c : Char}
    (member : c ∈ spelling.continued) : c ∈ signs := by
  rcases spelling with ⟨more, _ | _⟩ | more | more | more | more <;>
    simp only [Spelling.continued, List.mem_cons, List.not_mem_nil, or_false] at member <;>
    simp only [signs, List.mem_cons, List.not_mem_nil, or_false] <;>
    grind

/-- A text that does not make any arrow in front of it longer. -/
def Ends (after : List Char) : Prop :=
  ∀ c, after.head? = some c → c ≠ '-' ∧ c ≠ '=' ∧ c ≠ '>'

theorem ends_cons {c : Char} (foreign : c ≠ '-' ∧ c ≠ '=' ∧ c ≠ '>') (rest : List Char) :
    Ends (c :: rest) := by
  intro d first
  obtain rfl := Option.some.inj first
  exact foreign

theorem Ends.stops {after : List Char} (ends : Ends after) (spelling : Spelling) :
    spelling.Stops after := by
  intro c first member
  obtain ⟨notHyphen, notEquals, notAngle⟩ := ends c first
  rcases spelling with ⟨more, _ | _⟩ | more | more | more | more <;>
    simp [Spelling.continued, notHyphen, notEquals, notAngle] at member

theorem eq_replicate_append_dropWhile (c : Char) (text : List Char) :
    ∃ count, text = List.replicate count c ++ text.dropWhile (· == c) := by
  refine ⟨(text.takeWhile (· == c)).length, ?_⟩
  have same : text.takeWhile (· == c) = List.replicate (text.takeWhile (· == c)).length c :=
    List.eq_replicate_of_mem fun d member => by
      simpa using List.all_eq_true.mp List.all_takeWhile d member
  rw [← same]
  exact List.takeWhile_append_dropWhile.symm

theorem eq_cons_replicate_append_dropWhile {c : Char} {text : List Char}
    (first : text.head? = some c) :
    ∃ count, text = c :: (List.replicate count c ++ text.dropWhile (· == c)) := by
  obtain ⟨rest, rfl⟩ := List.head?_eq_some_iff.mp first
  obtain ⟨count, whole⟩ := eq_replicate_append_dropWhile c rest
  refine ⟨count, ?_⟩
  rw [List.dropWhile_cons_of_pos (by simp), ← whole]

theorem dropWhile_eq_self {stroke : Char} {after : List Char}
    (stops : after.head? ≠ some stroke) : after.dropWhile (· == stroke) = after := by
  cases after with
  | nil => rfl
  | cons c rest =>
    refine List.dropWhile_cons_of_neg ?_
    simpa using stops

/-- **A written arrow is read back**, and what follows it is left, unless that makes it longer. -/
theorem read?_spelling (spelling : Spelling) {after : List Char} (stops : spelling.Stops after) :
    read? (spelling.text ++ after) = some (spelling.arrow, after) := by
  have noHead : '>' ∈ spelling.continued → ∀ rest, after ≠ '>' :: rest := by
    intro continued rest equal
    exact stops '>' (by rw [equal]; rfl) continued
  have noMore : ∀ stroke ∈ spelling.continued, after.dropWhile (· == stroke) = after :=
    fun stroke continued => dropWhile_eq_self fun first => stops stroke first continued
  cases spelling with
  | dotted more headed =>
    cases headed with
    | true => simp [Spelling.text, Spelling.arrow, read?]
    | false =>
      simp only [Spelling.text, Spelling.arrow, read?, List.cons_append, List.append_assoc,
        List.nil_append]
      rw [List.dropWhile_append_of_pos (by simp), List.dropWhile_cons_of_neg (by decide)]
      split
      · next rest equal =>
        exact absurd (List.cons.inj equal).2 (noHead (by simp [Spelling.continued]) rest)
      · next rest _ equal => rw [(List.cons.inj equal).2]
      · next _ other => exact absurd rfl (other after)
  | thickHeaded more => simp [Spelling.text, Spelling.arrow, read?]
  | thickBare more =>
    simp only [Spelling.text, Spelling.arrow, read?, List.cons_append, List.dropWhile_cons,
      beq_self_eq_true, if_true]
    rw [List.dropWhile_append_of_pos (by simp), noMore '=' List.mem_cons_self]
    split
    · next rest => exact absurd rfl (noHead (by simp [Spelling.continued]) rest)
    · rfl
  | plain more => simp [Spelling.text, Spelling.arrow, read?]
  | line more =>
    simp only [Spelling.text, Spelling.arrow, read?, List.cons_append, List.dropWhile_cons,
      beq_self_eq_true, if_true]
    rw [List.dropWhile_append_of_pos (by simp), noMore '-' List.mem_cons_self]
    split
    · next rest => exact absurd rfl (noHead (by simp [Spelling.continued]) rest)
    · rfl

/-- What is left after a stroke does not make it longer, unless it is a head. -/
theorem stops_of_dropWhile {stroke : Char} {text : List Char}
    (noHead : ∀ rest, text.dropWhile (· == stroke) = '>' :: rest → False) {c : Char}
    (first : (text.dropWhile (· == stroke)).head? = some c) : c ∉ [stroke, '>'] := by
  have kept : (c == stroke) = false := Text.not_of_head?_dropWhile (p := (· == stroke)) first
  intro member
  rcases List.mem_cons.mp member with rfl | last
  · simp at kept
  · obtain rfl := List.mem_singleton.mp last
    obtain ⟨rest, equal⟩ := List.head?_eq_some_iff.mp first
    exact noHead rest equal

/-- Every arrow that is read was written in one of the ways, and does not run on. -/
theorem exists_spelling_of_read? {text after : List Char} {arrow : Arrow}
    (found : read? text = some (arrow, after)) :
    ∃ spelling : Spelling, spelling.arrow = arrow ∧ text = spelling.text ++ after ∧
      spelling.Stops after := by
  unfold read? at found
  split at found
  · next rest =>
    obtain ⟨more, whole⟩ := eq_replicate_append_dropWhile '.' rest
    split at found
    · next equal =>
      obtain ⟨rfl, rfl⟩ := Prod.mk.inj (Option.some.inj found)
      refine ⟨.dotted more true, rfl, ?_, fun c _ => List.not_mem_nil⟩
      rw [whole, equal]
      simp [Spelling.text]
    · next noHead equal =>
      obtain ⟨rfl, rfl⟩ := Prod.mk.inj (Option.some.inj found)
      refine ⟨.dotted more false, rfl, ?_, fun c first member => ?_⟩
      · rw [whole, equal]
        simp [Spelling.text]
      · obtain rfl := List.mem_singleton.mp member
        obtain ⟨back, rfl⟩ := List.head?_eq_some_iff.mp first
        exact noHead back rfl
    · cases found
  · next rest =>
    split at found
    · next equal =>
      obtain ⟨more, whole⟩ := eq_replicate_append_dropWhile '=' rest
      obtain ⟨rfl, rfl⟩ := Prod.mk.inj (Option.some.inj found)
      refine ⟨.thickHeaded more, rfl, ?_, fun c _ => List.not_mem_nil⟩
      rw [whole, equal]
      simp [Spelling.text]
    · next noHead =>
      split at found
      · next first =>
        obtain ⟨rfl, rfl⟩ := Prod.mk.inj (Option.some.inj found)
        obtain ⟨more, whole⟩ := eq_cons_replicate_append_dropWhile first
        refine ⟨.thickBare more, rfl, ?_, fun _ => stops_of_dropWhile noHead⟩
        rw [Spelling.text, List.cons_append, List.cons_append, List.cons_append, ← whole]
      · cases found
  · next rest =>
    split at found
    · next equal =>
      obtain ⟨more, whole⟩ := eq_replicate_append_dropWhile '-' rest
      obtain ⟨rfl, rfl⟩ := Prod.mk.inj (Option.some.inj found)
      refine ⟨.plain more, rfl, ?_, fun c _ => List.not_mem_nil⟩
      rw [whole, equal]
      simp [Spelling.text]
    · next noHead =>
      split at found
      · next first =>
        obtain ⟨rfl, rfl⟩ := Prod.mk.inj (Option.some.inj found)
        obtain ⟨more, whole⟩ := eq_cons_replicate_append_dropWhile first
        refine ⟨.line more, rfl, ?_, fun _ => stops_of_dropWhile noHead⟩
        rw [Spelling.text, List.cons_append, List.cons_append, List.cons_append, ← whole]
      · cases found
  · cases found

/-- **The arrow at the head of a text** is one that is written there and does not run on. -/
theorem read?_eq_some_iff {text after : List Char} {arrow : Arrow} :
    read? text = some (arrow, after) ↔
      ∃ spelling : Spelling, spelling.arrow = arrow ∧ text = spelling.text ++ after ∧
        spelling.Stops after := by
  refine ⟨exists_spelling_of_read?, ?_⟩
  rintro ⟨spelling, rfl, rfl, stops⟩
  exact read?_spelling spelling stops

/-! ### Longer texts -/

/-- Before any text a written arrow is read as some arrow, perhaps a longer one. -/
theorem isSome_read?_spelling (spelling : Spelling) (after : List Char) :
    (read? (spelling.text ++ after)).isSome = true := by
  cases spelling with
  | dotted more headed =>
    cases headed with
    | true => simp [Spelling.text, read?]
    | false =>
      simp only [Spelling.text, read?, List.cons_append, List.append_assoc, List.nil_append]
      rw [List.dropWhile_append_of_pos (by simp), List.dropWhile_cons_of_neg (by decide)]
      split
      · rfl
      · rfl
      · next _ other => exact absurd rfl (other after)
  | thickHeaded more => simp [Spelling.text, read?]
  | thickBare more =>
    simp only [Spelling.text, read?, List.cons_append, List.head?_cons, if_true]
    split <;> rfl
  | plain more => simp [Spelling.text, read?]
  | line more =>
    simp only [Spelling.text, read?, List.cons_append, List.head?_cons, if_true]
    split <;> rfl

/-- A text that begins with an arrow still does when more is written after it. -/
theorem isSome_read?_append {text : List Char} (found : (read? text).isSome = true)
    (tail : List Char) : (read? (text ++ tail)).isSome = true := by
  obtain ⟨⟨arrow, after⟩, read⟩ := Option.isSome_iff_exists.mp found
  obtain ⟨spelling, -, rfl, -⟩ := exists_spelling_of_read? read
  rw [List.append_assoc]
  exact isSome_read?_spelling spelling (after ++ tail)

/-- A text that takes no part in an arrow in front of it. -/
def Foreign (tail : List Char) : Prop := ∀ c, tail.head? = some c → c ∉ signs

/-- Before a text that takes no part in arrows, an arrow was written before it. -/
theorem eq_append_of_foreign {text tail after : List Char} (foreign : Foreign tail)
    {spelling : Spelling} (whole : text ++ tail = spelling.text ++ after) :
    ∃ more, text = spelling.text ++ more := by
  rcases List.append_eq_append_iff.mp whole with ⟨beyond, text_eq, tail_eq⟩ | ⟨more, equal, -⟩
  · cases beyond with
    | nil => exact ⟨[], by rw [text_eq, List.append_nil, List.append_nil]⟩
    | cons c beyond =>
      have written : c ∈ spelling.text := by simp [text_eq]
      exact absurd (mem_signs_of_mem_text written) (foreign c (by rw [tail_eq]; rfl))
  · exact ⟨more, equal⟩

/-- **The same arrow is read before a text that takes no part in arrows.** -/
theorem read?_append {tail : List Char} (foreign : Foreign tail) (text : List Char) :
    read? (text ++ tail) = (read? text).map fun (arrow, rest) => (arrow, rest ++ tail) := by
  cases found : read? text with
  | some reading =>
    obtain ⟨arrow, after⟩ := reading
    obtain ⟨spelling, rfl, rfl, stops⟩ := exists_spelling_of_read? found
    rw [List.append_assoc]
    refine read?_spelling spelling fun c first member => ?_
    cases after with
    | nil => exact foreign c first (mem_signs_of_mem_continued member)
    | cons d after => exact stops c first member
  | none =>
    refine Option.eq_none_iff_forall_not_mem.mpr fun (arrow, after) longer => ?_
    obtain ⟨spelling, -, whole, -⟩ := exists_spelling_of_read? longer
    obtain ⟨more, rfl⟩ := eq_append_of_foreign foreign whole
    have still := isSome_read?_spelling spelling more
    rw [found] at still
    cases still

/-! ### The longest arrow -/

/-- What is written tells how the arrow is drawn. -/
theorem Spelling.arrow_eq_of_text_eq {spelling other : Spelling}
    (same : spelling.text = other.text) : spelling.arrow = other.arrow := by
  have alone : ∀ written : Spelling, read? written.text = some (written.arrow, []) := by
    intro written
    have stops : written.Stops [] := fun c first => nomatch first
    have found := read?_spelling written stops
    rwa [List.append_nil] at found
  have found := alone spelling
  rw [same, alone other] at found
  exact (Prod.mk.inj (Option.some.inj found)).1.symm

/-- An arrow that does not run on is not the beginning of a longer one. -/
theorem Spelling.isPrefix_text_of_stops {spelling other : Spelling} {after : List Char}
    (stops : spelling.Stops after) (begins : other.text <+: spelling.text ++ after) :
    other.text <+: spelling.text := by
  obtain ⟨more, whole⟩ := begins
  rcases List.append_eq_append_iff.mp whole with ⟨rest, shorter, -⟩ | ⟨beyond, longer, follows⟩
  · exact ⟨rest, shorter.symm⟩
  · cases beyond with
    | nil => exact ⟨[], by rw [longer, List.append_nil, List.append_nil]⟩
    | cons c beyond =>
      -- Written alone, the longer arrow would be read whole, and as the shorter one with a rest.
      have part : spelling.Stops (c :: beyond) := by
        intro d first
        exact stops d (by rw [follows, List.head?_append, first]; rfl)
      have short := read?_spelling spelling part
      have alone : other.Stops [] := fun d first => nomatch first
      have long := read?_spelling other alone
      rw [List.append_nil, longer, short] at long
      exact absurd (Prod.mk.inj (Option.some.inj long)).2 (List.cons_ne_nil _ _)

/-- The arrow that is written at the head of a text, where no longer one is. -/
structure Longest (text : List Char) (arrow : Arrow) (written : List Char) : Prop where
  spelled : ∃ spelling : Spelling, spelling.text = written ∧ spelling.arrow = arrow
  drawn : ∀ spelling : Spelling, spelling.text = written → spelling.arrow = arrow
  begins : written <+: text
  longest : ∀ other : Spelling, other.text <+: text → other.text.length ≤ written.length

/-- **The arrow that is read is the longest one.** -/
theorem longest_of_read? {text after : List Char} {arrow : Arrow}
    (found : read? text = some (arrow, after)) :
    Longest text arrow (text.take (text.length - after.length)) := by
  obtain ⟨spelling, rfl, rfl, stops⟩ := exists_spelling_of_read? found
  have written : (spelling.text ++ after).take ((spelling.text ++ after).length - after.length) =
      spelling.text := by
    rw [List.length_append, Nat.add_sub_cancel, List.take_left]
  rw [written]
  refine ⟨⟨spelling, rfl, rfl⟩, fun _ same => Spelling.arrow_eq_of_text_eq same,
    List.prefix_append _ _, fun other begins => ?_⟩
  exact (spelling.isPrefix_text_of_stops stops begins).length_le

/-- No arrow is read exactly where none is written. -/
theorem read?_eq_none_iff {text : List Char} :
    read? text = none ↔ ∀ spelling : Spelling, ¬ spelling.text <+: text := by
  constructor
  · rintro none spelling ⟨after, rfl⟩
    have some := isSome_read?_spelling spelling after
    rw [none] at some
    cases some
  · intro nowhere
    refine Option.eq_none_iff_forall_not_mem.mpr fun (arrow, after) found => ?_
    obtain ⟨spelling, -, rfl, -⟩ := exists_spelling_of_read? found
    exact nowhere spelling (List.prefix_append _ _)

/-! ### Arrows and blanks -/

/-- The signs of arrows are neither blanks nor separators. -/
theorem apart_of_mem_signs {sign : Char} (member : sign ∈ signs) :
    Text.isBlank sign = false ∧ sign ≠ ';' ∧ sign ≠ '&' := by
  have kept : signs.all (fun sign => !Text.isBlank sign && sign != ';' && sign != '&') =
      true := by decide
  simpa [and_assoc] using List.all_eq_true.mp kept sign member

/-- An arrow does not begin with a blank. -/
theorem isBlank_of_isSome_read? {c : Char} {rest : List Char}
    (arrow : (read? (c :: rest)).isSome = true) : Text.isBlank c = false := by
  refine Bool.eq_false_iff.mpr fun blank => ?_
  have noSign : c ≠ '-' ∧ c ≠ '=' := by
    constructor <;> (rintro rfl; exact absurd blank (by decide))
  rw [read?_eq_none_of_ne noSign.1 noSign.2] at arrow
  cases arrow

/-- Nothing is taken off the front of a text that begins with an arrow. -/
theorem trimLeft_of_isSome_read? {text : List Char} (arrow : (read? text).isSome = true) :
    Text.trimLeft text = text := by
  refine Text.trimLeft_eq_self fun c first => ?_
  obtain ⟨rest, rfl⟩ := List.head?_eq_some_iff.mp first
  exact isBlank_of_isSome_read? arrow

theorem ne_nil_of_isSome_read? {text : List Char}
    (arrow : (read? text).isSome = true) : text ≠ [] := by
  rintro rfl
  cases arrow

/-- A text that begins with an arrow still does once it is trimmed, which takes blanks off its
end. -/
theorem exists_trim {text : List Char} (arrow : (read? text).isSome = true) :
    (read? (Text.trim text)).isSome = true ∧
      ∃ back, text = Text.trim text ++ back ∧ ∀ c ∈ back, Text.isBlank c = true := by
  obtain ⟨front, back, whole, frontBlank, backBlank⟩ := Text.exists_trim text
  have noFront : front = [] := by
    cases front with
    | nil => rfl
    | cons c rest =>
      rw [whole, List.cons_append] at arrow
      have kept := isBlank_of_isSome_read? arrow
      rw [frontBlank c List.mem_cons_self] at kept
      cases kept
  rw [noFront, List.nil_append] at whole
  refine ⟨?_, back, whole, backBlank⟩
  have foreign : Foreign back := by
    intro c first sign
    have blank := backBlank c (List.mem_of_head? first)
    rw [(apart_of_mem_signs sign).1] at blank
    cases blank
  rwa [whole, read?_append foreign, Option.isSome_map] at arrow

end ChartGuide.Arrow
