/-
**Texts that keep apart what stands before them.**

A lexeme can run on into the text that is written after it, and a shape may end elsewhere once it
does. A parting text lets neither happen: it is empty or begins with a blank or a separator, and a
shape may end before it.

* `Shape.Reads.append`: before a parting text a shape ends where it ended, if a shape may end there.
* `Lexeme.ident?_append_of_parting`, `Lexeme.ident?_value_append`: before a parting text an
  identifier is read as it was, and as it was written.
* `Lexeme.read_append_of_shape`: and a shape is read as it was, unless one that is tried before it
  is now closed.
-/

import ChartGuide.Proofs.Arrow
import ChartGuide.Proofs.Token.Readings

namespace ChartGuide

/-- A text that keeps apart what stands before it from what stands in it. -/
structure Parting (tail : List Char) : Prop where
  head : ∀ c, tail.head? = some c → Text.isBlank c = true ∨ c = ';' ∨ c = '&'
  ends : Shape.endsBefore tail = true

namespace Parting

variable {tail : List Char}

/-- A parting text begins with no character of another use. -/
theorem head?_ne (parting : Parting tail) {sign : Char} (kept : Text.isBlank sign = false)
    (other : sign ≠ ';' ∧ sign ≠ '&') : tail.head? ≠ some sign := by
  intro first
  rcases parting.head sign first with blank | same | same
  · rw [kept] at blank
    cases blank
  · exact other.1 same
  · exact other.2 same

theorem foreign (parting : Parting tail) : Arrow.Foreign tail := by
  intro c first sign
  obtain ⟨kept, other⟩ := Arrow.apart_of_mem_signs sign
  exact parting.head?_ne kept other first

theorem not_isIdentChar (parting : Parting tail) {c : Char} (first : tail.head? = some c) :
    Lexeme.isIdentChar c = false := by
  rcases parting.head c first with blank | rfl | rfl
  · refine Bool.eq_false_iff.mpr fun ident => ?_
    rw [Lexeme.isBlank_of_isIdentChar ident] at blank
    cases blank
  · decide
  · decide

end Parting

theorem parting_nil : Parting [] where
  head _ first := nomatch first
  ends := rfl

/-- A space parts if an arrow follows it. -/
theorem parting_space {text : List Char} (arrow : (Arrow.read? text).isSome = true) :
    Parting (' ' :: text) where
  head c first := by
    obtain rfl := Option.some.inj first
    exact .inl (by decide)
  ends := by
    have begins : Text.trimLeft (' ' :: text) = Text.trimLeft text := rfl
    rw [Shape.endsBefore, begins, Arrow.trimLeft_of_isSome_read? arrow, arrow, Bool.or_true]

section Append

variable {tail : List Char} (parting : Parting tail)
include parting

/-! ### Shapes -/

namespace Shape

/-- A shape may end in front of a text exactly if it may with a parting text after it. -/
theorem endsBefore_append (text : List Char) : endsBefore (text ++ tail) = endsBefore text := by
  by_cases blank : Text.trimLeft text = []
  · have ended : endsBefore text = true := by
      simp only [endsBefore, blank, List.isEmpty_nil, Bool.true_or]
    have next : endsBefore (text ++ tail) = endsBefore tail := by
      simp only [endsBefore, Text.trimLeft_append_of_eq_nil blank]
    rw [ended, next, parting.ends]
  · obtain ⟨c, rest, begins⟩ := List.exists_cons_of_ne_nil blank
    have styled : [':', ':', ':'].isPrefixOf (c :: rest ++ tail) =
        [':', ':', ':'].isPrefixOf (c :: rest) := by
      refine Text.isPrefixOf_append (fun d member => ?_) _
      obtain rfl : d = ':' := by simpa using member
      exact parting.head?_ne (by decide) (by decide)
    have arrow : (Arrow.read? (c :: rest ++ tail)).isSome = (Arrow.read? (c :: rest)).isSome := by
      rw [Arrow.read?_append parting.foreign, Option.isSome_map]
    rw [endsBefore, Text.trimLeft_append_of_ne_nil blank, begins, styled, arrow, endsBefore, begins]
    rfl

/-- **Before a parting text a shape ends where it ended**, if a shape may end there. -/
theorem Reads.append {shape : Shape} {text inside after : List Char}
    (reads : shape.Reads text inside after) (ends : endsBefore after = true) :
    shape.Reads (text ++ tail) inside (after ++ tail) := by
  cases reads with
  | @quoted body quoted inside gap skipped after begins inner closed =>
    have kept : Text.trimLeft body ≠ [] := by
      rw [begins]
      exact List.cons_ne_nil _ _
    rw [List.append_assoc]
    refine .quoted ?_ (Text.cutFirst?_append_of_some inner tail)
      (Text.cutFirst?_append_of_some closed tail)
    rw [Text.trimLeft_append_of_ne_nil kept, begins]
    rfl
  | @bare body inside after begins closed =>
    have kept := trimLeft_ne_nil_of_closing? closed
    have still :=
      Text.cut?_append_of_some (endsBefore_append parting) (cut?_of_closing? closed ends)
    rw [List.append_assoc]
    refine .bare (head?_trimLeft_append kept tail ▸ begins) ?_
    rw [closing?, still, Option.some_or]

end Shape

/-! ### Readings -/

namespace Lexeme

/-- An identifier does not run on into a parting text. -/
theorem identTail_append_of_parting (text : List Char) :
    identTail (text ++ tail) = identTail text := by
  induction text with
  | nil =>
    cases tail with
    | nil => rfl
    | cons c rest =>
      have stops : identTail (c :: rest) = [] := by
        rw [identTail, parting.not_isIdentChar rfl]
        rfl
      exact stops
  | cons c text ih =>
    have arrow : (Arrow.read? (c :: (text ++ tail))).isNone = (Arrow.read? (c :: text)).isNone := by
      rw [← List.cons_append, Arrow.read?_append parting.foreign, Option.isNone_map]
    rw [List.cons_append, identTail, identTail, arrow, ih]

omit parting in
/-- What was read of an identifier is read again where it stands alone. -/
theorem identTail_identTail (text : List Char) : identTail (identTail text) = identTail text := by
  induction text with
  | nil => rfl
  | cons c rest ih =>
    rw [identTail]
    split
    · next continues =>
      obtain ⟨ident, noArrow⟩ := Bool.and_eq_true_iff.mp continues
      -- An arrow in the identifier alone would be one in the text, too.
      have alone : (Arrow.read? (c :: identTail rest)).isNone = true := by
        obtain ⟨more, whole⟩ := identTail_isPrefix rest
        rw [Option.isNone_iff_eq_none, ← Option.not_isSome_iff_eq_none] at noArrow ⊢
        intro arrow
        refine noArrow ?_
        rw [← whole]
        exact Arrow.isSome_read?_append arrow more
      rw [identTail, ident, alone, ih]
      rfl
    · rfl

theorem ident?_append_of_parting {text : List Char} {lexeme : Lexeme}
    (found : ident? text = some lexeme) :
    ident? (text ++ tail) = some ⟨.ident, lexeme.value, lexeme.rest ++ tail⟩ := by
  obtain ⟨c, rest, rfl, first, rfl⟩ := exists_of_ident? found
  rw [List.cons_append, ident?, if_pos first, identTail_append_of_parting parting,
    List.drop_append_of_le_length (identTail_isPrefix rest).length_le]

/-- **An identifier is read as it was written**, whatever stood after it before. -/
theorem ident?_value_append {text : List Char} {lexeme : Lexeme}
    (found : ident? text = some lexeme) :
    ident? (lexeme.value ++ tail) = some ⟨.ident, lexeme.value, tail⟩ := by
  obtain ⟨c, rest, rfl, first, rfl⟩ := exists_of_ident? found
  rw [List.cons_append, ident?, if_pos first, identTail_append_of_parting parting,
    identTail_identTail, List.drop_left]

/-- **Before a parting text a shape is read as before**, if a shape may end where it ended, and if
none of the shapes that are tried before can be read now. -/
theorem read_append_of_shape {c : Char} {rest : List Char} {shape : Shape}
    (won : (read (some .ident) c rest).kind = .shape shape)
    (ends : Shape.endsBefore (read (some .ident) c rest).rest = true)
    (unrivalled : shape.Unrivalled (c :: (rest ++ tail))) :
    read (some .ident) c (rest ++ tail) = ⟨.shape shape, (read (some .ident) c rest).value,
      (read (some .ident) c rest).rest ++ tail⟩ := by
  obtain ⟨-, noArrow, noIdent, -⟩ := shape?_of_kind_read won
  have reads := Shape.read?_eq_some_iff.mp (unrivalled_of_kind_read won).1
  refine read_of_shape? ?_ noIdent (shape?_eq_some_iff.mpr ⟨?_, unrivalled⟩)
  · rw [← List.cons_append, Arrow.read?_append parting.foreign, noArrow]
    rfl
  · exact Shape.read?_eq_some_iff.mpr (reads.append parting ends)

end Lexeme

end Append

end ChartGuide
