/-
**What follows a declaration on its line.**

A declaration is an id and a shape that closes at the end of the text. When an arrow follows, the
declaration is scanned as it was, unless a shape that is tried before its own can now be read at its
opening bracket: each shape looks for its closing bracket in all of the line.

* `Token.Declares`: the tokens of a declaration, and `Token.Declaration` its lexemes.
* `Token.Declares.scan_append_iff`: when its tokens stay as they are.
* `Token.Declares.scan_id_append`: the tokens where the id is written alone.
* `Token.Declares.trim`: a declaration without the blanks in front.
-/

import ChartGuide.Line
import ChartGuide.Proofs.Token.Columns

namespace ChartGuide

namespace Token

/-- Whether a text declares a node and says nothing else: its tokens are an id and a shape, which
reaches from the given column to the end. -/
def Declares (text : List Char) (id : String) (face : Face) (column : Nat) : Prop :=
  ∃ start stop, scan text =
    [⟨.ident, id, start, stop⟩, ⟨.shape face.shape, face.text, column, text.length⟩]

/-- The lexemes of a declaration and the blanks before them. -/
structure Declaration (id : String) (face : Face) where
  gap : List Char
  between : List Char
  bracket : Char
  body : List Char
  gap_blank : ∀ c ∈ gap, Text.isBlank c = true
  between_blank : ∀ c ∈ between, Text.isBlank c = true
  noArrow : Arrow.read? (id.toList ++ (between ++ bracket :: body)) = none
  ident : Lexeme.ident? (id.toList ++ (between ++ bracket :: body)) =
    some ⟨.ident, id.toList, between ++ bracket :: body⟩
  kept : Text.isBlank bracket = false
  shape : Lexeme.read (some .ident) bracket body = ⟨.shape face.shape, face.text.toList, []⟩

variable {id : String} {face : Face}

namespace Declaration

variable (parts : Declaration id face)

def text : List Char :=
  parts.gap ++ (id.toList ++ (parts.between ++ parts.bracket :: parts.body))

/-- The column of the opening bracket. -/
def column : Nat := parts.gap.length + id.toList.length + parts.between.length

/-- The text from the opening bracket on. -/
def bracketed : List Char := parts.bracket :: parts.body

theorem kind_shape :
    (Lexeme.read (some .ident) parts.bracket parts.body).kind = .shape face.shape := by
  rw [parts.shape]

theorem drop_column : parts.text.drop parts.column = parts.bracketed := by
  have split : parts.text = (parts.gap ++ id.toList ++ parts.between) ++ parts.bracketed := by
    simp [text, bracketed]
  have front : parts.column = (parts.gap ++ id.toList ++ parts.between).length := by
    rw [column, List.length_append, List.length_append]
  rw [split, front, List.drop_left]

theorem column_add : parts.column + parts.bracketed.length = parts.text.length := by
  simp only [column, bracketed, text, List.length_append]
  omega

/-- **In front of a parting text the id is scanned as it was**, and what comes next is scanned from
the opening bracket on. -/
theorem scanFrom_append {tail : List Char} (parting : Parting tail) :
    scanFrom none 0 (parts.text ++ tail) =
      ⟨.ident, id, parts.gap.length, parts.gap.length + id.toList.length⟩ ::
        scanFrom (some .ident) parts.column (parts.bracket :: (parts.body ++ tail)) := by
  have noArrow : Arrow.read? (id.toList ++ (parts.between ++ parts.bracket :: parts.body) ++ tail) =
      none := by
    rw [Arrow.read?_append parting.foreign, parts.noArrow]
    rfl
  have ident := Lexeme.ident?_append_of_parting parting parts.ident
  have after : parts.between ++ parts.bracket :: parts.body ++ tail =
      parts.between ++ parts.bracket :: (parts.body ++ tail) := by simp
  rw [text, List.append_assoc, scanFrom_blank_append parts.gap_blank,
    scanFrom_of_ident? none _ noArrow ident, after, scanFrom_blank_append parts.between_blank,
    Nat.zero_add, String.ofList_toList, column]

/-- The tokens of a declaration are its id and its shape. -/
theorem scan_text : scan parts.text =
    [⟨.ident, id, parts.gap.length, parts.gap.length + id.toList.length⟩,
      ⟨.shape face.shape, face.text, parts.column, parts.text.length⟩] := by
  have scanned := parts.scanFrom_append parting_nil
  have stop : parts.column + ((parts.bracket :: parts.body).length - ([] : List Char).length) =
      parts.text.length := parts.column_add
  have nothing : scanFrom (some (.shape face.shape)) parts.text.length [] = [] := by rw [scanFrom]
  rw [List.append_nil, List.append_nil, scanFrom_cons _ _ parts.kept, parts.shape, stop, nothing,
    String.ofList_toList] at scanned
  rw [scan, scanned]
  rfl

theorem declares : Declares parts.text id face parts.column := ⟨_, _, parts.scan_text⟩

end Declaration

/-- A text that declares a node is put together from its lexemes. -/
theorem Declares.exists_declaration {text : List Char} {column : Nat}
    (declares : Declares text id face column) :
    ∃ parts : Declaration id face, text = parts.text ∧ column = parts.column := by
  obtain ⟨start, stop, scanned⟩ := declares
  obtain ⟨later, first, glued⟩ := exists_of_foldr_glue scanned (by simp)
  obtain ⟨last, rfl, -⟩ := exists_of_foldr_glue glued (by simp)
  obtain ⟨gap, c, rest, after, rfl, gapBlank, -, readId, -, idStop, next⟩ :=
    exists_read_of_scanFrom first
  obtain ⟨between, bracket, body, last, rfl, betweenBlank, kept, readFace, atColumn, atEnd, -⟩ :=
    exists_read_of_scanFrom next.symm
  obtain ⟨noArrow, ident⟩ := Lexeme.ident?_of_kind_read (congrArg Lexeme.kind readId)
  rw [readId] at ident
  obtain ⟨-, written, -, -⟩ := Lexeme.ident?_eq_some ident
  rw [written] at ident noArrow
  have lengths := congrArg List.length written
  have shorter := Lexeme.length_read_lt (some .ident) bracket body
  rw [show Lexeme.read (some .ident) bracket body = _ from readFace] at shorter
  simp only [List.length_append, List.length_cons] at idStop atColumn atEnd lengths shorter
  -- The shape reaches to the end, so nothing is left after it.
  obtain rfl : last = [] := List.eq_nil_of_length_eq_zero (by omega)
  refine ⟨⟨gap, between, bracket, body, gapBlank, betweenBlank, noArrow, ident, kept, readFace⟩,
    congrArg (gap ++ ·) written, ?_⟩
  simp only [Declaration.column]
  omega

section Arrow

variable {following : List Char} (arrow : (Arrow.read? following).isSome = true)
include arrow

/-- After a space an arrow begins what it begins without. -/
theorem foldr_glue_scanFrom_space (before : Option Kind) (column : Nat) :
    (scanFrom before column (' ' :: following)).foldr glue [] =
      (scan following).map (moved (column + 1)) := by
  rw [scanFrom, if_pos (by decide), scanFrom_of_arrow arrow before none,
    ← Nat.zero_add (column + 1), scanFrom_add, foldr_glue_map_moved, Nat.zero_add, scan]

/-- **An arrow after a declaration leaves its tokens alone exactly if no shape that is tried before
its own can be read at its opening bracket**, now that more follows. -/
theorem Declares.scan_append_iff {text : List Char} {column : Nat}
    (declares : Declares text id face column) :
    scan (text ++ ' ' :: following) =
        scan text ++ (scan following).map (moved (text.length + 1)) ↔
      face.shape.Unrivalled (text.drop column ++ ' ' :: following) := by
  have parting := parting_space arrow
  obtain ⟨parts, rfl, rfl⟩ := declares.exists_declaration
  rw [parts.drop_column, parts.scan_text, scan, parts.scanFrom_append parting,
    scanFrom_cons _ _ parts.kept]
  constructor
  · intro same
    obtain ⟨later, first, glued⟩ := exists_of_foldr_glue same (by simp)
    obtain ⟨last, rfl, -⟩ := exists_of_foldr_glue glued (by simp)
    have second := (List.cons.inj (List.cons.inj first).2).1
    exact (Lexeme.unrivalled_of_kind_read (congrArg Token.kind second)).2
  · intro unrivalled
    have ends : Shape.endsBefore
        (Lexeme.read (some .ident) parts.bracket parts.body).rest = true := by
      rw [parts.shape]
      rfl
    have still : Lexeme.read (some .ident) parts.bracket (parts.body ++ ' ' :: following) =
        ⟨.shape face.shape, face.text.toList, ' ' :: following⟩ := by
      rw [Lexeme.read_append_of_shape parting parts.kind_shape ends unrivalled, parts.shape]
      rfl
    have stop : parts.column + ((parts.bracket :: (parts.body ++ ' ' :: following)).length -
        (' ' :: following).length) = parts.text.length := by
      rw [← parts.column_add, Declaration.bracketed, ← List.cons_append, List.length_append,
        Nat.add_sub_cancel]
    rw [still, stop, String.ofList_toList, List.foldr_cons, List.foldr_cons,
      foldr_glue_scanFrom_space arrow, glue_of_ne, glue_of_ne]
    · rfl
    all_goals simp

/-- Where its id is written alone, an arrow follows it as well. -/
theorem Declares.scan_id_append {text : List Char} {column : Nat}
    (declares : Declares text id face column) :
    scan (id.toList ++ ' ' :: following) = ⟨.ident, id, 0, id.toList.length⟩ ::
      (scan following).map (moved (id.toList.length + 1)) := by
  have parting := parting_space arrow
  obtain ⟨parts, rfl, rfl⟩ := declares.exists_declaration
  -- An arrow in the id alone would be one in the declaration, too.
  have alone : Arrow.read? id.toList = none := by
    rw [← Option.not_isSome_iff_eq_none]
    intro inside
    have longer := Arrow.isSome_read?_append inside (parts.between ++ parts.bracketed)
    rw [Declaration.bracketed, parts.noArrow] at longer
    cases longer
  have noArrow : Arrow.read? (id.toList ++ ' ' :: following) = none := by
    rw [Arrow.read?_append parting.foreign, alone]
    rfl
  have ident : Lexeme.ident? (id.toList ++ ' ' :: following) =
      some ⟨.ident, id.toList, ' ' :: following⟩ :=
    Lexeme.ident?_value_append parting parts.ident
  rw [scan, scanFrom_of_ident? none 0 noArrow ident, List.foldr_cons,
    foldr_glue_scanFrom_space arrow, glue_of_ne, Nat.zero_add, String.ofList_toList]
  simp

end Arrow

namespace Declaration

variable (parts : Declaration id face)
include parts

theorem isIdentChar_of_mem {c : Char} (member : c ∈ id.toList) : Lexeme.isIdentChar c = true :=
  (Lexeme.ident?_eq_some parts.ident).2.2.2 c member

theorem id_ne_nil : id.toList ≠ [] := (Lexeme.ident?_eq_some parts.ident).2.2.1

/-- A declaration ends with the closing bracket of its shape. -/
theorem exists_bracketed_eq : ∃ front, parts.bracketed = front ++ face.shape.closer := by
  have read := (Lexeme.unrivalled_of_kind_read parts.kind_shape).1
  rw [parts.shape] at read
  obtain ⟨front, whole⟩ := (Shape.read?_eq_some_iff.mp read).eq_append
  rw [List.append_nil] at whole
  exact ⟨front, whole⟩

/-- The declaration without the blanks in front. -/
def bare : Declaration id face :=
  { parts with gap := [], gap_blank := fun _ none => absurd none List.not_mem_nil }

/-- The blanks in front are all that is trimmed off a declaration. -/
theorem trim_text : Text.trim parts.text = parts.bare.text := by
  obtain ⟨front, ended⟩ := parts.exists_bracketed_eq
  have trimmed : Text.Trimmed (id.toList ++ ((parts.between ++ front) ++ face.shape.closer)) :=
    Text.trimmed_append parts.id_ne_nil face.shape.closer_ne_nil
      (fun c first => Lexeme.isBlank_of_isIdentChar
        (parts.isIdentChar_of_mem (List.mem_of_head? first)))
      (fun c final => face.shape.isBlank_closer c (List.mem_of_getLast? final)) _
  have bare : parts.bare.text = id.toList ++ ((parts.between ++ front) ++ face.shape.closer) := by
    rw [List.append_assoc, ← ended]
    rfl
  have whole : parts.text = parts.gap ++ (parts.bare.text ++ []) := by
    rw [List.append_nil]
    rfl
  rw [whole, bare]
  exact Text.trim_between parts.gap_blank trimmed Text.forall_isBlank_nil

end Declaration

theorem Declares.ne_nil {text : List Char} {column : Nat}
    (declares : Declares text id face column) : text ≠ [] := by
  rintro rfl
  obtain ⟨start, stop, scanned⟩ := declares
  rw [scan, scanFrom] at scanned
  cases scanned

/-- A declaration without the blanks in front is a declaration. -/
theorem Declares.trim {text : List Char} {column : Nat} (declares : Declares text id face column) :
    ∃ gap, text = gap ++ Text.trim text ∧ (∀ c ∈ gap, Text.isBlank c = true) ∧
      ∃ later, column = gap.length + later ∧ Declares (Text.trim text) id face later := by
  obtain ⟨parts, rfl, rfl⟩ := declares.exists_declaration
  rw [parts.trim_text]
  refine ⟨parts.gap, rfl, parts.gap_blank, parts.bare.column, ?_, parts.bare.declares⟩
  show parts.gap.length + id.toList.length + parts.between.length =
    parts.gap.length + (0 + id.toList.length + parts.between.length)
  omega

end Token

end ChartGuide
