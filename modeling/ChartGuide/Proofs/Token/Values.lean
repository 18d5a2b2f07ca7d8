/-
**What the tokens of a line say.**

An identifier is made of identifier characters, at least one, and the text of a shape or a label is
trimmed. `Lexeme.read_cases` says once which reading wins at the head of a text;
`Lexeme.allows_read` follows for one lexeme, and `Token.allows_scan` for the tokens of a whole
line.

* `Lexeme.isBlank_of_isIdentChar`: no identifier character is a blank.
* `Lexeme.ident?_eq_some`: an identifier is the text in front of what follows it.
-/

import ChartGuide.Proofs.Shape

namespace ChartGuide

/-- What a token of a kind may say. -/
def Token.Kind.Allows (kind : Token.Kind) (value : List Char) : Prop :=
  match kind with
  | .ident => value ≠ [] ∧ ∀ c ∈ value, Lexeme.isIdentChar c = true
  | .shape _ => Text.Trimmed value
  | .label => Text.Trimmed value
  | _ => True

namespace Lexeme

/-- The identifier characters lie between the hyphen and the small z. -/
theorem toNat_of_isIdentChar {c : Char} (ident : isIdentChar c = true) :
    45 ≤ c.toNat ∧ c.toNat ≤ 122 := by
  unfold isIdentChar at ident
  rcases Bool.or_eq_true_iff.mp ident with other | hyphen
  · rcases Bool.or_eq_true_iff.mp other with letterOrDigit | underscore
    · have ranges : ((decide (c.val ≥ 'A'.val ∧ c.val ≤ 'Z'.val) ||
          (decide (c.val ≥ 'a'.val) && decide (c.val ≤ 'z'.val))) ||
            (decide (c.val ≥ '0'.val) && decide (c.val ≤ '9'.val))) = true := letterOrDigit
      simp only [Bool.or_eq_true, Bool.and_eq_true, decide_eq_true_eq, ge_iff_le,
        UInt32.le_iff_toNat_le] at ranges
      have codes : ((65 ≤ c.toNat ∧ c.toNat ≤ 90) ∨ (97 ≤ c.toNat ∧ c.toNat ≤ 122)) ∨
          (48 ≤ c.toNat ∧ c.toNat ≤ 57) := ranges
      omega
    · obtain rfl := eq_of_beq underscore
      decide
  · obtain rfl := eq_of_beq hyphen
    decide

theorem isBlank_of_isIdentChar {c : Char} (ident : isIdentChar c = true) :
    Text.isBlank c = false := by
  have bounds := toNat_of_isIdentChar ident
  simp only [Text.isBlank, Text.within, Text.blanks, List.any_cons, List.any_nil,
    Bool.or_eq_false_iff, Bool.and_eq_false_iff, decide_eq_false_iff_not, and_true]
  omega

/-- The winning reading at the head of a text: an arrow, a label, an identifier, a shape, a style
class, or else loose text. -/
theorem read_cases (before : Option Token.Kind) (c : Char) (rest : List Char) :
    arrow? (c :: rest) = some (read before c rest) ∨
      label? before (c :: rest) = some (read before c rest) ∨
      ident? (c :: rest) = some (read before c rest) ∨
      shape? before (c :: rest) = some (read before c rest) ∨
      styleClass? (c :: rest) = some (read before c rest) ∨
      read before c rest = ⟨.text, [c], rest⟩ := by
  have whole : read before c rest = ((arrow? (c :: rest)).or <| (label? before (c :: rest)).or <|
    (ident? (c :: rest)).or <| (shape? before (c :: rest)).or
      (styleClass? (c :: rest))).getD ⟨.text, [c], rest⟩ := rfl
  cases reading : (arrow? (c :: rest)).or <| (label? before (c :: rest)).or <|
      (ident? (c :: rest)).or <| (shape? before (c :: rest)).or (styleClass? (c :: rest)) with
  | none =>
    rw [reading] at whole
    exact Or.inr (Or.inr (Or.inr (Or.inr (Or.inr whole))))
  | some lexeme =>
    rw [reading, Option.getD_some] at whole
    rw [whole]
    rcases Option.or_eq_some_iff.mp reading with found | ⟨_, found⟩
    · exact Or.inl found
    rcases Option.or_eq_some_iff.mp found with found | ⟨_, found⟩
    · exact Or.inr (Or.inl found)
    rcases Option.or_eq_some_iff.mp found with found | ⟨_, found⟩
    · exact Or.inr (Or.inr (Or.inl found))
    rcases Option.or_eq_some_iff.mp found with found | ⟨_, found⟩
    · exact Or.inr (Or.inr (Or.inr (Or.inl found)))
    · exact Or.inr (Or.inr (Or.inr (Or.inr (Or.inl found))))

/-! ### The kinds of readings -/

theorem identTail_isPrefix (text : List Char) : identTail text <+: text := by
  induction text with
  | nil => exact List.prefix_refl _
  | cons c rest ih =>
    rw [identTail]
    split
    · exact (List.prefix_cons_inj c).mpr ih
    · exact List.nil_prefix

theorem isIdentChar_of_mem_identTail {text : List Char} {c : Char} (member : c ∈ identTail text) :
    isIdentChar c = true := by
  induction text with
  | nil => exact absurd member List.not_mem_nil
  | cons first rest ih =>
    rw [identTail] at member
    split at member
    · next continues =>
      rcases List.mem_cons.mp member with rfl | later
      · exact (Bool.and_eq_true_iff.mp continues).1
      · exact ih later
    · exact absurd member List.not_mem_nil

/-- An identifier begins with an identifier character and goes on as far as it can. -/
theorem exists_of_ident? {text : List Char} {lexeme : Lexeme} (found : ident? text = some lexeme) :
    ∃ c rest, text = c :: rest ∧ isIdentChar c = true ∧
      lexeme = ⟨.ident, c :: identTail rest, rest.drop (identTail rest).length⟩ := by
  unfold ident? at found
  split at found
  · cases found
  · next c rest =>
    split at found
    · next first => exact ⟨c, rest, rfl, first, (Option.some.inj found).symm⟩
    · cases found

/-- An identifier is the text in front of what follows it, at least one identifier character. -/
theorem ident?_eq_some {text : List Char} {lexeme : Lexeme} (found : ident? text = some lexeme) :
    lexeme.kind = .ident ∧ text = lexeme.value ++ lexeme.rest ∧ lexeme.value ≠ [] ∧
      ∀ c ∈ lexeme.value, isIdentChar c = true := by
  obtain ⟨c, rest, rfl, first, rfl⟩ := exists_of_ident? found
  refine ⟨rfl, ?_, List.cons_ne_nil _ _, fun d member => ?_⟩
  · have split := List.prefix_iff_eq_append.mp (identTail_isPrefix rest)
    show c :: rest = c :: (identTail rest ++ rest.drop (identTail rest).length)
    rw [split]
  · rcases List.mem_cons.mp member with rfl | later
    · exact first
    · exact isIdentChar_of_mem_identTail later

theorem trimmed_of_shape_read? {shape : Shape} {text inside after : List Char}
    (found : shape.read? text = some (inside, after)) : Text.Trimmed inside := by
  cases Shape.read?_eq_some_iff.mp found with
  | quoted _ _ _ => exact Text.trimmed_trim _
  | bare _ _ => exact Text.trimmed_trim _

theorem shape?_eq_some {before : Option Token.Kind} {text : List Char} {lexeme : Lexeme}
    (found : shape? before text = some lexeme) :
    ∃ shape : Shape, lexeme.kind = .shape shape ∧
      shape.read? text = some (lexeme.value, lexeme.rest) := by
  unfold shape? at found
  split at found
  · obtain ⟨shape, _, mapped⟩ := List.exists_of_findSome?_eq_some found
    obtain ⟨⟨inside, after⟩, shapeRead, rfl⟩ := Option.map_eq_some_iff.mp mapped
    exact ⟨shape, rfl, shapeRead⟩
  · cases found

theorem label?_eq_some {before : Option Token.Kind} {text : List Char} {lexeme : Lexeme}
    (found : label? before text = some lexeme) :
    lexeme.kind = .label ∧ Text.Trimmed lexeme.value := by
  unfold label? at found
  split at found
  · split at found
    · obtain rfl := Option.some.inj found
      exact ⟨rfl, Text.trimmed_trim _⟩
    · cases found
  · cases found

theorem kind_of_styleClass? {text : List Char} {lexeme : Lexeme}
    (found : styleClass? text = some lexeme) : lexeme.kind = .styleClass := by
  unfold styleClass? at found
  split at found
  · split at found
    · cases found
    · obtain rfl := Option.some.inj found
      rfl
  · cases found

/-- Every reading says what its kind allows. -/
theorem allows_read (before : Option Token.Kind) (c : Char) (rest : List Char) :
    (read before c rest).kind.Allows (read before c rest).value := by
  rcases read_cases before c rest with found | found | found | found | found | loose
  · obtain ⟨_, _, equal⟩ := Option.map_eq_some_iff.mp found
    rw [← equal]
    trivial
  · obtain ⟨kind, trimmed⟩ := label?_eq_some found
    rw [kind]
    exact trimmed
  · obtain ⟨kind, _, nonempty, chars⟩ := ident?_eq_some found
    rw [kind]
    exact ⟨nonempty, chars⟩
  · obtain ⟨shape, kind, shapeRead⟩ := shape?_eq_some found
    rw [kind]
    exact trimmed_of_shape_read? shapeRead
  · rw [kind_of_styleClass? found]
    trivial
  · rw [loose]
    trivial

end Lexeme

namespace Token

/-- Every token of a text says what its kind allows. -/
theorem allows_scanFrom (before : Option Kind) (column : Nat) (text : List Char) :
    ∀ token ∈ scanFrom before column text, token.kind.Allows token.value.toList := by
  fun_induction scanFrom before column text with
  | case1 => exact fun token member => absurd member List.not_mem_nil
  | case2 before column c rest blank ih => exact ih
  | case3 before column c rest notBlank lexeme stop ih =>
    intro token member
    rcases List.mem_cons.mp member with rfl | later
    · show lexeme.kind.Allows (String.ofList lexeme.value).toList
      rw [String.toList_ofList]
      exact Lexeme.allows_read before c rest
    · exact ih token later

/-- Loose text is glued to loose text, and all other tokens stay. -/
theorem mem_glue {token other : Token} {tokens : List Token} (member : other ∈ glue token tokens) :
    other.kind = .text ∨ other = token ∨ other ∈ tokens := by
  unfold glue at member
  split at member
  · exact Or.inr (Or.inl (List.mem_singleton.mp member))
  · split at member
    · rcases List.mem_cons.mp member with rfl | later
      · exact Or.inl rfl
      · exact Or.inr (Or.inr (List.mem_cons_of_mem _ later))
    · rcases List.mem_cons.mp member with rfl | later
      · exact Or.inr (Or.inl rfl)
      · exact Or.inr (Or.inr later)

/-- A token of a line is loose text, or it stood there before loose text was glued. -/
theorem mem_foldr_glue {token : Token} {tokens : List Token}
    (member : token ∈ tokens.foldr glue []) : token.kind = .text ∨ token ∈ tokens := by
  induction tokens with
  | nil => exact Or.inr member
  | cons first rest ih =>
    rcases mem_glue member with loose | rfl | later
    · exact Or.inl loose
    · exact Or.inr List.mem_cons_self
    · rcases ih later with loose | earlier
      · exact Or.inl loose
      · exact Or.inr (List.mem_cons_of_mem _ earlier)

/-- Every token of a line says what its kind allows. -/
theorem allows_scan {line : List Char} {token : Token} (member : token ∈ scan line) :
    token.kind.Allows token.value.toList := by
  rcases mem_foldr_glue member with loose | scanned
  · rw [loose]
    trivial
  · exact allows_scanFrom none 0 line token scanned

end Token

end ChartGuide
