/-
**Which reading wins.**

At the head of a text an arrow wins, then a label, an identifier, a shape and a style class, and
else a character is loose text. So a reading wins where those that are tried before it fail, and
where it has won they failed.

* `Lexeme.read_of_arrow?`, `Lexeme.read_of_label?`, `Lexeme.read_of_ident?`,
  `Lexeme.read_of_shape?`, `Lexeme.read_of_styleClass?`: when a reading wins.
* `Lexeme.arrow?_of_kind_read`, `Lexeme.ident?_of_kind_read`, `Lexeme.shape?_of_kind_read`: what is
  known where one has won.
* `Lexeme.unrivalled_of_kind_read`: of the shapes the first wins that can be read.
-/

import ChartGuide.Proofs.Shape
import ChartGuide.Proofs.Token.Values

namespace ChartGuide.Lexeme

variable {c : Char} {rest : List Char}

/-! ### When a reading wins -/

theorem arrow?_eq_none {text : List Char} (noArrow : Arrow.read? text = none) :
    arrow? text = none := by
  rw [arrow?, noArrow]
  rfl

/-- Where an arrow begins there is an arrow to be read. -/
theorem exists_arrow? {text : List Char} (arrow : (Arrow.read? text).isSome = true) :
    ∃ style value after, arrow? text = some ⟨.arrow style, value, after⟩ := by
  obtain ⟨⟨style, after⟩, found⟩ := Option.isSome_iff_exists.mp arrow
  rw [arrow?, found]
  exact ⟨style, _, after, rfl⟩

/-- Where an arrow begins it wins. -/
theorem read_of_arrow? (before : Option Token.Kind) {lexeme : Lexeme}
    (found : arrow? (c :: rest) = some lexeme) : read before c rest = lexeme := by
  simp only [read, found, Option.some_or, Option.getD_some]

/-- Where no arrow begins a label wins. -/
theorem read_of_label? {before : Option Token.Kind} {lexeme : Lexeme}
    (noArrow : Arrow.read? (c :: rest) = none) (found : label? before (c :: rest) = some lexeme) :
    read before c rest = lexeme := by
  simp only [read, arrow?_eq_none noArrow, found, Option.none_or, Option.some_or, Option.getD_some]

/-- Where no arrow begins an identifier wins. -/
theorem read_of_ident? (before : Option Token.Kind) {lexeme : Lexeme}
    (noArrow : Arrow.read? (c :: rest) = none) (found : ident? (c :: rest) = some lexeme) :
    read before c rest = lexeme := by
  obtain ⟨_, _, same, first, -⟩ := exists_of_ident? found
  rw [← (List.cons.inj same).1] at first
  have label : label? before (c :: rest) = none := by
    unfold label?
    split
    · next equal =>
      rw [(List.cons.inj equal).1] at first
      exact absurd first (by decide)
    · rfl
  simp only [read, arrow?_eq_none noArrow, label, found, Option.none_or, Option.some_or,
    Option.getD_some]

/-- Where neither an arrow nor an identifier begins a shape wins after an identifier. -/
theorem read_of_shape? {lexeme : Lexeme} (noArrow : Arrow.read? (c :: rest) = none)
    (noIdent : isIdentChar c = false) (found : shape? (some .ident) (c :: rest) = some lexeme) :
    read (some .ident) c rest = lexeme := by
  have ident : ident? (c :: rest) = none := by
    rw [ident?, noIdent]
    rfl
  simp only [read, arrow?_eq_none noArrow, label?, ident, found, Option.none_or, Option.some_or,
    Option.getD_some]

/-- An opening bracket begins none of the lexemes that are tried before shapes. -/
theorem foreign_of_bracket {c : Char} (bracket : c ∈ Shape.brackets) :
    c ≠ '-' ∧ c ≠ '=' ∧ isIdentChar c = false ∧ Text.isBlank c = false := by
  simp only [Shape.brackets, List.mem_cons, List.not_mem_nil, or_false] at bracket
  rcases bracket with rfl | rfl | rfl | rfl <;> decide

/-- A shape begins with a bracket. -/
theorem shape?_eq_none (before : Option Token.Kind) (other : c ∉ Shape.brackets) :
    shape? before (c :: rest) = none := by
  refine Option.eq_none_iff_forall_not_mem.mpr fun lexeme found => ?_
  obtain ⟨shape, -, read⟩ := shape?_eq_some found
  obtain ⟨body, whole, -⟩ := (Shape.read?_eq_some_iff.mp read).exists_body
  obtain ⟨first, inner, opener, bracket⟩ := shape.exists_opener_eq_cons
  rw [opener] at whole
  exact other ((List.cons.inj whole).1 ▸ bracket)

theorem eq_colon_of_styleClass? {lexeme : Lexeme} (found : styleClass? (c :: rest) = some lexeme) :
    c = ':' := by
  unfold styleClass? at found
  split at found
  · next body opened => exact (List.cons.inj (Text.isPrefixOf?_eq_some_iff.mp opened)).1
  · cases found

/-- A style class wins at its first colon, whatever was read before. -/
theorem read_of_styleClass? (before : Option Token.Kind) {lexeme : Lexeme}
    (found : styleClass? (c :: rest) = some lexeme) : read before c rest = lexeme := by
  obtain rfl := eq_colon_of_styleClass? found
  have noArrow : Arrow.read? (':' :: rest) = none := rfl
  have label : label? before (':' :: rest) = none := by
    unfold label?
    split
    · next equal => exact absurd (List.cons.inj equal).1 (by decide)
    · rfl
  have ident : ident? (':' :: rest) = none := rfl
  simp only [read, arrow?_eq_none noArrow, label, ident, shape?_eq_none before
    (by decide : ':' ∉ Shape.brackets), found, Option.none_or, Option.getD_some]

/-! ### Where a reading has won -/

/-- Where something else wins no arrow begins. -/
theorem arrowRead?_of_kind_read (before : Option Token.Kind)
    (other : ∀ arrow, (read before c rest).kind ≠ .arrow arrow) :
    Arrow.read? (c :: rest) = none := by
  refine Option.not_isSome_iff_eq_none.mp fun arrow => ?_
  obtain ⟨style, value, after, begins⟩ := exists_arrow? arrow
  exact other style (by rw [read_of_arrow? before begins])

/-- The kinds of the readings that are tried, apart from arrows. -/
theorem read_cases_of_no_arrow (before : Option Token.Kind)
    (noArrow : Arrow.read? (c :: rest) = none) :
    (read before c rest).kind = .label ∨
      ((read before c rest).kind = .ident ∧ ident? (c :: rest) = some (read before c rest)) ∨
      (∃ shape : Shape, (read before c rest).kind = .shape shape ∧
        shape? before (c :: rest) = some (read before c rest)) ∨
      (read before c rest).kind = .styleClass ∨ (read before c rest).kind = .text := by
  rcases read_cases before c rest with found | found | found | found | found | found
  · rw [arrow?_eq_none noArrow] at found
    cases found
  · exact .inl (label?_eq_some found).1
  · exact .inr (.inl ⟨(ident?_eq_some found).1, found⟩)
  · obtain ⟨shape, kind, -⟩ := shape?_eq_some found
    exact .inr (.inr (.inl ⟨shape, kind, found⟩))
  · exact .inr (.inr (.inr (.inl (kind_of_styleClass? found))))
  · exact .inr (.inr (.inr (.inr (congrArg Lexeme.kind found))))

/-- An arrow wins only where one begins. -/
theorem arrow?_of_kind_read {before : Option Token.Kind} {arrow : Arrow}
    (won : (read before c rest).kind = .arrow arrow) :
    arrow? (c :: rest) = some (read before c rest) := by
  by_cases begins : (Arrow.read? (c :: rest)).isSome = true
  · obtain ⟨style, value, after, found⟩ := exists_arrow? begins
    rw [read_of_arrow? before found, found]
  · have noArrow := Option.not_isSome_iff_eq_none.mp begins
    rcases read_cases_of_no_arrow before noArrow with
      kind | ⟨kind, -⟩ | ⟨shape, kind, -⟩ | kind | kind
    all_goals simp [won] at kind

/-- An identifier wins only where no arrow begins. -/
theorem ident?_of_kind_read {before : Option Token.Kind}
    (won : (read before c rest).kind = .ident) :
    Arrow.read? (c :: rest) = none ∧ ident? (c :: rest) = some (read before c rest) := by
  have noArrow : Arrow.read? (c :: rest) = none :=
    arrowRead?_of_kind_read before fun arrow => by simp [won]
  refine ⟨noArrow, ?_⟩
  rcases read_cases_of_no_arrow before noArrow with
    kind | ⟨-, found⟩ | ⟨shape, kind, -⟩ | kind | kind
  · simp [won] at kind
  · exact found
  all_goals simp [won] at kind

/-- A shape wins after an identifier, where neither an arrow nor an identifier begins. -/
theorem shape?_of_kind_read {before : Option Token.Kind} {shape : Shape}
    (won : (read before c rest).kind = .shape shape) :
    before = some .ident ∧ Arrow.read? (c :: rest) = none ∧ isIdentChar c = false ∧
      shape? before (c :: rest) = some (read before c rest) := by
  have noArrow : Arrow.read? (c :: rest) = none :=
    arrowRead?_of_kind_read before fun arrow => by simp [won]
  have found : shape? before (c :: rest) = some (read before c rest) := by
    rcases read_cases_of_no_arrow before noArrow with
      kind | ⟨kind, -⟩ | ⟨shape, -, found⟩ | kind | kind
    · simp [won] at kind
    · simp [won] at kind
    · exact found
    all_goals simp [won] at kind
  refine ⟨?_, noArrow, Bool.eq_false_iff.mpr fun ident => ?_, found⟩
  · by_contra other
    rw [shape?, if_neg other] at found
    cases found
  · rw [read_of_ident? before noArrow (if_pos ident)] at won
    cases won

/-- A shape wins only where no shape that is tried before it can be read. -/
theorem unrivalled_of_kind_read {before : Option Token.Kind} {shape : Shape}
    (won : (read before c rest).kind = .shape shape) :
    shape.read? (c :: rest) = some ((read before c rest).value, (read before c rest).rest) ∧
      shape.Unrivalled (c :: rest) := by
  obtain ⟨rfl, -, -, found⟩ := shape?_of_kind_read won
  refine shape?_eq_some_iff.mp (found.trans ?_)
  rw [← won]

end ChartGuide.Lexeme
