/-
**Lines that open with an id.**

A line is a directive if it opens with one of a few words, and a word ends where no word character
follows it. An id ends where no identifier character follows it. The two differ in one character:
the hyphen goes on an id and ends a word. So an id that goes on behind a directive word keeps its
line from being a directive, unless it goes on with a hyphen; then the line is skipped, whatever it
declares or draws.

* `Line.ExtendsDirective`: the ids that go on behind a directive word with a hyphen.
* `Line.opensWith_iff_of_ident?`: when a directive word ends where an id goes on.
* `Line.read_cons_of_isIdentChar`: a line that begins like an id is a directive, or is read by its
  tokens.
* `Line.read_of_opening_id`: the directives among the lines that open with an id, and what the other
  lines say.
* `Line.hyphenated_id_dropped`: an edge that is lost.
-/

import ChartGuide.Proofs.Token.NodeText

namespace ChartGuide

/-- Of the characters of ids only the hyphen is no word character. -/
theorem Lexeme.isWordChar_eq_false_iff {c : Char} (ident : isIdentChar c = true) :
    Text.isWordChar c = false ↔ c = '-' := by
  have ascii : c.toNat < 128 := by
    have bounds := toNat_of_isIdentChar ident
    omega
  rw [Text.isWordChar_ascii c ascii]
  rw [isIdentChar_eq, Bool.or_eq_true, beq_iff_eq] at ident
  constructor
  · intro foreign
    exact ident.resolve_left fun plain => Bool.false_ne_true (foreign.symm.trans plain)
  · rintro rfl
    decide

/-- The id that a trimmed line opens with begins at its first character, where no arrow begins. -/
theorem Token.exists_ident?_of_scan {text : List Char} (trimmed : Text.Trimmed text) {id : String}
    {start stop : Nat} {tokens : List Token}
    (scanned : scan text = ⟨.ident, id, start, stop⟩ :: tokens) :
    Arrow.read? text = none ∧ ∃ rest, Lexeme.ident? text = some ⟨.ident, id.toList, rest⟩ := by
  obtain ⟨later, first, -⟩ := exists_of_foldr_glue scanned (by simp)
  obtain ⟨gap, c, rest, after, rfl, gapBlank, -, read, -⟩ := exists_read_of_scanFrom first
  have noGap : gap = [] := by
    cases gap with
    | nil => rfl
    | cons d gap =>
      have kept := trimmed.head d rfl
      rw [gapBlank d List.mem_cons_self] at kept
      cases kept
  subst noGap
  obtain ⟨noArrow, ident⟩ := Lexeme.ident?_of_kind_read (congrArg Lexeme.kind read)
  rw [read] at ident
  exact ⟨noArrow, after, ident⟩

namespace Line

/-- Whether an id is a directive word that goes on with a hyphen. -/
def ExtendsDirective (id : List Char) : Prop := ∃ word ∈ directiveWords, word ++ ['-'] <+: id

instance (id : List Char) : Decidable (ExtendsDirective id) :=
  inferInstanceAs (Decidable (∃ word ∈ directiveWords, word ++ ['-'] <+: id))

/-- What the tokens of a line say. -/
def ofTokens (tokens : List Token) : Line :=
  match statement? tokens with
  | .ok found => statement found
  | .error fault => unrecognized fault

/-! ### Directive words -/

theorem plain_of_mem_directiveWords :
    ∀ word ∈ directiveWords, word ≠ [] ∧ ∀ c ∈ word, Lexeme.isPlainChar c = true := by
  have checked : (directiveWords.all fun word =>
      !word.isEmpty && word.all Lexeme.isPlainChar) = true := by decide +kernel
  simpa using checked

variable {text rest : List Char} {id word : List Char}

/-- **A directive word ends where an id goes on**, exactly if the id goes on with a hyphen. -/
theorem opensWith_iff_of_ident? (member : word ∈ directiveWords)
    (found : Lexeme.ident? text = some ⟨.ident, id, rest⟩) (other : id ≠ word) :
    (word.isPrefixOf? text).any endsWord = true ↔ word ++ ['-'] <+: id := by
  obtain ⟨nonempty, plain⟩ := plain_of_mem_directiveWords word member
  rw [Option.any_eq_true]
  constructor
  · rintro ⟨after, opened, ends⟩
    obtain rfl := Text.isPrefixOf?_eq_some_iff.mp opened
    rw [Lexeme.ident?_plain_append nonempty plain] at found
    obtain rfl : word ++ Lexeme.identTail after = id :=
      congrArg Lexeme.value (Option.some.inj found)
    refine (List.prefix_append_right_inj word).mpr ?_
    -- The id is not the word alone, so what follows the word continues the id.
    cases tail : Lexeme.identTail after with
    | nil => exact absurd (by rw [tail, List.append_nil]) other
    | cons d more =>
      obtain ⟨behind, rfl⟩ := tail ▸ Lexeme.identTail_isPrefix after
      have ident : Lexeme.isIdentChar d = true :=
        Lexeme.isIdentChar_of_mem_identTail (by rw [tail]; exact List.mem_cons_self)
      have foreign : Text.isWordChar d = false := by simpa [endsWord] using ends
      rw [(Lexeme.isWordChar_eq_false_iff ident).mp foreign]
      exact ⟨more, rfl⟩
  · rintro ⟨more, rfl⟩
    have whole : text = word ++ ('-' :: (more ++ rest)) := by
      simpa using (Lexeme.ident?_eq_some found).2.1
    exact ⟨_, Text.isPrefixOf?_eq_some_iff.mpr whole, rfl⟩

/-- Three hyphens begin an arrow, and no id. -/
theorem isPrefixOf_rule_of_no_arrow (noArrow : Arrow.read? text = none) :
    ['-', '-', '-'].isPrefixOf text = false := by
  refine Bool.eq_false_iff.mpr fun rule => ?_
  obtain ⟨after, rfl⟩ := List.isPrefixOf_iff_prefix.mp rule
  have arrow := Arrow.isSome_read?_spelling (.line 0) after
  change (Arrow.read? (['-', '-', '-'] ++ after)).isSome = true at arrow
  rw [noArrow] at arrow
  cases arrow

/-- A line that begins with an id, but not with a directive word alone, is a directive exactly if the
id extends such a word. -/
theorem isDirective_iff_of_ident? (noArrow : Arrow.read? text = none)
    (found : Lexeme.ident? text = some ⟨.ident, id, rest⟩) (other : id ∉ directiveWords)
    (notEnd : text ≠ ['e', 'n', 'd']) : isDirective text = true ↔ ExtendsDirective id := by
  have opens : ∀ word ∈ directiveWords,
      ((word.isPrefixOf? text).any endsWord = true ↔ word ++ ['-'] <+: id) := fun word member =>
    opensWith_iff_of_ident? member found fun same => other (same ▸ member)
  simp only [isDirective, isPrefixOf_rule_of_no_arrow noArrow, beq_eq_false_iff_ne.mpr notEnd,
    Bool.false_or, List.any_eq_true]
  exact exists_congr fun word => and_congr_right fun member => opens word member

/-! ### Reading the line -/

/-- A line that begins with an identifier character is a directive, or is read by its tokens. -/
theorem read_cons_of_isIdentChar {c : Char} (ident : Lexeme.isIdentChar c = true)
    (rest : List Char) : read (c :: rest) =
      if isDirective (c :: rest) then directive else ofTokens (Token.scan (c :: rest)) := by
  have noComment : ['%', '%'].isPrefixOf (c :: rest) = false := by
    have different : ('%' == c) = false := by
      refine beq_eq_false_iff_ne.mpr ?_
      rintro rfl
      exact absurd ident (by decide)
    rw [List.isPrefixOf, different, Bool.false_and]
  rw [read, noComment]
  rfl

/-- **What a line says that opens with an id.** Let the id be no directive word and the line not just
the end of a block. Then it is a directive exactly if the id goes on with a hyphen behind a directive
word; any other such line is read by its tokens, so what it declares or draws is not lost. -/
theorem read_of_opening_id {line : List Char} {id : String} {start stop : Nat}
    {tokens : List Token}
    (scanned : Token.scan (Text.trim line) = ⟨.ident, id, start, stop⟩ :: tokens)
    (other : id.toList ∉ directiveWords) (notEnd : Text.trim line ≠ ['e', 'n', 'd']) :
    (isDirective (Text.trim line) = true ↔ ExtendsDirective id.toList) ∧
      read (Text.trim line) =
        if ExtendsDirective id.toList then directive else ofTokens (Token.scan (Text.trim line)) := by
  obtain ⟨noArrow, rest, found⟩ :=
    Token.exists_ident?_of_scan (Text.trimmed_trim line) scanned
  have directive_iff := isDirective_iff_of_ident? noArrow found other notEnd
  obtain ⟨c, more, begins, ident, -⟩ := Lexeme.exists_of_ident? found
  refine ⟨directive_iff, ?_⟩
  calc
    read (Text.trim line) =
        if isDirective (Text.trim line) then directive
        else ofTokens (Token.scan (Text.trim line)) := by
      rw [begins]
      exact read_cons_of_isIdentChar ident more
    _ = if ExtendsDirective id.toList then directive
        else ofTokens (Token.scan (Text.trim line)) := if_congr directive_iff rfl rfl

/-- Ids that go on behind a directive word without a hyphen. -/
theorem read_of_opening_id_graphics :
    Token.scan (Text.trim " graphics[Graphics card] --> styles".toList) =
        ⟨.ident, "graphics", 0, 8⟩ :: [⟨.shape .box, "Graphics card", 8, 23⟩,
          ⟨.arrow .plain, "-->", 24, 27⟩, ⟨.ident, "styles", 28, 34⟩] ∧
      "graphics".toList ∉ directiveWords ∧
      Text.trim " graphics[Graphics card] --> styles".toList ≠ ['e', 'n', 'd'] ∧
      read (Text.trim " graphics[Graphics card] --> styles".toList) =
        .statement (.edge ⟨"graphics", some ⟨.box, "Graphics card"⟩⟩ none ⟨"styles", none⟩) := by
  have scanned : Token.scan (Text.trim " graphics[Graphics card] --> styles".toList) =
      ⟨.ident, "graphics", 0, 8⟩ :: [⟨.shape .box, "Graphics card", 8, 23⟩,
        ⟨.arrow .plain, "-->", 24, 27⟩, ⟨.ident, "styles", 28, 34⟩] := by decide +kernel
  have other : "graphics".toList ∉ directiveWords := by decide +kernel
  have notEnd : Text.trim " graphics[Graphics card] --> styles".toList ≠ ['e', 'n', 'd'] := by
    decide +kernel
  have apart : ¬ ExtendsDirective "graphics".toList := by decide +kernel
  have read := (read_of_opening_id scanned other notEnd).2
  rw [if_neg apart, scanned] at read
  exact ⟨scanned, other, notEnd, read⟩

/-- **An edge is lost** whose line opens with a directive word and a hyphen: the id goes on behind
the hyphen, and is no directive word, but the line counts as a directive. -/
theorem hyphenated_id_dropped :
    Text.trim "class-x --> B".toList = "class-x --> B".toList ∧
      (Token.scan "class-x --> B".toList).head? = some ⟨.ident, "class-x", 0, 7⟩ ∧
      "class-x".toList ∉ directiveWords ∧ "class-x --> B".toList ≠ ['e', 'n', 'd'] ∧
      ofTokens (Token.scan "class-x --> B".toList) =
        .statement (.edge ⟨"class-x", none⟩ none ⟨"B", none⟩) ∧
      isDirective "class-x --> B".toList = true ∧
      read "class-x --> B".toList = .directive := by
  decide +kernel

end Line

end ChartGuide
