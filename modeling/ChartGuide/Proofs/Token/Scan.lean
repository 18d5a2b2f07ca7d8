/-
**Scanning a text that is put together from lexemes.**

`Token.Begins` says that the scan of a text puts a lexeme in front of the scan of what follows it.
There is one lemma for each lexeme a chart is put together from; each says what may follow, so that
the lexeme does not run on.

* `Lexeme.Word`: the ids that no arrow can cut, and `Token.begins_word`.
* `Token.begins_arrow`, `Token.begins_label`, `Token.begins_shape`: the other lexemes.
* `Token.begins_space`: a space in front does not matter.
-/

import ChartGuide.Proofs.Token.Columns

namespace ChartGuide

namespace Lexeme

/-- A word that no arrow can cut: identifier characters, at least one, and no two hyphens side by
side. -/
structure Word (word : List Char) : Prop where
  nonempty : word ≠ []
  chars : ∀ c ∈ word, isIdentChar c = true
  apart : ¬ ['-', '-'] <:+: word

/-- A text that does not continue a word in front of it. After a hyphen a dot would begin an
arrow. -/
def EndsWord (after : List Char) : Prop :=
  ∀ c, after.head? = some c → isIdentChar c = false ∧ c ≠ '.'

/-- An identifier character is none of the signs that other lexemes begin with. -/
theorem ne_of_isIdentChar {c sign : Char} (ident : isIdentChar c = true)
    (foreign : isIdentChar sign = false) : c ≠ sign := by
  rintro rfl
  rw [ident] at foreign
  cases foreign

/-- No arrow begins inside a word. -/
theorem arrowRead?_eq_none {c : Char} {word after : List Char}
    (chars : ∀ d ∈ c :: word, isIdentChar d = true) (apart : ¬ ['-', '-'] <:+: c :: word)
    (ends : EndsWord after) : Arrow.read? (c :: (word ++ after)) = none := by
  by_cases hyphen : c = '-'
  · -- What follows the hyphen is in the word, and no hyphen, or it ends the word, and is no dot.
    subst hyphen
    refine Arrow.read?_eq_none_of_single fun d next => ?_
    cases word with
    | nil =>
      obtain ⟨foreign, notDot⟩ := ends d next
      refine ⟨fun equal => ?_, notDot⟩
      rw [equal] at foreign
      cases foreign
    | cons e rest =>
      obtain rfl : e = d := Option.some.inj next
      have ident := chars e (List.mem_cons_of_mem _ List.mem_cons_self)
      refine ⟨fun equal => ?_, ne_of_isIdentChar ident rfl⟩
      exact apart ⟨[], rest, by rw [equal]; rfl⟩
  · exact Arrow.read?_eq_none_of_ne hyphen
      (ne_of_isIdentChar (chars c List.mem_cons_self) rfl) _

/-- A word is continued up to its end. -/
theorem identTail_append {word after : List Char} (chars : ∀ c ∈ word, isIdentChar c = true)
    (apart : ¬ ['-', '-'] <:+: word) (ends : EndsWord after) :
    identTail (word ++ after) = word := by
  induction word with
  | nil =>
    cases after with
    | nil => rfl
    | cons c rest =>
      have foreign := (ends c rfl).1
      rw [List.nil_append, identTail, foreign]
      rfl
  | cons c word ih =>
    have noArrow := arrowRead?_eq_none chars apart ends
    have later : identTail (word ++ after) = word :=
      ih (fun d member => chars d (List.mem_cons_of_mem _ member))
        fun inside => apart (inside.trans (List.suffix_cons c word).isInfix)
    rw [List.cons_append, identTail, noArrow, chars c List.mem_cons_self, later]
    rfl

/-- A word is read whole as an identifier. -/
theorem ident?_append {word after : List Char} (whole : Word word) (ends : EndsWord after) :
    ident? (word ++ after) = some ⟨.ident, word, after⟩ := by
  obtain ⟨nonempty, chars, apart⟩ := whole
  cases word with
  | nil => exact absurd rfl nonempty
  | cons c word =>
    have tail : identTail (word ++ after) = word :=
      identTail_append (fun d member => chars d (List.mem_cons_of_mem _ member))
        (fun inside => apart (inside.trans (List.suffix_cons c word).isInfix)) ends
    rw [List.cons_append, ident?, if_pos (chars c List.mem_cons_self), tail, List.drop_left]

theorem endsWord_opener (shape : Shape) (after : List Char) : EndsWord (shape.opener ++ after) := by
  intro c first
  obtain ⟨d, rest, opener, bracket⟩ := shape.exists_opener_eq_cons
  rw [opener] at first
  obtain rfl := Option.some.inj first
  obtain ⟨_, _, foreign, _⟩ := foreign_of_bracket bracket
  refine ⟨foreign, ?_⟩
  rintro rfl
  exact absurd bracket (by decide)

theorem endsWord_space (after : List Char) : EndsWord (' ' :: after) := by
  intro c first
  obtain rfl := Option.some.inj first
  decide

theorem endsWord_nil : EndsWord [] := by
  intro c first
  cases first

end Lexeme

namespace Token

/-- The scan of a text begins with a lexeme and goes on with what the lexeme leaves. -/
def Begins (before : Option Kind) (text : List Char) (lexeme : Lexeme) : Prop :=
  ∀ column, ∃ start stop, scanFrom before column text =
    ⟨lexeme.kind, String.ofList lexeme.value, start, stop⟩ ::
      scanFrom (some lexeme.kind) stop lexeme.rest

/-- A text begins with the lexeme that wins at its first character. -/
theorem begins_read (before : Option Kind) {c : Char} (kept : Text.isBlank c = false)
    (rest : List Char) : Begins before (c :: rest) (Lexeme.read before c rest) := by
  exact fun column => ⟨_, _, scanFrom_cons before column kept rest⟩

theorem begins_space {before : Option Kind} {text : List Char} {lexeme : Lexeme}
    (begins : Begins before text lexeme) : Begins before (' ' :: text) lexeme := by
  intro column
  obtain ⟨start, stop, scanned⟩ := begins (column + 1)
  refine ⟨start, stop, ?_⟩
  rw [scanFrom, if_pos (by decide)]
  exact scanned

/-- A word is scanned as an identifier. -/
theorem begins_word (before : Option Kind) {word after : List Char} (whole : Lexeme.Word word)
    (ends : Lexeme.EndsWord after) : Begins before (word ++ after) ⟨.ident, word, after⟩ := by
  have found := Lexeme.ident?_append whole ends
  have noArrow : Arrow.read? (word ++ after) = none := by
    obtain ⟨c, rest, rfl⟩ := List.exists_cons_of_ne_nil whole.nonempty
    exact Lexeme.arrowRead?_eq_none whole.chars whole.apart ends
  exact fun column => ⟨_, _, scanFrom_of_ident? before column noArrow found⟩

/-- A written arrow is scanned as an arrow. -/
theorem begins_arrow (before : Option Kind) (spelling : Arrow.Spelling) {after : List Char}
    (ends : Arrow.Ends after) :
    Begins before (spelling.text ++ after) ⟨.arrow spelling.arrow, spelling.text, after⟩ := by
  have found : Lexeme.arrow? (spelling.text ++ after) =
      some ⟨.arrow spelling.arrow, spelling.text, after⟩ := by
    rw [Lexeme.arrow?, Arrow.read?_spelling spelling (ends.stops spelling)]
    simp
  obtain ⟨c, rest, text, kept⟩ : ∃ c rest, spelling.text = c :: rest ∧ Text.isBlank c = false := by
    rcases spelling with ⟨more, _ | _⟩ | more | more | more | more <;> exact ⟨_, _, rfl, by decide⟩
  rw [text, List.cons_append] at found ⊢
  rw [← Lexeme.read_of_arrow? before found]
  exact begins_read before kept (rest ++ after)

/-- After an arrow a text between pipes is scanned as a label. -/
theorem begins_label (arrow : Arrow) {label : List Char} (nonempty : label ≠ [])
    (plain : '|' ∉ label) (after : List Char) :
    Begins (some (.arrow arrow)) ('|' :: (label ++ '|' :: after))
      ⟨.label, Text.trim label, after⟩ := by
  have found : Lexeme.label? (some (.arrow arrow)) ('|' :: (label ++ '|' :: after)) =
      some ⟨.label, Text.trim label, after⟩ := by
    obtain ⟨c, rest, rfl⟩ := List.exists_cons_of_ne_nil nonempty
    simp only [Lexeme.label?, Text.cutFirst?_append_cons plain]
  have noArrow := Arrow.read?_eq_none_of_ne (c := '|') (by decide) (by decide)
    (label ++ '|' :: after)
  rw [← Lexeme.read_of_label? noArrow found]
  exact begins_read _ (by decide) _

/-- After an identifier a quoted text in brackets is scanned as a shape. -/
theorem begins_shape (shape : Shape) {text : List Char} (plain : '"' ∉ text) (after : List Char) :
    Begins (some .ident) (shape.opener ++ '"' :: (text ++ '"' :: (shape.closer ++ after)))
      ⟨.shape shape, Text.trim text, after⟩ := by
  have found := Lexeme.shape?_quoted shape plain after
  exact fun column => ⟨_, _, scanFrom_of_shape? column found⟩

end Token

end ChartGuide
