/-
**A node, and what is written right after it.**

A node is written as an id, with a shape behind it or without one. No arrow begins inside an id
that does without hyphens, and a plain text holds no bracket that could close its shape or open
another one. So such a node is scanned in the same way whether an arrow follows it at once, after
blanks, or behind a style class.

* `Lexeme.ident?_append_of_plain`: an id without hyphens is read whole in front of an arrow.
* `Arrow.Ahead`: the texts in which an arrow comes next.
* `Token.NodeText.exists_scanFrom_append`: a node and what follows it are scanned one after the
  other.
-/

import ChartGuide.Line
import ChartGuide.Proofs.Token.Columns

namespace ChartGuide

namespace Lexeme

variable {c : Char} {rest after : List Char}

/-- The characters of ids that are no signs of arrows: ASCII letters and digits and the
underscore. -/
def isPlainChar (c : Char) : Bool := c.isAlphanum || c == '_'

theorem isIdentChar_eq (c : Char) : isIdentChar c = (isPlainChar c || c == '-') := rfl

theorem isIdentChar_of_isPlainChar (plain : isPlainChar c = true) : isIdentChar c = true := by
  rw [isIdentChar_eq, plain, Bool.true_or]

/-- No arrow begins with a plain character. -/
theorem arrowRead?_of_isPlainChar (plain : isPlainChar c = true) (rest : List Char) :
    Arrow.read? (c :: rest) = none := by
  refine Arrow.read?_eq_none_of_ne ?_ ?_ rest
  all_goals
    rintro rfl
    exact absurd plain (by decide)

/-! ### Where ids end -/

theorem identTail_of_arrow (arrow : (Arrow.read? rest).isSome = true) : identTail rest = [] := by
  cases rest with
  | nil => rfl
  | cons c rest =>
    rw [identTail, Option.isNone_eq_false_iff.mpr arrow, Bool.and_false]
    rfl

theorem identTail_of_head (other : ∀ c, rest.head? = some c → isIdentChar c = false) :
    identTail rest = [] := by
  cases rest with
  | nil => rfl
  | cons c rest =>
    rw [identTail, other c rfl]
    rfl

/-- An id goes on over plain characters, and behind them as far as it would go on there. -/
theorem identTail_append_of_plain {word : List Char} (plain : ∀ c ∈ word, isPlainChar c = true)
    (after : List Char) : identTail (word ++ after) = word ++ identTail after := by
  induction word with
  | nil => rfl
  | cons c word ih =>
    obtain ⟨first, others⟩ := List.forall_mem_cons.mp plain
    rw [List.cons_append, identTail, isIdentChar_of_isPlainChar first,
      arrowRead?_of_isPlainChar first, ih others]
    rfl

/-- An id that begins with plain characters. -/
theorem ident?_plain_append {word : List Char} (nonempty : word ≠ [])
    (plain : ∀ c ∈ word, isPlainChar c = true) (after : List Char) :
    ident? (word ++ after) =
      some ⟨.ident, word ++ identTail after, after.drop (identTail after).length⟩ := by
  cases word with
  | nil => exact absurd rfl nonempty
  | cons c word =>
    obtain ⟨first, others⟩ := List.forall_mem_cons.mp plain
    rw [List.cons_append, ident?, if_pos (isIdentChar_of_isPlainChar first),
      identTail_append_of_plain others, List.length_append, ← List.drop_drop, List.drop_left,
      List.cons_append]

/-- **An id without hyphens is read whole** in front of a text that does not continue it. -/
theorem ident?_append_of_plain {word : List Char} (nonempty : word ≠ [])
    (plain : ∀ c ∈ word, isPlainChar c = true) (stops : identTail after = []) :
    Arrow.read? (word ++ after) = none ∧
      ident? (word ++ after) = some ⟨.ident, word, after⟩ := by
  refine ⟨?_, by rw [ident?_plain_append nonempty plain, stops, List.append_nil]; rfl⟩
  cases word with
  | nil => exact absurd rfl nonempty
  | cons c word => exact arrowRead?_of_isPlainChar (List.forall_mem_cons.mp plain).1 _

end Lexeme

/-! ### Texts in which an arrow comes next -/

/-- Whether an arrow comes next in a text, at once or after blanks. -/
def Arrow.Ahead (text : List Char) : Prop := (Arrow.read? (Text.trimLeft text)).isSome = true

instance (text : List Char) : Decidable (Arrow.Ahead text) :=
  inferInstanceAs (Decidable ((Arrow.read? (Text.trimLeft text)).isSome = true))

namespace Arrow.Ahead

variable {text : List Char}

/-- The text is blanks and then an arrow. -/
theorem exists_gap (ahead : Ahead text) :
    ∃ gap core, text = gap ++ core ∧ (∀ c ∈ gap, Text.isBlank c = true) ∧
      (read? core).isSome = true :=
  ⟨text.takeWhile Text.isBlank, Text.trimLeft text, List.takeWhile_append_dropWhile.symm,
    List.all_eq_true.mp List.all_takeWhile, ahead⟩

theorem of_gap {gap core : List Char} (blank : ∀ c ∈ gap, Text.isBlank c = true)
    (arrow : (read? core).isSome = true) : Ahead (gap ++ core) := by
  have skipped : Text.trimLeft (gap ++ core) = Text.trimLeft core :=
    List.dropWhile_append_of_pos blank
  rw [Ahead, skipped, trimLeft_of_isSome_read? arrow]
  exact arrow

/-- Such a text begins with a blank, a hyphen or an equals sign. -/
theorem head_cases (ahead : Ahead text) :
    ∃ c rest, text = c :: rest ∧ (Text.isBlank c = true ∨ c = '-' ∨ c = '=') := by
  obtain ⟨gap, core, rfl, blank, arrow⟩ := ahead.exists_gap
  cases gap with
  | cons c gap => exact ⟨c, gap ++ core, rfl, .inl (blank c List.mem_cons_self)⟩
  | nil =>
    cases core with
    | nil => cases arrow
    | cons c rest =>
      refine ⟨c, rest, rfl, .inr ?_⟩
      by_contra other
      rw [not_or] at other
      rw [read?_eq_none_of_ne other.1 other.2] at arrow
      cases arrow

/-- A shape may end in front of an arrow. -/
theorem endsBefore (ahead : Ahead text) : Shape.endsBefore text = true := by
  rw [Shape.endsBefore, show (read? (Text.trimLeft text)).isSome = true from ahead, Bool.or_true]

/-- An id does not go on into an arrow. -/
theorem identTail_eq_nil (ahead : Ahead text) : Lexeme.identTail text = [] := by
  obtain ⟨gap, core, rfl, blank, arrow⟩ := ahead.exists_gap
  cases gap with
  | nil => exact Lexeme.identTail_of_arrow arrow
  | cons c gap =>
    refine Lexeme.identTail_of_head fun d first => Bool.eq_false_iff.mpr fun ident => ?_
    obtain rfl : c = d := Option.some.inj first
    have kept := Lexeme.isBlank_of_isIdentChar ident
    rw [blank c List.mem_cons_self] at kept
    cases kept

/-- The blanks at its end are all that is trimmed off after something that is not blank. -/
theorem exists_trim (ahead : Ahead text) :
    ∃ shorter, Ahead shorter ∧ shorter.head? = text.head? ∧
      ∀ front : List Char, front ≠ [] → (∀ c, front.head? = some c → Text.isBlank c = false) →
        Text.trim (front ++ text) = front ++ shorter := by
  obtain ⟨gap, core, rfl, blank, arrow⟩ := ahead.exists_gap
  obtain ⟨trimmedArrow, back, whole, backBlank⟩ := Arrow.exists_trim arrow
  have filled := ne_nil_of_isSome_read? trimmedArrow
  refine ⟨gap ++ Text.trim core, of_gap blank trimmedArrow, ?_, fun front nonempty kept => ?_⟩
  · rw [List.head?_append, List.head?_append, whole, List.head?_append,
      List.head?_eq_some_head filled, ← whole]
    simp [List.head?_eq_some_head filled]
  · have trimmed : Text.Trimmed (front ++ (gap ++ Text.trim core)) :=
      Text.trimmed_append nonempty filled kept (Text.trimmed_trim core).last gap
    have split : front ++ (gap ++ core) = [] ++ ((front ++ (gap ++ Text.trim core)) ++ back) := by
      rw [List.nil_append, List.append_assoc, List.append_assoc, ← whole]
    rw [split]
    exact Text.trim_between Text.forall_isBlank_nil trimmed backBlank

end Arrow.Ahead

namespace Token

/-- What is scanned where an arrow comes next does not depend on what was scanned before. -/
theorem scanFrom_of_ahead {text : List Char} (ahead : Arrow.Ahead text) (before : Option Kind)
    (column : Nat) : scanFrom before column text = (scanFrom none 0 text).map (moved column) := by
  obtain ⟨gap, core, rfl, blank, arrow⟩ := ahead.exists_gap
  have apart : scanFrom before column (gap ++ core) = scanFrom none column (gap ++ core) := by
    rw [scanFrom_blank_append blank, scanFrom_of_arrow arrow before none,
      ← scanFrom_blank_append blank]
  rw [apart, ← scanFrom_add, Nat.zero_add]

/-- The first token of such a text is the arrow. -/
theorem exists_scan_of_ahead {text : List Char} (ahead : Arrow.Ahead text) :
    ∃ arrow value start stop tokens, scan text = ⟨.arrow arrow, value, start, stop⟩ :: tokens := by
  obtain ⟨gap, core, rfl, blank, arrow⟩ := ahead.exists_gap
  obtain ⟨style, value, stop, tokens, scanned⟩ := exists_scan_eq_arrow_iff.mpr arrow
  rw [scan_blank_append blank, scanned]
  exact ⟨style, value, _, _, _, rfl⟩

/-! ### Nodes as they are written -/

/-- A shape behind an id: blanks, and a plain text in the brackets of the shape. -/
structure Bracketed where
  gap : List Char
  shape : Shape
  text : List Char
  blank : ∀ c ∈ gap, Text.isBlank c = true
  plain : Shape.Plain text

namespace Bracketed

variable (bracketed : Bracketed)

def written : List Char :=
  bracketed.gap ++ (bracketed.shape.opener ++ (bracketed.text ++ bracketed.shape.closer))

def face : Face := ⟨bracketed.shape, String.ofList (Text.trim bracketed.text)⟩

/-- A shape does not continue the id in front of it. -/
theorem identTail_append (after : List Char) :
    Lexeme.identTail (bracketed.written ++ after) = [] := by
  refine Lexeme.identTail_of_head fun c first => Bool.eq_false_iff.mpr fun ident => ?_
  obtain ⟨d, opener, equal, bracket⟩ := bracketed.shape.exists_opener_eq_cons
  rw [written, equal] at first
  cases gap : bracketed.gap with
  | nil =>
    rw [gap] at first
    obtain rfl : d = c := Option.some.inj first
    rw [(Lexeme.foreign_of_bracket bracket).2.2.1] at ident
    cases ident
  | cons e gap =>
    rw [gap] at first
    obtain rfl : e = c := Option.some.inj first
    have blank := bracketed.blank e (by rw [‹bracketed.gap = _›]; exact List.mem_cons_self)
    rw [Lexeme.isBlank_of_isIdentChar ident] at blank
    cases blank

theorem scanFrom_append (column : Nat) {after : List Char}
    (ends : Shape.endsBefore after = true) :
    let stop := column + bracketed.written.length
    scanFrom (some .ident) column (bracketed.written ++ after) =
      ⟨.shape bracketed.shape, bracketed.face.text, column + bracketed.gap.length, stop⟩ ::
        scanFrom (some (.shape bracketed.shape)) stop after := by
  have found := Lexeme.shape?_plain bracketed.shape bracketed.plain ends
  have whole : bracketed.written ++ after = bracketed.gap ++ (bracketed.shape.opener ++
      (bracketed.text ++ (bracketed.shape.closer ++ after))) := by
    simp [written]
  have stop : column + bracketed.gap.length + ((bracketed.shape.opener ++
      (bracketed.text ++ (bracketed.shape.closer ++ after))).length - after.length) =
        column + bracketed.written.length := by
    simp only [written, List.length_append]
    omega
  rw [whole, scanFrom_blank_append bracketed.blank, scanFrom_of_shape? _ found, stop]
  rfl

end Bracketed

/-- A node as it is written: an id without hyphens, and a shape or none. -/
structure NodeText where
  id : List Char
  bracketed : Option Bracketed
  nonempty : id ≠ []
  plain : ∀ c ∈ id, Lexeme.isPlainChar c = true

namespace NodeText

variable (node : NodeText)

def written : List Char := node.id ++ (node.bracketed.map Bracketed.written).getD []

/-- The node as an end of an edge. -/
def endpoint : Endpoint := ⟨String.ofList node.id, node.bracketed.map Bracketed.face⟩

/-- The tokens of the node, at the beginning of a line. -/
def tokens : List Token :=
  ⟨.ident, String.ofList node.id, 0, node.id.length⟩ :: node.bracketed.toList.map fun bracketed =>
    ⟨.shape bracketed.shape, bracketed.face.text, node.id.length + bracketed.gap.length,
      node.written.length⟩

theorem written_ne_nil : node.written ≠ [] := by
  simp [written, node.nonempty]

theorem isPlainChar_of_head {c : Char} (first : node.written.head? = some c) :
    Lexeme.isPlainChar c = true := by
  rw [written, List.head?_append, List.head?_eq_some_head node.nonempty] at first
  exact node.plain c (List.mem_of_head? ((List.head?_eq_some_head node.nonempty).trans first))

/-- **A node and what follows it are scanned one after the other**, if what follows does not
continue an id and lets a shape end in front of it. -/
theorem exists_scanFrom_append {after : List Char} (stops : Lexeme.identTail after = [])
    (ends : Shape.endsBefore after = true) :
    ∃ before, scanFrom none 0 (node.written ++ after) =
      node.tokens ++ scanFrom before node.written.length after := by
  obtain ⟨id, bracketed, nonempty, plain⟩ := node
  cases bracketed with
  | none =>
    obtain ⟨noArrow, found⟩ := Lexeme.ident?_append_of_plain nonempty plain stops
    have scanned := scanFrom_of_ident? none 0 noArrow found
    refine ⟨some .ident, ?_⟩
    simpa [written, tokens] using scanned
  | some bracketed =>
    have stops := bracketed.identTail_append after
    obtain ⟨noArrow, found⟩ := Lexeme.ident?_append_of_plain nonempty plain stops
    have scanned := scanFrom_of_ident? none 0 noArrow found
    have next := bracketed.scanFrom_append id.length ends
    refine ⟨some (.shape bracketed.shape), ?_⟩
    simpa [written, tokens, next] using scanned

end NodeText

end Token

end ChartGuide
