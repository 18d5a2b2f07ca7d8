/-
**The columns of tokens.**

The scan of a text does not depend on the column where the text stands, save that its tokens stand
there. What was scanned before matters only until the next token, and not at all if that is an
arrow.

* `Token.scanFrom_add`, `Token.scan_blank_append`: a text further to the right.
* `Token.scanFrom_of_ident?`, `Token.scanFrom_of_shape?`, `Token.scanFrom_of_styleClass?`: the first
  token of a text whose reading is known.
* `Token.exists_read_of_scanFrom`: the first token is read after the blanks in front.
* `Token.exists_of_foldr_glue`: merging loose text leaves other tokens alone.
* `Token.exists_scan_eq_arrow_iff`: a text begins with an arrow exactly if its first token is one.
-/

import ChartGuide.Proofs.Token.Parting

namespace ChartGuide.Token

/-- The token some columns further to the right. -/
def moved (columns : Nat) (token : Token) : Token :=
  { token with start := token.start + columns, stop := token.stop + columns }

/-- What a text says does not depend on the column where it stands. -/
theorem scanFrom_add (before : Option Kind) (column columns : Nat) (text : List Char) :
    scanFrom before (column + columns) text =
      (scanFrom before column text).map (moved columns) := by
  fun_induction scanFrom before column text with
  | case1 => rw [scanFrom]; rfl
  | case2 before column c rest blank ih =>
    rw [scanFrom, if_pos blank, ← ih, Nat.add_right_comm]
  | case3 before column c rest kept lexeme stop ih =>
    rw [scanFrom, if_neg kept, List.map_cons, ← ih]
    have later : column + columns + ((c :: rest).length - lexeme.rest.length) = stop + columns := by
      omega
    simp only [moved]
    rw [later]

theorem scanFrom_blank_append {gap : List Char} (blank : ∀ c ∈ gap, Text.isBlank c = true)
    (before : Option Kind) (column : Nat) (text : List Char) :
    scanFrom before column (gap ++ text) = scanFrom before (column + gap.length) text := by
  induction gap generalizing column with
  | nil => rfl
  | cons c gap ih =>
    rw [List.cons_append, scanFrom, if_pos (blank c List.mem_cons_self),
      ih (fun d member => blank d (List.mem_cons_of_mem _ member)), List.length_cons,
      Nat.add_assoc, Nat.add_comm 1]

/-- The token that wins at the first character of a text. -/
theorem scanFrom_cons (before : Option Kind) (column : Nat) {c : Char}
    (kept : Text.isBlank c = false) (rest : List Char) :
    let lexeme := Lexeme.read before c rest
    let stop := column + ((c :: rest).length - lexeme.rest.length)
    scanFrom before column (c :: rest) =
      ⟨lexeme.kind, String.ofList lexeme.value, column, stop⟩ ::
        scanFrom (some lexeme.kind) stop lexeme.rest := by
  rw [scanFrom, if_neg (by simp [kept])]

/-- An identifier is the first token of a text that no arrow begins. -/
theorem scanFrom_of_ident? (before : Option Kind) (column : Nat) {text : List Char}
    {lexeme : Lexeme} (noArrow : Arrow.read? text = none)
    (found : Lexeme.ident? text = some lexeme) :
    let stop := column + lexeme.value.length
    scanFrom before column text = ⟨.ident, String.ofList lexeme.value, column, stop⟩ ::
      scanFrom (some .ident) stop lexeme.rest := by
  obtain ⟨kind, written, -, -⟩ := Lexeme.ident?_eq_some found
  obtain ⟨c, rest, rfl, first, -⟩ := Lexeme.exists_of_ident? found
  have length : (c :: rest).length - lexeme.rest.length = lexeme.value.length := by
    rw [written, List.length_append, Nat.add_sub_cancel]
  rw [scanFrom_cons before column (Lexeme.isBlank_of_isIdentChar first),
    Lexeme.read_of_ident? before noArrow found, length, kind]

/-- A shape is the first token of a text after an id. -/
theorem scanFrom_of_shape? (column : Nat) {text : List Char} {lexeme : Lexeme}
    (found : Lexeme.shape? (some .ident) text = some lexeme) :
    let stop := column + (text.length - lexeme.rest.length)
    scanFrom (some .ident) column text = ⟨lexeme.kind, String.ofList lexeme.value, column, stop⟩ ::
      scanFrom (some lexeme.kind) stop lexeme.rest := by
  cases text with
  | nil =>
    have shorter := Lexeme.length_of_shape? found
    cases shorter
  | cons c rest =>
    have bracket : c ∈ Shape.brackets := by
      by_contra other
      rw [Lexeme.shape?_eq_none _ other] at found
      cases found
    obtain ⟨notHyphen, notEquals, notIdent, kept⟩ := Lexeme.foreign_of_bracket bracket
    have noArrow := Arrow.read?_eq_none_of_ne notHyphen notEquals rest
    rw [scanFrom_cons _ column kept, Lexeme.read_of_shape? noArrow notIdent found]

/-- A style class is the first token of a text that begins with one. -/
theorem scanFrom_of_styleClass? (before : Option Kind) (column : Nat) {text : List Char}
    {lexeme : Lexeme} (found : Lexeme.styleClass? text = some lexeme) :
    let stop := column + (text.length - lexeme.rest.length)
    scanFrom before column text = ⟨.styleClass, String.ofList lexeme.value, column, stop⟩ ::
      scanFrom (some .styleClass) stop lexeme.rest := by
  cases text with
  | nil =>
    have shorter := Lexeme.length_of_styleClass? found
    cases shorter
  | cons c rest =>
    have kept : Text.isBlank c = false := by
      rw [Lexeme.eq_colon_of_styleClass? found]
      decide
    rw [scanFrom_cons before column kept, Lexeme.read_of_styleClass? before found,
      Lexeme.kind_of_styleClass? found]

/-- **The first token of a text is read after the blanks in front.** -/
theorem exists_read_of_scanFrom {before : Option Kind} {column : Nat} {text : List Char}
    {token : Token} {tokens : List Token}
    (scanned : scanFrom before column text = token :: tokens) :
    ∃ gap c rest after, text = gap ++ c :: rest ∧ (∀ d ∈ gap, Text.isBlank d = true) ∧
      Text.isBlank c = false ∧
      Lexeme.read before c rest = ⟨token.kind, token.value.toList, after⟩ ∧
      token.start = column + gap.length ∧ token.stop = column + (text.length - after.length) ∧
      tokens = scanFrom (some token.kind) token.stop after := by
  induction text generalizing column with
  | nil =>
    rw [scanFrom] at scanned
    cases scanned
  | cons c rest ih =>
    by_cases blank : Text.isBlank c = true
    · rw [scanFrom, if_pos blank] at scanned
      obtain ⟨gap, d, more, after, rfl, gapBlank, kept, read, start, stop, later⟩ := ih scanned
      have shorter := Lexeme.length_read_lt before d more
      rw [read] at shorter
      simp only [List.length_cons, List.length_append] at stop shorter
      refine ⟨c :: gap, d, more, after, rfl, ?_, kept, read, ?_, ?_, later⟩
      · intro e member
        rcases List.mem_cons.mp member with rfl | inGap
        · exact blank
        · exact gapBlank e inGap
      · rw [start, List.length_cons]
        omega
      · simp only [stop, List.length_cons, List.length_append]
        omega
    · have kept : Text.isBlank c = false := Bool.eq_false_iff.mpr blank
      rw [scanFrom_cons before column kept rest] at scanned
      obtain ⟨rfl, rfl⟩ := List.cons.inj scanned
      refine ⟨[], c, rest, _, rfl, Text.forall_isBlank_nil, kept, ?_, rfl, rfl, rfl⟩
      simp only [String.toList_ofList]

/-- Before an arrow it does not matter what was scanned. -/
theorem scanFrom_of_arrow {text : List Char} (arrow : (Arrow.read? text).isSome = true)
    (before other : Option Kind) (column : Nat) :
    scanFrom before column text = scanFrom other column text := by
  cases text with
  | nil => rw [scanFrom, scanFrom]
  | cons c rest =>
    obtain ⟨style, value, after, begins⟩ := Lexeme.exists_arrow? arrow
    have kept := Arrow.isBlank_of_isSome_read? arrow
    rw [scanFrom_cons before column kept, scanFrom_cons other column kept,
      Lexeme.read_of_arrow? before begins, Lexeme.read_of_arrow? other begins]

/-- Behind a style class a text is scanned as at the beginning of a line. -/
theorem scanFrom_styleClass (column : Nat) (text : List Char) :
    scanFrom (some .styleClass) column text = (scanFrom none 0 text).map (moved column) := by
  have alone : scanFrom (some .styleClass) column text = scanFrom none column text := by
    induction text generalizing column with
    | nil => rw [scanFrom, scanFrom]
    | cons c rest ih =>
      -- Only labels and shapes look at what was read before, and neither stands after a class.
      have same : Lexeme.read (some .styleClass) c rest = Lexeme.read none c rest := by
        simp [Lexeme.read, Lexeme.label?, Lexeme.shape?]
      rw [scanFrom, scanFrom, same, ih]
  rw [alone, ← scanFrom_add, Nat.zero_add]

/-! ### Loose text -/

theorem glue_of_ne {token : Token} (other : token.kind ≠ .text) (tokens : List Token) :
    glue token tokens = token :: tokens := by
  cases tokens with
  | nil => rfl
  | cons next rest => rw [glue, if_neg fun loose => other loose.1]

theorem foldr_glue_append {front : List Token} (others : ∀ token ∈ front, token.kind ≠ .text)
    (tokens : List Token) : (front ++ tokens).foldr glue [] = front ++ tokens.foldr glue [] := by
  induction front with
  | nil => rfl
  | cons token front ih =>
    rw [List.cons_append, List.foldr_cons, ih fun later member => others later
      (List.mem_cons_of_mem _ member), glue_of_ne (others token List.mem_cons_self),
      List.cons_append]

theorem glue_map_moved (columns : Nat) (token : Token) (tokens : List Token) :
    glue (token.moved columns) (tokens.map (moved columns)) =
      (glue token tokens).map (moved columns) := by
  cases tokens with
  | nil => rfl
  | cons next rest =>
    have sameKinds : ((token.moved columns).kind = .text ∧ (next.moved columns).kind = .text) =
        (token.kind = .text ∧ next.kind = .text) := rfl
    simp only [List.map_cons, glue, sameKinds]
    split <;> rfl

theorem foldr_glue_map_moved (columns : Nat) (tokens : List Token) :
    (tokens.map (moved columns)).foldr glue [] =
      (tokens.foldr glue []).map (moved columns) := by
  induction tokens with
  | nil => rfl
  | cons token tokens ih => rw [List.map_cons, List.foldr_cons, ih, glue_map_moved, List.foldr_cons]

/-- **Merging loose text leaves other tokens alone.** -/
theorem exists_of_foldr_glue {tokens rest : List Token} {token : Token}
    (glued : tokens.foldr glue [] = token :: rest) (other : token.kind ≠ .text) :
    ∃ later, tokens = token :: later ∧ later.foldr glue [] = rest := by
  cases tokens with
  | nil => cases glued
  | cons first later =>
    rw [List.foldr_cons] at glued
    cases tail : later.foldr glue [] with
    | nil =>
      rw [tail, glue] at glued
      obtain ⟨rfl, rfl⟩ := List.cons.inj glued
      exact ⟨later, rfl, tail⟩
    | cons next more =>
      rw [tail, glue] at glued
      split at glued
      · obtain ⟨rfl, -⟩ := List.cons.inj glued
        exact absurd rfl other
      · obtain ⟨rfl, rfl⟩ := List.cons.inj glued
        exact ⟨later, rfl, tail⟩

theorem scan_blank_append {gap : List Char} (blank : ∀ c ∈ gap, Text.isBlank c = true)
    (text : List Char) : scan (gap ++ text) = (scan text).map (moved gap.length) := by
  rw [scan, scanFrom_blank_append blank, scanFrom_add, foldr_glue_map_moved, scan]

/-- **A text begins with an arrow exactly if its first token is one**, in the first column. -/
theorem exists_scan_eq_arrow_iff {text : List Char} :
    (∃ arrow value stop tokens, scan text = ⟨.arrow arrow, value, 0, stop⟩ :: tokens) ↔
      (Arrow.read? text).isSome = true := by
  constructor
  · rintro ⟨arrow, value, stop, tokens, scanned⟩
    obtain ⟨later, first, -⟩ := exists_of_foldr_glue scanned (by simp)
    obtain ⟨gap, c, rest, after, rfl, -, -, read, start, -⟩ := exists_read_of_scanFrom first
    obtain rfl : gap = [] := List.eq_nil_of_length_eq_zero (by simpa using start.symm)
    by_contra noArrow
    have none := Option.not_isSome_iff_eq_none.mp noArrow
    rcases Lexeme.read_cases_of_no_arrow .none none with
      other | ⟨other, -⟩ | ⟨shape, other, -⟩ | other | other
    all_goals
      rw [read] at other
      cases other
  · intro arrow
    obtain ⟨style, value, after, begins⟩ := Lexeme.exists_arrow? arrow
    cases text with
    | nil => cases arrow
    | cons c rest =>
      rw [scan, scanFrom_cons none 0 (Arrow.isBlank_of_isSome_read? arrow),
        Lexeme.read_of_arrow? none begins, List.foldr_cons, glue_of_ne]
      · exact ⟨_, _, _, _, rfl⟩
      · simp

end ChartGuide.Token
