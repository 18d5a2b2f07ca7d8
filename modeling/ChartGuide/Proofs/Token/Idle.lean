/-
**Blanks and semicolons behind a line.**

A text of blanks and semicolons takes no part in anything that stands before it: no bracket, quote,
pipe or arrow is written with such characters, and a shape may end in front of it as it may at the
end of a line. So a text is scanned in front of it as it is alone. What is added are tokens of loose
text, one for each semicolon, and loose text at the end of a line says nothing.

* `Shape.read?_append_of_idle`: a shape is read as before, with the same closing bracket, or not at
  all.
* `Lexeme.read_append_of_idle`: the same reading wins.
* `Token.exists_scanFrom_append`: only loose text is added.
* `Token.exists_scan_append`: merging it changes nothing but loose text at the end.
-/

import ChartGuide.Proofs.Token.Columns

namespace ChartGuide

/-- A text of blanks and semicolons. -/
def Idle (tail : List Char) : Prop := ∀ c ∈ tail, Text.isBlank c = true ∨ c = ';'

namespace Idle

variable {tail : List Char}

theorem not_mem (idle : Idle tail) {c : Char} (kept : Text.isBlank c = false) (other : c ≠ ';') :
    c ∉ tail := by
  intro member
  rcases idle c member with blank | same
  · rw [kept] at blank
    cases blank
  · exact other same

/-- A shape may end in front of blanks and semicolons. -/
theorem endsBefore (idle : Idle tail) : Shape.endsBefore tail = true := by
  unfold Shape.endsBefore
  cases next : (Text.trimLeft tail).head? with
  | none =>
    rw [List.head?_eq_none_iff.mp next]
    rfl
  | some c =>
    have kept : Text.isBlank c = false := Text.not_of_head?_dropWhile next
    have member : c ∈ tail := (List.dropWhile_sublist _).subset (List.mem_of_head? next)
    obtain rfl : c = ';' := (idle c member).resolve_left (by simp [kept])
    obtain ⟨rest, begins⟩ := List.head?_eq_some_iff.mp next
    rw [begins]
    rfl

theorem parting (idle : Idle tail) : Parting tail where
  head c first := (idle c (List.mem_of_head? first)).imp_right .inl
  ends := idle.endsBefore

end Idle

/-- A mark that is written without blanks and semicolons has no part in an idle text. -/
def Apart (mark : List Char) : Prop := ∀ c ∈ mark, Text.isBlank c = false ∧ c ≠ ';'

instance (mark : List Char) : Decidable (Apart mark) :=
  List.decidableBAll (fun c => Text.isBlank c = false ∧ c ≠ ';') mark

theorem Shape.apart_opener (shape : Shape) : Apart shape.opener := by
  cases shape <;> decide

theorem Shape.apart_closer (shape : Shape) : Apart shape.closer := by
  cases shape <;> decide

section Append

variable {tail : List Char} (idle : Idle tail)
include idle

/-! ### Marks -/

namespace Text

variable {mark : List Char} (apart : Apart mark)
include apart

theorem isPrefixOf?_append_of_idle (text : List Char) :
    mark.isPrefixOf? (text ++ tail) = (mark.isPrefixOf? text).map (· ++ tail) :=
  isPrefixOf?_append_of_apart (fun c member first =>
    idle.not_mem (apart c member).1 (apart c member).2 (List.mem_of_head? first)) text

theorem cut?_append_of_idle (nonempty : mark ≠ []) {accepted : List Char → Bool}
    (same : ∀ rest, accepted (rest ++ tail) = accepted rest) (text : List Char) :
    cut? mark accepted (text ++ tail) =
      (cut? mark accepted text).map fun (before, after) => (before, after ++ tail) :=
  cut?_append_of_apart nonempty
    (fun c member => idle.not_mem (apart c member).1 (apart c member).2) same text

theorem cutFirst?_append_of_idle (nonempty : mark ≠ []) (text : List Char) :
    cutFirst? mark (text ++ tail) =
      (cutFirst? mark text).map fun (before, after) => (before, after ++ tail) :=
  cut?_append_of_idle idle apart nonempty (fun _ => rfl) text

end Text

/-! ### Shapes -/

namespace Shape

/-- A bare text is closed by the same bracket, or by none. -/
theorem closing?_append_of_idle (shape : Shape) (body : List Char) :
    closing? shape.closer (body ++ tail) =
      (closing? shape.closer body).map fun (inside, after) => (inside, after ++ tail) := by
  have apart := shape.apart_closer
  have nonempty := shape.closer_ne_nil
  rw [closing?, closing?, Option.map_or,
    Text.cut?_append_of_idle idle apart nonempty (endsBefore_append idle.parting),
    Text.cutFirst?_append_of_idle idle apart nonempty]

/-- Whether the first character of a body, blanks aside, is a quote does not change. -/
theorem head?_trimLeft_append_eq_quote_iff (body : List Char) :
    (Text.trimLeft (body ++ tail)).head? = some '"' ↔ (Text.trimLeft body).head? = some '"' := by
  by_cases blank : Text.trimLeft body = []
  · rw [Text.trimLeft_append_of_eq_nil blank, blank]
    refine iff_of_false (fun quote => ?_) (by simp)
    have noQuote : '"' ∉ tail := idle.not_mem (by decide) (by decide)
    exact noQuote ((List.dropWhile_sublist _).subset (List.mem_of_head? quote))
  · rw [head?_trimLeft_append blank]

/-- **A shape is read as before, or not at all.** -/
theorem read?_append_of_idle (shape : Shape) (text : List Char) :
    shape.read? (text ++ tail) =
      (shape.read? text).map fun (inside, after) => (inside, after ++ tail) := by
  rw [read?, read?, Text.isPrefixOf?_append_of_idle idle shape.apart_opener]
  cases shape.opener.isPrefixOf? text with
  | none => rfl
  | some body =>
    simp only [Option.map_some, Option.bind_some]
    by_cases quote : (Text.trimLeft body).head? = some '"'
    · obtain ⟨quoted, begins⟩ := List.head?_eq_some_iff.mp quote
      have kept : Text.trimLeft body ≠ [] := by
        rw [begins]
        exact List.cons_ne_nil _ _
      rw [Text.trimLeft_append_of_ne_nil kept, begins]
      simp only [List.cons_append,
        Text.cutFirst?_append_of_idle idle (by decide : Apart ['"']) (List.cons_ne_nil _ _)]
      cases Text.cutFirst? ['"'] quoted with
      | none => rfl
      | some parts =>
        simp only [Option.map_some, Option.bind_some,
          Text.cutFirst?_append_of_idle idle shape.apart_closer shape.closer_ne_nil]
        cases Text.cutFirst? shape.closer parts.2 <;> rfl
    · have stillBare := mt (head?_trimLeft_append_eq_quote_iff idle body).mp quote
      split
      · next quoted begins => exact absurd (congrArg List.head? begins) stillBare
      · split
        · next quoted begins => exact absurd (congrArg List.head? begins) quote
        · rw [closing?_append_of_idle idle]
          cases closing? shape.closer body <;> rfl

end Shape

/-! ### Readings -/

namespace Lexeme

omit idle in
/-- The lexeme in front of a longer text. -/
def followedBy (lexeme : Lexeme) (tail : List Char) : Lexeme :=
  { lexeme with rest := lexeme.rest ++ tail }

theorem arrow?_append_of_idle (text : List Char) :
    arrow? (text ++ tail) = (arrow? text).map (followedBy · tail) := by
  rw [arrow?, arrow?, Arrow.read?_append idle.parting.foreign]
  cases found : Arrow.read? text with
  | none => rfl
  | some reading =>
    obtain ⟨arrow, after⟩ := reading
    obtain ⟨spelling, -, rfl, -⟩ := Arrow.exists_spelling_of_read? found
    simp [followedBy]

theorem label?_append_of_idle (before : Option Token.Kind) (c : Char) (rest : List Char) :
    label? before (c :: (rest ++ tail)) =
      (label? before (c :: rest)).map (followedBy · tail) := by
  by_cases here : (∃ arrow, before = some (.arrow arrow)) ∧ c = '|'
  · obtain ⟨⟨arrow, rfl⟩, rfl⟩ := here
    simp only [label?,
      Text.cutFirst?_append_of_idle idle (by decide : Apart ['|']) (List.cons_ne_nil _ _)]
    cases Text.cutFirst? ['|'] rest with
    | none => rfl
    | some parts =>
      obtain ⟨inside, after⟩ := parts
      cases inside <;> rfl
  · have nowhere : ∀ body, label? before (c :: body) = none := by
      intro body
      unfold label?
      split
      · next arrow inside same => exact absurd ⟨⟨arrow, rfl⟩, (List.cons.inj same).1⟩ here
      · rfl
    rw [nowhere, nowhere]
    rfl

theorem ident?_append_of_idle (c : Char) (rest : List Char) :
    ident? (c :: (rest ++ tail)) = (ident? (c :: rest)).map (followedBy · tail) := by
  rw [ident?, ident?, identTail_append_of_parting idle.parting,
    List.drop_append_of_le_length (identTail_isPrefix rest).length_le]
  split <;> rfl

theorem shape?_append_of_idle (before : Option Token.Kind) (text : List Char) :
    shape? before (text ++ tail) = (shape? before text).map (followedBy · tail) := by
  unfold shape?
  split
  · rw [List.map_findSome?]
    congr 1
    funext shape
    rw [Shape.read?_append_of_idle idle, Function.comp_apply, Option.map_map, Option.map_map]
    rfl
  · rfl

theorem styleClass?_append_of_idle (text : List Char) :
    styleClass? (text ++ tail) = (styleClass? text).map (followedBy · tail) := by
  unfold styleClass?
  rw [Text.isPrefixOf?_append_of_idle idle (by decide : Apart [':', ':', ':'])]
  cases [':', ':', ':'].isPrefixOf? text with
  | none => rfl
  | some body =>
    have stops : ∀ c, tail.head? = some c → isIdentChar c = false :=
      fun c => idle.parting.not_isIdentChar
    simp only [Option.map_some, Text.takeWhile_append_of_head stops,
      Text.dropWhile_append_of_head stops]
    cases body.takeWhile isIdentChar <;> rfl

/-- **The same reading wins.** -/
theorem read_append_of_idle (before : Option Token.Kind) (c : Char) (rest : List Char) :
    read before c (rest ++ tail) = (read before c rest).followedBy tail := by
  have arrow : arrow? (c :: (rest ++ tail)) = (arrow? (c :: rest)).map (followedBy · tail) :=
    arrow?_append_of_idle idle (c :: rest)
  have shape : shape? before (c :: (rest ++ tail)) =
      (shape? before (c :: rest)).map (followedBy · tail) :=
    shape?_append_of_idle idle before (c :: rest)
  have styleClass : styleClass? (c :: (rest ++ tail)) =
      (styleClass? (c :: rest)).map (followedBy · tail) :=
    styleClass?_append_of_idle idle (c :: rest)
  simp only [read, arrow, label?_append_of_idle idle, ident?_append_of_idle idle, shape, styleClass,
    ← Option.map_or]
  exact Option.getD_map (followedBy · tail) ⟨.text, [c], rest⟩ _

end Lexeme

/-! ### Tokens -/

namespace Token

omit idle in
/-- A semicolon is loose text. -/
theorem read_semicolon (before : Option Kind) (rest : List Char) :
    Lexeme.read before ';' rest = ⟨.text, [';'], rest⟩ := by
  rcases Lexeme.read_cases before ';' rest with arrow | label | ident | shape | styleClass | loose
  · cases arrow
  · unfold Lexeme.label? at label
    split at label
    · next same => exact absurd (List.cons.inj same).1 (by decide)
    · cases label
  · cases ident
  · rw [Lexeme.shape?_eq_none before (by decide)] at shape
    cases shape
  · exact absurd (Lexeme.eq_colon_of_styleClass? styleClass) (by decide)
  · exact loose

/-- Blanks and semicolons alone are loose text. -/
theorem kind_of_mem_scanFrom_idle (before : Option Kind) (column : Nat) :
    ∀ token ∈ scanFrom before column tail, token.kind = .text := by
  induction tail generalizing before column with
  | nil =>
    intro token member
    rw [scanFrom] at member
    cases member
  | cons c rest ih =>
    obtain ⟨first, others⟩ := List.forall_mem_cons.mp idle
    rw [scanFrom]
    split
    · exact ih others before (column + 1)
    · next kept =>
      obtain rfl := first.resolve_left kept
      rw [read_semicolon]
      exact List.forall_mem_cons.mpr ⟨rfl, ih others _ _⟩

/-- **In front of blanks and semicolons a text is scanned as it is alone**, and only loose text is
added. -/
theorem exists_scanFrom_append (before : Option Kind) (column : Nat) (text : List Char) :
    ∃ loose, (∀ token ∈ loose, token.kind = .text) ∧
      scanFrom before column (text ++ tail) = scanFrom before column text ++ loose := by
  fun_induction scanFrom before column text with
  | case1 before column =>
    exact ⟨scanFrom before column tail, kind_of_mem_scanFrom_idle idle before column, rfl⟩
  | case2 before column c rest blank ih =>
    obtain ⟨loose, kind, scanned⟩ := ih
    refine ⟨loose, kind, ?_⟩
    rw [List.cons_append, scanFrom, if_pos blank, scanned]
  | case3 before column c rest kept lexeme stop ih =>
    obtain ⟨loose, kind, scanned⟩ := ih
    refine ⟨loose, kind, ?_⟩
    have sameStop : column + ((c :: (rest ++ tail)).length - (lexeme.rest ++ tail).length) =
        stop := by
      simp only [stop, List.length_cons, List.length_append]
      omega
    rw [List.cons_append, scanFrom, if_neg kept, Lexeme.read_append_of_idle idle]
    simp only [Lexeme.followedBy]
    rw [sameStop, scanned, List.cons_append]

end Token

end Append

namespace Token

/-- Loose text stays loose text when it is merged. -/
theorem kind_of_mem_glue {first : Token} {loose : List Token} (own : first.kind = .text)
    (kind : ∀ token ∈ loose, token.kind = .text) :
    ∀ token ∈ glue first loose, token.kind = .text := by
  intro token member
  rcases mem_glue member with merged | rfl | there
  · exact merged
  · exact own
  · exact kind token there

/-- **Merging changes nothing but loose text at the end**, if loose text is added there. -/
theorem exists_foldr_glue_append (tokens : List Token) {loose : List Token}
    (kind : ∀ token ∈ loose, token.kind = .text) :
    ∃ front last longer, tokens.foldr glue [] = front ++ last ∧
      (tokens ++ loose).foldr glue [] = front ++ longer ∧
      (∀ token ∈ last, token.kind = .text) ∧ ∀ token ∈ longer, token.kind = .text := by
  induction tokens with
  | nil =>
    refine ⟨[], [], loose.foldr glue [], rfl, rfl, fun _ none => absurd none List.not_mem_nil,
      fun token member => ?_⟩
    exact (mem_foldr_glue member).elim id (kind token)
  | cons token tokens ih =>
    obtain ⟨front, last, longer, alone, together, lastKind, longerKind⟩ := ih
    rw [List.cons_append, List.foldr_cons, List.foldr_cons, alone, together]
    cases front with
    | cons next front =>
      rw [List.cons_append, List.cons_append, glue, glue]
      split
      · exact ⟨_ :: front, last, longer, rfl, rfl, lastKind, longerKind⟩
      · exact ⟨token :: next :: front, last, longer, rfl, rfl, lastKind, longerKind⟩
    | nil =>
      by_cases own : token.kind = .text
      · exact ⟨[], glue token last, glue token longer, rfl, rfl, kind_of_mem_glue own lastKind,
          kind_of_mem_glue own longerKind⟩
      · refine ⟨[token], last, longer, ?_, ?_, lastKind, longerKind⟩
        all_goals exact glue_of_ne own _

/-- **The tokens of a line with blanks and semicolons behind it** are those of the line, up to loose
text at the end. -/
theorem exists_scan_append {tail : List Char} (idle : Idle tail) (text : List Char) :
    ∃ front last longer, scan text = front ++ last ∧ scan (text ++ tail) = front ++ longer ∧
      (∀ token ∈ last, token.kind = .text) ∧ ∀ token ∈ longer, token.kind = .text := by
  obtain ⟨loose, kind, scanned⟩ := exists_scanFrom_append idle none 0 text
  rw [scan, scan, scanned]
  exact exists_foldr_glue_append _ kind

end Token

end ChartGuide
