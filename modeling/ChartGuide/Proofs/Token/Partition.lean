/-
**The tokens of a line, side by side.**

A line is its tokens and the blanks between them: whatever is written, no character that is not
blank is lost, and none is read twice. Each token takes up a span of the line that is not empty, and
what the token says can be read off its span by a rule of its kind.

* `Token.Kind.Spells`: how a token is written, and `Token.Kind.MayFollow`, what it may stand after.
* `Lexeme.spans_read`: the reading that wins at the head of a text takes up a span that spells it.
* `Token.covers_scanFrom`: so the readings of a text cover it, up to blanks. Merging loose text
  keeps that (`Token.Covers.foldr_glue`), since only blanks stand between what is merged.
* `Token.partition_scan`: the tokens of every line partition it.
-/

import ChartGuide.Proofs.Token.Columns
import Mathlib.Data.List.Chain

namespace ChartGuide

namespace Token

/-- How a token of a kind is written that says a value. -/
def Kind.Spells (kind : Kind) (span value : List Char) : Prop :=
  match kind with
  | .ident => span = value
  | .shape drawn => ∃ body, span = drawn.opener ++ (body ++ drawn.closer) ∧ Shape.Says body value
  | .styleClass => span = [':', ':', ':'] ++ value
  | .arrow _ => span = value
  | .label => ∃ inside, span = '|' :: (inside ++ ['|']) ∧ inside ≠ [] ∧ '|' ∉ inside ∧
      value = Text.trim inside
  | .text => value = span.filter fun c => !Text.isBlank c

/-- Whether a token of a kind may stand right after a token of another kind, or after none. -/
def Kind.MayFollow (kind : Kind) (before : Option Kind) : Prop :=
  match kind with
  | .shape _ => before = some .ident
  | .label => ∃ arrow, before = some (.arrow arrow)
  | _ => True

end Token

namespace Lexeme

/-- The lexeme is written at the head of the text, where it may stand, in front of what it leaves. -/
def Spans (lexeme : Lexeme) (before : Option Token.Kind) (text : List Char) : Prop :=
  lexeme.kind.MayFollow before ∧
    ∃ span, text = span ++ lexeme.rest ∧ lexeme.kind.Spells span lexeme.value

variable {before : Option Token.Kind} {text : List Char} {lexeme : Lexeme}

theorem spans_of_arrow? (found : arrow? text = some lexeme) : lexeme.Spans before text := by
  obtain ⟨⟨arrow, rest⟩, read, rfl⟩ := Option.map_eq_some_iff.mp found
  obtain ⟨spelling, -, rfl, -⟩ := Arrow.exists_spelling_of_read? read
  refine ⟨trivial, spelling.text, rfl, ?_⟩
  simp [Token.Kind.Spells]

theorem spans_of_label? (found : label? before text = some lexeme) : lexeme.Spans before text := by
  unfold label? at found
  split at found
  · next arrow body =>
    split at found
    · next c inside rest cut =>
      obtain rfl := Option.some.inj found
      refine ⟨⟨arrow, rfl⟩, '|' :: (c :: inside ++ ['|']), ?_, c :: inside, rfl,
        List.cons_ne_nil _ _, Text.not_mem_of_cutFirst? cut, rfl⟩
      rw [(Text.eq_append_of_cut? cut).1]
      simp
    · cases found
  · cases found

theorem spans_of_ident? (found : ident? text = some lexeme) : lexeme.Spans before text := by
  obtain ⟨kind, written, -, -⟩ := ident?_eq_some found
  rw [Spans, kind]
  exact ⟨trivial, lexeme.value, written, rfl⟩

theorem spans_of_shape? (found : shape? before text = some lexeme) : lexeme.Spans before text := by
  have follows : before = some .ident := by
    by_contra other
    rw [shape?, if_neg other] at found
    cases found
  obtain ⟨shape, kind, read⟩ := shape?_eq_some found
  obtain ⟨body, whole, meant⟩ := (Shape.read?_eq_some_iff.mp read).exists_body
  rw [Spans, kind]
  exact ⟨follows, shape.opener ++ (body ++ shape.closer), by simp [whole], body, rfl, meant⟩

theorem spans_of_styleClass? (found : styleClass? text = some lexeme) :
    lexeme.Spans before text := by
  unfold styleClass? at found
  split at found
  · next body opened =>
    obtain rfl := Text.isPrefixOf?_eq_some_iff.mp opened
    split at found
    · cases found
    · obtain rfl := Option.some.inj found
      refine ⟨trivial, [':', ':', ':'] ++ body.takeWhile isIdentChar, ?_, rfl⟩
      rw [List.append_assoc, List.takeWhile_append_dropWhile]
  · cases found

/-- **Whatever is read at a character that is not blank takes up a span that spells it.** -/
theorem spans_read (before : Option Token.Kind) {c : Char} (kept : Text.isBlank c = false)
    (rest : List Char) : (read before c rest).Spans before (c :: rest) := by
  rcases read_cases before c rest with found | found | found | found | found | loose
  · exact spans_of_arrow? found
  · exact spans_of_label? found
  · exact spans_of_ident? found
  · exact spans_of_shape? found
  · exact spans_of_styleClass? found
  · rw [loose]
    exact ⟨trivial, [c], rfl, by simp [Token.Kind.Spells, kept]⟩

end Lexeme

namespace Token

/-- The tokens are written in a text one after the other, from the given column on, with nothing but
blanks around them. -/
inductive Covers : Option Kind → Nat → List Char → List Token → Prop where
  | blank {before : Option Kind} {column : Nat} {gap : List Char}
      (blank : ∀ c ∈ gap, Text.isBlank c = true) : Covers before column gap []
  | token {before : Option Kind} {column : Nat} {gap span rest : List Char} {token : Token}
      {tokens : List Token} (blank : ∀ c ∈ gap, Text.isBlank c = true) (nonempty : span ≠ [])
      (start : token.start = column + gap.length) (stop : token.stop = token.start + span.length)
      (spells : token.kind.Spells span token.value.toList) (follows : token.kind.MayFollow before)
      (later : Covers (some token.kind) token.stop rest tokens) :
      Covers before column (gap ++ (span ++ rest)) (token :: tokens)

namespace Covers

variable {before : Option Kind} {column : Nat} {text : List Char} {token : Token}
  {tokens : List Token}

/-- One more blank in front. -/
theorem blank_cons {c : Char} (blank : Text.isBlank c = true)
    (covers : Covers before (column + 1) text tokens) : Covers before column (c :: text) tokens := by
  cases covers with
  | blank others => exact .blank (List.forall_mem_cons.mpr ⟨blank, others⟩)
  | token others nonempty start stop spells follows later =>
    refine .token (List.forall_mem_cons.mpr ⟨blank, others⟩) nonempty ?_ stop spells follows later
    rw [start, List.length_cons]
    omega

/-- Loose text that joins the loose text after it takes up both spans and the blanks between. -/
theorem glue (covers : Covers before column text (token :: tokens)) :
    Covers before column text (glue token tokens) := by
  cases tokens with
  | nil => exact covers
  | cons next tokens =>
    rw [Token.glue]
    split
    · next loose =>
      cases covers with
      | @token _ _ gap span _ _ _ blank nonempty start stop spells _ later =>
      cases later with
      | @token _ _ between joined rest _ _ betweenBlank _ nextStart nextStop nextSpells _ later =>
      have noBlanks : between.filter (fun c => !Text.isBlank c) = [] := by
        simpa using betweenBlank
      have said : token.value.toList = span.filter fun c => !Text.isBlank c := by
        rwa [loose.1] at spells
      have saidNext : next.value.toList = joined.filter fun c => !Text.isBlank c := by
        rwa [loose.2] at nextSpells
      have whole : gap ++ (span ++ (between ++ (joined ++ rest))) =
          gap ++ ((span ++ (between ++ joined)) ++ rest) := by simp
      rw [whole]
      refine .token blank (by simp [nonempty]) start ?_ ?_ trivial (loose.2 ▸ later)
      · simp only [nextStop, nextStart, stop, List.length_append]
        omega
      · simp [Kind.Spells, said, saidNext, noBlanks]
    · exact covers

/-- **Merging loose text loses nothing.** -/
theorem foldr_glue (covers : Covers before column text tokens) :
    Covers before column text (tokens.foldr Token.glue []) := by
  induction covers with
  | blank blank => exact .blank blank
  | token blank nonempty start stop spells follows _ ih =>
    exact (Covers.token blank nonempty start stop spells follows ih).glue

/-- Each token takes up its part of the text. -/
theorem exists_of_mem (covers : Covers before column text tokens) (member : token ∈ tokens) :
    ∃ front span back, text = front ++ (span ++ back) ∧ token.start = column + front.length ∧
      token.stop = token.start + span.length ∧ span ≠ [] ∧
      token.kind.Spells span token.value.toList := by
  induction covers with
  | blank => cases member
  | @token _ column gap first rest head _ _ nonempty start stop spells _ _ ih =>
    rcases List.mem_cons.mp member with rfl | later
    · exact ⟨gap, first, rest, rfl, start, stop, nonempty, spells⟩
    · obtain ⟨front, span, back, rfl, startLater, stopLater, found⟩ := ih later
      refine ⟨gap ++ (first ++ front), span, back, by simp, ?_, stopLater, found⟩
      rw [startLater, stop, start]
      simp only [List.length_append]
      omega

/-- Each token stops before the next ones start. -/
theorem apart (covers : Covers before column text tokens) :
    tokens.Pairwise fun first second => first.stop ≤ second.start := by
  induction covers with
  | blank => exact .nil
  | token _ _ _ _ _ _ later ih =>
    refine .cons (fun second member => ?_) ih
    obtain ⟨front, _, _, _, start, _⟩ := later.exists_of_mem member
    omega

/-- Every character that is not blank stands in the span of a token. -/
theorem exists_mem_of_getElem? (covers : Covers before column text tokens) {index : Nat} {c : Char}
    (there : text[index]? = some c) (kept : Text.isBlank c = false) :
    ∃ token ∈ tokens, token.start ≤ column + index ∧ column + index < token.stop := by
  have notInGap : ∀ gap : List Char, (∀ d ∈ gap, Text.isBlank d = true) → ∀ i : Nat,
      gap[i]? ≠ some c := by
    intro gap blank i here
    rw [blank c (List.mem_of_getElem? here)] at kept
    cases kept
  induction covers generalizing index with
  | blank blank => exact absurd there (notInGap _ blank _)
  | @token _ column gap span rest first _ blank _ start stop _ _ _ ih =>
    rw [List.getElem?_append] at there
    split at there
    · exact absurd there (notInGap _ blank _)
    · rw [List.getElem?_append] at there
      split at there
      · exact ⟨first, List.mem_cons_self, by omega, by omega⟩
      · obtain ⟨token, member, startsBefore, stopsAfter⟩ := ih there
        exact ⟨token, List.mem_cons_of_mem _ member, by omega, by omega⟩

/-- Each token stands where it may. -/
theorem mayFollow (covers : Covers before column text tokens) {front back : List Token}
    (split : tokens = front ++ token :: back) :
    token.kind.MayFollow ((front.getLast?.map Token.kind).or before) := by
  induction covers generalizing front with
  | blank => simp at split
  | token _ _ _ _ _ follows _ ih =>
    cases front with
    | nil =>
      obtain ⟨rfl, -⟩ := List.cons.inj split
      exact follows
    | cons first front =>
      obtain ⟨rfl, later⟩ := List.cons.inj split
      have found := ih later
      rw [List.getLast?_cons]
      cases final : front.getLast? with
      | none => rwa [final] at found
      | some last => rwa [final] at found

end Covers

/-- The readings of a text cover it. -/
theorem covers_scanFrom (before : Option Kind) (column : Nat) (text : List Char) :
    Covers before column text (scanFrom before column text) := by
  fun_induction scanFrom before column text with
  | case1 => exact .blank Text.forall_isBlank_nil
  | case2 before column c rest blank ih => exact ih.blank_cons blank
  | case3 before column c rest kept lexeme stop ih =>
    obtain ⟨follows, span, whole, spells⟩ :=
      Lexeme.spans_read before (Bool.eq_false_iff.mpr kept) rest
    have shorter := Lexeme.length_read_lt before c rest
    have lengths := congrArg List.length whole
    rw [List.length_append] at lengths
    have nonempty : span ≠ [] := by
      rintro rfl
      simp only [List.length_nil] at lengths
      omega
    rw [whole]
    rw [← List.nil_append (span ++ lexeme.rest)]
    refine .token Text.forall_isBlank_nil nonempty rfl ?_ ?_ follows ih
    · simp only [stop, lexeme, lengths]
      omega
    · simpa using spells

/-- No loose text is left beside loose text. -/
theorem isChain_foldr_glue (tokens : List Token) :
    (tokens.foldr glue []).IsChain fun first second =>
      ¬ (first.kind = .text ∧ second.kind = .text) := by
  induction tokens with
  | nil => exact .nil
  | cons token tokens ih =>
    rw [List.foldr_cons]
    cases merged : tokens.foldr glue [] with
    | nil => exact .singleton _
    | cons next rest =>
      rw [merged] at ih
      rw [glue]
      split
      · next loose =>
        cases rest with
        | nil => exact .singleton _
        | cons second rest =>
          obtain ⟨notBoth, chain⟩ := List.isChain_cons_cons.mp ih
          exact .cons_cons (fun both => notBoth ⟨loose.2, both.2⟩) chain
      · next notBoth => exact .cons_cons notBoth ih

/-- The part of a line that a token takes up. -/
def span (token : Token) (text : List Char) : List Char :=
  (text.drop token.start).take (token.stop - token.start)

/-- **The tokens are the line, up to blanks.** They stand one after the other in spans that are not
empty and do not overlap, and outside of them the line is blank. Each span spells its token; labels
stand after arrows and shapes after identifiers; and loose text is whole. -/
structure Partition (text : List Char) (tokens : List Token) : Prop where
  increasing : tokens.Pairwise fun first second => first.start < second.start
  apart : tokens.Pairwise fun first second => first.stop ≤ second.start
  filled : ∀ token ∈ tokens, token.start < token.stop ∧ token.stop ≤ text.length
  covered : ∀ column c, text[column]? = some c → Text.isBlank c = false →
    ∃ token ∈ tokens, token.start ≤ column ∧ column < token.stop
  spelled : ∀ token ∈ tokens, token.kind.Spells (token.span text) token.value.toList
  follows : ∀ front token back, tokens = front ++ token :: back →
    token.kind.MayFollow (front.getLast?.map Token.kind)
  merged : tokens.IsChain fun first second => ¬ (first.kind = .text ∧ second.kind = .text)

/-- **The tokens of every line partition it.** -/
theorem partition_scan (line : List Char) : Partition line (scan line) := by
  have covers : Covers none 0 line (scan line) := (covers_scanFrom none 0 line).foldr_glue
  have filled : ∀ token ∈ scan line, token.start < token.stop ∧ token.stop ≤ line.length := by
    intro token member
    obtain ⟨front, span, back, rfl, start, stop, nonempty, -⟩ := covers.exists_of_mem member
    have positive := List.length_pos_iff.mpr nonempty
    simp only [List.length_append]
    omega
  have increasing : (scan line).Pairwise fun first second => first.start < second.start := by
    refine covers.apart.imp_of_mem fun first _ before => ?_
    exact (filled _ first).1.trans_le before
  refine ⟨increasing, covers.apart, filled, fun column c there kept => ?_, fun token member => ?_,
    fun front token back split => ?_, isChain_foldr_glue _⟩
  · simpa using covers.exists_mem_of_getElem? there kept
  · obtain ⟨front, span, back, rfl, start, stop, -, spells⟩ := covers.exists_of_mem member
    have written : token.span (front ++ (span ++ back)) = span := by
      rw [Token.span, stop, start, Nat.zero_add, List.drop_left, Nat.add_sub_cancel_left,
        List.take_left]
    rwa [written]
  · simpa using covers.mayFollow split

/-- Loose text is merged across a blank, which is in its span and not in what it says. -/
example : (scan "a ? ! b".toList).map (fun token => (token.value, token.span "a ? ! b".toList)) =
    [("a", ['a']), ("?!", ['?', ' ', '!']), ("b", ['b'])] := by
  decide +kernel

end Token

end ChartGuide
