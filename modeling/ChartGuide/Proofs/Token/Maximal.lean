/-
**Arrows and identifiers go as far as they can.**

The hyphen is written in identifiers and in arrows, and an arrow may begin with a shorter one. What
is scanned leaves no doubt: an arrow is the longest that is written at its column, and an identifier
goes on until the line ends, a character comes that is foreign to identifiers, or an arrow begins.
So no arrow begins inside an identifier, not even in its first column.

* `Token.exists_read_of_mem_scan`: every token but loose text is the reading at its column.
* `Lexeme.arrowRead?_drop_eq_none`, `Lexeme.stops_identTail`: how far an identifier goes.
* `Token.maximal_scan`: both for the tokens of every line.
-/

import ChartGuide.Proofs.Token.Partition

namespace ChartGuide

namespace Lexeme

/-- No arrow begins where an identifier goes on. -/
theorem arrowRead?_drop_eq_none {text : List Char} {index : Nat}
    (inside : index < (identTail text).length) : Arrow.read? (text.drop index) = none := by
  induction text generalizing index with
  | nil => cases inside
  | cons c rest ih =>
    rw [identTail] at inside
    split at inside
    · next continues =>
      have noArrow := (Bool.and_eq_true_iff.mp continues).2
      cases index with
      | zero => exact Option.isNone_iff_eq_none.mp noArrow
      | succ index => exact ih (Nat.lt_of_succ_lt_succ inside)
    · cases inside

/-- An identifier goes on up to the end, a foreign character or an arrow. -/
theorem stops_identTail (text : List Char) :
    let after := text.drop (identTail text).length
    after = [] ∨ (∃ c, after.head? = some c ∧ isIdentChar c = false) ∨
      ∃ spelling : Arrow.Spelling, spelling.text <+: after := by
  induction text with
  | nil => exact .inl rfl
  | cons c rest ih =>
    rw [identTail]
    split
    · exact ih
    · next stops =>
      refine .inr ?_
      rw [Bool.and_eq_true, not_and_or] at stops
      rcases stops with foreign | arrow
      · exact .inl ⟨c, rfl, Bool.eq_false_iff.mpr foreign⟩
      · refine .inr (not_forall_not.mp fun nowhere => arrow ?_)
        exact Option.isNone_iff_eq_none.mpr (Arrow.read?_eq_none_iff.mpr nowhere)

end Lexeme

namespace Token

/-- Every token is the reading at its column. -/
theorem exists_read_of_mem_scanFrom {before : Option Kind} {column : Nat} {text : List Char}
    {token : Token} (member : token ∈ scanFrom before column text) :
    ∃ earlier front c rest, text = front ++ c :: rest ∧ token.start = column + front.length ∧
      (Lexeme.read earlier c rest).kind = token.kind ∧
      (Lexeme.read earlier c rest).value = token.value.toList := by
  fun_induction scanFrom before column text with
  | case1 => cases member
  | case2 before column c rest blank ih =>
    obtain ⟨earlier, front, d, more, rfl, start, read⟩ := ih member
    refine ⟨earlier, c :: front, d, more, rfl, ?_, read⟩
    rw [start, List.length_cons]
    omega
  | case3 before column c rest kept lexeme stop ih =>
    rcases List.mem_cons.mp member with rfl | later
    · exact ⟨before, [], c, rest, rfl, rfl, rfl, String.toList_ofList.symm⟩
    · obtain ⟨earlier, front, d, more, behind, start, read⟩ := ih later
      obtain ⟨-, span, whole, -⟩ := Lexeme.spans_read before (Bool.eq_false_iff.mpr kept) rest
      have lengths := congrArg List.length whole
      rw [List.length_append] at lengths
      refine ⟨earlier, span ++ front, d, more, ?_, ?_, read⟩
      · rw [whole, List.append_assoc, ← behind]
      · simp only [start, stop, lexeme, lengths, List.length_append]
        omega

/-- **Every token of a line but loose text is the reading at its column.** -/
theorem exists_read_of_mem_scan {line : List Char} {token : Token} (member : token ∈ scan line)
    (other : token.kind ≠ .text) :
    ∃ earlier c rest, line.drop token.start = c :: rest ∧
      (Lexeme.read earlier c rest).kind = token.kind ∧
      (Lexeme.read earlier c rest).value = token.value.toList := by
  have scanned : token ∈ scanFrom none 0 line :=
    (mem_foldr_glue member).resolve_left other
  obtain ⟨earlier, front, c, rest, rfl, start, read⟩ := exists_read_of_mem_scanFrom scanned
  refine ⟨earlier, c, rest, ?_, read⟩
  rw [start, Nat.zero_add, List.drop_left]

/-- The tokens of a line leave no doubt about arrows and identifiers. Each arrow is the longest that
is written at its column. No arrow is written at a column inside an identifier, and an identifier
ends with the line, in front of a foreign character, or where an arrow is written. -/
structure Maximal (line : List Char) (tokens : List Token) : Prop where
  arrow_longest : ∀ token ∈ tokens, ∀ arrow, token.kind = .arrow arrow →
    Arrow.Longest (line.drop token.start) arrow token.value.toList
  ident_intact : ∀ token ∈ tokens, token.kind = .ident →
    ∀ column, token.start ≤ column → column < token.start + token.value.length →
      ∀ spelling : Arrow.Spelling, ¬ spelling.text <+: line.drop column
  ident_ends : ∀ token ∈ tokens, token.kind = .ident →
    token.start + token.value.length = line.length ∨
      (∃ c, (line.drop (token.start + token.value.length)).head? = some c ∧
        Lexeme.isIdentChar c = false) ∨
      ∃ spelling : Arrow.Spelling,
        spelling.text <+: line.drop (token.start + token.value.length)

/-- An identifier of a line, where no arrow begins, goes on as far as it can. -/
theorem exists_identTail_of_mem_scan {line : List Char} {token : Token}
    (member : token ∈ scan line) (kind : token.kind = .ident) :
    ∃ c rest, line.drop token.start = c :: rest ∧ Arrow.read? (c :: rest) = none ∧
      token.value.length = (Lexeme.identTail rest).length + 1 := by
  obtain ⟨earlier, c, rest, there, won, value⟩ := exists_read_of_mem_scan member (by simp [kind])
  obtain ⟨noArrow, found⟩ := Lexeme.ident?_of_kind_read (won.trans kind)
  obtain ⟨d, more, same, -, lexeme⟩ := Lexeme.exists_of_ident? found
  obtain ⟨rfl, rfl⟩ := List.cons.inj same
  refine ⟨c, rest, there, noArrow, ?_⟩
  rw [← String.length_toList, ← value, lexeme, List.length_cons]

/-- **The tokens of every line are maximal.** -/
theorem maximal_scan (line : List Char) : Maximal line (scan line) where
  arrow_longest token member arrow kind := by
    obtain ⟨earlier, c, rest, there, won, value⟩ :=
      exists_read_of_mem_scan member (by simp [kind])
    have found := Lexeme.arrow?_of_kind_read (won.trans kind)
    obtain ⟨⟨style, after⟩, read, lexeme⟩ := Option.map_eq_some_iff.mp found
    have longest := Arrow.longest_of_read? read
    rw [← lexeme] at won value
    obtain rfl := Kind.arrow.inj (won.trans kind)
    rw [there, ← value]
    exact longest
  ident_intact token member kind column behind inside := by
    obtain ⟨c, rest, there, noArrow, length⟩ := exists_identTail_of_mem_scan member kind
    obtain ⟨index, rfl⟩ := Nat.exists_eq_add_of_le behind
    rw [← List.drop_drop, there]
    refine Arrow.read?_eq_none_iff.mp ?_
    cases index with
    | zero => exact noArrow
    | succ index =>
      have goesOn : index < (Lexeme.identTail rest).length := by omega
      rw [List.drop_succ_cons]
      exact Lexeme.arrowRead?_drop_eq_none goesOn
  ident_ends token member kind := by
    obtain ⟨c, rest, there, -, length⟩ := exists_identTail_of_mem_scan member kind
    have behind : line.drop (token.start + token.value.length) =
        rest.drop (Lexeme.identTail rest).length := by
      rw [← List.drop_drop, there, length, List.drop_succ_cons]
    have within : token.start + token.value.length ≤ line.length := by
      have whole := congrArg List.length there
      have tail := (Lexeme.identTail_isPrefix rest).length_le
      simp only [List.length_drop, List.length_cons] at whole
      omega
    rw [behind]
    refine (Lexeme.stops_identTail rest).imp_left fun ended => ?_
    rw [← behind, List.drop_eq_nil_iff] at ended
    exact Nat.le_antisymm within ended

/-- Hyphens belong to the identifiers beside them, unless they make an arrow. -/
example : (scan "a--b-.->c---->d-===>e".toList).map (fun token => (token.value, token.start)) =
    [("a--b", 0), ("-.->", 4), ("c", 8), ("---->", 9), ("d-", 14), ("===>", 16), ("e", 20)] := by
  decide +kernel

end Token

end ChartGuide
