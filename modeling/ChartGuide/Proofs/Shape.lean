/-
**Reading shapes.**

A shape is read in one of two ways, `Shape.Reads`: its text is bare, or it is quoted. Once it is
read, it is read however the text goes on (`Shape.Reads.extend`), though perhaps with another text.

A body that begins with a quote, blanks aside, is read from that quote on. `Shape.readSearching`
looks for the quote as for any mark, so it could fail; `Shape.readSearching_eq` says that it never
does and reads the same.

* `Shape.endsBefore_iff`: where a shape may end, said by what is written there.
* `Shape.Reads.exists_body`: a shape is a text between its brackets, and `Shape.Says` what it says.
* `Shape.read?_quoted`: a quoted text is read back whole, whatever brackets it holds.
* `Shape.read?_plain`: a text without brackets and quotes is read back where a shape may end.
* `Lexeme.shape?_eq_some_iff`: the shape that wins is the first that can be read, so no other shape
  is its rival (`Shape.Unrivalled`).
* `Lexeme.shape?_quoted`, `Lexeme.shape?_plain`: none of the shapes that are tried before takes the
  opener for its own.
-/

import ChartGuide.Proofs.Arrow
import ChartGuide.Proofs.Text.Cut
import ChartGuide.Token

namespace ChartGuide

namespace Shape

/-- The shape at the head of a text, where the opening quote is looked for. -/
def readSearching (shape : Shape) (text : List Char) :
    Except Text.MissingMark (Option (List Char × List Char)) :=
  match shape.opener.isPrefixOf? text with
  | none => .ok none
  | some body =>
    if (Text.trimLeft body).head? = some '"' then
      (Text.search ['"'] body).map fun quoted =>
        (Text.cutFirst? ['"'] quoted).bind fun (inside, gap) =>
          (Text.cutFirst? shape.closer gap).map fun (_, after) => (Text.trim inside, after)
    else
      .ok ((closing? shape.closer body).map fun (inside, after) => (Text.trim inside, after))

/-- Looking for the opening quote never fails, and the shape is read as without looking. -/
theorem readSearching_eq (shape : Shape) (text : List Char) :
    shape.readSearching text = .ok (shape.read? text) := by
  rw [readSearching, read?]
  cases shape.opener.isPrefixOf? text with
  | none => rfl
  | some body =>
    simp only [Option.bind_some]
    split
    · next quote =>
      obtain ⟨rest, begins⟩ := List.head?_eq_some_iff.mp quote
      simp only [begins, Text.search_of_trimLeft begins]
      rfl
    · next notQuote =>
      split
      · next rest begins =>
        rw [begins] at notQuote
        exact absurd rfl notQuote
      · rfl

theorem closer_ne_nil (shape : Shape) : shape.closer ≠ [] := by
  cases shape <;> decide

theorem isBlank_closer (shape : Shape) : ∀ c ∈ shape.closer, Text.isBlank c = false := by
  have kept : shape.closer.any Text.isBlank = false := by cases shape <;> decide
  simpa using kept

/-! ### Where a shape may end -/

/-- The texts that tell that a shape ends right in front of them. -/
inductive Bounds : List Char → Prop where
  | lineEnd : Bounds []
  | semicolon (rest : List Char) : Bounds (';' :: rest)
  | ampersand (rest : List Char) : Bounds ('&' :: rest)
  | styleClass (rest : List Char) : Bounds (':' :: ':' :: ':' :: rest)
  | arrow (spelling : Arrow.Spelling) (rest : List Char) : Bounds (spelling.text ++ rest)

/-- The texts in front of which a shape may end, at once or after blanks. -/
def MayEnd (after : List Char) : Prop :=
  ∃ gap next, after = gap ++ next ∧ (∀ c ∈ gap, Text.isBlank c = true) ∧ Bounds next

/-- None of these texts begins with a blank. -/
theorem Bounds.trimLeft_eq {next : List Char} (bounds : Bounds next) :
    Text.trimLeft next = next := by
  cases bounds with
  | lineEnd => rfl
  | semicolon rest => rfl
  | ampersand rest => rfl
  | styleClass rest => rfl
  | arrow spelling rest =>
    exact Arrow.trimLeft_of_isSome_read? (Arrow.isSome_read?_spelling spelling rest)

theorem Bounds.endsBefore {next : List Char} (bounds : Bounds next) : endsBefore next = true := by
  rw [Shape.endsBefore, bounds.trimLeft_eq]
  cases bounds with
  | lineEnd => rfl
  | semicolon rest => rfl
  | ampersand rest => rfl
  | styleClass rest => simp
  | arrow spelling rest => rw [Arrow.isSome_read?_spelling, Bool.or_true]

/-- Where a shape may end, one of these texts comes next. -/
theorem bounds_of_endsBefore {after : List Char} (ends : endsBefore after = true) :
    Bounds (Text.trimLeft after) := by
  simp only [endsBefore, Bool.or_eq_true] at ends
  rcases ends with ((nothing | separator) | styleClass) | arrow
  · rw [List.isEmpty_iff.mp nothing]
    exact .lineEnd
  · cases first : (Text.trimLeft after).head? with
    | none =>
      rw [first] at separator
      cases separator
    | some c =>
      obtain ⟨rest, begins⟩ := List.head?_eq_some_iff.mp first
      rw [first, Option.any_some, Bool.or_eq_true, beq_iff_eq, beq_iff_eq] at separator
      rw [begins]
      rcases separator with rfl | rfl
      · exact .semicolon rest
      · exact .ampersand rest
  · obtain ⟨rest, begins⟩ := List.isPrefixOf_iff_prefix.mp styleClass
    rw [← begins]
    exact .styleClass rest
  · obtain ⟨⟨drawn, rest⟩, read⟩ := Option.isSome_iff_exists.mp arrow
    obtain ⟨spelling, -, begins, -⟩ := Arrow.exists_spelling_of_read? read
    rw [begins]
    exact .arrow spelling rest

/-- **Where a shape may end, by what is written there.** -/
theorem endsBefore_iff {after : List Char} : endsBefore after = true ↔ MayEnd after := by
  constructor
  · intro ends
    exact ⟨after.takeWhile Text.isBlank, Text.trimLeft after,
      List.takeWhile_append_dropWhile.symm,
      fun c member => List.all_eq_true.mp List.all_takeWhile c member, bounds_of_endsBefore ends⟩
  · rintro ⟨gap, next, rfl, blank, bounds⟩
    have skipped : Text.trimLeft (gap ++ next) = Text.trimLeft next :=
      List.dropWhile_append_of_pos blank
    have ends := bounds.endsBefore
    rwa [endsBefore, ← skipped] at ends

/-! ### The two ways -/

/-- A shape with its text at the head of a text, and what follows it. -/
inductive Reads (shape : Shape) : List Char → List Char → List Char → Prop where
  | quoted {body quoted inside gap skipped after : List Char}
      (begins : Text.trimLeft body = '"' :: quoted)
      (inner : Text.cutFirst? ['"'] quoted = some (inside, gap))
      (closed : Text.cutFirst? shape.closer gap = some (skipped, after)) :
      Reads shape (shape.opener ++ body) (Text.trim inside) after
  | bare {body inside after : List Char} (begins : (Text.trimLeft body).head? ≠ some '"')
      (closed : closing? shape.closer body = some (inside, after)) :
      Reads shape (shape.opener ++ body) (Text.trim inside) after

/-- A shape is read in one of the two ways. -/
theorem read?_eq_some_iff {shape : Shape} {text inside after : List Char} :
    shape.read? text = some (inside, after) ↔ shape.Reads text inside after := by
  constructor
  · intro found
    obtain ⟨body, opened, made⟩ := Option.bind_eq_some_iff.mp found
    obtain rfl := Text.isPrefixOf?_eq_some_iff.mp opened
    split at made
    · next quoted begins =>
      obtain ⟨⟨inner, gap⟩, cut, made⟩ := Option.bind_eq_some_iff.mp made
      obtain ⟨⟨skipped, rest⟩, closed, equal⟩ := Option.map_eq_some_iff.mp made
      obtain ⟨rfl, rfl⟩ := Prod.mk.inj equal
      exact .quoted begins cut closed
    · next notQuoted =>
      obtain ⟨⟨inner, rest⟩, closed, equal⟩ := Option.map_eq_some_iff.mp made
      obtain ⟨rfl, rfl⟩ := Prod.mk.inj equal
      refine .bare (fun quote => ?_) closed
      obtain ⟨quoted, begins⟩ := List.head?_eq_some_iff.mp quote
      exact notQuoted quoted begins
  · intro reads
    cases reads with
    | @quoted body quoted inside gap skipped after begins inner closed =>
      rw [read?, Text.isPrefixOf?_eq_some_iff.mpr rfl, Option.bind_some]
      simp only [begins, inner, closed, Option.bind_some, Option.map_some]
    | @bare body inside after begins closed =>
      rw [read?, Text.isPrefixOf?_eq_some_iff.mpr rfl, Option.bind_some]
      split
      · next quoted quote => exact absurd (congrArg List.head? quote) begins
      · rw [closed, Option.map_some]

/-- The closing bracket stands in front of what follows a bare text. -/
theorem eq_append_of_closing? {closer body inside after : List Char}
    (found : closing? closer body = some (inside, after)) :
    body = inside ++ (closer ++ after) := by
  rcases Option.or_eq_some_iff.mp found with found | ⟨_, found⟩
  · exact (Text.eq_append_of_cut? found).1
  · exact (Text.eq_append_of_cut? found).1

/-- A bare text that is closed where a shape may end is closed at the first such place. -/
theorem cut?_of_closing? {shape : Shape} {body inside after : List Char}
    (found : closing? shape.closer body = some (inside, after)) (ends : endsBefore after = true) :
    Text.cut? shape.closer endsBefore body = some (inside, after) := by
  rcases Option.or_eq_some_iff.mp found with found | ⟨nowhere, -⟩
  · exact found
  · obtain ⟨front, back, somewhere⟩ :=
      Text.exists_cut? shape.closer_ne_nil endsBefore inside after ends
    rw [← eq_append_of_closing? found, nowhere] at somewhere
    cases somewhere

/-- A body that is closed is not all blank. -/
theorem trimLeft_ne_nil_of_closing? {shape : Shape} {body inside after : List Char}
    (found : closing? shape.closer body = some (inside, after)) : Text.trimLeft body ≠ [] := by
  obtain ⟨c, rest, closer⟩ := List.exists_cons_of_ne_nil shape.closer_ne_nil
  have member : c ∈ shape.closer := closer ▸ List.mem_cons_self
  refine Text.trimLeft_ne_nil (c := c) ?_ (shape.isBlank_closer c member)
  rw [eq_append_of_closing? found]
  exact List.mem_append_right _ (List.mem_append_left _ member)

/-- More after a text does not change whether its first character, blanks aside, is a quote. -/
theorem head?_trimLeft_append {body : List Char} (kept : Text.trimLeft body ≠ [])
    (tail : List Char) :
    (Text.trimLeft (body ++ tail)).head? = (Text.trimLeft body).head? := by
  obtain ⟨c, rest, begins⟩ := List.exists_cons_of_ne_nil kept
  rw [Text.trimLeft_append_of_ne_nil kept, begins]
  rfl

/-- What the text between the brackets of a shape says. If its first character, blanks aside, is a
quote, it says what stands up to the next quote, and else it says all of it. -/
inductive Says : List Char → List Char → Prop where
  | quoted {gap inside rest : List Char} (blank : ∀ c ∈ gap, Text.isBlank c = true)
      (plain : '"' ∉ inside) : Says (gap ++ '"' :: (inside ++ '"' :: rest)) (Text.trim inside)
  | bare {body : List Char} (begins : (Text.trimLeft body).head? ≠ some '"') :
      Says body (Text.trim body)

/-- **A shape is its text between its brackets**, and what follows it stands behind them. -/
theorem Reads.exists_body {shape : Shape} {text inside after : List Char}
    (reads : shape.Reads text inside after) :
    ∃ body, text = shape.opener ++ (body ++ (shape.closer ++ after)) ∧ Says body inside := by
  cases reads with
  | @quoted body quoted inside gap skipped after begins inner closed =>
    have body_eq : body = body.takeWhile Text.isBlank ++ '"' :: quoted := by
      rw [← begins]
      exact List.takeWhile_append_dropWhile.symm
    have blank : ∀ c ∈ body.takeWhile Text.isBlank, Text.isBlank c = true :=
      List.all_eq_true.mp List.all_takeWhile
    rw [(Text.eq_append_of_cut? inner).1, (Text.eq_append_of_cut? closed).1] at body_eq
    refine ⟨body.takeWhile Text.isBlank ++ '"' :: (inside ++ '"' :: skipped), ?_,
      .quoted blank (Text.not_mem_of_cutFirst? inner)⟩
    refine (congrArg (shape.opener ++ ·) body_eq).trans ?_
    simp
  | @bare body inside after begins closed =>
    obtain rfl := eq_append_of_closing? closed
    refine ⟨inside, rfl, .bare ?_⟩
    by_cases blank : Text.trimLeft inside = []
    · simp [blank]
    · rwa [head?_trimLeft_append blank] at begins

/-- The closing bracket stands in front of what follows a shape. -/
theorem Reads.eq_append {shape : Shape} {text inside after : List Char}
    (reads : shape.Reads text inside after) : ∃ front, text = front ++ (shape.closer ++ after) := by
  obtain ⟨body, whole, -⟩ := reads.exists_body
  exact ⟨shape.opener ++ body, by rw [whole, List.append_assoc]⟩

/-- **A shape that can be read can be read however the text goes on.** A bare text may then end
somewhere else. -/
theorem Reads.extend {shape : Shape} {text inside after : List Char}
    (reads : shape.Reads text inside after) (tail : List Char) :
    ∃ inside after, shape.Reads (text ++ tail) inside after := by
  cases reads with
  | @quoted body quoted inside gap skipped after begins inner closed =>
    have kept : Text.trimLeft body ≠ [] := by
      rw [begins]
      exact List.cons_ne_nil _ _
    rw [List.append_assoc]
    refine ⟨_, _, .quoted ?_ (Text.cutFirst?_append_of_some inner tail)
      (Text.cutFirst?_append_of_some closed tail)⟩
    rw [Text.trimLeft_append_of_ne_nil kept, begins]
    rfl
  | @bare body inside after begins closed =>
    have kept := trimLeft_ne_nil_of_closing? closed
    have first : (Text.cutFirst? shape.closer (body ++ tail)).isSome = true := by
      obtain ⟨front, back, found⟩ :=
        Text.exists_cut? shape.closer_ne_nil (fun _ => true) inside (after ++ tail) rfl
      rw [eq_append_of_closing? closed, List.append_assoc, List.append_assoc, Text.cutFirst?, found]
      rfl
    have still : (closing? shape.closer (body ++ tail)).isSome = true := by
      rw [closing?, Option.isSome_or, first, Bool.or_true]
    obtain ⟨⟨front, back⟩, found⟩ := Option.isSome_iff_exists.mp still
    rw [List.append_assoc]
    exact ⟨_, _, .bare (head?_trimLeft_append kept tail ▸ begins) found⟩

/-! ### Openers -/

/-- The characters that opening brackets begin with. -/
def brackets : List Char := ['(', '[', '{', '>']

theorem exists_opener_eq_cons (shape : Shape) :
    ∃ c rest, shape.opener = c :: rest ∧ c ∈ brackets := by
  cases shape <;> exact ⟨_, _, rfl, by decide⟩

/-- A quoted text is read back, trimmed. -/
theorem read?_quoted (shape : Shape) {text : List Char} (plain : '"' ∉ text) (after : List Char) :
    shape.read? (shape.opener ++ '"' :: (text ++ '"' :: (shape.closer ++ after))) =
      some (Text.trim text, after) :=
  read?_eq_some_iff.mpr <| .quoted rfl (Text.cutFirst?_append_cons plain _)
    (Text.cutFirst?_mark_append shape.closer_ne_nil after)

/-- Every shape is tried, after those listed before it. -/
theorem all_eq_append (shape : Shape) :
    ∃ later, all = all.takeWhile (· != shape) ++ shape :: later := by
  cases shape <;> exact ⟨_, rfl⟩

/-- No opening bracket begins with the opening bracket of a shape that is tried before it. -/
theorem not_opener_isPrefix {shape earlier : Shape}
    (before : earlier ∈ all.takeWhile (· != shape)) : ¬ earlier.opener <+: shape.opener := by
  revert earlier
  cases shape <;> decide

/-- The characters that opening brackets go on with. -/
def innerBrackets : List Char := ['(', '[', '{']

theorem mem_innerBrackets_of_mem_tail {shape : Shape} {c : Char} (member : c ∈ shape.opener.tail) :
    c ∈ innerBrackets := by
  have each : shape.opener.tail.all (fun c => c ∈ innerBrackets) = true := by
    cases shape <;> decide
  exact of_decide_eq_true (List.all_eq_true.mp each c member)

/-- A shape that is tried before does not take an opening bracket for its own, unless the text after
it goes on with a bracket. -/
theorem read?_eq_none_of_before {shape earlier : Shape}
    (before : earlier ∈ all.takeWhile (· != shape)) {c : Char} (foreign : c ∉ innerBrackets)
    (rest : List Char) : earlier.read? (shape.opener ++ c :: rest) = none := by
  have closed : earlier.opener.isPrefixOf? (shape.opener ++ c :: rest) = none := by
    refine Option.eq_none_iff_forall_not_mem.mpr fun after opened => ?_
    have whole := Text.isPrefixOf?_eq_some_iff.mp opened
    refine not_opener_isPrefix before ?_
    rcases List.append_eq_append_iff.mp whole with ⟨more, equal, goesOn⟩ | ⟨more, equal, _⟩
    · cases more with
      | nil => exact ⟨[], by rw [equal]; simp⟩
      | cons d more =>
        obtain ⟨rfl, _⟩ := List.cons.inj goesOn
        obtain ⟨first, inner, opener, -⟩ := shape.exists_opener_eq_cons
        have inEarlier : c ∈ earlier.opener.tail := by
          rw [equal, opener, List.cons_append, List.tail_cons]
          exact List.mem_append_right _ List.mem_cons_self
        exact absurd (mem_innerBrackets_of_mem_tail inEarlier) foreign
    · exact ⟨more, equal.symm⟩
  rw [read?, closed]
  rfl

/-- The characters that brackets and quotes are written with. -/
def delimiters : List Char := ['(', ')', '[', ']', '{', '}', '"']

/-- A text that does without brackets and quotes. -/
def Plain (text : List Char) : Prop := ∀ c ∈ text, c ∉ delimiters

instance (text : List Char) : Decidable (Plain text) := List.decidableBAll (· ∉ delimiters) text

/-- The characters of closing brackets are brackets. -/
theorem Plain.not_mem_closer {text : List Char} (plain : Plain text) {shape : Shape} {c : Char}
    (closes : c ∈ shape.closer) : c ∉ text := by
  have each : shape.closer.all (fun c => c ∈ delimiters) = true := by
    cases shape <;> decide
  exact fun member => plain c member (of_decide_eq_true (List.all_eq_true.mp each c closes))

/-- The first character of a plain text in brackets, or else of the closing bracket, is none that an
opening bracket or a quoted text could go on with. -/
theorem Plain.exists_cons {text : List Char} (plain : Plain text) (shape : Shape)
    (after : List Char) :
    ∃ c rest, text ++ (shape.closer ++ after) = c :: rest ∧ c ∉ innerBrackets := by
  cases text with
  | nil =>
    cases shape <;> exact ⟨_, _, rfl, by decide⟩
  | cons c text =>
    refine ⟨c, _, rfl, fun inner => plain c List.mem_cons_self ?_⟩
    have each : innerBrackets.all (fun c => c ∈ delimiters) = true := by decide
    exact of_decide_eq_true (List.all_eq_true.mp each c inner)

/-- **A plain text is read back where a shape may end.** -/
theorem read?_plain (shape : Shape) {text : List Char} (plain : Plain text) {after : List Char}
    (ends : endsBefore after = true) :
    shape.read? (shape.opener ++ (text ++ (shape.closer ++ after))) =
      some (Text.trim text, after) := by
  obtain ⟨c, closer, equal⟩ := List.exists_cons_of_ne_nil shape.closer_ne_nil
  have closes : c ∈ shape.closer := equal ▸ List.mem_cons_self
  refine read?_eq_some_iff.mpr (.bare ?_ ?_)
  · intro quote
    have kept : Text.trimLeft (text ++ shape.closer) ≠ [] :=
      Text.trimLeft_ne_nil (List.mem_append_right text closes) (shape.isBlank_closer c closes)
    rw [← List.append_assoc, head?_trimLeft_append kept] at quote
    have member := (List.dropWhile_sublist Text.isBlank).subset (List.mem_of_head? quote)
    rcases List.mem_append.mp member with inside | last
    · exact plain '"' inside (by decide)
    · exact absurd last (by cases shape <;> decide)
  · have absent : c ∉ text := plain.not_mem_closer closes
    rw [closing?, equal, Text.cut?_append_of_not_mem absent closer ends, Option.some_or]

end Shape

/-- No shape that is tried before this one can be read at the head of the text. -/
def Shape.Unrivalled (shape : Shape) (text : List Char) : Prop :=
  ∀ earlier ∈ Shape.all.takeWhile (· != shape), earlier.read? text = none

instance (shape : Shape) (text : List Char) : Decidable (shape.Unrivalled text) :=
  inferInstanceAs (Decidable (∀ earlier ∈ Shape.all.takeWhile (· != shape),
    earlier.read? text = none))

/-- A shape that no other one rivals is not rivalled in a shorter text. -/
theorem Shape.Unrivalled.of_append {shape : Shape} {text tail : List Char}
    (unrivalled : shape.Unrivalled (text ++ tail)) : shape.Unrivalled text := by
  intro earlier before
  refine Option.eq_none_iff_forall_not_mem.mpr fun (inside, after) found => ?_
  obtain ⟨other, rest, still⟩ := (read?_eq_some_iff.mp found).extend tail
  have longer := read?_eq_some_iff.mpr still
  rw [unrivalled earlier before] at longer
  cases longer

/-- **After an identifier the first shape wins that can be read.** -/
theorem Lexeme.shape?_eq_some_iff {shape : Shape} {text value rest : List Char} :
    shape? (some .ident) text = some ⟨.shape shape, value, rest⟩ ↔
      shape.read? text = some (value, rest) ∧ shape.Unrivalled text := by
  obtain ⟨later, order⟩ := shape.all_eq_append
  rw [shape?, if_pos rfl]
  constructor
  · intro found
    obtain ⟨before, first, after, tried, taken, passed⟩ := List.findSome?_eq_some_iff.mp found
    obtain ⟨⟨inside, gap⟩, shapeRead, equal⟩ := Option.map_eq_some_iff.mp taken
    obtain ⟨kind, rfl, rfl⟩ := Lexeme.mk.inj equal
    obtain rfl := Token.Kind.shape.inj kind
    refine ⟨shapeRead, fun earlier member => Option.map_eq_none_iff.mp (passed earlier ?_)⟩
    -- Each shape is tried once, so what is tried before this one is what was passed over.
    have absent : first ∉ before := by
      have once : (before ++ first :: after).Nodup := tried ▸ (by decide : Shape.all.Nodup)
      exact fun again => (List.nodup_append.mp once).2.2 first again first List.mem_cons_self rfl
    have stops : Shape.all.takeWhile (· != first) = before := by
      rw [tried, List.takeWhile_append_of_pos, List.takeWhile_cons_of_neg (by simp),
        List.append_nil]
      intro other member
      exact bne_iff_ne.mpr fun same => absent (same ▸ member)
    rwa [stops] at member
  · rintro ⟨found, unrivalled⟩
    rw [order, List.findSome?_append, List.findSome?_eq_none_iff.mpr, List.findSome?_cons, found]
    · rfl
    · intro earlier before
      rw [unrivalled earlier before]
      rfl

/-- After an identifier, a quoted text in brackets is read as the shape of these brackets. -/
theorem Lexeme.shape?_quoted (shape : Shape) {text : List Char} (plain : '"' ∉ text)
    (after : List Char) :
    shape? (some .ident) (shape.opener ++ '"' :: (text ++ '"' :: (shape.closer ++ after))) =
      some ⟨.shape shape, Text.trim text, after⟩ :=
  shape?_eq_some_iff.mpr ⟨shape.read?_quoted plain after, fun _ before =>
    Shape.read?_eq_none_of_before before (by decide) _⟩

/-- After an identifier, a plain text in brackets is read as the shape of these brackets, where a
shape may end. -/
theorem Lexeme.shape?_plain (shape : Shape) {text : List Char} (plain : Shape.Plain text)
    {after : List Char} (ends : Shape.endsBefore after = true) :
    shape? (some .ident) (shape.opener ++ (text ++ (shape.closer ++ after))) =
      some ⟨.shape shape, Text.trim text, after⟩ := by
  refine shape?_eq_some_iff.mpr ⟨shape.read?_plain plain ends, fun earlier before => ?_⟩
  obtain ⟨c, rest, begins, foreign⟩ := plain.exists_cons shape after
  rw [begins]
  exact Shape.read?_eq_none_of_before before foreign rest

end ChartGuide
