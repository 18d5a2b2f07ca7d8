/-
**Declaring a node on the line of its edge.**

The source of an edge may be declared on the line of the edge, or on a line of its own before it.
The two say the same, unless the line says something else once the edge follows: a shape that is
tried before the declared one may then be read, and an edge without a target is not read at all.

* `Line.Ordinary`: the lines that are read for what they say.
* `Token.Declares.ofLine_append`: what a declaration and an arrow say on one line.
* `Token.Declares.apart_from_arrow`: when the two are scanned, and compiled, as if they stood apart.
-/

import ChartGuide.Proofs.Draft.Lines
import ChartGuide.Proofs.Line.Arrows
import ChartGuide.Proofs.Token.Declaration

namespace ChartGuide

namespace Line

/-- A line that is read for what it says: it is one line, and it is neither blank nor a comment nor
a directive. -/
structure Ordinary (line : List Char) : Prop where
  oneLine : '\n' ∉ line
  nonempty : (Text.trim line).isEmpty = false
  noComment : ['%', '%'].isPrefixOf (Text.trim line) = false
  noDirective : isDirective (Text.trim line) = false

instance (line : List Char) : Decidable (Ordinary line) :=
  decidable_of_iff ('\n' ∉ line ∧ (Text.trim line).isEmpty = false ∧
      ['%', '%'].isPrefixOf (Text.trim line) = false ∧ isDirective (Text.trim line) = false)
    ⟨fun ⟨oneLine, nonempty, noComment, noDirective⟩ =>
        ⟨oneLine, nonempty, noComment, noDirective⟩,
      fun ordinary => ⟨ordinary.oneLine, ordinary.nonempty, ordinary.noComment,
        ordinary.noDirective⟩⟩

theorem Ordinary.ofLine {line : List Char} (ordinary : Ordinary line) :
    Statement.ofLine line = (statement? (Token.scan (Text.trim line))).toOption := by
  rw [Statement.ofLine, read, ordinary.nonempty, ordinary.noComment, ordinary.noDirective]
  simp only [Bool.false_eq_true, if_false]
  cases statement? (Token.scan (Text.trim line)) <;> rfl

end Line

namespace Token.Declares

variable {declared following : List Char} {id : String} {face : Face} {column : Nat}

/-! ### The three lines -/

/-- The line of a declaration declares. -/
theorem ofLine_eq (declares : Declares declared id face column)
    (ordinary : Line.Ordinary declared) :
    Statement.ofLine declared = some (.declaration id face) := by
  obtain ⟨gap, -, -, later, -, start, stop, scanned⟩ := declares.trim
  rw [ordinary.ofLine, scanned]
  rfl

/-- Where an arrow leads to that some text begins with. -/
def target? (following : List Char) : Option (Option String × Endpoint) :=
  Line.aim? (scan (Text.trim following)).tail

/-- The tokens of an arrow make an edge with an id in front of them. -/
theorem statement?_append_moved (arrow : (Arrow.read? following).isSome = true) {left : List Token}
    {source : Endpoint} (noArrow : ∀ token ∈ left, Line.isArrow token = false)
    (found : Line.endpoint? left = some source) (columns : Nat) :
    (Line.statement? (left ++ (scan (Text.trim following)).map (moved columns))).toOption =
      (target? following).map (Line.edgeFrom source) := by
  obtain ⟨style, value, stop, tokens, begins⟩ :=
    exists_scan_eq_arrow_iff.mpr (Arrow.exists_trim arrow).1
  rw [target?, begins, List.tail_cons, Line.statement?_append_moved noArrow found]
  cases Line.aim? tokens <;> rfl

/-- The line of an id and an arrow draws an edge from a node that it does not declare. -/
theorem ofLine_id_append (declares : Declares declared id face column)
    (arrow : (Arrow.read? following).isSome = true)
    (ordinary : Line.Ordinary (id.toList ++ ' ' :: following)) :
    Statement.ofLine (id.toList ++ ' ' :: following) =
      (target? following).map (Line.edgeFrom ⟨id, none⟩) := by
  obtain ⟨parts, -, -⟩ := declares.exists_declaration
  obtain ⟨trimmedArrow, back, followingParts, blank⟩ := Arrow.exists_trim arrow
  have alone : Text.trim id.toList = id.toList :=
    Text.trim_eq_self <| Text.trimmed_of_forall fun c member =>
      Lexeme.isBlank_of_isIdentChar (parts.isIdentChar_of_mem member)
  have filled := Arrow.ne_nil_of_isSome_read? trimmedArrow
  have noGap : id.toList = [] ++ Text.trim id.toList := alone.symm
  have trimmed : Text.trim (id.toList ++ ' ' :: following) =
      id.toList ++ ' ' :: Text.trim following := by
    rw [Text.trim_append_space noGap Text.forall_isBlank_nil
      (alone.symm ▸ parts.id_ne_nil) followingParts blank filled, alone]
  have noArrow : ∀ token ∈ [(⟨.ident, id, 0, id.toList.length⟩ : Token)],
      Line.isArrow token = false := by
    simp [Line.isArrow]
  rw [ordinary.ofLine, trimmed, declares.scan_id_append trimmedArrow]
  exact statement?_append_moved arrow noArrow rfl _

/-- The line of a declaration and an arrow draws an edge from the node that it declares, if no shape
that is tried before the declared one can be read. -/
theorem ofLine_append (declares : Declares declared id face column)
    (arrow : (Arrow.read? following).isSome = true)
    (unrivalled : face.shape.Unrivalled (declared.drop column ++ ' ' :: following))
    (ordinary : Line.Ordinary (declared ++ ' ' :: following)) :
    Statement.ofLine (declared ++ ' ' :: following) =
      (target? following).map (Line.edgeFrom ⟨id, some face⟩) := by
  obtain ⟨gap, declaredParts, gapBlank, later, rfl, trimmedDeclares⟩ := declares.trim
  obtain ⟨trimmedArrow, back, followingParts, backBlank⟩ := Arrow.exists_trim arrow
  have filled := Arrow.ne_nil_of_isSome_read? trimmedArrow
  have trimmed : Text.trim (declared ++ ' ' :: following) =
      Text.trim declared ++ ' ' :: Text.trim following :=
    Text.trim_append_space declaredParts gapBlank trimmedDeclares.ne_nil followingParts backBlank
      filled
  -- What is trimmed off at the end can only have helped another shape.
  have still : face.shape.Unrivalled
      ((Text.trim declared).drop later ++ ' ' :: Text.trim following) := by
    have bracketed : declared.drop (gap.length + later) = (Text.trim declared).drop later := by
      rw [declaredParts, List.drop_length_add_append, ← declaredParts]
    have longer : face.shape.Unrivalled
        (((Text.trim declared).drop later ++ ' ' :: Text.trim following) ++ back) := by
      rw [bracketed, followingParts] at unrivalled
      rwa [List.append_assoc, List.cons_append]
    exact longer.of_append
  have scanned := (trimmedDeclares.scan_append_iff trimmedArrow).mpr still
  obtain ⟨start, stop, tokens⟩ := trimmedDeclares
  have noArrow : ∀ token ∈ [(⟨.ident, id, start, stop⟩ : Token),
      ⟨.shape face.shape, face.text, later, (Text.trim declared).length⟩],
      Line.isArrow token = false := by
    simp [Line.isArrow]
  rw [ordinary.ofLine, trimmed, scanned, tokens]
  exact statement?_append_moved arrow noArrow rfl _

/-- **A declaration and an arrow on one line.** They are scanned as if they stood apart exactly if
no shape that is tried before the declared one can be read at its opening bracket, now that more
follows. They are then compiled as if the declaration had a line of its own, whatever other lines
there are, if the arrow leads to a target. If it leads to none, the line is not accepted, and only a
declaration on a line of its own counts. -/
theorem apart_from_arrow (declares : Declares declared id face column)
    (begins : ∃ arrow value stop tokens,
      scan following = ⟨.arrow arrow, value, 0, stop⟩ :: tokens) :
    let joined := declared ++ ' ' :: following
    let repeated := id.toList ++ ' ' :: following
    let unrivalled := face.shape.Unrivalled (declared.drop column ++ ' ' :: following)
    (scan joined = scan declared ++ (scan following).map (moved (declared.length + 1)) ↔
        unrivalled) ∧
      (unrivalled → Line.Ordinary declared → Line.Ordinary joined → Line.Ordinary repeated →
        ∀ before after : List (List Char), (∀ line ∈ before ++ after, '\n' ∉ line) →
        ∀ (settings : Settings) (prior : Prior) (now : String),
          let compiled := fun lines =>
            settings.compile (chartOf (before ++ (lines ++ after))) prior now
          ((Statement.ofLine joined).isSome = true →
              (compiled [joined]).SameNodes (compiled [declared, repeated])) ∧
            (Statement.ofLine joined = none →
              (compiled [joined]).SameNodes (compiled []) ∧
                (compiled [declared, repeated]).SameNodes (compiled [declared]))) := by
  intro joined repeated unrivalled
  have arrow := exists_scan_eq_arrow_iff.mp begins
  refine ⟨declares.scan_append_iff arrow, ?_⟩
  intro noRival declaredLine joinedLine repeatedLine before after around settings prior now compiled
  have noLines := Draft.ofSource_between around [] (by simp)
  have alone := Draft.ofSource_between around [declared] (by simpa using declaredLine.oneLine)
  have together := Draft.ofSource_between around [joined] (by simpa using joinedLine.oneLine)
  have apart := Draft.ofSource_between around [declared, repeated]
    (by simpa using ⟨declaredLine.oneLine, repeatedLine.oneLine⟩)
  have declaredSays := declares.ofLine_eq declaredLine
  have joinedSays : Statement.ofLine joined = _ := declares.ofLine_append arrow noRival joinedLine
  have repeatedSays : Statement.ofLine repeated = _ := declares.ofLine_id_append arrow repeatedLine
  cases leads : target? following with
  | some aim =>
    rw [leads, Option.map_some] at joinedSays repeatedSays
    rw [joinedSays]
    refine ⟨fun _ => Settings.sameNodes_compile ?_ settings prior now, nofun⟩
    rw [together, apart]
    simp only [List.filterMap_cons, List.filterMap_nil, declaredSays, joinedSays, repeatedSays]
    exact Draft.foldl_apply_declared_source _ _ id face aim.1 aim.2
  | none =>
    rw [leads, Option.map_none] at joinedSays repeatedSays
    rw [joinedSays]
    refine ⟨nofun, fun _ => ⟨Settings.sameNodes_compile ?_ settings prior now,
      Settings.sameNodes_compile ?_ settings prior now⟩⟩
    · rw [together, noLines, List.filterMap_cons_none joinedSays]
    · rw [apart, alone, List.filterMap_cons_some declaredSays,
        List.filterMap_cons_none repeatedSays, List.filterMap_cons_some declaredSays]

/-- A box in front of an arrow to a cylinder, on a line between two others. -/
theorem apart_from_arrow_boxed :
    let declared := "A[x]".toList
    let following := "-->|on| B[(y)] ".toList
    Declares declared "A" ⟨.box, "x"⟩ 1 ∧
      (∃ arrow value stop tokens, scan following = ⟨.arrow arrow, value, 0, stop⟩ :: tokens) ∧
      Shape.box.Unrivalled (declared.drop 1 ++ ' ' :: following) ∧
      scan (declared ++ ' ' :: following) = scan declared ++ (scan following).map (moved 5) ∧
      Line.Ordinary declared ∧ Line.Ordinary (declared ++ ' ' :: following) ∧
      Line.Ordinary ("A".toList ++ ' ' :: following) ∧
      (Statement.ofLine (declared ++ ' ' :: following)).isSome = true ∧
      ∀ (settings : Settings) (prior : Prior) (now : String),
        (settings.compile "B --> A\nA[x] -->|on| B[(y)] \nA{z}" prior now).SameNodes
          (settings.compile "B --> A\nA[x]\nA -->|on| B[(y)] \nA{z}" prior now) := by
  intro declared following
  have declares : Declares declared "A" ⟨.box, "x"⟩ 1 := ⟨0, 1, by decide +kernel⟩
  have begins : ∃ arrow value stop tokens,
      scan following = ⟨.arrow arrow, value, 0, stop⟩ :: tokens :=
    ⟨.plain, "-->", 3, (scan following).tail, by decide +kernel⟩
  have unrivalled : Shape.box.Unrivalled (declared.drop 1 ++ ' ' :: following) := by decide +kernel
  have declaredLine : Line.Ordinary declared := by decide +kernel
  have joinedLine : Line.Ordinary (declared ++ ' ' :: following) := by decide +kernel
  have repeatedLine : Line.Ordinary ("A".toList ++ ' ' :: following) := by decide +kernel
  have accepted : (Statement.ofLine (declared ++ ' ' :: following)).isSome = true := by
    decide +kernel
  have oneLine : ∀ line ∈ ["B --> A".toList] ++ ["A{z}".toList], '\n' ∉ line := by decide
  obtain ⟨tokens, lines⟩ := apart_from_arrow declares begins
  refine ⟨declares, begins, unrivalled, tokens.mpr unrivalled, declaredLine, joinedLine,
    repeatedLine, accepted, fun settings prior now => ?_⟩
  have same := (lines unrivalled declaredLine joinedLine repeatedLine ["B --> A".toList]
    ["A{z}".toList] oneLine settings prior now).1 accepted
  have together : chartOf (["B --> A".toList] ++
      ([declared ++ ' ' :: following] ++ ["A{z}".toList])) =
        "B --> A\nA[x] -->|on| B[(y)] \nA{z}" := by decide +kernel
  have apart : chartOf (["B --> A".toList] ++
      ([declared, "A".toList ++ ' ' :: following] ++ ["A{z}".toList])) =
        "B --> A\nA[x]\nA -->|on| B[(y)] \nA{z}" := by decide +kernel
  simp only [together, apart] at same
  exact same

/-- **What follows can matter.** A box whose text begins with a bracket becomes a cylinder when a
cylinder follows, and an arrow that leads nowhere takes the declaration in front of it along. -/
theorem joined_to_arrow :
    (Declares "A[(x]".toList "A" ⟨.box, "(x"⟩ 1 ∧
      (∃ arrow value stop tokens,
        scan "--> B[(y)]".toList = ⟨.arrow arrow, value, 0, stop⟩ :: tokens) ∧
      scan ("A[(x]".toList ++ ' ' :: "--> B[(y)]".toList) =
        [⟨.ident, "A", 0, 1⟩, ⟨.shape .cylinder, "x] --> B[(y", 1, 16⟩] ∧
      scan ("A[(x]".toList ++ ' ' :: "--> B[(y)]".toList) ≠
        scan "A[(x]".toList ++ (scan "--> B[(y)]".toList).map (moved 6)) ∧
    (Declares "A[x]".toList "A" ⟨.box, "x"⟩ 1 ∧
      (∃ arrow value stop tokens,
        scan "-->".toList = ⟨.arrow arrow, value, 0, stop⟩ :: tokens) ∧
      Line.Ordinary "A[x]".toList ∧ Line.Ordinary "A[x] -->".toList ∧
      Line.Ordinary "A -->".toList ∧
      (Settings.usual.compile "A[x] -->" {} "").nodes ≠
        (Settings.usual.compile "A[x]\nA -->" {} "").nodes) := by
  refine ⟨⟨⟨0, 1, ?_⟩, ⟨.plain, "-->", 3, (scan "--> B[(y)]".toList).tail, ?_⟩, ?_, ?_⟩,
    ⟨0, 1, ?_⟩, ⟨.plain, "-->", 3, [], ?_⟩, ?_, ?_, ?_, ?_⟩
  all_goals decide +kernel

end Token.Declares

end ChartGuide
