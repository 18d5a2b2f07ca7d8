/-
**What an accepted line may say.**

The ids of a statement are made of identifier characters, and what a face says is trimmed, since
both are read off the tokens of the line.

* `Line.statement?_eq_ok`: how the tokens of a line make its statement.
* `Statement.spelled_of_mem_mentions`, `Statement.trimmed_of_mem_faces`: what the statements of a
  chart may say.
-/

import ChartGuide.Proofs.Draft.Statements
import ChartGuide.Proofs.Token.Values
import Mathlib.Data.List.TakeDrop

namespace ChartGuide

/-- An id as a chart spells it: identifier characters, at least one. -/
structure Spelled (id : String) : Prop where
  nonempty : id.toList ≠ []
  chars : ∀ c ∈ id.toList, Lexeme.isIdentChar c = true

/-- An end of an edge as a chart spells it. -/
structure Endpoint.Sound (endpoint : Endpoint) : Prop where
  id : Spelled endpoint.id
  face : ∀ face, endpoint.face = some face → Text.Trimmed face.text.toList

/-- A statement as a chart spells it. -/
structure Statement.Sound (statement : Statement) : Prop where
  mentions : ∀ id ∈ statement.mentions, Spelled id
  faces : ∀ entry ∈ statement.faces, Text.Trimmed entry.2.text.toList

namespace Line

/-- Each token says what its kind allows. -/
def TokensAllowed (tokens : List Token) : Prop :=
  ∀ token ∈ tokens, token.kind.Allows token.value.toList

/-- An end of an edge is read off its first two tokens. -/
theorem sound_of_endpoint? {tokens : List Token} {endpoint : Endpoint}
    (allowed : TokensAllowed tokens) (found : endpoint? tokens = some endpoint) :
    endpoint.Sound := by
  unfold endpoint? at found
  split at found
  · next id start stop rest =>
    obtain rfl := Option.some.inj found
    obtain ⟨nonempty, chars⟩ := allowed _ List.mem_cons_self
    refine ⟨⟨nonempty, chars⟩, fun face faceFound => ?_⟩
    unfold leadingFace? at faceFound
    split at faceFound
    · next equal =>
      obtain rfl := Option.some.inj faceFound
      obtain ⟨_, rfl⟩ := List.cons.inj equal
      exact allowed _ (List.mem_cons_of_mem _ List.mem_cons_self)
    · cases faceFound
  · cases found

theorem splitLabel_subset (tokens : List Token) : (splitLabel tokens).2 ⊆ tokens := by
  unfold splitLabel
  split
  · exact List.subset_cons_self _ _
  · exact List.Subset.refl _

/-- The tokens of an accepted line: an edge has its first arrow between two ends, and a declaration
has no arrow and a face at its front. -/
theorem statement?_eq_ok {tokens : List Token} {statement : Statement}
    (made : statement? tokens = .ok statement) :
    (∃ left arrow after source label right target, tokens = left ++ arrow :: after ∧
      endpoint? left = some source ∧ splitLabel after = (label, right) ∧
      endpoint? right = some target ∧ statement = .edge source label target) ∨
    ∃ id face, endpoint? tokens = some ⟨id, some face⟩ ∧ statement = .declaration id face := by
  have whole : tokens = (tokens.span fun token => !isArrow token).1 ++
      (tokens.span fun token => !isArrow token).2 := by
    rw [List.span_eq_takeWhile_dropWhile]
    exact List.takeWhile_append_dropWhile.symm
  unfold statement? at made
  split at made
  · next left arrow after equal =>
    rw [equal] at whole
    rcases labelled : splitLabel after with ⟨label, right⟩
    simp only [labelled] at made
    split at made
    · cases made
    · cases made
    · next source target sourceFound targetFound =>
      obtain rfl := Except.ok.inj made
      exact Or.inl ⟨left, arrow, after, source, label, right, target, whole, sourceFound,
        labelled, targetFound, rfl⟩
  · next front equal =>
    rw [equal, List.append_nil] at whole
    split at made
    · next id face found =>
      obtain rfl := Except.ok.inj made
      exact Or.inr ⟨id, face, whole ▸ found, rfl⟩
    · cases made

theorem sound_of_statement? {tokens : List Token} {statement : Statement}
    (allowed : TokensAllowed tokens) (made : statement? tokens = .ok statement) :
    statement.Sound := by
  rcases statement?_eq_ok made with
    ⟨left, arrow, after, source, label, right, target, rfl, sourceFound, labelled, targetFound,
      rfl⟩ | ⟨id, face, found, rfl⟩
  · have rightPart : right ⊆ after := by
      have part := splitLabel_subset after
      rwa [labelled] at part
    have sourceSound := sound_of_endpoint? (fun token member =>
      allowed token (List.mem_append_left _ member)) sourceFound
    have targetSound := sound_of_endpoint? (fun token member =>
      allowed token (List.mem_append_right _ (List.mem_cons_of_mem _ (rightPart member))))
      targetFound
    refine ⟨fun id member => ?_, fun entry member => ?_⟩
    · rcases List.mem_cons.mp member with rfl | last
      · exact sourceSound.id
      · exact List.mem_singleton.mp last ▸ targetSound.id
    · rcases List.mem_append.mp member with left | right
      · obtain ⟨face, faceFound, rfl⟩ := List.mem_map.mp left
        exact sourceSound.face face (Option.mem_toList.mp faceFound)
      · obtain ⟨face, faceFound, rfl⟩ := List.mem_map.mp right
        exact targetSound.face face (Option.mem_toList.mp faceFound)
  · have sound := sound_of_endpoint? allowed found
    refine ⟨fun id member => ?_, fun entry member => ?_⟩
    · exact List.mem_singleton.mp member ▸ sound.id
    · exact List.mem_singleton.mp member ▸ sound.face face rfl

theorem sound_of_read {text : List Char} {statement : Statement}
    (accepted : (read text).accepted? = some statement) : statement.Sound := by
  unfold read at accepted
  split at accepted
  · cases accepted
  split at accepted
  · cases accepted
  split at accepted
  · cases accepted
  split at accepted
  · next made =>
    obtain rfl := Option.some.inj accepted
    exact sound_of_statement? (fun token member => Token.allows_scan member) made
  · cases accepted

end Line

namespace Statement

theorem sound_of_mem_ofSource {source : String} {statement : Statement}
    (member : statement ∈ ofSource source) : statement.Sound := by
  obtain ⟨reading, readingMember, accepted⟩ := List.mem_filterMap.mp member
  obtain ⟨⟨line, number⟩, _, rfl⟩ := List.mem_map.mp readingMember
  exact Line.sound_of_read accepted

/-- The mentioned ids of a chart are spelled as ids. -/
theorem spelled_of_mem_mentions {source id : String}
    (member : id ∈ (ofSource source).flatMap mentions) : Spelled id := by
  obtain ⟨statement, statementMember, mentioned⟩ := List.mem_flatMap.mp member
  exact (sound_of_mem_ofSource statementMember).mentions id mentioned

/-- What a declared face of a chart says is trimmed. -/
theorem trimmed_of_mem_faces {source id : String} {face : Face}
    (member : (id, face) ∈ (ofSource source).flatMap faces) : Text.Trimmed face.text.toList := by
  obtain ⟨statement, statementMember, declared⟩ := List.mem_flatMap.mp member
  exact (sound_of_mem_ofSource statementMember).faces (id, face) declared

end Statement

end ChartGuide
