/-
**What a session books, whatever becomes of its flow.**

Under a session the flow that it walks through may be replaced or removed, so that its history is no
walk through any flow and it stands at a node that is gone. What it books stays in order all the
same. A step along a choice puts the node that is left on the trail and notes an answer for it, and
a step back takes both away: neither looks at the nodes further behind. All that a flow has to
promise is that the node under an id notes this id, and a compiled flow does.

* `World.after_induction`: what edits keep of a catalog and moves keep of a session.
* `World.trail_goingBack`: going back again and again takes the trail down.
* `World.bookkeeping_after`: only nodes before the last of the history have answers, and the session
  goes back one step for each of them.
-/

import ChartGuide.Proofs.Session.Interleaving

namespace ChartGuide.Session

variable {catalog : Catalog} {ticket : String} {state : State}

/-! ### Going back -/

theorem State.trail_goBack (state : State) : state.goBack.2.trail = state.trail.tail := by
  unfold goBack
  cases came : state.trail with
  | nil => exact came
  | cons previous trail => rfl

/-- A session goes back as long as there is a node behind it. -/
theorem State.done_goBack (state : State) : state.goBack.1 = decide (state.trail ≠ []) := by
  unfold goBack
  cases state.trail <;> rfl

theorem State.length_history (state : State) : state.history.length = state.trail.length + 1 := by
  simp [history]

/-- The history before its last entry is the trail. -/
theorem State.mem_dropLast_history_iff {id : String} :
    id ∈ state.history.dropLast ↔ id ∈ state.trail := by
  rw [history, List.dropLast_concat, List.mem_reverse]

/-- A session without a node behind it has no answers. -/
theorem State.Answered.answers_eq_empty (answered : state.Answered) (atStart : state.trail = []) :
    state.answers = ∅ := by
  have unanswered : state.answers.keys = [] := by
    rw [List.eq_nil_iff_forall_not_mem]
    intro id member
    have behind := answered id member
    rw [atStart] at behind
    exact List.not_mem_nil behind
  exact Table.eq_of_entries_eq (List.map_eq_nil_iff.mp unanswered)

namespace World

/-- **What edits keep of the catalog and moves keep of the session** is true of every world that is
reached. -/
theorem after_induction (settings : Settings) {turns : List Turn} (good : Catalog → Prop)
    {motive : State → Prop} (empty : good { settings := settings })
    (edited : ∀ catalog change, .edit change ∈ turns → good catalog → good (catalog.edit change))
    (moved : ∀ {catalog session state}, good catalog →
      (∀ before, session = some before → motive before) → Move catalog session state →
        motive state) :
    good (after settings turns).catalog ∧
      ∀ state, (after settings turns).session = some state → motive state := by
  refine List.foldlRecOn turns turn
    (motive := fun world => good world.catalog ∧ ∀ state, world.session = some state → motive state)
    ?_ ?_
  · exact ⟨empty, fun _ fresh => nomatch fresh⟩
  · rintro world ⟨sound, holds⟩ (change | ⟨ticket, action⟩) member
    · exact ⟨edited world.catalog change member sound, holds⟩
    · refine ⟨sound, fun state performed => ?_⟩
      obtain same | move := move_of_perform performed
      · exact holds state same
      · exact moved sound holds move

/-- **Going back again and again** takes one node off the trail each time, until none is left. -/
theorem trail_goingBack (ticket : String) (count : Nat) {world : World}
    (walking : world.session = some state) :
    ∃ back,
      ((List.replicate count (Turn.act ticket .goBack)).foldl turn world).session = some back ∧
        back.trail = state.trail.drop count := by
  induction count generalizing world state with
  | zero => exact ⟨state, walking, rfl⟩
  | succ count ih =>
    have once : (world.turn (.act ticket .goBack)).session = some state.goBack.2 := by
      rw [turn, walking]
      rfl
    obtain ⟨back, reached, trail⟩ := ih once
    refine ⟨back, reached, ?_⟩
    rw [trail, state.trail_goBack, List.drop_tail]

theorem reply_goBack {world : World} (walking : world.session = some state) :
    world.reply ticket .goBack = .ok (.wentBack (decide (state.trail ≠ []))) := by
  rw [reply, walking, ← state.done_goBack]
  rfl

/-- **What a session books stays in order**, whatever turns were taken: edits that replace or remove
the flow under it among them, as long as the registered flows are compiled. Its history is never
empty, only nodes before the last of it have answers, and it goes back once for each of these nodes,
whatever flows they came from. -/
theorem bookkeeping_after (settings : Settings) {turns : List Turn}
    (compiled : ∀ flow, .edit (.register flow) ∈ turns →
      ∃ settings source prior now, flow = Settings.compile settings source prior now)
    (reached : (after settings turns).session = some state) :
    state.history ≠ [] ∧
      (∀ id ∈ state.answers.keys, id ∈ state.history.dropLast) ∧
      (state.history.length = 1 → state.answers = ∅) ∧
      ∀ (ticket : String) (count : Nat),
        (after settings (turns ++ List.replicate count (.act ticket .goBack))).reply ticket
            .goBack =
          .ok (.wentBack (decide (count + 1 < state.history.length))) := by
  have answered : state.Answered := by
    refine (after_induction settings Catalog.WellFormed (motive := State.Answered)
      (fun _ _ found => nomatch found) ?_ answered_of_move).2 state reached
    intro catalog change member sound
    refine sound.edit ?_
    rintro flow rfl
    obtain ⟨own, source, prior, now, rfl⟩ := compiled flow member
    exact own.wellFormed_compile source prior now
  refine ⟨List.ne_nil_of_length_pos (by rw [state.length_history]; exact Nat.zero_lt_succ _),
    fun id member => State.mem_dropLast_history_iff.mpr (answered id member), fun single => ?_,
    fun ticket count => ?_⟩
  · rw [state.length_history] at single
    exact answered.answers_eq_empty (List.eq_nil_of_length_eq_zero (by omega))
  · obtain ⟨back, walking, trail⟩ := trail_goingBack ticket count reached
    have left : back.trail ≠ [] ↔ count + 1 < state.history.length := by
      rw [trail, state.length_history, Ne, List.drop_eq_nil_iff]
      omega
    rw [after, List.foldl_append]
    exact (reply_goBack walking).trans (by simp only [left])

/-- A loop that is walked into, then replaced by a chart in which only its second node is left,
walked on there, and removed. -/
def uprooted : List Turn :=
  [.edit (.compile (.text "loop") "A -->|on| B\nB --> A" .null .null "2020-01-02T03:04:05+00:00"),
    .act "session-1" (.start (.text "loop")), .act "session-1" (.choose (.text "on")),
    .edit (.register (Settings.usual.compile "B -->|again| B" ⟨.text "loop", .null, .null, .absent⟩
      "2020-01-02T03:04:06+00:00")),
    .act "session-1" (.choose (.text "again")), .edit (.remove (.text "loop"))]

/-- The session that is left without a flow. -/
def orphan : State where
  ticket := "session-1"
  flowId := .text "loop"
  current := "B"
  trail := ["B", "A"]
  answers := .ofList [("A", some "on"), ("B", some "again")]

theorem bookkeeping_after_uprooted :
    (∀ flow, .edit (.register flow) ∈ uprooted →
        ∃ settings source prior now, flow = Settings.compile settings source prior now) ∧
      (after .usual uprooted).session = some orphan ∧
      (∀ id ∈ orphan.answers.keys, id ∈ orphan.history.dropLast) ∧
      ∀ (ticket : String) (count : Nat),
        (after .usual (uprooted ++ List.replicate count (.act ticket .goBack))).reply ticket
            .goBack =
          .ok (.wentBack (decide (count + 1 < 3))) := by
  have compiled : ∀ flow, .edit (.register flow) ∈ uprooted →
      ∃ settings source prior now, flow = Settings.compile settings source prior now := by
    intro flow member
    obtain rfl : flow = _ := by simpa [uprooted] using member
    exact ⟨_, _, _, _, rfl⟩
  have reached : (after .usual uprooted).session = some orphan := by decide +kernel
  obtain ⟨-, answers, -, returns⟩ := bookkeeping_after .usual compiled reached
  exact ⟨compiled, reached, answers, returns⟩

end World

end ChartGuide.Session
