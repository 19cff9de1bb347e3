import KdappCoordinator.Game.Loop

/-!
# Invariants of the `play_game` loop

`LoopInv` is what holds at every loop head of `play_game`, whatever the agents reply, the
draws pick and the engine answers. A pass either places the one move the engine accepted on
an empty cell (`LoopInv.afterPass_some`) or, with every submission rejected, changes only the
failure count (`LoopInv.afterPass_none`); `playIteration_next` and `placedMove_empty` say
which, so `loopReach_inv` follows by induction over the reachable heads.

The invariant ties the board to the ghost record of the engine's verdicts: the filled cells
are exactly the cells of the accepted submissions, pairwise distinct, each holding the mark
of the side that submitted it; the marks alternate; `consecutive_failures` is the run of
plies at the end of the record whose submissions were all rejected; and
`3 * move_count + consecutive_failures` never passes 27, which bounds the number of passes.

The loop stops at the first decided board, so a complete line on a loop head's board is
always of the side that just moved (`loopReach_line_last_mover`), and a named winner has made
three of at least five moves (`loopReach_winner_last_mover`).
-/

namespace KdappCoordinator

/-- The submissions the engine accepted, each with the side that made it, in order. -/
def acceptedMoves (plies : List Ply) : List (Pos × Mark) :=
  plies.flatMap fun ply => ply.accepted.map (·, ply.mover)

/-- The number of failed plies at the end of a ply record. -/
def trailingFailures (plies : List Ply) : Nat := (plies.reverse.takeWhile Ply.failed).length

@[simp] theorem acceptedMoves_append (plies : List Ply) (ply : Ply) :
    acceptedMoves (plies ++ [ply]) = acceptedMoves plies ++ ply.accepted.map (·, ply.mover) := by
  simp [acceptedMoves]

theorem trailingFailures_append_failed {plies : List Ply} {ply : Ply} (h : ply.failed = true) :
    trailingFailures (plies ++ [ply]) = trailingFailures plies + 1 := by
  simp [trailingFailures, h]

theorem trailingFailures_append_placed {plies : List Ply} {ply : Ply} (h : ply.failed = false) :
    trailingFailures (plies ++ [ply]) = 0 := by
  simp [trailingFailures, h]

/-- At least three failed plies end the record exactly when its last three plies failed. -/
theorem three_le_trailingFailures {plies : List Ply} :
    3 ≤ trailingFailures plies ↔
      ∃ pre a b c, plies = pre ++ [a, b, c] ∧ a.failed ∧ b.failed ∧ c.failed := by
  constructor
  · unfold trailingFailures
    intro h
    match hr : plies.reverse, h with
    | [], h | [_], h | [_, _], h => exact absurd (h.trans (List.takeWhile_prefix _).length_le) (by simp)
    | c :: b :: a :: t, h =>
      refine ⟨t.reverse, a, b, c, by simpa using congrArg List.reverse hr, ?_⟩
      cases hc : c.failed <;> cases hb : b.failed <;> cases ha : a.failed <;>
        simp [hc, hb, ha] at h ⊢
  · rintro ⟨pre, a, b, c, rfl, ha, hb, hc⟩
    rw [show pre ++ [a, b, c] = pre ++ [a] ++ [b] ++ [c] by simp, trailingFailures_append_failed hc,
      trailingFailures_append_failed hb, trailingFailures_append_failed ha]
    omega

namespace LoopState

variable (s : LoopState) (p : Pos) (submissions : List (Pos × Bool))

@[simp] theorem afterPass_some_board :
    (s.afterPass (some p) submissions).board = updateBoard s.board p s.currentPlayer := rfl

@[simp] theorem afterPass_some_currentPlayer :
    (s.afterPass (some p) submissions).currentPlayer = s.currentPlayer.other := rfl

@[simp] theorem afterPass_some_moveCount :
    (s.afterPass (some p) submissions).moveCount = s.moveCount + 1 := rfl

@[simp] theorem afterPass_some_consecutiveFailures :
    (s.afterPass (some p) submissions).consecutiveFailures = 0 := rfl

@[simp] theorem afterPass_none_board : (s.afterPass none submissions).board = s.board := rfl

@[simp] theorem afterPass_none_currentPlayer :
    (s.afterPass none submissions).currentPlayer = s.currentPlayer := rfl

@[simp] theorem afterPass_none_moveCount :
    (s.afterPass none submissions).moveCount = s.moveCount := rfl

@[simp] theorem afterPass_none_consecutiveFailures :
    (s.afterPass none submissions).consecutiveFailures = s.consecutiveFailures + 1 := rfl

@[simp] theorem afterPass_plies (placed : Option Pos) :
    (s.afterPass placed submissions).plies = s.plies ++ [⟨s.currentPlayer, submissions⟩] := by
  cases placed <;> rfl

end LoopState

/-- What holds at every head of the `play_game` loop. -/
structure LoopInv (s : LoopState) : Prop where
  /-- The filled cells are the accepted submissions, with the mark of their side. -/
  board_iff : ∀ p m, s.board p = some m ↔ (p, m) ∈ acceptedMoves s.plies
  /-- No cell was accepted twice. -/
  cells_nodup : ((acceptedMoves s.plies).map Prod.fst).Nodup
  moveCount_eq : s.moveCount = (acceptedMoves s.plies).length
  filled : filledCount s.board = s.moveCount
  count_X : markCount s.board .X = (s.moveCount + 1) / 2
  count_O : markCount s.board .O = s.moveCount / 2
  player : s.currentPlayer = .X ↔ s.moveCount % 2 = 0
  failures : s.consecutiveFailures = trailingFailures s.plies
  rank_le : 3 * s.moveCount + s.consecutiveFailures ≤ 27
  passes_le : s.plies.length ≤ 3 * s.moveCount + s.consecutiveFailures
  failures_le : s.consecutiveFailures ≤ 3
  one_side : ¬ (hasLine s.board .X = true ∧ hasLine s.board .O = true)

theorem LoopInv.initial : LoopInv .initial where
  board_iff := by simp [LoopState.initial, emptyBoard, acceptedMoves]
  cells_nodup := by simp [LoopState.initial, acceptedMoves]
  moveCount_eq := rfl
  filled := rfl
  count_X := rfl
  count_O := rfl
  player := by simp [LoopState.initial]
  failures := rfl
  rank_le := by decide
  passes_le := le_refl _
  failures_le := by decide
  one_side := by decide

theorem no_line_of_checkWinner {b : Board} (h : checkWinner b = none) (m : Mark) :
    hasLine b m = false := by
  rw [Bool.eq_false_iff]
  intro hm
  obtain ⟨l, hl, hlw⟩ := hasLine_iff.mp hm
  rw [(checkWinner_eq_none.mp h).1 l hl] at hlw
  cases hlw

section Step

variable {s : LoopState} {submissions : List (Pos × Bool)} (hi : LoopInv s) (hg : s.guard = true)
  (hw : checkWinner s.board = none)
include hi hg hw

/-- A pass whose one accepted submission is on an empty cell keeps the invariant. -/
theorem LoopInv.afterPass_some {p : Pos} (hp : s.board p = none)
    (hacc : Ply.accepted ⟨s.currentPlayer, submissions⟩ = [p]) :
    LoopInv (s.afterPass (some p) submissions) := by
  have hg' : s.moveCount < 9 ∧ s.consecutiveFailures < 3 := by simpa [LoopState.guard] using hg
  have hfresh : ∀ m, (p, m) ∉ acceptedMoves s.plies := fun m hm => by
    simp [(hi.board_iff p m).mpr hm] at hp
  have hplaced : Ply.failed ⟨s.currentPlayer, submissions⟩ = false := by
    rw [Bool.eq_false_iff, ne_eq, Ply.failed_iff, hacc]
    exact List.cons_ne_nil _ _
  have hpar := hi.player
  constructor
  · intro q m
    by_cases hq : q = p
    · subst hq; simp [hacc, hp, hfresh, eq_comm]
    · simp [hacc, hq, hi.board_iff]
  · simpa [hacc, List.nodup_append, hi.cells_nodup] using hfresh
  · simp [hacc, hi.moveCount_eq]
  · simp [filledCount_updateBoard _ hp, hi.filled]
  · cases hc : s.currentPlayer <;> simp only [LoopState.afterPass_some_board,
      LoopState.afterPass_some_moveCount, hc] at hpar ⊢
    · rw [markCount_updateBoard_self _ hp, hi.count_X]; simp at hpar; omega
    · rw [markCount_updateBoard_other hp (by decide), hi.count_X]; simp at hpar; omega
  · cases hc : s.currentPlayer <;> simp only [LoopState.afterPass_some_board,
      LoopState.afterPass_some_moveCount, hc] at hpar ⊢
    · rw [markCount_updateBoard_other hp (by decide), hi.count_O]; simp at hpar; omega
    · rw [markCount_updateBoard_self _ hp, hi.count_O]; simp at hpar; omega
  · cases hc : s.currentPlayer <;> simp [hc, Mark.other] at hpar ⊢ <;> omega
  · simp [trailingFailures_append_placed hplaced]
  · simp only [LoopState.afterPass_some_moveCount, LoopState.afterPass_some_consecutiveFailures]
    omega
  · have := hi.passes_le
    simp only [LoopState.afterPass_plies, LoopState.afterPass_some_moveCount,
      LoopState.afterPass_some_consecutiveFailures, List.length_append, List.length_singleton]
    omega
  · simp
  · rintro ⟨hx, ho⟩
    have hb := (checkWinner_eq_none.mp hw).1
    have ex := hasLine_updateBoard hb
      (show hasLine (updateBoard s.board p s.currentPlayer) .X = true from hx)
    have eo := hasLine_updateBoard hb
      (show hasLine (updateBoard s.board p s.currentPlayer) .O = true from ho)
    exact absurd (ex.trans eo.symm) (by decide)

/-- A pass whose submissions were all rejected keeps the invariant. -/
theorem LoopInv.afterPass_none (hacc : Ply.accepted ⟨s.currentPlayer, submissions⟩ = []) :
    LoopInv (s.afterPass none submissions) := by
  have hg' : s.moveCount < 9 ∧ s.consecutiveFailures < 3 := by simpa [LoopState.guard] using hg
  have hfailed := (Ply.failed_iff _).mpr hacc
  have := hi.passes_le
  have := hi.rank_le
  refine ⟨?_, ?_, ?_, hi.filled, hi.count_X, hi.count_O, hi.player, ?_, ?_, ?_, ?_, ?_⟩ <;>
    simp only [LoopState.afterPass_plies, LoopState.afterPass_none_board,
      LoopState.afterPass_none_moveCount, LoopState.afterPass_none_consecutiveFailures,
      acceptedMoves_append, hacc, List.map_nil, List.append_nil, List.length_append,
      List.length_singleton]
  · exact hi.board_iff
  · exact hi.cells_nodup
  · exact hi.moveCount_eq
  · rw [trailingFailures_append_failed hfailed, hi.failures]
  all_goals first | omega | simp [no_line_of_checkWinner hw]

end Step

/-- One pass keeps the invariant. -/
theorem LoopInv.step {s s' : LoopState} {inp : PlyInput} (hi : LoopInv s) (hg : s.guard = true)
    (h : (playIteration s inp).next = some s') : LoopInv s' := by
  obtain ⟨hw, rfl⟩ := playIteration_next h
  have hacc := accepted_passSubmissions s.currentPlayer s inp
  cases hp : placedMove s inp with
  | none => exact hi.afterPass_none hg hw (hacc.trans (by rw [hp]; rfl))
  | some p => exact hi.afterPass_some hg hw (placedMove_empty hw hp) (hacc.trans (by rw [hp]; rfl))

theorem loopReach_inv {s : LoopState} (h : LoopReach s) : LoopInv s := by
  induction h with
  | init => exact .initial
  | step _ _ hg hn ih => exact ih.step hg hn

/-- A pass never rewrites a filled cell. -/
theorem playIteration_keeps_cell {s s' : LoopState} {inp : PlyInput}
    (h : (playIteration s inp).next = some s') {p : Pos} {m : Mark} (hp : s.board p = some m) :
    s'.board p = some m := by
  obtain ⟨hw, rfl⟩ := playIteration_next h
  cases hq : placedMove s inp with
  | none => exact hp
  | some q =>
    have hne : p ≠ q := fun e => by simp [e ▸ placedMove_empty hw hq] at hp
    simpa [hne] using hp

/-- Where the loop stops, at its test or at the `break` of a pass, the board is decided unless
    three plies failed in a row. -/
theorem loopReach_stop_decided {s : LoopState} (h : LoopReach s) {inp : PlyInput}
    (hstop : s.guard = false ∨ (playIteration s inp).next = none) :
    (checkWinner s.board).isSome ∨ s.consecutiveFailures = 3 := by
  have hi := loopReach_inv h
  rcases hstop with hg | hn
  · by_cases hf : s.consecutiveFailures = 3
    · exact .inr hf
    have h9 : s.moveCount = 9 := by
      have := hi.failures_le
      have := hi.rank_le
      simp only [LoopState.guard, Bool.and_eq_false_iff, decide_eq_false_iff_not] at hg
      omega
    have hfull := isFull_of_filledCount (hi.filled.trans h9)
    cases hc : checkWinner s.board with
    | none => rw [isFull_of_checkWinner hc] at hfull; cases hfull
    | some w => exact .inl rfl
  · exact .inl (playIteration_next_none.mp hn)

/-- Every complete line on a loop head's board is of the side that moved last. -/
theorem loopReach_line_last_mover {s : LoopState} (h : LoopReach s) {m : Mark}
    (hm : hasLine s.board m = true) : m = s.currentPlayer.other := by
  induction h with
  | init => revert hm; cases m <;> decide
  | @step s _ inp _ _ hn _ =>
    obtain ⟨hw, rfl⟩ := playIteration_next hn
    revert hm
    cases placedMove s inp with
    | none => simp [no_line_of_checkWinner hw]
    | some p =>
      simp only [LoopState.afterPass_some_board, LoopState.afterPass_some_currentPlayer,
        Mark.other_other]
      exact hasLine_updateBoard (checkWinner_eq_none.mp hw).1

/-- Where `check_winner` names a mark at a loop head, that mark moved last, and the game has
    had at least five moves. -/
theorem loopReach_winner_last_mover {s : LoopState} (h : LoopReach s) {m : Mark}
    (hw : checkWinner s.board = some (.mark m)) : m = s.currentPlayer.other ∧ 5 ≤ s.moveCount := by
  have hl := hasLine_of_checkWinner hw
  have h3 := three_le_markCount hl
  have hi := loopReach_inv h
  refine ⟨loopReach_line_last_mover h hl, ?_⟩
  cases m
  · rw [hi.count_X] at h3; omega
  · rw [hi.count_O] at h3; omega

/-- X takes the center and the corners `(0, 0)` and `(2, 2)` while O takes `(0, 2)` and
    `(2, 0)`, every move being `get_default_move`'s: X wins with the fifth move. -/
theorem loopReach_winner_last_mover_initial :
    ∃ s, LoopReach s ∧ checkWinner s.board = some (.mark .X) ∧
      (Mark.X = s.currentPlayer.other ∧ 5 ≤ s.moveCount) := by
  have h := LoopReach.step ⟨.failed, 0, true, 0, false⟩ (.step ⟨.failed, 0, true, 0, false⟩
    (.step ⟨.failed, 0, true, 0, false⟩ (.step ⟨.failed, 1, true, 0, false⟩
      (.step ⟨.failed, 0, true, 0, false⟩ .init rfl rfl) rfl rfl) rfl rfl) rfl rfl) rfl rfl
  exact ⟨_, h, rfl, loopReach_winner_last_mover h rfl⟩

/-- A loop head that still loops has seen fewer than 27 passes. -/
theorem plies_lt_of_guard {s : LoopState} (hs : LoopReach s) (hg : s.guard = true) :
    s.plies.length < 27 := by
  have hi := loopReach_inv hs
  have := hi.passes_le
  simp only [LoopState.guard, Bool.and_eq_true, decide_eq_true_eq] at hg
  omega

/-! ## The loop of `play_game` -/

/-- X's center is accepted; both of O's submissions are rejected; O's corner is then
    accepted. -/
theorem loopReach_sample :
    LoopReach ((((((LoopState.initial.placeMove (1, 1)).record .X [((1, 1), true)]).countFailure).record
      .O [((0, 0), false), ((0, 1), false)]).placeMove (0, 0)).record .O [((0, 0), true)]) :=
  .step ⟨.failed, 0, true, 0, false⟩ (.step ⟨.failed, 0, false, 0, false⟩
    (.step ⟨.failed, 0, true, 0, false⟩ .init rfl rfl) rfl rfl) rfl rfl

/-- Every `execute_move` call of a pass, primary or fallback, is on an in-range cell that is
    empty at that moment, on a board without winner or draw; no loop head has complete lines
    of both marks; and the fallback differs from the rejected move whenever another cell is
    empty. -/
theorem playIteration_calls_safe {s : LoopState} (hs : LoopReach s) (inp : PlyInput) :
    (∀ p ∈ (playIteration s inp).calls,
        p.1.val ≤ 2 ∧ p.2.val ≤ 2 ∧ s.board p = none ∧ checkWinner s.board = none) ∧
      ¬ (hasLine s.board .X = true ∧ hasLine s.board .O = true) ∧
      ∀ a b, (playIteration s inp).calls = [a, b] → (∃ q, s.board q = none ∧ q ≠ a) → b ≠ a := by
  refine ⟨fun p hp => ?_, (loopReach_inv hs).one_side, fun a b hab hq => ?_⟩
  · obtain ⟨hw, hp⟩ := mem_playIteration_calls hp
    have hf := isFull_of_checkWinner hw
    refine ⟨Nat.le_of_lt_succ p.1.isLt, Nat.le_of_lt_succ p.2.isLt, ?_, hw⟩
    rcases hp with rfl | rfl
    · exact agentMove_empty hf _ _ _
    · exact fallbackMove_empty hf _ _
  · rw [playIteration_calls_two hab]
    exact fallbackMove_ne hq _

/-- After two moves and a failed ply, X's agent move is rejected and its fallback tried. -/
theorem playIteration_calls_safe_sample :
    ∃ s, LoopReach s ∧ s.moveCount = 2 ∧ s.plies.any Ply.failed = true ∧
      let inp : PlyInput := ⟨.failed, 0, false, 0, false⟩
      (∀ p ∈ (playIteration s inp).calls,
          p.1.val ≤ 2 ∧ p.2.val ≤ 2 ∧ s.board p = none ∧ checkWinner s.board = none) ∧
        ¬ (hasLine s.board .X = true ∧ hasLine s.board .O = true) ∧
        ∀ a b, (playIteration s inp).calls = [a, b] → (∃ q, s.board q = none ∧ q ≠ a) → b ≠ a :=
  ⟨_, loopReach_sample, rfl, rfl, playIteration_calls_safe loopReach_sample _⟩

/-- At every loop head: the filled cells are exactly the cells of the submissions the engine
    accepted, each holding the mark of its side; no cell was accepted twice, and no pass
    rewrites a filled cell; `move_count` counts the filled cells and is at most 9; `X` holds
    `⌈move_count / 2⌉` cells and `O` `⌊move_count / 2⌋`; `X` is to move exactly when
    `move_count` is even; there are at most three failures; and where the loop stops, at its
    test or at the `break` of a pass, the board has a winner or is drawn unless three plies
    failed in a row. -/
theorem loopReach_board_invariant {s : LoopState} (h : LoopReach s) :
    (∀ p m, s.board p = some m ↔ (p, m) ∈ acceptedMoves s.plies) ∧
      ((acceptedMoves s.plies).map Prod.fst).Nodup ∧
      (∀ inp s', (playIteration s inp).next = some s' →
        ∀ p m, s.board p = some m → s'.board p = some m) ∧
      filledCount s.board = s.moveCount ∧ s.moveCount ≤ 9 ∧
      markCount s.board .X = (s.moveCount + 1) / 2 ∧ markCount s.board .O = s.moveCount / 2 ∧
      (s.currentPlayer = .X ↔ s.moveCount % 2 = 0) ∧ s.consecutiveFailures ≤ 3 ∧
      (∀ inp, (s.guard = false ∨ (playIteration s inp).next = none) →
        s.consecutiveFailures ≠ 3 → (checkWinner s.board).isSome) := by
  have hi := loopReach_inv h
  have hrank := hi.rank_le
  exact ⟨hi.board_iff, hi.cells_nodup, fun _ _ hn _ _ => playIteration_keeps_cell hn,
    hi.filled, by omega, hi.count_X, hi.count_O, hi.player, hi.failures_le,
    fun _ hstop => (loopReach_stop_decided h hstop).resolve_right⟩

theorem loopReach_board_invariant_sample :
    ∃ s, LoopReach s ∧ s.moveCount = 2 ∧ s.plies.any Ply.failed = true ∧
      (∀ p m, s.board p = some m ↔ (p, m) ∈ acceptedMoves s.plies) ∧
      ((acceptedMoves s.plies).map Prod.fst).Nodup ∧
      (∀ inp s', (playIteration s inp).next = some s' →
        ∀ p m, s.board p = some m → s'.board p = some m) ∧
      filledCount s.board = s.moveCount ∧ s.moveCount ≤ 9 ∧
      markCount s.board .X = (s.moveCount + 1) / 2 ∧ markCount s.board .O = s.moveCount / 2 ∧
      (s.currentPlayer = .X ↔ s.moveCount % 2 = 0) ∧ s.consecutiveFailures ≤ 3 ∧
      (∀ inp, (s.guard = false ∨ (playIteration s inp).next = none) →
        s.consecutiveFailures ≠ 3 → (checkWinner s.board).isSome) :=
  ⟨_, loopReach_sample, rfl, rfl, loopReach_board_invariant loopReach_sample⟩

/-- A pass either leaves at `break` on a decided board, or records its submissions with the
    engine's verdicts and then either places the one move the engine accepted (one
    `update_board` on an empty cell, the side to move switched, `move_count + 1`, the failures
    reset) or, with both the agent's move and the fallback rejected, leaves the board, the
    side to move and `move_count` as they were and adds one failure. So
    `consecutive_failures` is the run of failed plies just before each loop head, the game is
    abandoned exactly after three failed plies in a row, and the loop body runs at most 27
    times. -/
theorem playIteration_progress {s : LoopState} (hs : LoopReach s) :
    (∀ inp, (playIteration s inp).next = none → (checkWinner s.board).isSome) ∧
      (∀ inp s', (playIteration s inp).next = some s' →
        ∃ ply, s'.plies = s.plies ++ [ply] ∧ ply.mover = s.currentPlayer ∧
          ply.submissions = (playIteration s inp).calls.zip [inp.accepted, inp.fallbackAccepted] ∧
          ((∃ p, ply.accepted = [p] ∧ s.board p = none ∧
              s'.board = updateBoard s.board p s.currentPlayer ∧
              s'.currentPlayer = s.currentPlayer.other ∧ s'.moveCount = s.moveCount + 1 ∧
              s'.consecutiveFailures = 0) ∨
            (ply.submissions.map Prod.snd = [false, false] ∧ s'.board = s.board ∧
              s'.currentPlayer = s.currentPlayer ∧ s'.moveCount = s.moveCount ∧
              s'.consecutiveFailures = s.consecutiveFailures + 1))) ∧
      s.consecutiveFailures = trailingFailures s.plies ∧
      (s.consecutiveFailures = 3 ↔
        ∃ pre a b c, s.plies = pre ++ [a, b, c] ∧ a.failed ∧ b.failed ∧ c.failed) ∧
      s.plies.length ≤ 27 ∧ (s.guard = true → s.plies.length < 27) := by
  have hi := loopReach_inv hs
  have := hi.passes_le
  have := hi.rank_le
  refine ⟨fun _ => playIteration_next_none.mp, fun inp s' hn => ?_, hi.failures, ?_, by omega,
    plies_lt_of_guard hs⟩
  · obtain ⟨hw, rfl⟩ := playIteration_next hn
    have hacc := accepted_passSubmissions s.currentPlayer s inp
    refine ⟨⟨s.currentPlayer, passSubmissions s inp⟩, LoopState.afterPass_plies _ _ _, rfl,
      passSubmissions_eq_zip hw inp, ?_⟩
    cases hp : placedMove s inp with
    | some p =>
      exact .inl ⟨p, hacc.trans (by rw [hp]; rfl), placedMove_empty hw hp, rfl, rfl, rfl, rfl⟩
    | none =>
      refine .inr ⟨?_, rfl, rfl, rfl, rfl⟩
      unfold placedMove at hp
      unfold passSubmissions
      split_ifs at hp ⊢ with ha hf
      simp [Bool.not_eq_true _ ▸ hf]
  · rw [← three_le_trailingFailures, ← hi.failures]
    have := hi.failures_le
    omega

theorem playIteration_progress_sample :
    ∃ s, LoopReach s ∧ s.moveCount = 2 ∧ s.plies.any Ply.failed = true ∧
      (∀ inp, (playIteration s inp).next = none → (checkWinner s.board).isSome) ∧
      (∀ inp s', (playIteration s inp).next = some s' →
        ∃ ply, s'.plies = s.plies ++ [ply] ∧ ply.mover = s.currentPlayer ∧
          ply.submissions = (playIteration s inp).calls.zip [inp.accepted, inp.fallbackAccepted] ∧
          ((∃ p, ply.accepted = [p] ∧ s.board p = none ∧
              s'.board = updateBoard s.board p s.currentPlayer ∧
              s'.currentPlayer = s.currentPlayer.other ∧ s'.moveCount = s.moveCount + 1 ∧
              s'.consecutiveFailures = 0) ∨
            (ply.submissions.map Prod.snd = [false, false] ∧ s'.board = s.board ∧
              s'.currentPlayer = s.currentPlayer ∧ s'.moveCount = s.moveCount ∧
              s'.consecutiveFailures = s.consecutiveFailures + 1))) ∧
      s.consecutiveFailures = trailingFailures s.plies ∧
      (s.consecutiveFailures = 3 ↔
        ∃ pre a b c, s.plies = pre ++ [a, b, c] ∧ a.failed ∧ b.failed ∧ c.failed) ∧
      s.plies.length ≤ 27 ∧ (s.guard = true → s.plies.length < 27) :=
  ⟨_, loopReach_sample, rfl, rfl, playIteration_progress loopReach_sample⟩

end KdappCoordinator
