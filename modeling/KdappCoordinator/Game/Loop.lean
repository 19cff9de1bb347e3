import KdappCoordinator.Coordinator.Agent

/-!
# The `play_game` loop

`play_game` (`tictactoe_coordinator.py:574-665`) runs

    while move_count < max_moves and consecutive_failures < max_consecutive_failures:

with `max_moves = 9` and `max_consecutive_failures = 3`. A pass of the body checks for a
winner (and leaves at `break`), asks the agent of the side to move for a move, submits it
with `execute_move`, and on a rejection counts a failure and submits one fallback move. An
accepted submission is written with `update_board`, switches the side to move, counts the
move and resets the failures. `LoopState` is what the loop head sees: the coordinator's
`game_board` and `current_player`, the locals `move_count` and `consecutive_failures`, and a
ghost record of every pass: the side that was to move and each `execute_move` call it made,
with the cell submitted and the verdict returned.

The engine's verdicts and the agents' replies and random draws are the environment's:
`PlyInput` holds them, and `playIteration` is one pass of the body for them. `LoopReach`
is the set of loop heads over every choice of inputs.
-/

namespace KdappCoordinator

/-- Ghost: one completed pass of the loop body, the side that was to move and every
    `execute_move` call of the pass, with the cell it submitted and the verdict it returned. -/
structure Ply where
  mover : Mark
  submissions : List (Pos × Bool)

namespace Ply

/-- The cells of the pass the engine accepted. -/
def accepted (ply : Ply) : List Pos := (ply.submissions.filter (·.2)).map Prod.fst

/-- A failed ply: the engine rejected every submission of the pass. -/
def failed (ply : Ply) : Bool := ply.submissions.all fun sub => !sub.2

theorem failed_iff (ply : Ply) : ply.failed = true ↔ ply.accepted = [] := by
  simp [failed, accepted, List.filter_eq_nil_iff]

end Ply

/-- The head of the `while` loop of `play_game` (`:588`). -/
structure LoopState where
  /-- `self.game_board`. -/
  board : Board
  /-- `self.current_player`. -/
  currentPlayer : Mark
  moveCount : Nat
  consecutiveFailures : Nat
  /-- Ghost: the completed passes, in order. The source keeps no such list. -/
  plies : List Ply

namespace LoopState

/-- The state `play_game` enters the loop with: the board and player of `__init__`
    (`:102-103`) and the locals of `:582-586`. -/
def initial : LoopState :=
  { board := emptyBoard, currentPlayer := .X, moveCount := 0, consecutiveFailures := 0,
    plies := [] }

/-- `move_count < max_moves and consecutive_failures < max_consecutive_failures`. -/
def guard (s : LoopState) : Bool := s.moveCount < 9 && s.consecutiveFailures < 3

/-- An accepted submission (`:616-621`, `:646-649`): `update_board`, switch players, count the
    move, reset the failures. -/
def placeMove (s : LoopState) (p : Pos) : LoopState :=
  { s with board := updateBoard s.board p s.currentPlayer, currentPlayer := s.currentPlayer.other,
           moveCount := s.moveCount + 1, consecutiveFailures := 0 }

/-- The rejection of the agent's move (`:625`). -/
def countFailure (s : LoopState) : LoopState :=
  { s with consecutiveFailures := s.consecutiveFailures + 1 }

/-- Ghost: the pass of `mover` ends, with its submissions and their verdicts. -/
def record (s : LoopState) (mover : Mark) (submissions : List (Pos × Bool)) : LoopState :=
  { s with plies := s.plies ++ [⟨mover, submissions⟩] }

end LoopState

/-- What the environment decides in one pass: the reply of the agent whose turn it is and the
    draw of the `get_default_move` inside it, the engine's verdict on that move, and the draw
    and verdict of the fallback move. -/
structure PlyInput where
  reply : AgentReply
  pick : Nat
  accepted : Bool
  fallbackPick : Nat
  fallbackAccepted : Bool

/-- The agent of the side to move (`:601-610`): agent 1 plays `X`, agent 2 plays `O`. -/
def agentMove : Mark → Board → AgentReply → Nat → Pos
  | .X => getMoveFromAgent1
  | .O => getMoveFromAgent2

/-- The signer `execute_move` is given (`:604`, `:609`). -/
def signerOf : Mark → String
  | .X => "agent1"
  | .O => "agent2"

/-- One pass of the loop body: the cells `execute_move` is called on, in order, and the next
    loop head, `none` at the `break` of `:593-598`. -/
structure Pass where
  calls : List Pos
  next : Option LoopState

/-- The body of the `while` loop (`:589-653`). The failure counted at `:625` is reset at
    `:649` when the fallback is accepted. -/
def playIteration (s : LoopState) (inp : PlyInput) : Pass :=
  match checkWinner s.board with
  | some _ => { calls := [], next := none }
  | none =>
    let move := agentMove s.currentPlayer s.board inp.reply inp.pick
    if inp.accepted then
      { calls := [move],
        next := some ((s.placeMove move).record s.currentPlayer [(move, inp.accepted)]) }
    else
      let failed := s.countFailure
      let fallback := fallbackMove s.board move inp.fallbackPick
      { calls := [move, fallback],
        next := some ((if inp.fallbackAccepted then failed.placeMove fallback else failed).record
          s.currentPlayer [(move, inp.accepted), (fallback, inp.fallbackAccepted)]) }

/-- The loop heads `play_game` reaches, over every reply, draw and verdict. -/
inductive LoopReach : LoopState → Prop
  | init : LoopReach .initial
  | step {s s' : LoopState} (inp : PlyInput) :
      LoopReach s → s.guard = true → (playIteration s inp).next = some s' → LoopReach s'

/-! ## What a pass can do -/

/-- The move a pass places: the agent's if accepted, else the fallback if accepted. -/
def placedMove (s : LoopState) (inp : PlyInput) : Option Pos :=
  let move := agentMove s.currentPlayer s.board inp.reply inp.pick
  if inp.accepted then some move
  else if inp.fallbackAccepted then some (fallbackMove s.board move inp.fallbackPick) else none

/-- The calls of a pass on an undecided board, each with the engine's verdict. -/
def passSubmissions (s : LoopState) (inp : PlyInput) : List (Pos × Bool) :=
  let move := agentMove s.currentPlayer s.board inp.reply inp.pick
  if inp.accepted then [(move, true)]
  else [(move, false), (fallbackMove s.board move inp.fallbackPick, inp.fallbackAccepted)]

/-- The loop head after a pass: the move it placed, or one more failure, and the pass
    recorded. -/
def LoopState.afterPass (s : LoopState) (placed : Option Pos)
    (submissions : List (Pos × Bool)) : LoopState :=
  (match placed with
    | some p => s.placeMove p
    | none => s.countFailure).record s.currentPlayer submissions

/-- The accepted cells of a pass are the move it placed. -/
theorem accepted_passSubmissions (m : Mark) (s : LoopState) (inp : PlyInput) :
    Ply.accepted ⟨m, passSubmissions s inp⟩ = (placedMove s inp).toList := by
  unfold passSubmissions placedMove
  cases inp.accepted <;> cases inp.fallbackAccepted <;> rfl

/-- A pass on an undecided board submits its calls with the engine's verdicts. -/
theorem passSubmissions_eq_zip {s : LoopState} (hw : checkWinner s.board = none)
    (inp : PlyInput) :
    passSubmissions s inp = (playIteration s inp).calls.zip [inp.accepted, inp.fallbackAccepted] := by
  unfold passSubmissions playIteration
  rw [hw]
  cases ha : inp.accepted <;> simp only [if_true, if_false, Bool.false_eq_true, List.zip_cons_cons,
    List.zip_nil_left, List.zip_nil_right]

/-- A pass either leaves at `break` on a decided board, or moves to `afterPass` of the move
    it placed and its submissions. -/
theorem playIteration_next {s s' : LoopState} {inp : PlyInput}
    (h : (playIteration s inp).next = some s') :
    checkWinner s.board = none ∧ s' = s.afterPass (placedMove s inp) (passSubmissions s inp) := by
  unfold playIteration at h
  split at h
  · cases h
  · rename_i hw
    refine ⟨hw, ?_⟩
    unfold placedMove passSubmissions
    cases ha : inp.accepted <;> cases hf : inp.fallbackAccepted <;>
      simp only [ha, hf, if_true, if_false, Bool.false_eq_true] at h ⊢ <;> cases h <;> rfl

theorem playIteration_next_none {s : LoopState} {inp : PlyInput} :
    (playIteration s inp).next = none ↔ (checkWinner s.board).isSome := by
  unfold playIteration
  split <;> rename_i hw
  · simp [hw]
  · split_ifs <;> simp [hw]

/-- A call of a pass is made on an undecided board, on the agent's move or on the fallback
    move. -/
theorem mem_playIteration_calls {s : LoopState} {inp : PlyInput} {p : Pos}
    (h : p ∈ (playIteration s inp).calls) :
    checkWinner s.board = none ∧
      (p = agentMove s.currentPlayer s.board inp.reply inp.pick ∨
        p = fallbackMove s.board (agentMove s.currentPlayer s.board inp.reply inp.pick)
          inp.fallbackPick) := by
  unfold playIteration at h
  split at h
  · cases h
  · rename_i hw
    refine ⟨hw, ?_⟩
    split_ifs at h <;> simp_all

/-- A pass with two calls submits, second, the fallback of its first. -/
theorem playIteration_calls_two {s : LoopState} {inp : PlyInput} {a b : Pos}
    (h : (playIteration s inp).calls = [a, b]) : b = fallbackMove s.board a inp.fallbackPick := by
  unfold playIteration at h
  split at h
  · cases h
  · split_ifs at h <;> simp only [List.cons.injEq, and_false, reduceCtorEq] at h <;>
      exact h.2.1 ▸ h.1 ▸ rfl

/-- Whichever side is to move, its agent's move is `get_default_move`'s, whatever the reply. -/
theorem agentMove_eq_getDefaultMove (m : Mark) (b : Board) (reply : AgentReply) (k : Nat) :
    agentMove m b reply k = getDefaultMove b k := by
  cases m <;> exact getMoveFromAgent_eq_getDefaultMove _ b reply k

/-- On a board without winner and with an empty cell, the agents' moves are empty cells. -/
theorem agentMove_empty {b : Board} (h : isFull b = false) (m : Mark) (reply : AgentReply)
    (k : Nat) : b (agentMove m b reply k) = none := by
  rw [agentMove_eq_getDefaultMove]
  exact getDefaultMove_empty h k

theorem isFull_of_checkWinner {b : Board} (h : checkWinner b = none) : isFull b = false :=
  (checkWinner_eq_none.mp h).2

/-- Every move a pass places is on an empty cell. -/
theorem placedMove_empty {s : LoopState} {inp : PlyInput} {p : Pos}
    (hw : checkWinner s.board = none) (h : placedMove s inp = some p) : s.board p = none := by
  have hf := isFull_of_checkWinner hw
  unfold placedMove at h
  split_ifs at h <;> cases h
  · exact agentMove_empty hf _ _ _
  · exact fallbackMove_empty hf _ _

end KdappCoordinator
