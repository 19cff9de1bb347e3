import KdappCoordinator.Rpc.Channel

/-!
# Starting the engine

`__init__` (`tictactoe_coordinator.py:12-113`) starts the engine with `cargo run` and reads
its merged output until a line whose stripped, lowercased text contains one of six
readiness phrases (`:31-52`); the engine runs offline when that line contains
`offline mode`. Without such a line before the 90 s deadline it drains the output with a
blocking `read()` and raises `RuntimeError` (`:57-66`); the drain returns only once the engine
has exited. It then asks the engine for the agents' public keys, inside a `try` that turns
every exception into `None` keys (`:69-81`), and sets
`require_onchain = not offline_mode_detected` (`:96`).

The phrases include cargo's own `finished dev` and ``running `target``, printed before the
engine's first line, so the line that decides the offline flag is the first marker line,
whoever printed it (`coordinatorInit_offline_after_cargo`).
-/

namespace KdappCoordinator

/-- `readiness_markers` (`:31-38`). -/
def readinessMarkers : List String :=
  ["connected to kaspa node successfully", "successfully connected to kaspa node",
    "continues in offline mode", "server continues in offline mode", "finished dev",
    "running `target"]

/-- `any(marker in low for marker in readiness_markers)`, with `low` the stripped, lowercased
    line (`:42-46`). -/
def isReadyLine (text : String) : Bool :=
  readinessMarkers.any fun m => pySubstr m.data (pyLower (pyStrip text.data))

/-- `'offline mode' in low` (`:49`). -/
def isOfflineLine (text : String) : Bool :=
  pySubstr "offline mode".data (pyLower (pyStrip text.data))

/-- The readiness loop (`:39-66`): `offline_mode_detected` from the first marker line. At the
    deadline, or past the printed lines, the drain `read()` returns and the loop raises
    `RuntimeError` once the engine has exited; while it runs on, the process waits. -/
def waitForServer (exited : Bool) : List StreamItem → Except PyExc Bool × List StreamItem
  | [] => (.error (if exited then .runtimeError else .blocked), [])
  | .deadline :: rest => (.error (if exited then .runtimeError else .blocked), rest)
  | .undecodable :: rest => (.error .unicodeDecodeError, rest)
  | .line text :: rest =>
    if isReadyLine text then (.ok (isOfflineLine text), rest) else waitForServer exited rest

/-- The attributes of a constructed coordinator that its methods read. -/
structure Coordinator where
  /-- `self.agent1_pubkey` and `self.agent2_pubkey` (`:69-81`); `None` is `null`. -/
  agent1Pubkey : JsonValue
  agent2Pubkey : JsonValue
  /-- `self.require_onchain` (`:96`). -/
  requireOnchain : Bool
  /-- `self.agent1_addr` and `self.agent2_addr` (`:110-111`), read from the key files. -/
  agent1Addr : JsonValue
  agent2Addr : JsonValue
  /-- `self.episode_id` (`:101`), set by `start_game`. -/
  episodeId : JsonValue

/-- The keys in a `kdapp_get_agent_pubkeys` answer whose `result` is a dict (`:71-74`). -/
def pubkeysOf (response : JsonValue) : Option (JsonValue × JsonValue) :=
  match response with
  | .dict entries =>
    match dictGet entries "result" with
    | some (.dict result) =>
      some ((dictGet result "agent1_pubkey").getD .null, (dictGet result "agent2_pubkey").getD .null)
    | _ => none
  | _ => none

/-- What `_load_or_create_agent` (`:132-167`) returns for an agent: its address (the `address`
    of a demo key file, `None` when it has none) and the path of its key file. -/
structure AgentKey where
  addr : JsonValue
  keyfile : PyStr

/-- The readiness loop on the world's stream. -/
def waitForServerM : CoordM Bool :=
  ExceptT.mk fun w =>
    ((waitForServer w.exited w.stream).1, { w with stream := (waitForServer w.exited w.stream).2 })

/-- The key query of `__init__` (`:69-81`): the keys of a `kdapp_get_agent_pubkeys` answer,
    logged, or `None` keys on an exception, that of the log included. `except Exception`
    catches exceptions, not a wait that never ends. -/
def fetchPubkeys : CoordM (JsonValue × JsonValue) :=
  try
    match pubkeysOf (← sendMcpRequest 3 "tools/call"
        (.dict [("name", .str "kdapp_get_agent_pubkeys")])) with
    | some keys => do
      logValues [keys.1, keys.2]
      pure keys
    | none => pure (.null, .null)
  catch e => if e.isException then pure (.null, .null) else throw e

/-- `__init__` from the readiness loop on, given what `_load_or_create_agent` returns for the
    two agents; it ends by logging their addresses and key files (`:112-113`). -/
def coordinatorInit (agent1 agent2 : AgentKey) : CoordM Coordinator := do
  let offline ← waitForServerM
  let keys ← fetchPubkeys
  logValues [agent1.addr, .str agent1.keyfile]
  logValues [agent2.addr, .str agent2.keyfile]
  pure ⟨keys.1, keys.2, !offline, agent1.addr, agent2.addr, .null⟩

theorem coordinatorInit_blind (agent1 agent2 : AgentKey) : (coordinatorInit agent1 agent2).Blind := by
  have hwait : waitForServerM.Blind := by
    rintro w _ ⟨rs, rfl⟩
    exact ⟨rfl, rs, rfl⟩
  have hkeys : fetchPubkeys.Blind := .of_tryCatch (.of_bind (.sendMcpRequest _ _ _) fun _ => by
      split
      · exact .of_bind (.logValues _) fun _ => .of_pure _
      · exact .of_pure _)
    fun e => by cases e.isException <;> first | exact .of_pure _ | exact .of_throw _
  exact .of_bind hwait fun _ => .of_bind hkeys fun _ => .of_bind (.logValues _) fun _ =>
    .of_bind (.logValues _) fun _ => .of_pure _

/-- cargo prints its `Running` line before the engine warns that it runs offline: the
    readiness loop stops at cargo's line, and enforcement stays on although no line reports a
    node connection. -/
theorem coordinatorInit_offline_after_cargo :
    (match (coordinatorInit ⟨.null, "agent_keys/agent1/key.json"⟩ ⟨.null, "agent_keys/agent2/key.json"⟩).run.run
        ⟨[.line "     Running `target/debug/kdapp-mcp-server`",
          .line "WARN kdapp_mcp_server: Server continues in offline mode"], some 1, [], [], [],
          .strict⟩ with
      | (.ok c, _) => c.requireOnchain
      | _ => false) = true ∧
      isOfflineLine "WARN kdapp_mcp_server: Server continues in offline mode" = true ∧
      ∀ l ∈ ["     Running `target/debug/kdapp-mcp-server`",
          "WARN kdapp_mcp_server: Server continues in offline mode"],
        pySubstr "connected to kaspa node successfully".data (pyLower l.data) = false ∧
          pySubstr "successfully connected to kaspa node".data (pyLower l.data) = false := by
  refine ⟨rfl, rfl, by decide⟩

end KdappCoordinator
