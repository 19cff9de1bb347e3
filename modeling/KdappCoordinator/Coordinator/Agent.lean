import KdappCoordinator.Python.JsonLoads
import KdappCoordinator.Game.Moves

/-!
# Moves suggested by the agents

`get_move_from_agent1` and `get_move_from_agent2` (`tictactoe_coordinator.py:268-363`) post a
prompt to an LLM endpoint, take the reply text from the JSON answer (LM Studio:
`choices[0].message.content`; Ollama: `response`), search it with
`re.search(r'\\{.*\\}', content)`, parse the match with `json.loads`, read `row` and `col`
through `int` and keep the move if `is_valid_move_candidate` accepts it. Any exception and
any rejected candidate fall back to `get_default_move`. The two functions differ only in
the endpoint and the path to the reply text, so both are `getMoveFromAgent` at their own
path.

In a raw string `\\` is two characters, so the pattern is a literal backslash, `{`, any text
without a newline, a literal backslash and `}`. Every match therefore begins with a
backslash, no JSON text does (`jsonLoads_backslash`), and the suggestion is never used:
`getMoveFromAgent_eq_getDefaultMove`.
-/

namespace KdappCoordinator

/-! ## `re.search(r'\\{.*\\}', content)` -/

/-- The greedy `.*\\}` at the head of `cs`: the longest prefix that ends in a backslash and
    `}` and has no newline before that backslash. -/
def dotStarClose : PyStr → Option PyStr
  | [] => none
  | c :: cs =>
    if c = .char '\n' then none
    else match dotStarClose cs with
      | some m => some (c :: m)
      | none => if c = .char '\\' ∧ cs.head? = some (.char '}') then some [.char '\\', .char '}']
        else none

/-- `re.search(r'\\{.*\\}', content).group()`: the leftmost match, or `None`. -/
def braceSearch : PyStr → Option PyStr
  | [] => none
  | c :: cs =>
    match (if c = .char '\\' ∧ cs.head? = some (.char '{') then
        (dotStarClose cs.tail).map ([.char '\\', .char '{'] ++ ·)
        else none) with
    | some m => some m
    | none => braceSearch cs

/-- Every match of the pattern starts with its literal backslash. -/
theorem braceSearch_head {cs m : PyStr} (h : braceSearch cs = some m) :
    ∃ rest, m = .char '\\' :: rest := by
  induction cs with
  | nil => cases h
  | cons c cs ih =>
    unfold braceSearch at h
    split at h
    · rename_i m' hm
      split_ifs at hm
      · obtain ⟨m'', -, rfl⟩ := Option.map_eq_some'.mp hm
        cases h; exact ⟨_, rfl⟩
    · exact ih h

/-- What `requests.post` gives the agent call: an exception (no connection, the 30 s
    timeout), or a status code and the body that `response.json()` parses. -/
inductive AgentReply where
  | failed
  | answered (status : Nat) (body : String)

/-- `int(s)` for a string: whitespace around an optional sign and decimal digits, with single
    underscores allowed between digits. Digits are read in ASCII (`int` reads every Unicode
    decimal digit), and a lone surrogate makes the text no numeral. -/
def pyIntOfStr (s : PyStr) : Option Int := do
  let cs ← s.mapM fun c => match c with
    | .char c => some c
    | .surrogate _ => none
  let (sign, body) : Int × List Char := match pyStrip cs with
    | '-' :: r => (-1, r)
    | '+' :: r => (1, r)
    | r => (1, r)
  if body.all (fun c => c.isDigit || c = '_') ∧ (body.head?.any Char.isDigit) ∧
      (body.getLast?.any Char.isDigit) ∧ ¬ (['_', '_'] <:+: body) then
    some (sign * digitsValue ((body.filter Char.isDigit).map .char))
  else none

/-- Python's `int(x)` on a value `json.loads` built; a float is truncated toward zero. -/
def pyInt : JsonValue → Except PyExc Int
  | .int i => pure i
  | .bool b => pure (if b then 1 else 0)
  | .float (.finite m e) => pure (if 0 ≤ e then m * 10 ^ e.toNat else m.tdiv (10 ^ (-e).toNat))
  | .float .nan => throw .valueError
  | .float (.infinity _) => throw .overflowError
  | .str s => match pyIntOfStr s with
    | some i => pure i
    | none => throw .valueError
  | _ => throw .typeError

/-- `int(move.get(key)) if key in move else None` (`:306-307`). -/
def fieldInt (move : JsonValue) (key : String) : Except PyExc (Option Int) := do
  if ← move.contains key then some <$> (move.get key >>= pyInt) else pure none

/-- The text after the regex (`:305-309`): `json.loads` of the match, called from
    `get_move_from_agent1/2` under `play_game`, then `row` and `col`, and
    `is_valid_move_candidate`; `none` when the candidate is refused. -/
def moveOfMatch (b : Board) (matched : PyStr) : Except PyExc (Option Pos) := do
  let move ← match jsonLoads (jsonDepthLimit 3) matched with
    | some v => pure v
    | none => throw .decodeError
  let row ← fieldInt move "row"
  let col ← fieldInt move "col"
  if isValidMoveCandidate b row col then
    match row, col with
    | some r, some c => pure (some (Fin.ofNat r.toNat, Fin.ofNat c.toNat))
    | _, _ => pure none
  else pure none

/-- The reply text of a status-200 answer, through the agent's path `content`
    (`:299-300`): `response.json()` parses the body with `json.loads` one frame below the agent
    call, and `re.search` raises `TypeError` unless the text is a `str`. `none` for any other
    status. -/
def replyText (content : JsonValue → Except PyExc JsonValue) :
    AgentReply → Except PyExc (Option PyStr)
  | .failed => throw .connectionError
  | .answered status body =>
    if status = 200 then do
      let payload ← match jsonLoads (jsonDepthLimit 4) body with
        | some v => pure v
        | none => throw .decodeError
      match ← content payload with
      | .str s => pure (some s)
      | _ => throw .typeError
    else pure none

/-- The `try` block of an agent call: the suggested move, or `none` when the code reaches the
    `get_default_move()` after it. -/
def suggestedMove (content : JsonValue → Except PyExc JsonValue) (b : Board)
    (reply : AgentReply) : Except PyExc (Option Pos) := do
  match ← replyText content reply with
  | none => pure none
  | some text =>
    match braceSearch text with
    | none => pure none
    | some matched => moveOfMatch b matched

/-- `get_move_from_agent1/2`: the suggested move, else `get_default_move()` with draw `k`. -/
def getMoveFromAgent (content : JsonValue → Except PyExc JsonValue) (b : Board)
    (reply : AgentReply) (k : Nat) : Pos :=
  match suggestedMove content b reply with
  | .ok (some p) => p
  | _ => getDefaultMove b k

/-- LM Studio's reply text, `response.json()["choices"][0]["message"]["content"]` (`:300`). -/
def agent1Content (payload : JsonValue) : Except PyExc JsonValue := do
  let choices ← payload.index "choices"
  let first ← choices.indexInt 0
  let message ← first.index "message"
  message.index "content"

/-- Ollama's reply text, `response.json()["response"]` (`:349`). -/
def agent2Content (payload : JsonValue) : Except PyExc JsonValue := payload.index "response"

/-- `get_move_from_agent1` (`:268-314`), the LM Studio agent playing `X`. -/
def getMoveFromAgent1 (b : Board) (reply : AgentReply) (k : Nat) : Pos :=
  getMoveFromAgent agent1Content b reply k

/-- `get_move_from_agent2` (`:316-363`), the Ollama agent playing `O`. -/
def getMoveFromAgent2 (b : Board) (reply : AgentReply) (k : Nat) : Pos :=
  getMoveFromAgent agent2Content b reply k

/-! ## No suggestion is ever used -/

theorem moveOfMatch_backslash (b : Board) (rest : PyStr) :
    moveOfMatch b (.char '\\' :: rest) = throw .decodeError := by
  simp only [moveOfMatch, jsonLoads_backslash (jsonDepthLimit 3)]
  rfl

/-- Whatever the agent answers, the `try` block never returns a move. -/
theorem suggestedMove_ne_some (content : JsonValue → Except PyExc JsonValue) (b : Board)
    (reply : AgentReply) (p : Pos) : suggestedMove content b reply ≠ .ok (some p) := by
  unfold suggestedMove
  cases hr : replyText content reply with
  | error e => simp [bind, Except.bind]
  | ok text =>
    cases text with
    | none => simp [bind, Except.bind, pure, Except.pure]
    | some text =>
      cases hs : braceSearch text with
      | none => simp [bind, Except.bind, pure, Except.pure, hs]
      | some m =>
        obtain ⟨rest, rfl⟩ := braceSearch_head hs
        simp [bind, Except.bind, hs, moveOfMatch_backslash, throw, throwThe, MonadExceptOf.throw]

/-- Both agents always play `get_default_move`, for every reply of every endpoint. -/
theorem getMoveFromAgent_eq_getDefaultMove (content : JsonValue → Except PyExc JsonValue)
    (b : Board) (reply : AgentReply) (k : Nat) :
    getMoveFromAgent content b reply k = getDefaultMove b k := by
  unfold getMoveFromAgent
  split
  · rename_i p h; exact absurd h (suggestedMove_ne_some content b reply p)
  · rfl

/-- Both agents answer the empty corner `(0, 0)` of an empty board as a lone JSON object, yet
    both calls return the center chosen by `get_default_move`. -/
theorem getMoveFromAgent_ignores_reply (k : Nat) :
    jsonLoads (jsonDepthLimit 3) "\x7b\"row\": 0, \"col\": 0\x7d" =
        some (.dict [("row", .int 0), ("col", .int 0)]) ∧
      getMoveFromAgent1 emptyBoard (.answered 200
        "\x7b\"choices\": [\x7b\"message\": \x7b\"content\": \"\x7b\\\"row\\\": 0, \\\"col\\\": 0\x7d\"\x7d\x7d]\x7d") k
        = (1, 1) ∧
      getMoveFromAgent2 emptyBoard (.answered 200
        "\x7b\"response\": \"\x7b\\\"row\\\": 0, \\\"col\\\": 0\x7d\"\x7d") k = (1, 1) := by
  refine ⟨rfl, ?_, ?_⟩
  · rw [getMoveFromAgent1, getMoveFromAgent_eq_getDefaultMove, getDefaultMove_center rfl]
  · rw [getMoveFromAgent2, getMoveFromAgent_eq_getDefaultMove, getDefaultMove_center rfl]

end KdappCoordinator
