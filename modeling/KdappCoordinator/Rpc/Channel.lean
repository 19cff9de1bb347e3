import KdappCoordinator.Python.JsonLoads
import KdappCoordinator.Python.JsonDumps
import KdappCoordinator.Coordinator.Agent

/-!
# The line channel to the engine

The engine is a subprocess whose stdout and stderr are merged into one pipe
(`tictactoe_coordinator.py:14-23`). The coordinator writes one JSON request per line to its
stdin and reads the merged output line by line, decoding it as UTF-8. What a read loop
observes is a `StreamItem`: a line `readline()` returned, bytes that are not UTF-8 (on which
`readline()` raises `UnicodeDecodeError`), or the loop's deadline passing at its head. The
clock is read only there, so a line that arrives while `readline()` waits past the deadline
is still read. Past the lines the engine has printed, `readline()` returns `''` once the
engine has exited, and the loop spins until its deadline; while the engine runs on, it waits
forever (`PyExc.blocked`).

`send_mcp_request` (`:536-572`) writes the request as `json.dumps(request)` and a newline.
`json.dumps` raises on an integer of more than 4300 digits or on nesting past the recursion
limit (`dumpsError`), and the write raises `BrokenPipeError` once the engine has exited.
`json.dumps` writes printable ASCII only, so the engine reading its stdin line by line gets
every request as one line (`requestLines_splitOn`). The call then returns the first line that
`json.loads` accepts, of any JSON type; the lines before it are discarded and the lines after
it stay for the next call (`readResponse_spec`). Nothing in the request or the answer ties
one to the other: the `id` is always 1.

`World` is everything the coordinator process talks to: the engine's pipe (with the log of
lines written to it, and the point where the engine exits), the replies of the agents' HTTP
endpoints and the draws of `random.choice`, each consumed in order. `CoordM` runs the
coordinator's methods against it; an exception keeps the state reached, as Python's pipes
keep what was read. Three small program logics over `CoordM` follow a method's body call by
call: `CoordM.Spec` for the exceptions it can raise and what it returns, `CoordM.Blind` for
methods whose run does not depend on the agents' replies, and `CoordM.Trace` for the calls a
method makes on the engine and what each returned.
-/

namespace KdappCoordinator

/-- What a read loop observes on the engine's merged output. -/
inductive StreamItem where
  /-- `readline()` returned this line (its newline dropped). -/
  | line (text : String)
  /-- Bytes that are not UTF-8: `readline()` raises `UnicodeDecodeError`. -/
  | undecodable
  /-- The loop's deadline has passed at its head. -/
  | deadline

/-- `json.loads(line.strip())`, the test each read line goes through (`:562-564`), with
    `depth` levels of nesting left. -/
def parseLine (depth : Nat) (text : String) : Option JsonValue :=
  jsonLoads depth (String.mk (pyStrip text.data))

/-- The read loop of `send_mcp_request` (`:553-572`) on the engine's output: the answer or the
    exception, and the output left unread. Past the printed lines the loop times out if the
    engine has exited, and otherwise waits forever. -/
def readResponse (depth : Nat) (exited : Bool) :
    List StreamItem → Except PyExc JsonValue × List StreamItem
  | [] => (.error (if exited then .timeoutError else .blocked), [])
  | .deadline :: rest => (.error .timeoutError, rest)
  | .undecodable :: rest => (.error .unicodeDecodeError, rest)
  | .line text :: rest =>
    match parseLine depth text with
    | some v => (.ok v, rest)
    | none => readResponse depth exited rest

/-- The request object of `send_mcp_request` (`:538-543`). -/
def mcpRequest (method : String) (params : JsonValue) : JsonValue :=
  .dict [("jsonrpc", .str "2.0"), ("id", .int 1), ("method", .str method),
    ("params", if params.truthy then params else .dict [])]

/-- The line `send_mcp_request` writes to the engine's stdin: `json.dumps(request) + "\n"`
    (`:549`). -/
def requestLine (request : JsonValue) : List Char := pyDumps request ++ ['\n']

/-- Whatever requests the coordinator writes, the engine reading its stdin line by line gets
    each request's JSON text as one line, in order, and nothing after the last newline:
    `json.dumps` writes no newline of its own. -/
theorem requestLines_splitOn (requests : List JsonValue) :
    (requests.flatMap requestLine).splitOn '\n' = requests.map pyDumps ++ [[]] := by
  induction requests with
  | nil => rfl
  | cons r requests ih =>
    have hfirst := List.splitOnP_first (· == '\n') (pyDumps r)
      (fun c hc heq => newline_not_mem_pyDumps r (beq_iff_eq.mp heq ▸ hc)) '\n' (by decide)
      (requests.flatMap requestLine)
    simp only [List.flatMap_cons, requestLine, List.append_assoc, List.singleton_append] at hfirst ⊢
    rw [List.splitOn, hfirst, ← List.splitOn, ih, List.map_cons, List.cons_append]

/-! ## What `send_mcp_request` returns -/

section Read

variable (depth : Nat) (exited : Bool)

/-- Lines `json.loads` rejects are skipped, and the first line it accepts is the answer; the
    read stops right after it. -/
theorem readResponse_first (pre : List String) (text : String) (rest : List StreamItem)
    (v : JsonValue) (hpre : ∀ l ∈ pre, parseLine depth l = none) (hv : parseLine depth text = some v) :
    readResponse depth exited (pre.map .line ++ .line text :: rest) = (.ok v, rest) := by
  induction pre with
  | nil => simp [readResponse, hv]
  | cons l pre ih =>
    simp only [List.mem_cons, forall_eq_or_imp] at hpre
    simp [readResponse, hpre.1, ih hpre.2]

/-- Without a line `json.loads` accepts, the call reads every line and stops at what follows
    them. -/
theorem readResponse_skip (lines : List String) (rest : List StreamItem)
    (h : ∀ l ∈ lines, parseLine depth l = none) :
    readResponse depth exited (lines.map .line ++ rest) = readResponse depth exited rest := by
  induction lines with
  | nil => rfl
  | cons l lines ih =>
    simp only [List.mem_cons, forall_eq_or_imp] at h
    simp [readResponse, h.1, ih h.2]

end Read

/-- For every sequence of lines after which the engine's output ends, `send_mcp_request`
    returns the value of the first line that `json.loads` accepts, whatever its JSON type,
    leaving the lines after it unread; lines it rejects are discarded; without such a line it
    raises `TimeoutError`. -/
theorem readResponse_spec (depth : Nat) (lines : List String) :
    (∀ (pre : List String) (text : String) (rest : List String) (v : JsonValue),
        lines = pre ++ text :: rest → (∀ l ∈ pre, parseLine depth l = none) →
        parseLine depth text = some v →
        readResponse depth true (lines.map .line) = (.ok v, rest.map .line)) ∧
      ((∀ l ∈ lines, parseLine depth l = none) →
        readResponse depth true (lines.map .line) = (.error .timeoutError, [])) := by
  refine ⟨fun pre text rest v hl hpre hv => ?_, fun h => ?_⟩
  · subst hl
    simpa using readResponse_first depth true pre text (rest.map .line) v hpre hv
  · simpa using readResponse_skip depth true lines [] h

/-- A log line followed by a bare number: the number is the answer, where an object-only
    reading would discard it and time out. -/
theorem readResponse_scalar_answer :
    readResponse (jsonDepthLimit 4) true
      [.line "   Compiling kdapp-mcp-server v0.1.0", .line "5"] = (.ok (.int 5), []) :=
  rfl

/-! ## The coordinator's world -/

/-- Everything the coordinator process talks to. -/
structure World where
  /-- The engine's merged output, still to be read. -/
  stream : List StreamItem
  /-- The number of request lines the engine reads before it exits, closing its stdin and
      ending its output; `none` when it runs on through the run. -/
  exitsAfter : Option Nat
  /-- The lines written to the engine's stdin, in order. -/
  sent : List (List Char)
  /-- The replies the agents' endpoints give, in call order. -/
  replies : List AgentReply
  /-- The draws of `random.choice`, in call order. -/
  draws : List Nat
  /-- How the coordinator's stdout encodes what it prints. -/
  stdoutErrors : StdoutErrors

/-- The engine has exited: it has had its last request. -/
def World.exited (w : World) : Bool := w.exitsAfter.any (· ≤ w.sent.length)

/-- The coordinator's methods: Python exceptions over the state of its world. -/
abbrev CoordM := ExceptT PyExc (StateM World)

theorem CoordM.run_bind {α β : Type} (x : CoordM α) (f : α → CoordM β) (w : World) :
    (x >>= f).run.run w =
      match x.run.run w with
      | (.ok a, w') => (f a).run.run w'
      | (.error e, w') => (.error e, w') := by
  simp only [ExceptT.run_bind, StateT.run_bind]
  rcases x.run.run w with ⟨_ | a, w'⟩ <;> rfl

theorem CoordM.run_map {α β : Type} (f : α → β) (x : CoordM α) (w : World) :
    (f <$> x).run.run w =
      match x.run.run w with
      | (.ok a, w') => (.ok (f a), w')
      | (.error e, w') => (.error e, w') := by
  simp only [ExceptT.run_map, StateT.run_map]
  rcases x.run.run w with ⟨_ | a, w'⟩ <;> rfl

theorem CoordM.run_tryCatch {α : Type} (x : CoordM α) (h : PyExc → CoordM α) (w : World) :
    (tryCatch x h).run.run w =
      match x.run.run w with
      | (.ok a, w') => (.ok a, w')
      | (.error e, w') => (h e).run.run w' := by
  show (ExceptT.tryCatch x h).run.run w = _
  simp only [ExceptT.tryCatch, ExceptT.run, ExceptT.mk, StateT.run_bind]
  rcases hx : StateT.run x w with ⟨_ | a, w'⟩ <;> simp only [hx] <;> rfl

@[simp] theorem CoordM.run_throw {α : Type} (e : PyExc) (w : World) :
    (throw e : CoordM α).run.run w = (.error e, w) := rfl

/-- One call on the pipe, with `depth` levels of nesting left for `json`: `json.dumps` of the
    request, the write of its line, which fails once the engine has exited, and the read of the
    answer. -/
def World.send (w : World) (depth : Nat) (request : JsonValue) : Except PyExc JsonValue × World :=
  match dumpsError depth request with
  | some e => (.error e, w)
  | none =>
    if w.exited then (.error .brokenPipeError, w)
    else
      let w' := { w with sent := w.sent ++ [requestLine request] }
      ((readResponse depth w'.exited w'.stream).1,
        { w' with stream := (readResponse depth w'.exited w'.stream).2 })

/-- `send_mcp_request(method, params)` (`:536-572`), called with `callers` frames below it
    (`jsonDepthLimit`). -/
def sendMcpRequest (callers : Nat) (method : String) (params : JsonValue) : CoordM JsonValue :=
  ExceptT.mk fun w => w.send (jsonDepthLimit (callers + 1)) (mcpRequest method params)

/-- The reply of the next agent call; past the given replies, no endpoint answers. -/
def nextReply : CoordM AgentReply :=
  ExceptT.mk fun w => match w.replies with
    | [] => (.ok .failed, w)
    | r :: rs => (.ok r, { w with replies := rs })

/-- The next draw of `random.choice`; past the given draws, the first element. -/
def nextDraw : CoordM Nat :=
  ExceptT.mk fun w => match w.draws with
    | [] => (.ok 0, w)
    | k :: ks => (.ok k, { w with draws := ks })

/-- `print` of a line that interpolates the values `xs`, directly or through `self.log`
    (`:263-266`): stdout encodes the line, and raises `UnicodeEncodeError` on a lone surrogate
    its error handler refuses. Lines with no value interpolated cannot raise, and are left out. -/
def logValues (xs : List JsonValue) : CoordM Unit :=
  ExceptT.mk fun w =>
    (if xs.any (·.printRaises w.stdoutErrors) then .error .unicodeEncodeError else .ok (), w)

@[simp] theorem sendMcpRequest_run (callers : Nat) (method : String) (params : JsonValue)
    (w : World) :
    (sendMcpRequest callers method params).run.run w =
      w.send (jsonDepthLimit (callers + 1)) (mcpRequest method params) := rfl

/-- The exceptions of the read loop: `TimeoutError`, `UnicodeDecodeError`, or a wait that never
    ends. -/
def ReadExc (e : PyExc) : Prop := e = .timeoutError ∨ e = .unicodeDecodeError ∨ e = .blocked

/-- The exceptions raised before anything is written: those of `json.dumps` and of the write. -/
def WriteExc (e : PyExc) : Prop := DumpsExc e ∨ e = .brokenPipeError

theorem readResponse_error {depth : Nat} {exited : Bool} {items : List StreamItem} {e : PyExc}
    (h : (readResponse depth exited items).1 = .error e) : ReadExc e := by
  induction items with
  | nil => cases exited <;> cases h <;> simp [ReadExc]
  | cons item items ih =>
    cases item with
    | deadline => cases h; exact .inl rfl
    | undecodable => cases h; exact .inr (.inl rfl)
    | line text =>
      simp only [readResponse] at h
      split at h
      · cases h
      · exact ih h

/-- What a call of `send_mcp_request` does to the world: nothing when `json.dumps` raises or
    the engine has exited; otherwise its line is written and its answer read. -/
theorem World.send_cases (w : World) (depth : Nat) (request : JsonValue) :
    (∃ e, (dumpsError depth request = some e ∨ dumpsError depth request = none ∧
        w.exited = true ∧ e = .brokenPipeError) ∧ w.send depth request = (.error e, w)) ∨
      dumpsError depth request = none ∧ w.exited = false ∧
        w.send depth request =
          ((readResponse depth (w.exitsAfter.any (· ≤ w.sent.length + 1)) w.stream).1,
            { w with sent := w.sent ++ [requestLine request],
                     stream := (readResponse depth
                       (w.exitsAfter.any (· ≤ w.sent.length + 1)) w.stream).2 }) := by
  unfold World.send
  cases hd : dumpsError depth request with
  | some e => exact .inl ⟨e, .inl rfl, rfl⟩
  | none =>
    cases hx : w.exited
    · refine .inr ⟨rfl, rfl, ?_⟩
      simp [World.exited]
    · exact .inl ⟨_, .inr ⟨rfl, rfl, rfl⟩, rfl⟩

theorem nextReply_run (w : World) :
    ∃ r rs, nextReply.run.run w = (.ok r, { w with replies := rs }) := by
  obtain ⟨stream, exitsAfter, sent, replies, draws, errors⟩ := w
  cases replies <;> exact ⟨_, _, rfl⟩

theorem nextDraw_run (w : World) :
    ∃ k ks, nextDraw.run.run w = (.ok k, { w with draws := ks }) := by
  obtain ⟨stream, exitsAfter, sent, replies, draws, errors⟩ := w
  cases draws <;> exact ⟨_, _, rfl⟩

/-! ## What a method can end with

`CoordM.Spec x Q E`: from every world, `x` returns a value satisfying `Q` or raises an
exception satisfying `E`. The rules below follow the shape of a method's body, so that a
method's exceptions are read off its calls. -/

/-- From every world, a run of `x` returns a value satisfying `Q` or raises an exception
    satisfying `E`. -/
def CoordM.Spec {α : Type} (x : CoordM α) (Q : α → Prop) (E : PyExc → Prop) : Prop :=
  ∀ w, match x.run.run w with
    | (.ok a, _) => Q a
    | (.error e, _) => E e

section Spec

variable {α β : Type} {Q Q' : α → Prop} {R : β → Prop} {E E' : PyExc → Prop}

theorem CoordM.Spec.of_pure {a : α} (h : Q a) : (pure a : CoordM α).Spec Q E := fun _ => h

theorem CoordM.Spec.of_throw {e : PyExc} (h : E e) : (throw e : CoordM α).Spec Q E :=
  fun _ => h

theorem CoordM.Spec.of_bind {x : CoordM α} {f : α → CoordM β} (hx : x.Spec Q E)
    (hf : ∀ a, Q a → (f a).Spec R E) : (x >>= f).Spec R E := by
  intro w
  have hw := hx w
  rw [CoordM.run_bind]
  revert hw
  rcases x.run.run w with ⟨_ | a, w'⟩
  · exact id
  · exact fun ha => hf a ha w'

theorem CoordM.Spec.of_map {x : CoordM α} {f : α → β} (hx : x.Spec Q E)
    (hf : ∀ a, Q a → R (f a)) : (f <$> x).Spec R E := by
  intro w
  have hw := hx w
  rw [CoordM.run_map]
  revert hw
  rcases x.run.run w with ⟨_ | a, w'⟩
  · exact id
  · exact hf a

theorem CoordM.Spec.of_tryCatch {x : CoordM α} {h : PyExc → CoordM α} (hx : x.Spec Q E')
    (hh : ∀ e, E' e → (h e).Spec Q E) : (tryCatch x h).Spec Q E := by
  intro w
  have hw := hx w
  rw [CoordM.run_tryCatch]
  revert hw
  rcases x.run.run w with ⟨e | a, w'⟩
  · exact fun he => hh e he w'
  · exact id

end Spec

theorem logValues_spec (xs : List JsonValue) :
    (logValues xs).Spec (fun _ => True) (· = .unicodeEncodeError) := fun w => by
  cases h : xs.any (·.printRaises w.stdoutErrors) <;>
    simp [logValues, h, ExceptT.mk, ExceptT.run, StateT.run]

/-- Two worlds that differ at most in the agents' replies. -/
def World.SameButReplies (w w' : World) : Prop := ∃ replies, w' = { w with replies := replies }

/-- `x` does the same in two worlds that differ only in the agents' replies. -/
def CoordM.Blind {α : Type} (x : CoordM α) : Prop :=
  ∀ w w', w.SameButReplies w' →
    (x.run.run w).1 = (x.run.run w').1 ∧ (x.run.run w).2.SameButReplies (x.run.run w').2

section Blind

variable {α β : Type}

theorem CoordM.Blind.of_pure (a : α) : (pure a : CoordM α).Blind := fun _ _ h => ⟨rfl, h⟩

theorem CoordM.Blind.of_throw (e : PyExc) : (throw e : CoordM α).Blind := fun _ _ h => ⟨rfl, h⟩

theorem CoordM.Blind.of_bind {x : CoordM α} {f : α → CoordM β} (hx : x.Blind)
    (hf : ∀ a, (f a).Blind) : (x >>= f).Blind := by
  intro w w' h
  obtain ⟨h1, h2⟩ := hx w w' h
  rw [CoordM.run_bind, CoordM.run_bind]
  revert h1 h2
  rcases x.run.run w with ⟨_ | a, v⟩ <;> rcases x.run.run w' with ⟨_ | a', v'⟩ <;>
    intro h1 h2 <;> cases h1
  · exact ⟨rfl, h2⟩
  · exact hf a v v' h2

theorem CoordM.Blind.of_map {x : CoordM α} (f : α → β) (hx : x.Blind) : (f <$> x).Blind := by
  intro w w' h
  obtain ⟨h1, h2⟩ := hx w w' h
  rw [CoordM.run_map, CoordM.run_map]
  revert h1 h2
  rcases x.run.run w with ⟨_ | a, v⟩ <;> rcases x.run.run w' with ⟨_ | a', v'⟩ <;>
    intro h1 h2 <;> cases h1 <;> exact ⟨rfl, h2⟩

theorem CoordM.Blind.of_tryCatch {x : CoordM α} {h : PyExc → CoordM α} (hx : x.Blind)
    (hh : ∀ e, (h e).Blind) : (tryCatch x h).Blind := by
  intro w w' hw
  obtain ⟨h1, h2⟩ := hx w w' hw
  rw [CoordM.run_tryCatch, CoordM.run_tryCatch]
  revert h1 h2
  rcases x.run.run w with ⟨e | a, v⟩ <;> rcases x.run.run w' with ⟨e' | a', v'⟩ <;>
    intro h1 h2 <;> cases h1
  · exact hh e v v' h2
  · exact ⟨rfl, h2⟩

/-- A method that draws a reply and never looks at it. -/
theorem CoordM.Blind.nextReply_bind {g : CoordM β} (hg : g.Blind) :
    (nextReply >>= fun _ => g).Blind := by
  rintro w _ ⟨rs, rfl⟩
  obtain ⟨r, rs₁, hr⟩ := nextReply_run w
  obtain ⟨r', rs₂, hr'⟩ := nextReply_run { w with replies := rs }
  rw [CoordM.run_bind, CoordM.run_bind, hr, hr']
  exact hg _ _ ⟨rs₂, rfl⟩

theorem CoordM.Blind.nextDraw : nextDraw.Blind := by
  rintro ⟨st, ex, se, r, d, o⟩ _ ⟨rs, rfl⟩
  cases d <;> exact ⟨rfl, rs, rfl⟩

theorem CoordM.Blind.sendMcpRequest (callers : Nat) (method : String) (params : JsonValue) :
    (KdappCoordinator.sendMcpRequest callers method params).Blind := by
  rintro w _ ⟨rs, rfl⟩
  simp only [sendMcpRequest_run, World.send, World.exited]
  split
  · exact ⟨rfl, rs, rfl⟩
  · split <;> exact ⟨rfl, rs, rfl⟩

theorem CoordM.Blind.logValues (xs : List JsonValue) : (KdappCoordinator.logValues xs).Blind := by
  rintro w _ ⟨rs, rfl⟩
  exact ⟨rfl, rs, rfl⟩

end Blind

/-! ## What a method writes to the engine

`CoordM.Trace x T`: from every world, `x` appends to the engine's stdin the request lines of a
list of calls, and `T` holds of its outcome and that list. Each call keeps what it returned or
raised, so that a property of a run can tie a later request to an earlier answer. The calls of
`x >>= f` are those of `x` followed by those of `f`, so the rule for `>>=` hands the calls made
so far to the rest. -/

/-- A call on the engine: the method and parameters of its request, and what the call returned
    or raised. -/
structure EngineCall where
  method : String
  params : JsonValue
  answer : Except PyExc JsonValue

/-- The line `send_mcp_request(method, params)` writes for a call. -/
def EngineCall.line (call : EngineCall) : List Char := requestLine (mcpRequest call.method call.params)

/-- From every world, `x` writes the lines of a list of calls to the engine's stdin, and its
    outcome and those calls satisfy `T`. -/
def CoordM.Trace {α : Type} (x : CoordM α) (T : Except PyExc α → List EngineCall → Prop) : Prop :=
  ∀ w, ∃ calls, (x.run.run w).2.sent = w.sent ++ calls.map EngineCall.line ∧ T (x.run.run w).1 calls

section Trace

variable {α β : Type} {T T' : Except PyExc α → List EngineCall → Prop}
  {R : Except PyExc β → List EngineCall → Prop}

theorem CoordM.Trace.of_pure {a : α} (h : T (.ok a) []) : (pure a : CoordM α).Trace T :=
  fun _ => ⟨[], (List.append_nil _).symm, h⟩

theorem CoordM.Trace.of_throw {e : PyExc} (h : T (.error e) []) : (throw e : CoordM α).Trace T :=
  fun _ => ⟨[], (List.append_nil _).symm, h⟩

/-- The calls of `x >>= f` are those of `x` followed by those of `f`. -/
theorem CoordM.Trace.of_bind {x : CoordM α} {f : α → CoordM β} (hx : x.Trace T)
    (he : ∀ e cs, T (.error e) cs → R (.error e) cs)
    (hf : ∀ a cs, T (.ok a) cs → (f a).Trace fun r cs' => R r (cs ++ cs')) : (x >>= f).Trace R := by
  intro w
  obtain ⟨cs, hs, ht⟩ := hx w
  rw [CoordM.run_bind]
  revert hs ht
  rcases x.run.run w with ⟨e | a, w'⟩ <;> intro hs ht
  · exact ⟨cs, hs, he e cs ht⟩
  · obtain ⟨cs', hs', ht'⟩ := hf a cs ht w'
    exact ⟨cs ++ cs', by rw [hs', hs, List.map_append, List.append_assoc], ht'⟩

theorem CoordM.Trace.of_map {x : CoordM α} {f : α → β} (hx : x.Trace T)
    (h : ∀ r cs, T r cs → R (f <$> r) cs) : (f <$> x).Trace R := by
  intro w
  obtain ⟨cs, hs, ht⟩ := hx w
  rw [CoordM.run_map]
  revert hs ht
  rcases x.run.run w with ⟨e | a, w'⟩ <;> exact fun hs ht => ⟨cs, hs, h _ cs ht⟩

theorem CoordM.Trace.of_tryCatch {x : CoordM α} {h : PyExc → CoordM α} (hx : x.Trace T)
    (hok : ∀ a cs, T (.ok a) cs → T' (.ok a) cs)
    (hh : ∀ e cs, T (.error e) cs → (h e).Trace fun r cs' => T' r (cs ++ cs')) :
    (tryCatch x h).Trace T' := by
  intro w
  obtain ⟨cs, hs, ht⟩ := hx w
  rw [CoordM.run_tryCatch]
  revert hs ht
  rcases x.run.run w with ⟨e | a, w'⟩ <;> intro hs ht
  · obtain ⟨cs', hs', ht'⟩ := hh e cs ht w'
    exact ⟨cs ++ cs', by rw [hs', hs, List.map_append, List.append_assoc], ht'⟩
  · exact ⟨cs, hs, hok a cs ht⟩

/-- `send_mcp_request` writes one line, for its own call, and returns that call's answer, or
    raises an exception of the read loop; when `json.dumps` or the write raises, it writes
    nothing. -/
theorem CoordM.Trace.sendMcpRequest (callers : Nat) (method : String) (params : JsonValue) :
    (KdappCoordinator.sendMcpRequest callers method params).Trace fun r cs =>
      cs = [⟨method, params, r⟩] ∧ (∀ e, r = .error e → ReadExc e) ∨
        cs = [] ∧ ∃ e, r = .error e ∧ WriteExc e := by
  intro w
  rcases World.send_cases w (jsonDepthLimit (callers + 1)) (mcpRequest method params) with
    ⟨e, he, hs⟩ | ⟨-, -, hs⟩
  · refine ⟨[], by simp [hs], .inr ⟨rfl, e, by simp [hs], ?_⟩⟩
    rcases he with he | ⟨-, -, rfl⟩
    exacts [.inl (dumpsError_exc _ _ e he), .inr rfl]
  · refine ⟨_, by simp [hs, EngineCall.line], .inl ⟨rfl, fun e he => ?_⟩⟩
    simp only [sendMcpRequest_run, hs] at he
    exact readResponse_error he

theorem CoordM.Trace.nextReply :
    KdappCoordinator.nextReply.Trace fun r cs => (∃ a, r = .ok a) ∧ cs = [] := fun w => by
  obtain ⟨r, rs, h⟩ := nextReply_run w
  exact ⟨[], by rw [h, List.map_nil, List.append_nil], by rw [h]; exact ⟨⟨r, rfl⟩, rfl⟩⟩

theorem CoordM.Trace.nextDraw :
    KdappCoordinator.nextDraw.Trace fun r cs => (∃ a, r = .ok a) ∧ cs = [] := fun w => by
  obtain ⟨k, ks, h⟩ := nextDraw_run w
  exact ⟨[], by rw [h, List.map_nil, List.append_nil], by rw [h]; exact ⟨⟨k, rfl⟩, rfl⟩⟩

theorem CoordM.Trace.logValues (xs : List JsonValue) :
    (KdappCoordinator.logValues xs).Trace fun r cs => (∀ e, r = .error e → e = .unicodeEncodeError) ∧
      cs = [] := fun w => by
  refine ⟨[], (List.append_nil _).symm, fun e he => ?_, rfl⟩
  have h := logValues_spec xs w
  revert h he
  rcases (KdappCoordinator.logValues xs).run.run w with ⟨_ | _, _⟩
  · exact fun he h => by cases he; exact h
  · exact fun he _ => nomatch he

end Trace

end KdappCoordinator
