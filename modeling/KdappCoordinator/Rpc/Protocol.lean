import KdappCoordinator.Rpc.Channel

/-!
# Requests and answers on the engine's pipes

The coordinator and the engine share two pipes: the engine's stdin, where the coordinator
writes one request per line, and the engine's merged stdout/stderr, where the engine prints
log lines and one JSON answer per request it reads, in the order it reads them. The request's
`id` is always 1, so nothing but order ties an answer to its request.

`NetStep` is every interleaving of the two parties. The coordinator writes a request when it
is between calls, and inside `send_mcp_request` reads lines, keeping the first `json.loads`
accepts with `depth` levels of nesting left (`parseLine`, the test of `readResponse`), or
gives up when its deadline passes or a line cannot be decoded. Whether the
program goes on after a timed-out call is the coordinator's `caught` policy: in the source,
only the first call, `kdapp_get_agent_pubkeys` in `__init__`, sits in a `try`
(`tictactoe_coordinator.py:69-81`); every later call lets `TimeoutError` end the run
(`coordinatorCatches`). A ghost list records, for each call that returned, which request it
wrote and which request's answer it returned. The read loop of `send_mcp_request`
(`readResponse`), run over the lines the engine has printed, is a run of these read steps
(`readResponse_netSteps`).

While no timed-out call has been resumed, at most one request is unanswered and every call
returns the answer to its own request (`NetInv`). One resumed timeout breaks it: the next call
reads the late answer to the request before (`netReach_stale_answer`).
-/

namespace KdappCoordinator

/-- A line of the engine's merged output, with the request it answers (ghost; `none` for a log
    line). -/
structure OutLine where
  text : String
  answers : Option Nat

/-- Where the coordinator is with respect to its pipes. -/
inductive CoordPhase where
  /-- Between two calls of `send_mcp_request`. -/
  | idle
  /-- Inside `send_mcp_request`, waiting for the answer to request `req`. -/
  | reading (req : Nat)
  /-- An exception ended the run. -/
  | halted
  deriving DecidableEq

/-- The two parties and the two pipes. -/
structure Net where
  /-- Requests written to the engine's stdin and not yet read by it. -/
  toEngine : List Nat
  /-- Lines the engine printed and the coordinator has not read. -/
  fromEngine : List OutLine
  /-- The number of requests written so far. -/
  nextReq : Nat
  phase : CoordPhase
  /-- Ghost: a timed-out call was resumed. -/
  resumed : Bool
  /-- Ghost: for each call that returned, its request and the request its answer was for. -/
  returned : List (Nat × Nat)

/-- Both pipes empty, no request written. -/
def Net.initial : Net := ⟨[], [], 0, .idle, false, []⟩

/-- The source's policy: only the first call, in `__init__`'s `try`, is resumed after an
    exception. -/
def coordinatorCatches (req : Nat) : Bool := req = 0

/-- The answers still to be read, in the order the coordinator will read them: those printed,
    then those of the requests the engine has not read yet. -/
def Net.pending (n : Net) : List Nat := n.fromEngine.filterMap OutLine.answers ++ n.toEngine

namespace Net

/-- `send_mcp_request` writes its request (`:549-550`). -/
def send (n : Net) : Net :=
  { n with toEngine := n.toEngine ++ [n.nextReq], nextReq := n.nextReq + 1,
           phase := .reading n.nextReq }

/-- The engine prints a line. -/
def print (n : Net) (l : OutLine) : Net := { n with fromEngine := n.fromEngine ++ [l] }

/-- The engine reads the oldest request, leaving `rest`, and prints its answer `text`. -/
def answer (n : Net) (req : Nat) (rest : List Nat) (text : String) : Net :=
  { (n.print ⟨text, some req⟩) with toEngine := rest }

/-- The coordinator reads a line and reads on; `rest` is what is left. -/
def skip (n : Net) (rest : List OutLine) : Net := { n with fromEngine := rest }

/-- The coordinator reads line `l` and returns it from the call for request `req`. -/
def deliver (n : Net) (req : Nat) (l : OutLine) (rest : List OutLine) : Net :=
  { n with fromEngine := rest, phase := .idle, returned := n.returned ++ [(req, l.answers.getD req)] }

/-- The deadline of the call for `req` passes; the run goes on only if `caught` says so. -/
def expire (n : Net) (caught : Nat → Bool) (req : Nat) : Net :=
  { n with phase := if caught req then .idle else .halted, resumed := n.resumed || caught req }

end Net

/-- One step of either party, under the coordinator's exception policy `caught`, with reads
    that leave `json` `depth` levels of nesting. -/
inductive NetStep (caught : Nat → Bool) (depth : Nat) : Net → Net → Prop
  | send (n : Net) (h : n.phase = .idle) : NetStep caught depth n n.send
  /-- A log line, which `json.loads` rejects. -/
  | engineLog (n : Net) (text : String) (h : parseLine depth text = none) :
      NetStep caught depth n (n.print ⟨text, none⟩)
  /-- The answer to the oldest request the engine has not read, which `json.loads` accepts. -/
  | engineAnswer (n : Net) (req : Nat) (rest : List Nat) (text : String)
      (h : n.toEngine = req :: rest) (hv : (parseLine depth text).isSome) :
      NetStep caught depth n (n.answer req rest text)
  /-- A line `json.loads` rejects is skipped (`:570-572`). -/
  | readSkip (n : Net) (req : Nat) (l : OutLine) (rest : List OutLine)
      (hp : n.phase = .reading req) (h : n.fromEngine = l :: rest)
      (hl : parseLine depth l.text = none) :
      NetStep caught depth n (n.skip rest)
  /-- A line `json.loads` accepts is returned (`:563-569`). -/
  | readReturn (n : Net) (req : Nat) (l : OutLine) (rest : List OutLine)
      (hp : n.phase = .reading req) (h : n.fromEngine = l :: rest)
      (hl : (parseLine depth l.text).isSome) :
      NetStep caught depth n (n.deliver req l rest)
  /-- The call raises in its read: the deadline passes (`:555-556`), or `readline()` cannot
      decode the output. -/
  | timeout (n : Net) (req : Nat) (hp : n.phase = .reading req) :
      NetStep caught depth n (n.expire caught req)

/-- The states of every interleaving. -/
inductive NetReach (caught : Nat → Bool) (depth : Nat) : Net → Prop
  | init : NetReach caught depth .initial
  | step {n n' : Net} : NetReach caught depth n → NetStep caught depth n n' →
      NetReach caught depth n'

/-! ## The read loop is a run of read steps -/

/-- The read loop of `send_mcp_request` over the lines the engine has printed, after which its
    output ends, is a run of the protocol's read steps: it skips the lines `json.loads` rejects
    and returns the first one it accepts, leaving the lines after it, or reaches the end of the
    printed lines and times out. -/
theorem readResponse_netSteps (caught : Nat → Bool) (depth : Nat) (n : Net) (req : Nat)
    (hp : n.phase = .reading req) :
    match readResponse depth true (n.fromEngine.map fun l => .line l.text) with
    | (.ok v, items) => ∃ l rest, items = rest.map (fun l => .line l.text) ∧
        parseLine depth l.text = some v ∧
        Relation.ReflTransGen (NetStep caught depth) n (n.deliver req l rest)
    | (.error _, _) =>
      Relation.ReflTransGen (NetStep caught depth) n ((n.skip []).expire caught req) := by
  obtain ⟨lines, hf⟩ : ∃ lines, n.fromEngine = lines := ⟨_, rfl⟩
  rw [hf]
  induction lines generalizing n with
  | nil =>
    obtain ⟨toEngine, fromEngine, nextReq, phase, resumed, returned⟩ := n
    cases hf
    exact .single (.timeout _ req hp)
  | cons l ls ih =>
    cases h : parseLine depth l.text with
    | none =>
      have hstep : NetStep caught depth n (n.skip ls) := .readSkip n req l ls hp hf h
      have hrest := ih (n.skip ls) hp rfl
      simp only [List.map_cons, readResponse, h]
      split <;> rename_i heq <;> rw [heq] at hrest
      · obtain ⟨l', rest, hi, hv, hr⟩ := hrest
        exact ⟨l', rest, hi, hv, .head hstep hr⟩
      · exact .head hstep hrest
    | some v =>
      simp only [List.map_cons, readResponse, h]
      exact ⟨l, ls, rfl, h, .single (.readReturn n req l ls hp hf (by simp [h]))⟩

/-- A log line, then an answer: the read skips the first and returns the second. -/
theorem readResponse_netSteps_log_answer :
    let n : Net := ⟨[], [⟨"INFO kdapp: episode started", none⟩, ⟨"5", some 0⟩], 1, .reading 0,
      false, []⟩
    n.phase = .reading 0 ∧
      match readResponse (jsonDepthLimit 4) true (n.fromEngine.map fun l => .line l.text) with
      | (.ok v, items) => ∃ l rest, items = rest.map (fun l => .line l.text) ∧
          parseLine (jsonDepthLimit 4) l.text = some v ∧
          Relation.ReflTransGen (NetStep coordinatorCatches (jsonDepthLimit 4)) n (n.deliver 0 l rest)
      | (.error _, _) =>
        Relation.ReflTransGen (NetStep coordinatorCatches (jsonDepthLimit 4)) n
          ((n.skip []).expire coordinatorCatches 0) :=
  ⟨rfl, readResponse_netSteps coordinatorCatches _ _ 0 rfl⟩

/-! ## One request at a time -/

/-- What holds in every interleaving; the last three facts hold while no failed call has been
    resumed. -/
structure NetInv (depth : Nat) (n : Net) : Prop where
  /-- The engine's answers are exactly the lines `json.loads` accepts. -/
  lines : ∀ l ∈ n.fromEngine, (parseLine depth l.text).isSome = l.answers.isSome
  idle_pending : n.resumed = false → n.phase = .idle → n.pending = []
  reading_pending : n.resumed = false → ∀ req, n.phase = .reading req → n.pending = [req]
  matched : n.resumed = false → ∀ p ∈ n.returned, p.1 = p.2

theorem NetInv.initial (depth : Nat) : NetInv depth .initial :=
  ⟨by simp [Net.initial], fun _ _ => rfl, by simp [Net.initial], by simp [Net.initial]⟩

@[simp] theorem Net.pending_print (n : Net) (l : OutLine) :
    (n.print l).pending = n.fromEngine.filterMap OutLine.answers ++ l.answers.toList ++ n.toEngine := by
  cases h : l.answers <;> simp [Net.pending, Net.print, h]

/-- A step that keeps the answers to read, the phase and the ghost fields keeps the
    invariant, given that the printed lines still match their answers. -/
theorem NetInv.of_pending {depth : Nat} {n n' : Net} (hi : NetInv depth n)
    (hl : ∀ l ∈ n'.fromEngine, (parseLine depth l.text).isSome = l.answers.isSome)
    (hp : n'.pending = n.pending) (hph : n'.phase = n.phase) (hr : n'.resumed = n.resumed)
    (hret : n'.returned = n.returned) : NetInv depth n' where
  lines := hl
  idle_pending h1 h2 := hp ▸ hi.idle_pending (hr ▸ h1) (hph ▸ h2)
  reading_pending h1 r h2 := hp ▸ hi.reading_pending (hr ▸ h1) r (hph ▸ h2)
  matched h1 := hret ▸ hi.matched (hr ▸ h1)

theorem NetInv.lines_print {depth : Nat} {n : Net} (hi : NetInv depth n) {l : OutLine}
    (hl : (parseLine depth l.text).isSome = l.answers.isSome) :
    ∀ l' ∈ (n.print l).fromEngine, (parseLine depth l'.text).isSome = l'.answers.isSome := by
  simp only [Net.print, List.mem_append, List.mem_singleton]
  rintro l' (hl' | rfl)
  · exact hi.lines l' hl'
  · exact hl

theorem NetInv.step {caught : Nat → Bool} {depth : Nat} {n n' : Net} (hi : NetInv depth n)
    (h : NetStep caught depth n n') : NetInv depth n' := by
  cases h with
  | send hp =>
    refine ⟨hi.lines, by simp [Net.send], fun hr req hreq => ?_, hi.matched⟩
    have h0 := hi.idle_pending hr hp
    simp only [Net.send, CoordPhase.reading.injEq] at hreq
    subst hreq
    simp only [Net.pending, Net.send, ← List.append_assoc] at h0 ⊢
    rw [h0]
    rfl
  | engineLog text hl =>
    exact hi.of_pending (hi.lines_print (by simp [hl])) (by simp [Net.pending, Net.print]) rfl rfl
      rfl
  | engineAnswer req rest text ht hv =>
    exact hi.of_pending (hi.lines_print (by simp [hv]))
      (by simp [Net.answer, Net.pending, Net.print, ht]) rfl rfl rfl
  | readSkip req l rest hph hf hl =>
    have hnone : l.answers = none := by
      simpa [hl] using (hi.lines l (by simp [hf])).symm
    exact hi.of_pending (fun l' hl' => hi.lines l' (by rw [hf]; exact List.mem_cons_of_mem _ hl'))
      (by simp [Net.skip, Net.pending, hf, hnone]) rfl rfl rfl
  | readReturn req l rest hph hf hl =>
    obtain ⟨r, hr⟩ : ∃ r, l.answers = some r :=
      Option.isSome_iff_exists.mp ((hi.lines l (by simp [hf])) ▸ hl)
    have hpend := fun hres => hi.reading_pending hres req hph
    simp only [Net.pending, hf, List.filterMap_cons, hr, List.cons_append,
      List.cons.injEq] at hpend
    refine ⟨fun l' hl' => hi.lines l' (by rw [hf]; exact List.mem_cons_of_mem _ hl'),
      fun hres _ => (hpend hres).2, by simp [Net.deliver], fun hres p hp => ?_⟩
    simp only [Net.deliver, List.mem_append, List.mem_singleton, hr, Option.getD_some] at hp
    rcases hp with hp | rfl
    · exact hi.matched hres p hp
    · exact (hpend hres).1.symm
  | timeout req hph =>
    refine ⟨hi.lines, fun hres hidle => ?_, fun hres r hread => ?_, fun hres => ?_⟩ <;>
      simp only [Net.expire, Bool.or_eq_false_iff] at hres
    · simp [Net.expire, hres.2] at hidle
    · simp [Net.expire, hres.2] at hread
    · exact hi.matched hres.1

theorem netReach_inv {caught : Nat → Bool} {depth : Nat} {n : Net} (h : NetReach caught depth n) :
    NetInv depth n := by
  induction h with
  | init => exact .initial depth
  | step _ hs ih => exact ih.step hs

/-- Under any exception policy, while no failed call has been resumed, every call returns the
    answer to the request it wrote, and the coordinator is between calls only with no answer
    left unread, so it never writes a request while an earlier answer is pending. -/
theorem netReach_returned_own {caught : Nat → Bool} {depth : Nat} {n : Net}
    (h : NetReach caught depth n)
    (hr : n.resumed = false) :
    (∀ p ∈ n.returned, p.1 = p.2) ∧ (n.phase = .idle → n.pending = []) :=
  ⟨(netReach_inv h).matched hr, (netReach_inv h).idle_pending hr⟩

/-- One request written, answered and read back. -/
theorem netReach_returned_own_exchange :
    NetReach coordinatorCatches (jsonDepthLimit 4) ⟨[], [], 1, .idle, false, [(0, 0)]⟩ ∧
      (⟨[], [], 1, .idle, false, [(0, 0)]⟩ : Net).resumed = false ∧
      (∀ p ∈ (⟨[], [], 1, .idle, false, [(0, 0)]⟩ : Net).returned, p.1 = p.2) ∧
      ((⟨[], [], 1, .idle, false, [(0, 0)]⟩ : Net).phase = .idle →
        (⟨[], [], 1, .idle, false, [(0, 0)]⟩ : Net).pending = []) := by
  let text := "\x7b\"id\": 1, \"result\": \"ep-1\"\x7d"
  have h : NetReach coordinatorCatches (jsonDepthLimit 4) ⟨[], [], 1, .idle, false, [(0, 0)]⟩ :=
    .step (.step (.step .init (.send _ rfl)) (.engineAnswer _ 0 [] text rfl rfl))
      (.readReturn _ 0 ⟨text, some 0⟩ [] rfl rfl rfl)
  exact ⟨h, rfl, netReach_returned_own h rfl⟩

/-- The coordinator writes `kdapp_get_agent_pubkeys` (request 0), the engine prints a log line,
    the call times out and `__init__` goes on; the coordinator writes `kdapp_start_episode`
    (request 1) with the answer to request 0 still pending, the engine answers request 0, and the
    call for request 1 returns that answer. -/
theorem netReach_stale_answer :
    NetReach coordinatorCatches (jsonDepthLimit 4) ⟨[0], [], 1, .idle, true, []⟩ ∧
      Net.pending ⟨[0], [], 1, .idle, true, []⟩ = [0] ∧
      NetReach coordinatorCatches (jsonDepthLimit 4) ⟨[1], [], 2, .idle, true, [(1, 0)]⟩ := by
  have h4 : NetReach coordinatorCatches (jsonDepthLimit 4) ⟨[0], [], 1, .idle, true, []⟩ :=
    .step (.step (.step (.step .init (.send _ rfl))
      (.engineLog _ "INFO kdapp_mcp_server: connecting to node" rfl))
      (.readSkip _ 0 _ [] rfl rfl rfl)) (.timeout _ 0 rfl)
  refine ⟨h4, rfl, ?_⟩
  let keys := "\x7b\"id\": 1, \"result\": \x7b\"agent1_pubkey\": \"02aa\"\x7d\x7d"
  exact .step (.step (.step h4 (.send _ rfl)) (.engineAnswer _ 0 [1] keys rfl rfl))
    (.readReturn _ 1 ⟨keys, some 0⟩ [] rfl rfl rfl)

end KdappCoordinator
