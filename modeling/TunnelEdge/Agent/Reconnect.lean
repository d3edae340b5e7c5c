import TunnelEdge.Agent.Connect
import TunnelEdge.Agent.Streams
import TunnelEdge.Lib.Int64
import TunnelEdge.Pkg.Config
/-!
# Connecting again

`runConnectLoop`, `connectTargets` and `connect` of `internal/agent/agent.go`, with what
they call: the two authentications, `trySessionResume` and `streamLoop`. What the
outside does in an attempt to connect is an `Attempt`, and the rounds of the loop get
theirs from a list of `Cycle`s. Each of these functions returns a Go error, where
`none` is nil.

The loop resets its back-off where `connectTargets` returns nil. It never does:
`streamLoop` has two ways out and both are errors, so a session that was established
ends like an attempt that failed.
-/

namespace TunnelEdge

open GoLib Transport

/-- `Agent`, with the fields that its loop reads. -/
structure RunningAgent extends Agent where
  gatewayAddrs : List Bytes := []
  suggestedGateways : List Bytes := []
  reconnectDelay : Duration
  maxReconnect : Int := 0

/-- `NewAgent`, with the options that `main` takes from the configuration. -/
def newAgent (cfg : Pkg.AgentConfig) (tunnels : List TunnelEntry) (preferredRegion : Bytes)
    (sessionResumeEnabled : Bool) : RunningAgent where
  token := bytesOf cfg.token
  tunnels := tunnels
  preferredRegion := preferredRegion
  sessionResumeEnabled := sessionResumeEnabled
  gatewayAddrs := ((cfg.gatewayAddr :: cfg.gatewayTargets).foldl Pkg.appendTarget []).map bytesOf
  reconnectDelay := cfg.reconnectDelay
  maxReconnect := cfg.maxReconnect

inductive ConnectError
  /-- `fmt.Errorf("<msg>: %w", err)` around an error of a library. -/
  | wrapped (msg : String)
  /-- The same around an error of a frame. -/
  | frame (msg : String) (err : FrameError)
  /-- `session resume error: %w` -/
  | resume (err : ConnectError)
  | new (msg : String)
  /-- `ctx.Err()` -/
  | context
deriving DecidableEq, Repr

/-- What the outside does while `connect` runs. -/
structure Attempt where
  /-- The text with which loading the TLS files fails. -/
  tlsError : Option String := none
  dialed : Bool := true
  streamOpened : Bool := true
  helloSent : Bool := true
  resumeSent : Bool := true
  authSent : Bool := true
  /-- The bytes of the gateway on the control stream. -/
  received : Bytes := []
  /-- The context is done when the attempt ends. -/
  cancelled : Bool := false

/-- What a call leaves: whether a session was established on the way, and the error. -/
structure Connected where
  agent : RunningAgent
  established : Bool := false
  cancelled : Bool := false
  err : Option ConnectError

/-- Streams are accepted until the context is done or `AcceptStream` fails. -/
def streamLoop (cancelled : Bool) : Option ConnectError :=
  if cancelled then some .context else some (.wrapped "failed to accept stream")

/-- An encoder with its `Write`. -/
def sendFrame (msg : String) (frame : Except FrameError Bytes) (sent : Bool) : Option ConnectError :=
  match frame with
  | .error err => some (.frame msg err)
  | .ok _ => if sent then none else some (.wrapped msg)

namespace RunningAgent

variable (a : RunningAgent) (t : Attempt)

def fails (err : ConnectError) : Connected := { agent := a, cancelled := t.cancelled, err := some err }

/-- `return a.streamLoop(ctx, conn)` -/
def serve : Connected := { agent := a, established := true, cancelled := t.cancelled, err := streamLoop t.cancelled }

def authenticateV1 (received : Bytes) : Connected :=
  match sendFrame "failed to send auth" (encodeAuth a.token) t.authSent with
  | some err => a.fails t err
  | none =>
    match decodeAuthResponse received with
    | .error err => a.fails t (.frame "failed to read auth response" err)
    | .ok (resp, _) =>
      if resp.status ≠ authStatusOK then a.fails t (.new "authentication rejected by gateway") else a.serve t

def authenticateV2 (received : Bytes) : Connected :=
  match sendFrame "failed to send auth v2" (encodeAuthV2 ⟨a.token, a.tunnels, a.preferredRegion⟩) t.authSent with
  | some err => a.fails t err
  | none =>
    match decodeAuthV2Response received with
    | .error err => a.fails t (.frame "failed to read auth v2 response" err)
    | .ok (resp, _) =>
      if resp.status ≠ authStatusOK then a.fails t (.new "authentication rejected by gateway")
      else
        let a := { a with
          resumeToken := if resp.resumeToken ≠ [] then resp.resumeToken else a.resumeToken
          suggestedGateways :=
            if resp.suggestedGateways ≠ [] then resp.suggestedGateways else a.suggestedGateways }
        a.serve t

def authenticate (received : Bytes) : Connected :=
  if a.isV2 then a.authenticateV2 t received else a.authenticateV1 t received

/-- The `(bool, error)` of `trySessionResume`, and the bytes that are left of the stream. -/
structure Resumed extends Connected where
  resumed : Bool := false
  rest : Bytes := []

def trySessionResume (token : Bytes) : Resumed :=
  match sendFrame "failed to send session resume" (encodeSessionResume token) t.resumeSent with
  | some err => { a.fails t err with }
  | none =>
    match decodeSessionResumeResp t.received with
    | .error err => { a.fails t (.frame "failed to read session resume response" err) with }
    | .ok (resp, rest) =>
      if resp.status ≠ resumeStatusResumed then { agent := a, cancelled := t.cancelled, err := none, rest }
      else
        let a := if resp.newToken ≠ [] then { a with resumeToken := resp.newToken } else a
        { a.serve t with resumed := true, rest }

/-- A token that was refused is forgotten. -/
def connect : Connected :=
  match t.tlsError with
  | some msg => a.fails t (.wrapped msg)
  | none =>
    if !t.dialed then a.fails t (.wrapped "failed to dial gateway")
    else if !t.streamOpened then a.fails t (.wrapped "failed to open auth stream")
    else if !t.helloSent then a.fails t (.wrapped "failed to send hello")
    else
      match a.resume with
      | none => a.authenticate t t.received
      | some token =>
        let r := a.trySessionResume t token
        match r.err with
        | some err => { r.toConnected with err := some (.resume err) }
        | none =>
          if r.resumed then { r.toConnected with err := none }
          else authenticate { r.agent with resumeToken := [] } t r.rest

/-- The loop over the targets: the next one is tried also when a session was lost. -/
def tryTargets (attempt : Nat → Bytes → Attempt) :
    RunningAgent → List Bytes → Nat → Bool → Option ConnectError → Connected
  | a, [], _, established, lastErr =>
    { agent := a, established, err := lastErr.or (some (.new "no gateway targets configured")) }
  | a, addr :: rest, i, established, _ =>
    let r := a.connect (attempt i addr)
    let established := established || r.established
    if r.err.isNone || (attempt i addr).cancelled then { r with established }
    else tryTargets attempt r.agent rest (i + 1) established r.err

/-- `attempt i addr` is what happens to the `i`-th target. Suggested gateways come first. -/
def connectTargets (attempt : Nat → Bytes → Attempt) : Connected :=
  a.tryTargets attempt (a.suggestedGateways ++ a.gatewayAddrs) 0 false none

end RunningAgent

/-! ## The loop -/

/-- What the outside does in one round of the loop; `draw` is the random number of the jitter. -/
structure Cycle where
  attempt : Nat → Bytes → Attempt
  draw : Nat := 0
  /-- The context is done during the wait. -/
  cancelled : Bool := false

structure ConnectLoop where
  agent : RunningAgent
  attempts : Nat := 0
  delay : Duration
  maxRetries : Int

inductive CycleEnd
  /-- `connectTargets` returned nil. -/
  | again
  | cancelled
  /-- `max reconnect attempts reached` -/
  | gaveUp
  /-- `rand.Int64N` panics. -/
  | panicked (delay : Duration)
  /-- It waits for `wait`, which is `delay + jitter` as the code computes it. -/
  | waits (delay jitter wait : Duration)
deriving DecidableEq, Repr

structure Cycled where
  established : Bool
  ending : CycleEnd
  /-- The variables in the next round, if there is one. -/
  next : Option ConnectLoop

/-- `30*time.Second` -/
def maxDelay : Duration := 30 * second

/-- `time.Duration(math.Min(float64(delay*2), float64(30*time.Second)))` -/
def nextDelay (delay : Duration) : Duration := min (float64 (int64 (delay * 2))) (float64 maxDelay)

/-- The budget after a round; 0 is none. -/
def decrement (maxRetries : Int) : Int := if maxRetries > 0 then maxRetries - 1 else maxRetries

namespace ConnectLoop

def cycle (s : ConnectLoop) (c : Cycle) : Cycled :=
  let r := s.agent.connectTargets c.attempt
  match r.err with
  | none =>
    ⟨r.established, .again, some { s with agent := r.agent, attempts := 0, delay := r.agent.reconnectDelay }⟩
  | some _ =>
    if r.cancelled then ⟨r.established, .cancelled, none⟩
    else if s.maxRetries > 0 ∧ decrement s.maxRetries = 0 then ⟨r.established, .gaveUp, none⟩
    else if s.delay.tdiv 2 ≤ 0 then ⟨r.established, .panicked s.delay, none⟩
    else
      let jitter : Duration := c.draw % s.delay.tdiv 2
      let next : ConnectLoop :=
        { agent := r.agent, attempts := s.attempts + 1, delay := nextDelay s.delay
          maxRetries := decrement s.maxRetries }
      ⟨r.established, .waits s.delay jitter (int64 (s.delay + jitter)), if c.cancelled then none else some next⟩

/-- The rounds that the loop makes: for each whether a session was established, and how it ended. -/
def rounds (s : ConnectLoop) : List Cycle → List (Bool × CycleEnd)
  | [] => []
  | c :: cs =>
    let r := s.cycle c
    (r.established, r.ending) ::
      match r.next with
      | none => []
      | some s => s.rounds cs

end ConnectLoop

def RunningAgent.start (a : RunningAgent) : ConnectLoop :=
  { agent := a, delay := a.reconnectDelay, maxRetries := a.maxReconnect }

/-! ## No call returns nil -/

namespace RunningAgent

variable {a : RunningAgent} {t : Attempt}

theorem fails_err (err : ConnectError) : (a.fails t err).err ≠ none := by
  intro h
  cases h

theorem serve_err : (a.serve t).err ≠ none := by
  unfold serve streamLoop
  split <;> simp

theorem authenticate_err (received : Bytes) : (a.authenticate t received).err ≠ none := by
  unfold authenticate authenticateV1 authenticateV2
  repeat' split
  all_goals first | exact fails_err _ | exact serve_err

/-- A session that was resumed ends with the error of its stream loop. -/
theorem not_resumed {token : Bytes} (h : (a.trySessionResume t token).err = none) :
    (a.trySessionResume t token).resumed = false := by
  unfold trySessionResume at h ⊢
  repeat' split
  all_goals first | rfl | (exfalso; simp_all [serve_err])

theorem connect_err : (a.connect t).err ≠ none := by
  unfold connect
  repeat' split
  · exact fails_err _
  · exact fails_err _
  · exact fails_err _
  · exact fails_err _
  · exact authenticate_err _
  · dsimp only
    split
    · simp
    · rename_i herr
      rw [not_resumed herr]
      exact authenticate_err _

/-- So the branch that resets the back-off is never taken. -/
theorem tryTargets_err (attempt : Nat → Bytes → Attempt) (a : RunningAgent) (targets : List Bytes) (i : Nat)
    (established : Bool) (lastErr : Option ConnectError) :
    (tryTargets attempt a targets i established lastErr).err ≠ none := by
  induction targets generalizing a i established lastErr with
  | nil => cases lastErr <;> simp [tryTargets]
  | cons addr rest ih =>
    unfold tryTargets
    dsimp only
    split
    · exact connect_err
    · exact ih _ _ _ _

end RunningAgent

/-! ## What a round does -/

variable {s : ConnectLoop} {c : Cycle}

/-- The ways in which a round ends, each with what it leads to. -/
inductive Rounded (s : ConnectLoop) : CycleEnd → Option ConnectLoop → Prop
  | cancelled : Rounded s .cancelled none
  | gaveUp (h : s.maxRetries = 1) : Rounded s .gaveUp none
  | panicked (h : s.maxRetries ≠ 1) (hd : s.delay.tdiv 2 ≤ 0) : Rounded s (.panicked s.delay) none
  | stopped (jitter : Duration) (h : s.maxRetries ≠ 1) (h0 : 0 ≤ jitter) (hj : jitter < s.delay.tdiv 2) :
      Rounded s (.waits s.delay jitter (int64 (s.delay + jitter))) none
  | waited (jitter : Duration) (agent : RunningAgent) (h : s.maxRetries ≠ 1) (h0 : 0 ≤ jitter)
      (hj : jitter < s.delay.tdiv 2) :
      Rounded s (.waits s.delay jitter (int64 (s.delay + jitter))) (some
        { agent, attempts := s.attempts + 1, delay := nextDelay s.delay, maxRetries := decrement s.maxRetries })

theorem budget_used_iff (n : Int) : (n > 0 ∧ decrement n = 0) ↔ n = 1 := by
  unfold decrement
  constructor
  · rintro ⟨hpos, h⟩
    rw [if_pos hpos] at h
    omega
  · rintro rfl
    decide

theorem cycle_rounded (s : ConnectLoop) (c : Cycle) : Rounded s (s.cycle c).ending (s.cycle c).next := by
  unfold ConnectLoop.cycle
  simp only [budget_used_iff]
  split
  · rename_i herr
    exact absurd herr (RunningAgent.tryTargets_err _ _ _ _ _ _)
  · split
    · exact .cancelled
    · split
      · exact .gaveUp ‹_›
      · split
        · exact .panicked ‹_› ‹_›
        · rename_i hn hd
          have hpos : 0 < s.delay.tdiv 2 := Int.not_le.1 hd
          have h0 : (0 : Int) ≤ c.draw % s.delay.tdiv 2 := Int.emod_nonneg _ (Int.ne_of_gt hpos)
          have hj := Int.emod_lt_of_pos (c.draw : Int) hpos
          dsimp only
          split
          · exact .stopped _ hn h0 hj
          · exact .waited _ _ hn h0 hj

theorem rounds_cons (s : ConnectLoop) (c : Cycle) (cs : List Cycle) :
    s.rounds (c :: cs) = ((s.cycle c).established, (s.cycle c).ending) ::
      match (s.cycle c).next with
      | none => []
      | some s' => s'.rounds cs := rfl

theorem rounds_inv {I : ConnectLoop → Prop} {P : CycleEnd → Prop}
    (hstep : ∀ s ending next, I s → Rounded s ending next → P ending ∧ ∀ s' ∈ next, I s') (hs : I s) (cs : List Cycle) :
    ∀ round ∈ s.rounds cs, P round.2 := by
  induction cs generalizing s with
  | nil =>
    intro round h
    cases h
  | cons c cs ih =>
    intro round h
    obtain ⟨hP, hnext⟩ := hstep s _ _ hs (cycle_rounded s c)
    rw [rounds_cons] at h
    rcases List.mem_cons.1 h with rfl | h
    · exact hP
    · cases hn : (s.cycle c).next with
      | none =>
        rw [hn] at h
        cases h
      | some s' =>
        rw [hn] at h
        exact ih (hnext s' hn) round h

end TunnelEdge
