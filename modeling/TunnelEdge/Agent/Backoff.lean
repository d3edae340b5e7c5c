import Mathlib.Algebra.Order.Ring.Int
import Mathlib.Tactic.Positivity
import TunnelEdge.Agent.Reconnect
/-!
# The back-off between connections

Two results about `runConnectLoop`. Its arithmetic is safe for every delay but 1 ns,
whose half is 0, and those that cannot be doubled in 64 bits. And since no round resets
it, the back-off counts all rounds since the agent started, not those since it last had
a session.
-/

namespace TunnelEdge

open GoLib

/-! ## Arithmetic -/

/-- The arithmetic before a wait is in order: the argument of `rand.Int64N` is positive,
neither the sum nor the doubled delay overflows, and the wait is within its bounds. -/
def SafeWait (reconnectDelay delay jitter wait : Int) : Prop :=
  0 < delay.tdiv 2 ∧ InInt64 (delay + jitter) ∧ InInt64 (delay * 2) ∧ delay ≤ wait ∧
    2 * wait ≤ 3 * max 30000000000 reconnectDelay

def CycleEnd.Safe (reconnectDelay : Duration) : CycleEnd → Prop
  | .panicked _ => False
  | .waits delay jitter wait => SafeWait reconnectDelay delay jitter wait
  | _ => True

theorem nextDelay_eq {delay : Int} (h0 : 0 ≤ delay) (h : InInt64 (delay * 2)) :
    nextDelay delay = min (delay * 2) 30000000000 := by
  have hcap : float64 maxDelay = 30000000000 := by decide
  unfold nextDelay
  rw [int64_of_inInt64 h, hcap, min_float64 (by omega) (by decide)]

/-- A delay from which the arithmetic of all later rounds stays in order. -/
structure Bounded (reconnectDelay delay : Int) : Prop where
  two_le : 2 ≤ delay
  lt : delay < 4611686018427387904
  le : delay ≤ max 30000000000 reconnectDelay

variable {d delay : Int}

theorem Bounded.inInt64_double (h : Bounded d delay) : InInt64 (delay * 2) := by
  have h2 := h.two_le
  have hlt := h.lt
  unfold InInt64
  omega

theorem Bounded.half (h : Bounded d delay) : 0 < delay.tdiv 2 := by
  have h2 := h.two_le
  rw [Int.tdiv_eq_ediv_of_nonneg (by omega)]
  omega

theorem Bounded.next (h : Bounded d delay) : Bounded d (nextDelay delay) := by
  have h2 := h.two_le
  rw [nextDelay_eq (by omega) h.inInt64_double]
  exact ⟨by omega, by omega, by omega⟩

theorem Bounded.safe (h : Bounded d delay) {jitter : Int} (h0 : 0 ≤ jitter) (hj : jitter < delay.tdiv 2) :
    SafeWait d delay jitter (int64 (delay + jitter)) := by
  have hhalf := h.half
  obtain ⟨h2, hlt, hle⟩ := h
  rw [Int.tdiv_eq_ediv_of_nonneg (by omega)] at hj
  have hsum : InInt64 (delay + jitter) := by
    unfold InInt64
    omega
  rw [int64_of_inInt64 hsum]
  exact ⟨hhalf, hsum, ⟨by omega, by omega⟩, by omega, by omega⟩

theorem SafeWait.range {jitter wait : Int} (h : SafeWait d delay jitter wait) (hpos : 0 < delay) :
    2 ≤ delay ∧ delay < 4611686018427387904 := by
  obtain ⟨hhalf, -, hdouble, -, -⟩ := h
  rw [Int.tdiv_eq_ediv_of_nonneg (by omega)] at hhalf
  unfold InInt64 at hdouble
  exact ⟨by omega, by omega⟩

theorem rounds_of_bounded {s : ConnectLoop} (h : Bounded d s.delay) (cs : List Cycle) :
    ∀ round ∈ s.rounds cs, round.2.Safe d := by
  refine rounds_inv (I := fun s => Bounded d s.delay) (fun s ending next hs hr => ?_) h cs
  cases hr with
  | cancelled => exact ⟨trivial, fun _ h => by cases h⟩
  | gaveUp => exact ⟨trivial, fun _ h => by cases h⟩
  | panicked _ hd => exact absurd hs.half (Int.not_lt.2 hd)
  | stopped jitter _ h0 hj => exact ⟨hs.safe h0 hj, fun _ h => by cases h⟩
  | waited jitter agent _ h0 hj =>
    refine ⟨hs.safe h0 hj, fun s' h => ?_⟩
    cases h
    exact hs.next

theorem rounds_of_one {s : ConnectLoop} (h : s.maxRetries = 1) (cs : List Cycle) :
    ∀ round ∈ s.rounds cs, round.2.Safe d := by
  refine rounds_inv (I := fun s => s.maxRetries = 1) (fun s ending next hs hr => ?_) h cs
  cases hr with
  | cancelled => exact ⟨trivial, fun _ h => by cases h⟩
  | gaveUp => exact ⟨trivial, fun _ h => by cases h⟩
  | panicked hn | stopped _ hn | waited _ _ hn => exact absurd hs hn

def unreachable : Cycle := { attempt := fun _ _ => { dialed := false } }

theorem tryTargets_unreachable (a : RunningAgent) (targets : List Bytes) (i : Nat) (lastErr : Option ConnectError) :
    (a.tryTargets unreachable.attempt targets i false lastErr).cancelled = false := by
  induction targets generalizing a i lastErr with
  | nil => rfl
  | cons addr rest ih => exact ih _ _ _

/-- The first round that fails gets to the arithmetic, unless the budget is one attempt. -/
theorem rounds_unreachable {s : ConnectLoop} (h : s.maxRetries ≠ 1) :
    ∃ ending, (∃ round ∈ s.rounds [unreachable], round.2 = ending) ∧
      (ending = .panicked s.delay ∧ s.delay.tdiv 2 ≤ 0 ∨
        ∃ jitter wait, ending = .waits s.delay jitter wait) := by
  refine ⟨(s.cycle unreachable).ending, ⟨_, List.mem_cons_self, rfl⟩, ?_⟩
  have hc : (s.agent.connectTargets unreachable.attempt).cancelled = false := tryTargets_unreachable _ _ _ _
  cases herr : (s.agent.connectTargets unreachable.attempt).err with
  | none => exact absurd herr (RunningAgent.tryTargets_err _ _ _ _ _ _)
  | some err =>
    simp only [ConnectLoop.cycle, herr, hc, budget_used_iff, h, if_false, Bool.false_eq_true]
    split
    · exact .inl ⟨rfl, ‹_›⟩
    · exact .inr ⟨_, _, rfl⟩

/-- The arithmetic of the back-off is safe in every run exactly when the loop never
waits, or the delay has a half and can be doubled. -/
theorem backoff_safe_iff (cfg : Pkg.Config) (tunnels : List Transport.TunnelEntry) (region : Bytes) (resume : Bool)
    (hv : cfg.validate .agent = .ok ()) :
    (∀ cs : List Cycle, ∀ round ∈ (newAgent cfg.agent tunnels region resume).start.rounds cs,
      round.2.Safe cfg.agent.reconnectDelay) ↔
    cfg.agent.maxReconnect = 1 ∨ (2 ≤ cfg.agent.reconnectDelay ∧ cfg.agent.reconnectDelay < 4611686018427387904) := by
  have hpos : (0 : Int) < cfg.agent.reconnectDelay :=
    Pkg.AgentConfig.reconnectDelay_pos (Pkg.Config.agent_of_validate hv)
  constructor
  · intro h
    by_cases hN : cfg.agent.maxReconnect = 1
    · exact .inl hN
    · obtain ⟨ending, ⟨round, hmem, rfl⟩, hround⟩ :=
        rounds_unreachable (s := (newAgent cfg.agent tunnels region resume).start) hN
      have hsafe := h _ round hmem
      rcases hround with ⟨he, -⟩ | ⟨jitter, wait, he⟩
      · rw [he] at hsafe
        exact hsafe.elim
      · rw [he] at hsafe
        exact .inr (hsafe.range hpos)
  · rintro (hN | ⟨h2, hlt⟩) cs
    · exact rounds_of_one hN cs
    · exact rounds_of_bounded ⟨h2, hlt, le_max_right _ _⟩ cs

/-- An agent with the shortest delay that has a half. -/
def hasty : Pkg.Config where
  agent := { gatewayAddr := "g1:4433", token := "secret", reconnectDelay := 2, heartbeatInterval := second
             streamIdleTimeout := second }

theorem backoff_safe_hasty :
    hasty.validate .agent = .ok () ∧
      ∀ cs : List Cycle, ∀ round ∈ (newAgent hasty.agent [] [] false).start.rounds cs, round.2.Safe 2 :=
  ⟨by decide +kernel, (backoff_safe_iff hasty [] [] false (by decide +kernel)).2 (.inr (by decide))⟩

/-- A delay of 1 ns is accepted, and the first failure ends in the panic of `rand.Int64N(0)`. -/
theorem backoff_panics :
    { hasty with agent := { hasty.agent with reconnectDelay := 1 } }.validate .agent = .ok () ∧
      (newAgent { hasty.agent with reconnectDelay := 1 } [] [] false).start.rounds [unreachable] =
        [(false, .panicked 1)] := by
  decide +kernel

/-! ## Counting failures -/

/-- The number of rounds since the last one with a session, which is the first of them. -/
def sinceSession (established : List Bool) : Nat := established.foldl (fun k e => if e then 1 else k + 1) 0

/-- What a back-off that counts consecutive failures does after a round: it waits from a
delay that was doubled once for each of them but the first, and it gives up only when
they have used the budget. -/
def Consecutive (reconnectDelay : Duration) (maxReconnect : Int) (established : List Bool) : CycleEnd → Prop
  | .waits delay _ _ => delay = min (reconnectDelay * 2 ^ (sinceSession established - 1)) maxDelay
  | .gaveUp => maxReconnect ≤ sinceSession established
  | _ => True

instance (d : Duration) (N : Int) (established : List Bool) (ending : CycleEnd) :
    Decidable (Consecutive d N established ending) :=
  match ending with
  | .waits delay _ _ => inferInstanceAs (Decidable (delay = min (d * 2 ^ (sinceSession established - 1)) maxDelay))
  | .gaveUp => inferInstanceAs (Decidable (N ≤ sinceSession established))
  | .again | .cancelled | .panicked _ => .isTrue trivial

def Unreset (established : List Bool) : Prop := ∀ e ∈ established.tail, e = false

instance (established : List Bool) : Decidable (Unreset established) :=
  inferInstanceAs (Decidable (∀ e ∈ established.tail, e = false))

theorem sinceSession_snoc (es : List Bool) (e : Bool) :
    sinceSession (es ++ [e]) = if e then 1 else sinceSession es + 1 := by
  simp [sinceSession]

theorem sinceSession_le (es : List Bool) : sinceSession es ≤ es.length := by
  induction es using List.reverseRecOn with
  | nil => exact Nat.le_refl _
  | append_singleton es e ih =>
    rw [sinceSession_snoc, List.length_append, List.length_singleton]
    split <;> omega

theorem sinceSession_eq_iff (es : List Bool) (e : Bool) :
    sinceSession (es ++ [e]) = es.length + 1 ↔ Unreset (es ++ [e]) := by
  induction es using List.reverseRecOn generalizing e with
  | nil => cases e <;> simp [sinceSession, Unreset]
  | append_singleton es x ih =>
    have htail : (es ++ [x] ++ [e]).tail = (es ++ [x]).tail ++ [e] := List.tail_append_of_ne_nil (by simp)
    have hunreset : Unreset (es ++ [x] ++ [e]) ↔ Unreset (es ++ [x]) ∧ e = false := by
      simp only [Unreset, htail, List.mem_append, List.mem_singleton, or_imp, forall_and, forall_eq]
    rw [hunreset, ← ih x, sinceSession_snoc, List.length_append, List.length_singleton]
    cases e with
    | true => simp
    | false => simp

theorem one_le_sinceSession (es : List Bool) (e : Bool) : 1 ≤ sinceSession (es ++ [e]) := by
  rw [sinceSession_snoc]
  split <;> omega

theorem capped_eq_iff {d m : Int} (hd : 0 < d) {k n : Nat} (h1 : 1 ≤ k) (hkn : k ≤ n) :
    min (d * 2 ^ (n - 1)) m = min (d * 2 ^ (k - 1)) m ↔ k = n ∨ m ≤ d * 2 ^ (k - 1) := by
  constructor
  · intro h
    by_contra hne
    rw [not_or, not_le] at hne
    obtain ⟨hk, hlt⟩ := hne
    have hpow : (2 : Int) ^ (k - 1) < 2 ^ (n - 1) := pow_lt_pow_right₀ (by decide) (by omega)
    have hmul : d * 2 ^ (k - 1) < d * 2 ^ (n - 1) := Int.mul_lt_mul_of_pos_left hpow hd
    omega
  · rintro (rfl | hcap)
    · rfl
    · have hpow : (2 : Int) ^ (k - 1) ≤ 2 ^ (n - 1) := pow_le_pow_right₀ (by decide) (by omega)
      have hmul : d * 2 ^ (k - 1) ≤ d * 2 ^ (n - 1) := Int.mul_le_mul_of_nonneg_left hpow (Int.le_of_lt hd)
      omega

theorem min_double {x : Int} (h : 0 < x) : min (min x 30000000000 * 2) 30000000000 = min (x * 2) 30000000000 := by
  omega

/-- The variables of the loop in round `i`, counted from 0: nothing has reset them. -/
structure InRound (d N : Int) (i : Nat) (s : ConnectLoop) : Prop where
  delay : s.delay = min (d * 2 ^ i) 30000000000
  retries : s.maxRetries = if 0 < N then N - i else N
  left : 0 < N → i < N

theorem InRound.next {N : Int} {i : Nat} {s : ConnectLoop} (hd : 0 < d) (h : InRound d N i s) (hn : s.maxRetries ≠ 1)
    (agent : RunningAgent) (attempts : Nat) :
    InRound d N (i + 1)
      { agent, attempts, delay := nextDelay s.delay, maxRetries := decrement s.maxRetries } := by
  obtain ⟨hdelay, hretries, hleft⟩ := h
  have hpow : 0 < d * 2 ^ i := Int.mul_pos hd (by positivity)
  refine ⟨?_, ?_, ?_⟩
  · show nextDelay s.delay = _
    have h64 : InInt64 (s.delay * 2) := by
      rw [hdelay]
      unfold InInt64
      omega
    have h0 : (0 : Int) ≤ s.delay := by
      rw [hdelay]
      omega
    rw [nextDelay_eq h0 h64, hdelay, pow_succ, ← mul_assoc]
    exact min_double hpow
  · show decrement s.maxRetries = _
    unfold decrement
    rw [hretries]
    by_cases hN : 0 < N
    · have := hleft hN
      rw [if_pos hN, if_pos hN, if_pos (by omega)]
      omega
    · rw [if_neg hN, if_neg hN, if_neg hN]
  · intro hN
    have := hleft hN
    rw [if_pos hN] at hretries
    omega

theorem rounds_at {N : Int} (hd : 0 < d) {pre post : List (Bool × CycleEnd)} {e : Bool} {ending : CycleEnd}
    {cs : List Cycle} {s : ConnectLoop} {i : Nat} (hs : InRound d N i s)
    (h : s.rounds cs = pre ++ (e, ending) :: post) :
    (∀ delay jitter wait, ending = .waits delay jitter wait → delay = min (d * 2 ^ (i + pre.length)) 30000000000) ∧
      (ending = .gaveUp → N = i + pre.length + 1) := by
  -- along the rounds before this one, each of which has gone on to the next
  induction pre generalizing s i cs with
  | nil =>
    cases cs with
    | nil => cases h
    | cons c cs =>
      rw [rounds_cons, List.nil_append, List.cons.injEq] at h
      cases h.1
      have hr := cycle_rounded s c
      generalize (s.cycle c).ending = ending at hr
      generalize (s.cycle c).next = next at hr
      refine ⟨fun delay jitter wait he => ?_, fun he => ?_⟩
      · subst he
        cases hr <;> exact hs.delay
      · subst he
        cases hr with
        | gaveUp h1 =>
          have hretries := hs.retries
          have hleft := hs.left
          split at hretries
          · simp only [List.length_nil]
            omega
          · omega
  | cons x pre ih =>
    cases cs with
    | nil => cases h
    | cons c cs =>
      rw [rounds_cons, List.cons_append, List.cons.injEq] at h
      have hr := cycle_rounded s c
      cases hnext : (s.cycle c).next with
      | none =>
        rw [hnext] at h
        exact absurd h.2.symm (by simp)
      | some s' =>
        rw [hnext] at h hr
        generalize (s.cycle c).ending = ending' at hr
        cases hr with
        | waited jitter agent hn =>
          have hrest := ih (hs.next hd hn _ _) h.2
          rw [List.length_cons]
          push_cast at hrest ⊢
          rw [show i + (pre.length + 1) = i + 1 + pre.length by omega]
          refine ⟨hrest.1, fun he => ?_⟩
          have := hrest.2 he
          omega

theorem inRound_start (a : RunningAgent) (hd : a.reconnectDelay ≤ maxDelay) :
    InRound a.reconnectDelay a.maxReconnect 0 a.start := by
  refine ⟨?_, ?_, fun h => ?_⟩
  · rw [pow_zero, mul_one]
    exact (min_eq_left hd).symm
  · simp [RunningAgent.start]
  · exact_mod_cast h

/-- After a round the loop does what a back-off that counts consecutive failures would do
exactly when no session was established after the first round, or when it waits and
already the consecutive failures take the delay to its cap. -/
theorem backoff_consecutive_iff (a : RunningAgent) (hpos : 0 < a.reconnectDelay) (hle : a.reconnectDelay ≤ maxDelay)
    {cs : List Cycle} {pre post : List (Bool × CycleEnd)} {e : Bool} {ending : CycleEnd}
    (h : a.start.rounds cs = pre ++ (e, ending) :: post) :
    Consecutive a.reconnectDelay a.maxReconnect (pre.map Prod.fst ++ [e]) ending ↔
      ((∃ delay jitter wait, ending = .waits delay jitter wait) →
        Unreset (pre.map Prod.fst ++ [e]) ∨
          maxDelay ≤ a.reconnectDelay * 2 ^ (sinceSession (pre.map Prod.fst ++ [e]) - 1)) ∧
      (ending = .gaveUp → Unreset (pre.map Prod.fst ++ [e])) := by
  obtain ⟨hwaits, hgaveUp⟩ := rounds_at hpos (inRound_start a hle) h
  have hlen : (pre.map Prod.fst).length = pre.length := List.length_map _
  have hk := sinceSession_le (pre.map Prod.fst ++ [e])
  have hk1 := one_le_sinceSession (pre.map Prod.fst) e
  have hiff := sinceSession_eq_iff (pre.map Prod.fst) e
  rw [List.length_append, List.length_singleton, hlen] at hk
  rw [hlen] at hiff
  rw [← hiff]
  cases ending with
  | waits delay jitter wait =>
    have hdelay := hwaits delay jitter wait rfl
    rw [Nat.zero_add] at hdelay
    have hcap := capped_eq_iff (m := 30000000000) hpos hk1 hk
    rw [Nat.add_sub_cancel] at hcap
    simp only [Consecutive, hdelay, reduceCtorEq, false_imp_iff, and_true]
    constructor
    · exact fun he _ => hcap.1 he
    · exact fun hc => hcap.2 (hc ⟨_, _, _, rfl⟩)
  | gaveUp =>
    have hN := hgaveUp rfl
    simp only [Consecutive, reduceCtorEq, exists_false, false_imp_iff, true_and, true_imp_iff]
    push_cast at hN
    constructor
    · intro hle
      omega
    · intro he
      omega
  | again | cancelled | panicked => simp [Consecutive]

def patient : RunningAgent := newAgent { hasty.agent with reconnectDelay := second } [] [] false

theorem backoff_consecutive_unreachable :
    patient.start.rounds [unreachable, unreachable] =
        [(false, .waits second 0 second), (false, .waits (2 * second) 0 (2 * second))] ∧
      Consecutive second 0 [false, false] (.waits (2 * second) 0 (2 * second)) :=
  ⟨by decide +kernel,
    (backoff_consecutive_iff patient (by decide) (by decide)
      (show patient.start.rounds [unreachable, unreachable] =
        [(false, .waits second 0 second)] ++ [(false, .waits (2 * second) 0 (2 * second))] by decide +kernel)).2
      ⟨fun _ => .inl (by decide), fun h => by cases h⟩⟩

/-- The gateway accepts the token, and the session is lost. -/
def lost : Cycle := { attempt := fun _ _ => { received := [0x02, 0x00, 0, 0, 0, 0] } }

/-- After a failure and a session that is lost, one round has ended since that session, but
the delay is the one of a second failure, and a budget of two attempts is used up. -/
theorem backoff_counts_all_rounds :
    patient.start.rounds [unreachable, lost] =
        [(false, .waits second 0 second), (true, .waits (2 * second) 0 (2 * second))] ∧
      ¬Consecutive second 0 [false, true] (.waits (2 * second) 0 (2 * second)) ∧
      { patient with maxReconnect := 2 }.start.rounds [unreachable, lost] =
        [(false, .waits second 0 second), (true, .gaveUp)] ∧
      ¬Consecutive second 2 [false, true] .gaveUp := by
  decide +kernel

end TunnelEdge
