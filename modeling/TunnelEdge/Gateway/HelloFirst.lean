import TunnelEdge.Gateway.Replies
/-!
# The Hello in front

The bytes of an agent's first stream drive its goroutine: what `controlStream`
decodes from them is what `handleAgentConnection` goes by. Which streams can end in
a tunnel that is added or resumed is decided by the first byte: a stream that
does not open with an authentication frame or a session resume gets there only
with a Hello of the gateway's own version. A stream that does is never asked for
a version at all.
-/

namespace TunnelEdge.Gateway

open GoLib Transport Store Registry

/-! ## First frames -/

/-- The stream starts with a `MsgHello` frame whose version is `ProtocolVersion`. -/
def helloFirst : Bytes → Bool
  | msgType :: s =>
    decide (msgType = msgHello) &&
      match decodeHello s with
      | .ok (hello, _) => hello.version = Transport.protocolVersion
      | .error _ => false
  | [] => false

/-- The stream starts with the type of an authentication or a resume frame. -/
def authFirst : Bytes → Bool
  | msgType :: _ => decide (msgType = msgAuth ∨ msgType = msgAuthV2 ∨ msgType = msgSessionResume)
  | [] => false

/-- Every connection is accepted with what is read from its own stream. -/
def carries (str : Bytes → String) (streams : ConnID → Bytes) : Label → Bool
  | .accept c _ frames => frames = framesOf str (streams c)
  | _ => true

/-- A Hello takes the place of the other three first frames. -/
theorem not_authFirst_of_helloFirst {s : Bytes} (h : helloFirst s = true) : authFirst s = false := by
  cases s with
  | nil => rfl
  | cons msgType s =>
    simp only [helloFirst, Bool.and_eq_true, decide_eq_true_eq] at h
    rw [h.1]
    rfl

/-! ## Streams that are turned away at once -/

/-- `handleAgentConnection` returns an error before it looks at anything but the stream. -/
def turnedAway (cfg : Config) (frames : List Frame) : Bool :=
  match (handleAgentConnection cfg frames).1 with
  | .failed _ => true
  | _ => false

theorem turnedAway_nil (cfg : Config) : turnedAway cfg [] = true := rfl

theorem turnedAway_unknown (cfg : Config) (rest : List Frame) : turnedAway cfg (.unknown :: rest) = true := rfl

theorem turnedAway_badHello (cfg : Config) (rest : List Frame) :
    turnedAway cfg (.malformed .hello :: rest) = true := rfl

theorem turnedAway_version (cfg : Config) (rest : List Frame) {version : Nat} (h : version ≠ protocolVersion) :
    turnedAway cfg (.hello version :: rest) = true := by
  simp only [turnedAway, handleAgentConnection, if_pos h, rejected]

theorem dispatchFrames_unknown {msgType : UInt8} {s : Bytes} (h : authFirst (msgType :: s) = false) :
    dispatchFrames msgType s = ([.unknown msgType], s) := by
  simp only [authFirst, decide_eq_false_iff_not, not_or] at h
  simp only [dispatchFrames, authFrame, if_neg h.1, if_neg h.2.1, if_neg h.2.2]

/-- With neither a Hello of the right version nor one of the other three in front, the stream is turned away. -/
theorem turnedAway_framesOf (cfg : Config) (str : Bytes → String) {s : Bytes} (hh : helloFirst s = false)
    (ha : authFirst s = false) : turnedAway cfg (framesOf str s) = true := by
  cases s with
  | nil => exact turnedAway_nil cfg
  | cons msgType s =>
    by_cases hm : msgType = msgHello
    · subst hm
      simp only [framesOf, controlStream, readMessageType_cons, if_true]
      cases hd : decodeHello s with
      | error e => exact turnedAway_badHello cfg []
      | ok p =>
        have hv : p.1.version ≠ Transport.protocolVersion := by
          intro hv
          simp [helloFirst, hd, hv] at hh
        simp only [if_pos hv]
        refine turnedAway_version cfg [] fun he => hv ?_
        exact UInt16.toNat_inj.1 he
    · have hf : framesOf str (msgType :: s) = [.unknown] := by
        simp only [framesOf, controlStream, readMessageType_cons, if_neg hm, dispatchFrames_unknown ha]
        rfl
      rw [hf]
      exact turnedAway_unknown cfg []

/-! ## Whole runs -/

section Runs

variable {σ : Type} {env : Env σ} {w w' : World σ} {str : Bytes → String} {streams : ConnID → Bytes}

/-- A connection whose stream is turned away has stopped, and those that got a tunnel are not among them. -/
structure Screened (env : Env σ) (str : Bytes → String) (streams : ConnID → Bytes) (w : World σ) : Prop where
  stopped : ∀ c ∈ w.conns, turnedAway (env.config (w.home c)) (framesOf str (streams c)) = true →
    ∃ f, w.pc c .main = .failed f
  attached : ∀ g t c, .attached g t c ∈ w.log →
    c ∈ w.conns ∧ turnedAway (env.config (w.home c)) (framesOf str (streams c)) = false

theorem Screened.attaching (h : Screened env str streams w) (hb : Base env w) {c : ConnID} {r : Role}
    (hp : (∃ a leaseID token, w.pc c r = .install a leaseID token) ∨ ∃ t token rest, w.pc c r = .attach t token rest) :
    c ∈ w.conns ∧ turnedAway (env.config (w.home c)) (framesOf str (streams c)) = false := by
  have hfits := hb.fits c r
  have hmain : r = .main := by
    rcases hp with ⟨a, leaseID, token, hp⟩ | ⟨t, token, rest, hp⟩ <;> rw [hp] at hfits <;> cases r <;> trivial
  subst hmain
  have hc : c ∈ w.conns := hb.mem_conns (r := .main) (by
    rcases hp with ⟨a, leaseID, token, hp⟩ | ⟨t, token, rest, hp⟩ <;> rw [hp] <;> simp)
  refine ⟨hc, Bool.eq_false_iff.2 fun ht => ?_⟩
  obtain ⟨f, hf⟩ := h.stopped c hc ht
  rcases hp with ⟨a, leaseID, token, hp⟩ | ⟨t, token, rest, hp⟩ <;> rw [hf] at hp <;> cases hp

theorem screened_ran (hb : Base env w) (h : Screened env str streams w) {c : ConnID} {r : Role} {fate : Fate}
    (hr : (w.pc c r).runnable = true) : Screened env str streams (w.ran env c r fate) := by
  obtain ⟨-, hconns, hhome, -⟩ := ran_keeps env w c r fate
  refine ⟨?_, ?_⟩
  · rw [hconns, hhome]
    intro c' hc ht
    obtain ⟨f, hf⟩ := h.stopped c' hc ht
    refine ⟨f, ?_⟩
    rcases ran_pc env w c r fate c' .main with hp | ⟨rfl, rfl, -⟩ | ⟨-, hbeat, -⟩
    · rw [hp, hf]
    · -- a goroutine that has failed does not run
      rw [hf] at hr
      cases hr
    · cases hbeat
  · rw [hconns, hhome]
    intro g t c' hm
    cases ran_log hb.leases c r fate with
    | same he => exact h.attached g t c' (by rwa [he] at hm)
    | granted t' e hp hlt he | registered a hp he | suspended t' hp he =>
      rw [he] at hm
      exact h.attached g t c' (by simpa using hm)
    | installed a leaseID token hp he =>
      rw [he, List.mem_cons] at hm
      rcases hm with hm | hm
      · cases hm
        exact h.attaching hb (.inl ⟨a, leaseID, token, hp⟩)
      · exact h.attached g t c' hm
    | attached t' token rest hp hl he =>
      rw [he, List.mem_cons] at hm
      rcases hm with hm | hm
      · cases hm
        exact h.attaching hb (.inr ⟨t, token, rest, hp⟩)
      · exact h.attached g t c' hm

theorem screened_accept (h : Screened env str streams w) {c : ConnID} {g : String}
    (hn : NewConn env w w' c g (framesOf str (streams c))) : Screened env str streams w' := by
  have hhome : ∀ c' ∈ w.conns, w'.home c' = w.home c' := by
    intro c' hc
    rw [hn.home, Function.update_of_ne fun he => hn.new (by rw [← he]; exact hc)]
  refine ⟨fun c' hc ht => ?_, fun g' t c' hm => ?_⟩
  · rw [hn.conns, List.mem_cons] at hc
    rw [hn.pc]
    rcases hc with rfl | hc
    · rw [hn.home, Function.update_self, turnedAway] at ht
      rw [if_pos ⟨rfl, rfl⟩]
      split at ht
      · exact ⟨_, ‹_›⟩
      · cases ht
    · rw [if_neg fun he => hn.new (by rw [← he.1]; exact hc)]
      rw [hhome c' hc] at ht
      exact h.stopped c' hc ht
  · rw [hn.quiet.log] at hm
    obtain ⟨hc, ht⟩ := h.attached g' t c' hm
    rw [hhome c' hc, hn.conns]
    exact ⟨List.mem_cons_of_mem _ hc, ht⟩

theorem screened_prompt (h : Screened env str streams w) (hq : Prompt env w w') : Screened env str streams w' := by
  refine ⟨?_, ?_⟩
  · rw [hq.conns, hq.home]
    intro c hc ht
    obtain ⟨f, hf⟩ := h.stopped c hc ht
    rcases hq.pc c .main with hp | hp
    · exact ⟨f, by rw [hp, hf]⟩
    · rw [hf] at hp
      cases hp
  · rw [hq.conns, hq.home, hq.quiet.log]
    exact h.attached

theorem screened_step (hb : Base env w) (h : Screened env str streams w) {l : Label}
    (hl : carries str streams l = true) (hs : w.step env l = some w') : Screened env str streams w' := by
  rcases step_kinds hb hs with ⟨c, r, fate, -, hr, rfl⟩ | ⟨c, g, frames, rfl, hn⟩ | ⟨-, hq⟩
  · exact screened_ran hb h hr
  · have hf : frames = framesOf str (streams c) := by simpa [carries] using hl
    subst hf
    exact screened_accept h hn
  · exact screened_prompt h hq

theorem screened_init (start : Time) (store : σ) : Screened env str streams (.init env start store) :=
  ⟨by simp [World.init], by simp [World.init]⟩

/-- Of the connections that add or resume a tunnel, in every run and with any authenticators, exactly those began
with a Hello of the gateway's version whose stream does not open with an authentication or a resume frame. -/
theorem hello_first_iff {start : Time} {store : σ} {ls : List Label}
    (h : Run (World.step env) (fun _ l => carries str streams l = true) (.init env start store) ls w)
    {g t : String} {c : ConnID} (ha : .attached g t c ∈ w.log) :
    helloFirst (streams c) = true ↔ authFirst (streams c) = false := by
  refine ⟨not_authFirst_of_helloFirst, fun hf => ?_⟩
  obtain ⟨-, hs⟩ := run_inv (Screened env str streams) (screened_init start store)
    (fun w l w' hb hi hok hst => screened_step hb hi hok hst) h
  obtain ⟨-, ht⟩ := hs.attached g t c ha
  by_contra hh
  rw [turnedAway_framesOf _ str (by simpa using hh) hf] at ht
  cases ht

end Runs

/-- The byte 107 as `k`, and nothing else. -/
def letterK (b : Bytes) : String := if b = [107] then "k" else ""

/-- A Hello of version 3 without a client version, then the token `k` in a V1 frame. -/
def greeted : ConnID → Bytes := fun _ => [msgHello, 0, 3, 0, 0, msgAuth, 0, 1, 107]

def ungreeted : ConnID → Bytes := fun _ => [msgAuth, 0, 1, 107]

def connectWith (s : Bytes) : List Label :=
  .accept 0 "g1" (framesOf letterK s) :: List.replicate 5 (.run 0 .main .ok)

theorem hello_first_greeted :
    ∃ w, Run (World.step (demo Memory.repo false)) (fun _ l => carries letterK greeted l = true)
        (.init (demo Memory.repo false) 0 ∅) (connectWith (greeted 0)) w ∧
      .attached "g1" "t-a" 0 ∈ w.log ∧ w.pc 0 .main = .serving "t-a" ∧ helloFirst (greeted 0) = true := by
  have h : ∃ w, Run (World.step (demo Memory.repo false)) (fun _ l => carries letterK greeted l = true)
      (.init (demo Memory.repo false) 0 ∅) (connectWith (greeted 0)) w ∧
      .attached "g1" "t-a" 0 ∈ w.log ∧ w.pc 0 .main = .serving "t-a" :=
    run_checked_any (by decide +kernel)
  obtain ⟨w, hr, hlog, hpc⟩ := h
  exact ⟨w, hr, hlog, hpc, (hello_first_iff hr hlog).2 (by decide)⟩

/-- An agent that sends no Hello gets its tunnel. -/
theorem tunnel_without_hello :
    ∃ w, Run (World.step (demo Memory.repo false)) (fun _ l => carries letterK ungreeted l = true)
        (.init (demo Memory.repo false) 0 ∅) (connectWith (ungreeted 0)) w ∧
      (.attached "g1" "t-a" 0 ∈ w.log ∧ w.pc 0 .main = .serving "t-a" ∧ helloFirst (ungreeted 0) = false) :=
  run_checked_any (by decide +kernel)

end TunnelEdge.Gateway
