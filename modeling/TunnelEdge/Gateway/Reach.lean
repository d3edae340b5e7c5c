import TunnelEdge.Gateway.Steps
/-!
# Inversion of a step, and what every reachable state has

`step_cases` splits a step into the steps of goroutines and the rest, which only
moves program counters and the registry's clean-up. `Base` is what every
invariant of the gateways builds on: a connection that has not been accepted has
no goroutine, and the registry's lease table is in order.
-/

namespace TunnelEdge.Gateway

open GoLib Store Registry

variable {σ : Type} {env : Env σ} {w w' : World σ} {c : ConnID} {r : Role} {fate : Fate} {p : Pc}

/-- The program counters of each goroutine. -/
def Pc.fits : Role → Pc → Bool
  | _, .idle | _, .done | _, .failed _ => true
  | _, .take .. | _, .dropRoutes .. | _, .release .. | _, .deregister .. => true
  | .main, .waiting _ | .main, .beat _ | .main, .peek _ | .main, .renew .. | .main, .ticked .. => false
  | .main, .cancelPending _ => false
  | .main, _ => true
  | .beat, .waiting _ | .beat, .beat _ | .beat, .peek _ | .beat, .renew .. | .beat, .ticked .. => true
  | .timer, .cancelPending _ => true
  | _, _ => false

inductive Pc.Outside : Role → Pc → Pc → Prop
  | accept (q : Pc) (h : q.opening = true) : Outside .main .idle q
  | suspend (t : String) : Outside .main (.serving t) (.suspend t)
  | remove (t : String) (reason : Reason) : Outside .main (.serving t) (.take t reason)
  | pulse (t : String) : Outside .main (.serving t) (.pulse t)
  | tick (t : String) : Outside .beat (.waiting t) (.beat t)
  | quit (t : String) : Outside .beat (.waiting t) .done

structure Quiet (env : Env σ) (w w' : World σ) : Prop where
  gateway : w'.gateway = w.gateway
  log : w'.log = w.log
  drawn : w'.drawn = w.drawn
  coord : w'.server.coord = w.server.coord ∨ w'.server.coord = (w.server.releaseExpiredLeases w.now).coord
  store : w'.server.store = w.server.store ∨
    w'.server.store = (w.server.cleanupExpired env.repo w.now env.sessionTTL).store
  conns : ∀ c ∈ w.conns, c ∈ w'.conns ∧ w'.home c = w.home c
  pc : ∀ c r, w'.pc c r = w.pc c r ∨ Pc.Outside r (w.pc c r) (w'.pc c r) ∨
    (r = .timer ∧ ∃ t due, w.timer c = .armed t due ∧ w'.pc c r = .cancelPending t)
  idle : ∀ c r, w.pc c r = .idle → w'.pc c r = .idle ∨ c ∈ w'.conns
  timer : ∀ c, w'.timer c = w.timer c ∨ (w.timer c ≠ .none ∧ w'.timer c = .fired)

theorem quiet_server {now : Time} {server : Server σ}
    (hc : server.coord = w.server.coord ∨ server.coord = (w.server.releaseExpiredLeases w.now).coord)
    (hs : server.store = w.server.store ∨
      server.store = (w.server.cleanupExpired env.repo w.now env.sessionTTL).store) :
    Quiet env w { w with now, server } :=
  ⟨rfl, rfl, rfl, hc, hs, fun _ h => ⟨h, rfl⟩, fun _ _ => .inl rfl, fun _ _ h => .inl h, fun _ => .inl rfl⟩

structure Base (env : Env σ) (w : World σ) : Prop where
  idle : ∀ c, c ∉ w.conns → (∀ r, w.pc c r = .idle) ∧ w.timer c = .none
  fits : ∀ c r, (w.pc c r).fits r = true
  leases : w.Leases env

theorem base_init (env : Env σ) (start : Time) (store : σ) : Base env (.init env start store) :=
  ⟨fun _ _ => ⟨fun _ => rfl, rfl⟩, fun _ r => by cases r <;> rfl, Server.leases_new⟩

theorem Base.mem_conns (hb : Base env w) (h : w.pc c r ≠ .idle) : c ∈ w.conns := by
  by_contra hc
  exact h ((hb.idle c hc).1 r)

theorem Base.mem_of {P : Pc → Bool} (hb : Base env w) (hidle : P .idle = false) (h : P (w.pc c r) = true) :
    c ∈ w.conns := by
  refine hb.mem_conns (r := r) fun h0 => ?_
  rw [h0, hidle] at h
  cases h

theorem Quiet.pc_eq {P : Pc → Prop} (hq : Quiet env w w') (hout : ∀ p q, Pc.Outside r p q → ¬ P q)
    (hfire : ∀ t, ¬ P (.cancelPending t)) (h : P (w'.pc c r)) : w'.pc c r = w.pc c r := by
  rcases hq.pc c r with h1 | h1 | ⟨-, t, due, -, h1⟩
  · exact h1
  · exact absurd h (hout _ _ h1)
  · rw [h1] at h
    exact absurd h (hfire t)

theorem handleAgentConnection_opening (cfg : Config) (frames : List Frame) :
    (handleAgentConnection cfg frames).1.opening = true := by
  have hd : ∀ fs, (dispatch cfg fs).1.opening = true := by
    intro fs
    unfold dispatch
    split
    · split <;> rfl
    · rfl
    · exact fullAuth_opening cfg true fs
  unfold handleAgentConnection
  split
  · split
    · rfl
    · exact hd _
  · rfl
  · exact hd _

theorem quiet_setPc {q : Pc} (hb : Base env w) (hp : w.pc c r = p) (hi : p ≠ .idle) (h : Pc.Outside r p q) :
    Quiet env w (w.setPc c r q) := by
  have hc : c ∈ w.conns := hb.mem_conns (hp ▸ hi)
  refine ⟨rfl, rfl, rfl, .inl rfl, .inl rfl, fun c h => ⟨h, rfl⟩, fun c' r' => ?_, fun c' r' h0 => ?_,
    fun _ => .inl rfl⟩
  · rw [World.setPc_pc]
    split
    · rename_i he
      rw [he.1, he.2, hp]
      exact .inr (.inl h)
    · exact .inl rfl
  · rw [World.setPc_pc]
    split
    · rename_i he
      exact .inr (he.1 ▸ hc)
    · exact .inl h0

theorem stream_quiet {f : String → Pc} (h : w.stream c f = some w') :
    ∃ t, w.pc c .main = .serving t ∧ w' = w.setPc c .main (f t) := by
  unfold World.stream at h
  split at h
  · rename_i t ht
    split at h
    · cases h
    · exact ⟨t, ht, (Option.some.inj h).symm⟩
  · cases h

theorem ticker_quiet {f : String → Pc} (h : w.ticker c f = some w') :
    ∃ t, w.pc c .beat = .waiting t ∧ w' = w.setPc c .beat (f t) := by
  unfold World.ticker at h
  split at h
  · rename_i t ht
    split at h
    · cases h
    · exact ⟨t, ht, (Option.some.inj h).symm⟩
  · cases h

def World.ran (env : Env σ) (w : World σ) (c : ConnID) (r : Role) (fate : Fate) : World σ :=
  let o := stepPc env w c r fate (w.pc c r)
  o.1.setPc c r o.2

theorem run_step (h : w.step env (.run c r fate) = some w') :
    (w.pc c r).runnable = true ∧ w' = w.ran env c r fate := by
  simp only [World.step] at h
  split at h
  · rename_i hr
    exact ⟨hr.1, (Option.some.inj h).symm⟩
  · cases h

theorem ran_pc_self (env : Env σ) (hp : w.pc c r = p) :
    (w.ran env c r fate).pc c r = (stepPc env w c r fate p).2 := by
  rw [World.ran, World.setPc_self, hp]

theorem step_ran (env : Env σ) (hp : w.pc c r = p) (hr : p.runnable = true)
    (ha : (w.gateway (w.home c)).crashed = false) : w.step env (.run c r fate) = some (w.ran env c r fate) := by
  simp [World.step, hp, hr, ha, World.ran]

theorem accept_quiet (hb : Base env w) {g : String} {frames : List Frame}
    (h : w.step env (.accept c g frames) = some w') : Quiet env w w' := by
  simp only [World.step] at h
  split at h
  · rename_i hc
    cases h
    refine ⟨by simp [World.setPc], by simp [World.setPc], by simp [World.setPc], .inl (by simp [World.setPc]),
      .inl (by simp [World.setPc]), fun c' hc' => ?_, fun c' r' => ?_, fun c' r' h0 => ?_, fun c' => ?_⟩
    · have hne : c' ≠ c := fun he => hc.1 (he ▸ hc')
      simp [World.setPc, hne, hc']
    · rw [World.setPc_pc]
      split
      · rename_i he
        rw [he.1, he.2, (hb.idle c hc.1).1 .main]
        exact .inr (.inl (.accept _ (handleAgentConnection_opening _ _)))
      · exact .inl (by simp)
    · by_cases he : c' = c
      · exact .inr (by simp [World.setPc, he])
      · exact .inl (by simp [World.setPc_pc, he, h0])
    · exact .inl (by simp [World.setPc])
  · cases h

theorem fire_quiet (hb : Base env w) (h : w.step env (.fire c) = some w') : Quiet env w w' := by
  simp only [World.step] at h
  split at h
  · rename_i t due ht
    split at h
    · cases h
      have hc : c ∈ w.conns := by
        by_contra hc
        rw [(hb.idle c hc).2] at ht
        cases ht
      refine ⟨rfl, rfl, rfl, .inl rfl, .inl rfl, fun c h => ⟨h, rfl⟩, fun c' r' => ?_, fun c' r' h0 => ?_,
        fun c' => ?_⟩
      · rw [World.setPc_pc]
        split
        · rename_i he
          exact .inr (.inr ⟨he.2, t, due, he.1 ▸ ht, rfl⟩)
        · exact .inl rfl
      · by_cases he : c' = c
        · exact .inr (he ▸ hc)
        · exact .inl (by simp [World.setPc_pc, he, h0])
      · by_cases he : c' = c
        · exact .inr (by simp [World.setPc, he, ht])
        · exact .inl (by simp [World.setPc, he])
    · cases h
  · cases h

theorem step_cases (hb : Base env w) {l : Label} (h : w.step env l = some w') :
    (∃ c r fate, l = .run c r fate ∧ (w.pc c r).runnable = true ∧ w' = w.ran env c r fate) ∨
      Quiet env w w' := by
  cases l with
  | run c r fate => exact .inl ⟨c, r, fate, rfl, run_step h⟩
  | clock d => cases h; exact .inr (quiet_server (.inl rfl) (.inl rfl))
  | sweepLeases => cases h; exact .inr (quiet_server (.inr rfl) (.inl rfl))
  | sweepSessions => cases h; exact .inr (quiet_server (.inl rfl) (.inr rfl))
  | lost c =>
    obtain ⟨t, ht, rfl⟩ := stream_quiet h
    refine .inr (quiet_setPc hb ht (by simp) ?_)
    simp only
    split
    · exact .suspend t
    · exact .remove t _
  | cancelled c =>
    obtain ⟨t, ht, rfl⟩ := stream_quiet h
    exact .inr (quiet_setPc hb ht (by simp) (.remove t _))
  | pulse c =>
    obtain ⟨t, ht, rfl⟩ := stream_quiet h
    exact .inr (quiet_setPc hb ht (by simp) (.pulse t))
  | tick c =>
    obtain ⟨t, ht, rfl⟩ := ticker_quiet h
    exact .inr (quiet_setPc hb ht (by simp) (.tick t))
  | quit c =>
    obtain ⟨t, ht, rfl⟩ := ticker_quiet h
    exact .inr (quiet_setPc hb ht (by simp) (.quit t))
  | accept c g frames => exact .inr (accept_quiet hb h)
  | fire c => exact .inr (fire_quiet hb h)

/-- What an event from outside, other than a new connection, does to a program counter of a gateway. -/
inductive Pc.Prompted (cfg : Config) (timer : Timer) : Role → Pc → Pc → Prop
  | suspend (t : String) (hon : (cfg.sessionResumeEnabled && cfg.sessionRepo) = true) :
      Prompted cfg timer .main (.serving t) (.suspend t)
  | remove (t : String) (reason : Reason) : Prompted cfg timer .main (.serving t) (.take t reason)
  | pulse (t : String) : Prompted cfg timer .main (.serving t) (.pulse t)
  | tick (t : String) : Prompted cfg timer .beat (.waiting t) (.beat t)
  | quit (t : String) : Prompted cfg timer .beat (.waiting t) .done
  | fire (p : Pc) (t : String) (due : Time) (h : timer = .armed t due) : Prompted cfg timer .timer p (.cancelPending t)

/-- A new connection: where its goroutine starts, and that nothing else moves. -/
structure NewConn (env : Env σ) (w w' : World σ) (c : ConnID) (g : String) (frames : List Frame) : Prop where
  new : c ∉ w.conns
  quiet : Quiet env w w'
  conns : w'.conns = c :: w.conns
  home : w'.home = Function.update w.home c g
  timer : w'.timer = w.timer
  pc : ∀ c' r, w'.pc c' r = if c' = c ∧ r = .main then (handleAgentConnection (env.config g) frames).1 else w.pc c' r

theorem accept_step (hb : Base env w) {g : String} {frames : List Frame}
    (h : w.step env (.accept c g frames) = some w') : NewConn env w w' c g frames := by
  have hq := accept_quiet hb h
  simp only [World.step] at h
  split at h
  · rename_i hc
    cases h
    refine ⟨hc.1, hq, by simp [World.setPc], by simp [World.setPc], by simp [World.setPc], fun c' r => ?_⟩
    rw [World.setPc_pc]
    simp
  · cases h

structure Prompt (env : Env σ) (w w' : World σ) : Prop where
  quiet : Quiet env w w'
  conns : w'.conns = w.conns
  home : w'.home = w.home
  timer : ∀ c, w'.timer c = w.timer c ∨ w'.timer c = .fired
  pc : ∀ c r, w'.pc c r = w.pc c r ∨
    Pc.Prompted (env.config (w.home c)) (w.timer c) r (w.pc c r) (w'.pc c r)

theorem prompt_setPc {q : Pc} (hq : Quiet env w (w.setPc c r q))
    (h : Pc.Prompted (env.config (w.home c)) (w.timer c) r (w.pc c r) q) : Prompt env w (w.setPc c r q) := by
  refine ⟨hq, rfl, rfl, fun _ => .inl rfl, fun c' r' => ?_⟩
  rw [World.setPc_pc]
  split
  · rename_i he
    rw [he.1, he.2]
    exact .inr h
  · exact .inl rfl

theorem step_kinds (hb : Base env w) {l : Label} (h : w.step env l = some w') :
    (∃ c r fate, l = .run c r fate ∧ (w.pc c r).runnable = true ∧ w' = w.ran env c r fate) ∨
      (∃ c g frames, l = .accept c g frames ∧ NewConn env w w' c g frames) ∨
      (∀ c r fate, l ≠ .run c r fate) ∧ Prompt env w w' := by
  cases l with
  | run c r fate => exact .inl ⟨c, r, fate, rfl, run_step h⟩
  | accept c g frames => exact .inr (.inl ⟨c, g, frames, rfl, accept_step hb h⟩)
  | clock d =>
    cases h
    exact .inr (.inr ⟨by simp, quiet_server (.inl rfl) (.inl rfl), rfl, rfl, fun _ => .inl rfl, fun _ _ => .inl rfl⟩)
  | sweepLeases =>
    cases h
    exact .inr (.inr ⟨by simp, quiet_server (.inr rfl) (.inl rfl), rfl, rfl, fun _ => .inl rfl, fun _ _ => .inl rfl⟩)
  | sweepSessions =>
    cases h
    exact .inr (.inr ⟨by simp, quiet_server (.inl rfl) (.inr rfl), rfl, rfl, fun _ => .inl rfl, fun _ _ => .inl rfl⟩)
  | lost c =>
    obtain ⟨t, ht, rfl⟩ := stream_quiet h
    refine .inr (.inr ⟨by simp, ?_⟩)
    simp only
    split
    · exact prompt_setPc (quiet_setPc hb ht (by simp) (.suspend t)) (ht ▸ .suspend t ‹_›)
    · exact prompt_setPc (quiet_setPc hb ht (by simp) (.remove t _)) (ht ▸ .remove t _)
  | cancelled c =>
    obtain ⟨t, ht, rfl⟩ := stream_quiet h
    exact .inr (.inr ⟨by simp, prompt_setPc (quiet_setPc hb ht (by simp) (.remove t _)) (ht ▸ .remove t _)⟩)
  | pulse c =>
    obtain ⟨t, ht, rfl⟩ := stream_quiet h
    exact .inr (.inr ⟨by simp, prompt_setPc (quiet_setPc hb ht (by simp) (.pulse t)) (ht ▸ .pulse t)⟩)
  | tick c =>
    obtain ⟨t, ht, rfl⟩ := ticker_quiet h
    exact .inr (.inr ⟨by simp, prompt_setPc (quiet_setPc hb ht (by simp) (.tick t)) (ht ▸ .tick t)⟩)
  | quit c =>
    obtain ⟨t, ht, rfl⟩ := ticker_quiet h
    exact .inr (.inr ⟨by simp, prompt_setPc (quiet_setPc hb ht (by simp) (.quit t)) (ht ▸ .quit t)⟩)
  | fire c =>
    have hq := fire_quiet hb h
    simp only [World.step] at h
    split at h
    · rename_i t due ht
      split at h
      · cases h
        refine .inr (.inr ⟨by simp, hq, rfl, rfl, fun c' => ?_, fun c' r' => ?_⟩)
        · by_cases he : c' = c
          · exact .inr (by simp [World.setPc, he])
          · exact .inl (by simp [World.setPc, he])
        · rw [World.setPc_pc]
          split
          · rename_i he
            obtain ⟨rfl, rfl⟩ := he
            exact .inr (.fire _ t due ht)
          · exact .inl rfl
      · cases h
    · cases h

/-- After a goroutine's step, the other program counters stand where they stood, or `heartbeatLoop` starts. -/
theorem ran_pc (env : Env σ) (w : World σ) (c : ConnID) (r : Role) (fate : Fate) (c' : ConnID) (r' : Role) :
    (w.ran env c r fate).pc c' r' = w.pc c' r' ∨
      (c' = c ∧ r' = r ∧ (w.ran env c r fate).pc c' r' = (stepPc env w c r fate (w.pc c r)).2) ∨
      (c' = c ∧ r' = .beat ∧ ∃ t, (w.ran env c r fate).pc c' r' = .waiting t) := by
  simp only [World.ran, World.setPc_pc]
  split
  · rename_i he
    exact .inr (.inl ⟨he.1, he.2, rfl⟩)
  · rcases (stepPc_keeps env w c r fate (w.pc c r)).pc c' r' with h | h
    · exact .inl h
    · exact .inr (.inr h)

theorem ran_keeps (env : Env σ) (w : World σ) (c : ConnID) (r : Role) (fate : Fate) :
    (w.ran env c r fate).now = w.now ∧ (w.ran env c r fate).conns = w.conns ∧ (w.ran env c r fate).home = w.home ∧
      ∀ g, g ≠ w.home c → (w.ran env c r fate).gateway g = w.gateway g :=
  have h := stepPc_keeps env w c r fate (w.pc c r)
  ⟨h.now, h.conns, h.home, h.others⟩

theorem ran_tunnels (env : Env σ) (w : World σ) (c : ConnID) (r : Role) (fate : Fate) :
    TunnelMove w c (w.pc c r) (w.ran env c r fate) := by
  cases stepPc_tunnels env w c r fate (w.pc c r) with
  | same h => exact .same h
  | install a leaseID token hp h => exact .install a leaseID token hp h
  | attach t token rest at_ hp hl h => exact .attach t token rest at_ hp hl h
  | suspend t at_ hp hl h => exact .suspend t at_ hp hl h
  | take t reason hp h => exact .take t reason hp h

theorem ran_log (hb : w.Leases env) (c : ConnID) (r : Role) (fate : Fate) :
    LogMove w c (w.pc c r) (w.ran env c r fate) := by
  cases stepPc_log hb c r fate (w.pc c r) with
  | same h => exact .same h
  | granted t e hp he h => exact .granted t e hp he h
  | registered a hp h => exact .registered a hp h
  | installed a leaseID token hp h => exact .installed a leaseID token hp h
  | attached t token rest hp hl h => exact .attached t token rest hp hl h
  | suspended t hp h => exact .suspended t hp h

theorem ran_store (env : Env σ) (w : World σ) (c : ConnID) (r : Role) (fate : Fate) :
    StoreMove env w c (w.pc c r) (w.ran env c r fate) := by
  cases stepPc_store env w c r fate (w.pc c r) with
  | same h => exact .same h
  | resumable t token deadline hp h => exact .resumable t token deadline hp h
  | register a hp sess ht h hlog => exact .register a hp sess ht h hlog
  | deregister t reason hp h => exact .deregister t reason hp h
  | heartbeat t h => exact .heartbeat t h

theorem TunnelMove.lookup_none (hm : TunnelMove w c p w') {t : String}
    (h : (w.gateway (w.home c)).tunnels.lookup t = none)
    (hi : ∀ a leaseID token, p = .install a leaseID token → a.tunnelID ≠ t) :
    (w'.gateway (w.home c)).tunnels.lookup t = none := by
  cases hm with
  | same he => rw [he, h]
  | install a leaseID token hp he => simp [he, addTunnel, h, Ne.symm (hi a leaseID token hp)]
  | attach t' token rest at_ hp hl he =>
    have hne : t ≠ t' := by rintro rfl; rw [h] at hl; cases hl
    simp [he, h, hne]
  | suspend t' at_ hp hl he =>
    have hne : t ≠ t' := by rintro rfl; rw [h] at hl; cases hl
    simp [he, h, hne]
  | take t' reason hp he => simp [he, h]

theorem take_lookup (env : Env σ) (w : World σ) (c : ConnID) (r : Role) (fate : Fate) (t : String) (reason : Reason) :
    ((stepPc env w c r fate (.take t reason)).1.gateway (w.home c)).tunnels.lookup t = none := by
  cases hl : (w.gateway (w.home c)).tunnels.lookup t with
  | none => simp [stepPc, stepRemoval, hl]
  | some at_ => simp [stepPc, stepRemoval, hl]

theorem fits_of_early {p : Pc} (h : p.early = true) : p.fits r = true ↔ r = .main := by
  cases p <;> first | cases h; done | (cases r <;> simp [Pc.fits])

theorem next_fits {p q : Pc} (h : Pc.Next r p q) (hp : p.fits r = true) : q.fits r = true := by
  cases h with
  | early _ _ hpe hqe => exact (fits_of_early hqe).2 ((fits_of_early hpe).1 hp)
  | _ => cases r <;> simp_all [Pc.fits]

theorem outside_fits {p q : Pc} (h : Pc.Outside r p q) : q.fits r = true := by
  cases h with
  | accept _ ho =>
    rcases early_of_opening ho with he | ⟨f, rfl⟩
    · exact (fits_of_early he).2 rfl
    · rfl
  | _ => rfl

theorem base_ran (hb : Base env w) (hr : (w.pc c r).runnable = true) : Base env (w.ran env c r fate) := by
  refine ⟨fun c' hc' => ?_, fun c' r' => ?_, stepPc_leases hb.leases c r fate (w.pc c r)⟩
  · have hc : c ∈ w.conns := hb.mem_of rfl hr
    rw [(ran_keeps env w c r fate).2.1] at hc'
    have hne : c' ≠ c := fun he => hc' (he ▸ hc)
    obtain ⟨hp, ht⟩ := hb.idle c' hc'
    constructor
    · intro r'
      rcases ran_pc env w c r fate c' r' with h1 | ⟨h1, -⟩ | ⟨h1, -⟩
      · rw [h1, hp]
      · exact absurd h1 hne
      · exact absurd h1 hne
    · rcases stepPc_timer env w c r fate (w.pc c r) c' with h1 | ⟨h1, -⟩ | ⟨h1, -⟩
      · exact h1.trans ht
      · exact absurd ht h1
      · exact absurd h1 hne
  · rcases ran_pc env w c r fate c' r' with h1 | ⟨-, rfl, h1⟩ | ⟨-, rfl, t, h1⟩
    · rw [h1]
      exact hb.fits c' r'
    · rw [h1]
      exact next_fits (stepPc_next env w c r' fate _ hr) (hb.fits c r')
    · rw [h1]
      rfl

theorem base_quiet (hb : Base env w) (hq : Quiet env w w') : Base env w' := by
  refine ⟨fun c' hc' => ?_, fun c' r' => ?_, ?_⟩
  · have hc : c' ∉ w.conns := fun hc => hc' (hq.conns c' hc).1
    obtain ⟨hp, ht⟩ := hb.idle c' hc
    constructor
    · intro r'
      exact (hq.idle c' r' (hp r')).resolve_right hc'
    · rcases hq.timer c' with h1 | ⟨h1, -⟩
      · exact h1.trans ht
      · exact absurd ht h1
  · rcases hq.pc c' r' with h1 | h1 | ⟨rfl, t, due, -, h1⟩
    · rw [h1]
      exact hb.fits c' r'
    · exact outside_fits h1
    · rw [h1]
      rfl
  · unfold World.Leases
    rw [hq.drawn]
    rcases hq.coord with h1 | h1
    · rw [h1]
      exact hb.leases
    · rw [h1]
      exact hb.leases.releaseExpiredLeases w.now

theorem base_step (hb : Base env w) {l : Label} (h : w.step env l = some w') : Base env w' := by
  rcases step_cases hb h with ⟨c, r, fate, -, hr, rfl⟩ | hq
  · exact base_ran hb hr
  · exact base_quiet hb hq

theorem run_inv_from {ok : World σ → Label → Prop} (I : World σ → Prop) (hb : Base env w) (h0 : I w)
    (hs : ∀ w l w', Base env w → I w → ok w l → w.step env l = some w' → I w') {ls : List Label}
    (h : Run (World.step env) ok w ls w') : Base env w' ∧ I w' := by
  refine h.inv (fun w => Base env w ∧ I w) ⟨hb, h0⟩ ?_
  rintro w l w' ⟨hb, hi⟩ hok hst
  exact ⟨base_step hb hst, hs w l w' hb hi hok hst⟩

theorem run_inv {ok : World σ → Label → Prop} {start : Time} {store : σ} (I : World σ → Prop)
    (h0 : I (.init env start store))
    (hs : ∀ w l w', Base env w → I w → ok w l → w.step env l = some w' → I w') {ls : List Label}
    (h : Run (World.step env) ok (.init env start store) ls w) : Base env w ∧ I w :=
  run_inv_from I (base_init env start store) h0 hs h

theorem run_base {ok : World σ → Label → Prop} {start : Time} {store : σ} {ls : List Label}
    (h : Run (World.step env) ok (.init env start store) ls w) : Base env w :=
  (run_inv (fun _ => True) trivial (fun _ _ _ _ _ _ _ => trivial) h).1

/-! ## A concrete environment -/

/-- Every gateway takes the token `k` for the agent `a`; ids and tokens are words of growing length. -/
def demo (repo : SessionRepository σ) (resume : Bool) : Env σ where
  config _ := {
    sessionResumeEnabled := resume, sessionRepo := resume, baseDomain := "x", publicPort := "443"
    authenticate := fun token => if token = "k" then some "a" else none }
  repo
  sessionTTL := 300 * second
  uuid n := String.ofList (List.replicate (n + 1) 'u')
  token n := String.ofList (List.replicate (n + 1) 'r')
  uuid_inj := ofList_replicate_injective 'u'
  uuid_ne := ofList_replicate_ne 'u'
  token_inj := ofList_replicate_injective 'r'
  token_ne := ofList_replicate_ne 'r'

def connect (c : ConnID) (g : String) : List Label :=
  .accept c g [.auth "k"] :: List.replicate 5 (.run c .main .ok)

end TunnelEdge.Gateway
