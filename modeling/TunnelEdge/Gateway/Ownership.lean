import TunnelEdge.Gateway.Reach
/-!
# Whose session a teardown deletes

The registry knows a session by its tunnel id, and so does `DeregisterTunnel`.
That a gateway deletes only what it registered is therefore a matter of order: it
holds as long as a tunnel moves to another gateway only after the one that had it
is through with it.
-/

namespace TunnelEdge.Gateway

open GoLib Store Registry

variable {env : Env Memory} {w w' : World Memory} {c c' : ConnID} {r : Role} {fate : Fate} {p q : Pc}
  {g g' t : String}

def registrar (log : List Event) (t : String) : Option String :=
  log.findSome? fun
    | .registered g t' => if t' = t then some g else none
    | _ => none

/-- Between `addTunnel` and `RegisterTunnel`, or between the removal from the tunnel map and `DeregisterTunnel`. -/
def Pc.involved (t : String) : Pc → Bool
  | .storeToken a _ | .register a => a.tunnelID = t
  | .dropRoutes t' _ _ | .release t' _ _ | .deregister t' _ => t' = t
  | _ => false

/-- Gateway `g` has the tunnel, or a goroutine that is about to register or to deregister it. -/
def Involved (w : World Memory) (g t : String) : Prop :=
  (w.gateway g).tunnels.lookup t ≠ none ∨ ∃ c r, w.home c = g ∧ (w.pc c r).involved t = true

/-- `addTunnel` comes only when no other gateway has the tunnel, registers it or tears it down, and the registry
has no session of it that another gateway registered. -/
def handsOver (w : World Memory) : Label → Bool
  | .run c r _ =>
    match w.pc c r with
    | .install a _ _ =>
      (w.conns.all fun c' => w.home c' = w.home c ||
        (((w.gateway (w.home c')).tunnels.lookup a.tunnelID).isNone &&
          [Role.main, .beat, .timer].all fun r' => !(w.pc c' r').involved a.tunnelID)) &&
      ((w.server.store.lookup a.tunnelID).isNone || registrar w.log a.tunnelID = some (w.home c))
    | _ => true
  | _ => true

/-! ## Sessions of the memory store -/

theorem ran_known (hrepo : env.repo = Memory.repo)
    (h : (w.ran env c r fate).server.store.lookup t ≠ none) :
    w.server.store.lookup t ≠ none ∨
      ∃ a, w.pc c r = .register a ∧ a.tunnelID = t ∧ (w.ran env c r fate).log = .registered (w.home c) t :: w.log := by
  cases ran_store env w c r fate with
  | same hs => exact .inl (hs ▸ h)
  | resumable t' token deadline _ hs =>
    rw [hs, hrepo] at h
    exact .inl (Memory.lookup_setResumable h)
  | register a hp sess ht hs hlog =>
    rw [hs, hrepo] at h
    rcases Memory.lookup_register h with h1 | ⟨h1, x, hx⟩
    · exact .inl h1
    · rw [hrepo] at hlog
      have he : a.tunnelID = t := by rw [h1, ht.1]
      exact .inr ⟨a, hp, he, he ▸ hlog x hx⟩
  | deregister t' reason hp hs =>
    rw [hs, hrepo] at h
    exact .inl (Memory.lookup_deregister h)
  | heartbeat t' hs =>
    rw [hs, hrepo] at h
    exact .inl (Memory.lookup_heartbeat h)

/-! ## Involvement -/

theorem involved_of_early (h : q.early = true) (t : String) : q.involved t = false := by
  cases q <;> first | rfl | cases h

theorem outside_involved (h : Pc.Outside r p q) : q.involved t = false := by
  cases h with
  | accept _ ho =>
    rcases early_of_opening ho with hq | ⟨f, rfl⟩
    · exact involved_of_early hq t
    · rfl
  | _ => rfl

theorem next_involved (h : Pc.Next r p q) (hq : q.involved t = true) :
    p.involved t = true ∨ (∃ a leaseID token, p = .install a leaseID token ∧ a.tunnelID = t) ∨
      ∃ reason leaseID, p = .take t reason ∧ q = .dropRoutes t leaseID reason := by
  cases h with
  | early _ _ _ he =>
    rw [involved_of_early he] at hq
    cases hq
  | _ => simp_all [Pc.involved]

theorem take_taken {σ : Type} {env : Env σ} {w : World σ} {reason : Reason} {leaseID : String}
    (h : (stepPc env w c r fate (.take t reason)).2 = .dropRoutes t leaseID reason) :
    (w.gateway (w.home c)).tunnels.lookup t ≠ none := by
  intro hl
  simp only [stepPc, stepRemoval, hl, removed] at h
  repeat' split at h
  all_goals cases h

theorem ran_involved (hr : (w.pc c r).runnable = true) (h : Involved (w.ran env c r fate) g t) :
    Involved w g t ∨ (g = w.home c ∧ ∃ a leaseID token, w.pc c r = .install a leaseID token ∧ a.tunnelID = t) := by
  obtain ⟨-, -, hhome, hothers⟩ := ran_keeps env w c r fate
  rcases h with hl | ⟨c', r', hh, hp⟩
  · -- the map of a gateway gets an entry from `addTunnel` only
    by_cases hg : g = w.home c
    · subst hg
      by_cases hn : (w.gateway (w.home c)).tunnels.lookup t = none
      · by_contra hcon
        refine hl ((ran_tunnels env w c r fate).lookup_none hn fun a leaseID token hp ht => ?_)
        exact hcon (.inr ⟨rfl, a, leaseID, token, hp, ht⟩)
      · exact .inl (.inl hn)
    · rw [hothers g hg] at hl
      exact .inl (.inl hl)
  · rw [hhome] at hh
    rcases ran_pc env w c r fate c' r' with hpc | ⟨rfl, rfl, hpc⟩ | ⟨-, -, t', hpc⟩
    · exact .inl (.inr ⟨c', r', hh, hpc ▸ hp⟩)
    · rw [hpc] at hp
      rcases next_involved (stepPc_next env w c' r' fate _ hr) hp with h1 | h1 | ⟨reason, leaseID, h1, h2⟩
      · exact .inl (.inr ⟨c', r', hh, h1⟩)
      · exact .inr ⟨hh.symm, h1⟩
      · rw [h1] at h2
        exact .inl (.inl (hh ▸ take_taken h2))
    · rw [hpc] at hp
      cases hp

theorem quiet_involved (hb : Base env w) (hq : Quiet env w w') (h : Involved w' g t) : Involved w g t := by
  rcases h with hl | ⟨c, r, hh, hp⟩
  · exact .inl (hq.gateway ▸ hl)
  · rw [hq.pc_eq (P := fun q => q.involved t = true) (fun _ _ ho => by simp [outside_involved ho])
      (fun _ h => by cases h) hp] at hp
    rw [(hq.conns c (hb.mem_of rfl hp)).2] at hh
    exact .inr ⟨c, r, hh, hp⟩

/-- At most one gateway is involved with a tunnel, and it registered the session there is. -/
structure Owned (w : World Memory) : Prop where
  host : ∀ g t, (w.gateway g).tunnels.lookup t ≠ none → ∃ c ∈ w.conns, w.home c = g
  one : ∀ g g' t, Involved w g t → Involved w g' t → g = g'
  session : ∀ g t, Involved w g t → w.server.store.lookup t ≠ none → registrar w.log t = some g

theorem owned_init (env : Env Memory) (start : Time) : Owned (.init env start ∅) := by
  have hnot : ∀ g t, ¬ Involved (.init env start ∅) g t := by
    rintro g t (h | ⟨c, r, -, h⟩)
    · exact h rfl
    · cases h
  exact ⟨fun g t h => absurd rfl h, fun g g' t h => absurd h (hnot g t), fun g t h => absurd h (hnot g t)⟩

theorem handsOver_install {a : Auth} {leaseID token : String} (hb : Base env w) (hi : Owned w)
    (hok : handsOver w (.run c r fate) = true) (hp : w.pc c r = .install a leaseID token) :
    (∀ g, Involved w g a.tunnelID → g = w.home c) ∧
      (w.server.store.lookup a.tunnelID ≠ none → registrar w.log a.tunnelID = some (w.home c)) := by
  simp only [handsOver, hp, Bool.and_eq_true, List.all_eq_true] at hok
  obtain ⟨hall, hsess⟩ := hok
  constructor
  · intro g hg
    by_contra hne
    rcases hg with hl | ⟨c', r', hh, hv⟩
    · obtain ⟨c', hc', hh⟩ := hi.host g _ hl
      have h1 := hall c' hc'
      subst hh
      simp only [hne, decide_false, Bool.false_or, Bool.and_eq_true, Option.isNone_iff_eq_none] at h1
      exact hl h1.1
    · have hc' : c' ∈ w.conns := hb.mem_of rfl hv
      have h1 := hall c' hc'
      subst hh
      simp only [hne, decide_false, Bool.false_or, Bool.and_eq_true, List.all_eq_true] at h1
      have h2 := h1.2 r' (by cases r' <;> simp)
      rw [hv] at h2
      cases h2
  · intro hs
    simpa [hs] using hsess

theorem registrar_move {σ : Type} {w w' : World σ} (h : LogMove w c p w') :
    registrar w'.log t = registrar w.log t ∨
      ∃ a, p = .register a ∧ a.tunnelID = t ∧ registrar w'.log t = some (w.home c) := by
  cases h with
  | same h => exact .inl (by rw [h])
  | granted _ _ _ _ h => exact .inl (by rw [h]; rfl)
  | registered a hp h =>
    rw [h]
    by_cases ht : a.tunnelID = t
    · exact .inr ⟨a, hp, ht, by simp [registrar, ht]⟩
    · exact .inl (by simp [registrar, ht])
  | installed _ _ _ _ h => exact .inl (by rw [h]; rfl)
  | attached _ _ _ _ _ h => exact .inl (by rw [h]; rfl)
  | suspended _ _ h => exact .inl (by rw [h]; rfl)

theorem owned_ran (hrepo : env.repo = Memory.repo) (hb : Base env w) (hi : Owned w)
    (hok : handsOver w (.run c r fate) = true) (hr : (w.pc c r).runnable = true) : Owned (w.ran env c r fate) := by
  obtain ⟨-, hconns, hhome, hothers⟩ := ran_keeps env w c r fate
  have hc : c ∈ w.conns := hb.mem_of rfl hr
  refine ⟨fun g t h => ?_, fun g g' t h h' => ?_, fun g t h hs => ?_⟩
  · rw [hconns, hhome]
    rcases ran_involved hr (.inl h) with (h1 | ⟨c', r', hh, hv⟩) | ⟨rfl, -⟩
    · exact hi.host g t h1
    · exact ⟨c', hb.mem_of rfl hv, hh⟩
    · exact ⟨c, hc, rfl⟩
  · rcases ran_involved hr h with h1 | ⟨rfl, a, leaseID, token, hp, rfl⟩
    · rcases ran_involved hr h' with h2 | ⟨rfl, a, leaseID, token, hp, rfl⟩
      · exact hi.one g g' t h1 h2
      · exact (handsOver_install hb hi hok hp).1 g h1
    · rcases ran_involved hr h' with h2 | ⟨h2, -⟩
      · exact ((handsOver_install hb hi hok hp).1 g' h2).symm
      · exact h2.symm
  · -- a gateway that registers is involved, so it is the one
    have hown : ∀ a, w.pc c r = .register a → a.tunnelID = t → w.home c = g := by
      intro a hp ht
      have hv : Involved w (w.home c) t := .inr ⟨c, r, rfl, by rw [hp]; simp [Pc.involved, ht]⟩
      rcases ran_involved hr h with h1 | ⟨h1, -⟩
      · exact hi.one _ _ t hv h1
      · exact h1.symm
    rcases registrar_move (ran_log hb.leases c r fate) (t := t) with hreg | ⟨a, hp, ht, hreg⟩
    · rcases ran_known hrepo hs with hs' | ⟨a, hp, ht, hlog⟩
      · rw [hreg]
        rcases ran_involved hr h with h1 | ⟨rfl, a, leaseID, token, hp, rfl⟩
        · exact hi.session g t h1 hs'
        · exact (handsOver_install hb hi hok hp).2 hs'
      · rw [hlog, ← hown a hp ht]
        simp [registrar]
    · rw [hreg, hown a hp ht]

theorem owned_quiet (hrepo : env.repo = Memory.repo) (hb : Base env w) (hi : Owned w) (hq : Quiet env w w') :
    Owned w' := by
  refine ⟨fun g t h => ?_, fun g g' t h h' => ?_, fun g t h hs => ?_⟩
  · rw [hq.gateway] at h
    obtain ⟨c, hc, hh⟩ := hi.host g t h
    exact ⟨c, (hq.conns c hc).1, (hq.conns c hc).2.trans hh⟩
  · exact hi.one g g' t (quiet_involved hb hq h) (quiet_involved hb hq h')
  · rw [hq.log]
    refine hi.session g t (quiet_involved hb hq h) ?_
    rcases hq.store with h1 | h1
    · exact h1 ▸ hs
    · rw [h1, hrepo] at hs
      exact Memory.lookup_cleanupExpired hs

theorem owned_step (hrepo : env.repo = Memory.repo) (hb : Base env w) (hi : Owned w) {l : Label}
    (hok : handsOver w l = true) (h : w.step env l = some w') : Owned w' := by
  rcases step_cases hb h with ⟨c, r, fate, rfl, hr, rfl⟩ | hq
  · exact owned_ran hrepo hb hi hok hr
  · exact owned_quiet hrepo hb hi hq

/-- When tunnels are handed over whole, the session that a gateway's `DeregisterTunnel` finds is one that this
gateway registered. -/
theorem deregisters_own_session (hrepo : env.repo = Memory.repo) {start : Time} {ls : List Label}
    (h : Run (World.step env) (handsOver · ·) (.init env start ∅) ls w) {reason : Reason}
    (hpc : w.pc c r = .deregister t reason) {sess : Session} (hs : w.server.store.lookup t = some sess) :
    registrar w.log t = some (w.home c) := by
  obtain ⟨-, hi⟩ := run_inv Owned (owned_init env start)
    (fun _ _ _ hb hi hok hst => owned_step hrepo hb hi hok hst) h
  exact hi.session (w.home c) t (.inr ⟨c, r, rfl, by rw [hpc]; simp [Pc.involved]⟩) (by simp [hs])

/-- The tunnel moves to `g2` after `g1` has torn it down, and `g2` tears it down in turn. -/
def movedWhole : List Label :=
  connect 0 "g1" ++ .lost 0 :: List.replicate 4 (.run 0 .main .ok) ++
    connect 1 "g2" ++ .lost 1 :: List.replicate 3 (.run 1 .main .ok)

theorem deregisters_own_session_moved :
    ∃ w sess, Run (World.step (demo Memory.repo false)) (handsOver · ·) (.init (demo Memory.repo false) 0 ∅)
        movedWhole w ∧
      w.pc 1 .main = .deregister "t-a" .streamError ∧ w.server.store.lookup "t-a" = some sess ∧
      registrar w.log "t-a" = some (w.home 1) := by
  obtain ⟨w, hr, hpc, hs⟩ := run_checked_any (P := fun w : World Memory =>
    w.pc 1 .main = .deregister "t-a" .streamError ∧ (w.server.store.lookup "t-a").isSome)
    (show (exec (checked (World.step (demo Memory.repo false)) handsOver) (.init (demo Memory.repo false) 0 ∅)
      movedWhole).any _ = true by decide +kernel)
  obtain ⟨sess, hs⟩ := Option.isSome_iff_exists.1 hs
  exact ⟨w, sess, hr, hpc, hs, deregisters_own_session rfl hr hpc hs⟩

/-- The registry sweeps the lease and the session of `g1`, which goes on; the agent connects to `g2`. The next round
of `g1` finds the session of `g2` alive, fails to renew its own lease and tears the tunnel down. -/
def lateTeardown : List Label :=
  connect 0 "g1" ++ [.clock 400000000000, .sweepLeases, .sweepSessions] ++ connect 1 "g2" ++
    .tick 0 :: List.replicate 6 (.run 0 .beat .ok)

/-- `DeregisterTunnel` of `g1` deletes the session that `g2` registered. -/
theorem late_teardown_deregisters_other :
    ∃ w, Run (World.step (demo Memory.repo false)) (fun _ _ => True) (.init (demo Memory.repo false) 0 ∅)
        lateTeardown w ∧
      w.home 0 = "g1" ∧ w.pc 0 .beat = .deregister "t-a" .leaseLost ∧
      (w.server.store.lookup "t-a").map Session.ownerRelayID = some "g2" ∧ registrar w.log "t-a" = some "g2" ∧
      ((w.ran (demo Memory.repo false) 0 .beat .ok).server.store.lookup "t-a").isNone :=
  run_any (by decide +kernel)

end TunnelEdge.Gateway
