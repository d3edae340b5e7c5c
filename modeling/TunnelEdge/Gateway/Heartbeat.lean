import TunnelEdge.Gateway.Reach
/-!
# Heartbeats and lost leases

Each round of `heartbeatLoop` asks the registry for the session and renews the
lease; a refusal removes the tunnel, so a gateway that has lost its lease stops
serving. Nothing in a round looks at the expiry itself. One that fails to reach
the registry at all goes on with `continue`, and one whose renewal succeeds
throws away the `ExpiresAt` it gets: where the reply was long on its way, the
lease may be over when the round is.
-/

namespace TunnelEdge.Gateway

open GoLib Store Registry

variable {σ : Type} {env : Env σ} {w w' : World σ} {c : ConnID} {r : Role} {fate : Fate} {p : Pc}

/-- `ExpiresAt` of the last lease that `g` was granted or renewed for `t`. -/
def lastExpiry (log : List Event) (g t : String) : Option Time :=
  log.findSome? fun
    | .granted g' t' e => if g' = g ∧ t' = t then some e else none
    | _ => none

/-- A round for `t` that has removed the tunnel, or has not found it. -/
def Pc.cleared (t : String) : Pc → Bool
  | .dropRoutes t' _ _ | .release t' _ _ | .deregister t' _ | .ticked t' .removed | .ticked t' .gone => t' = t
  | _ => false

/-- A round whose `Heartbeat` failed or whose `RenewLease` succeeded is over before the gateway's last lease for the
tunnel is, and no `addTunnel` comes between the removal of a tunnel by a round and the end of that round. -/
def leaseWatched (w : World σ) : Label → Bool
  | .run c r _ =>
    match w.pc c r with
    | .ticked t .failed | .ticked t .renewed => (lastExpiry w.log (w.home c) t).all fun e => w.now ≤ e
    | .install a _ _ => w.conns.all fun c' => w.home c' ≠ w.home c || !(w.pc c' .beat).cleared a.tunnelID
    | _ => true
  | _ => true

/-! ## Every tunnel has a lease -/

/-- A handshake past its lease acquisition, with no lease id. -/
def Pc.leaseless : Pc → Bool
  | .routeLabels _ leaseID _ | .drawToken _ leaseID | .respond _ leaseID _ | .install _ leaseID _ => leaseID = ""
  | _ => false

theorem routeNext_leaseless (cfg : Config) (a : Auth) {leaseID : String} (h : leaseID ≠ "")
    (rest : List TunnelRoute) : (routeNext cfg a leaseID rest).leaseless = false := by
  unfold routeNext
  split
  · split <;> simp [Pc.leaseless, h]
  · simp [Pc.leaseless, h]

theorem opening_leaseless {q : Pc} (h : q.opening = true) : q.leaseless = false := by
  cases q with
  | quota | routeDefault | lookup | refuse | failed => rfl
  | _ => cases h

theorem outside_leaseless {p q : Pc} (h : Pc.Outside r p q) : q.leaseless = false := by
  cases h with
  | accept _ hq => exact opening_leaseless hq
  | _ => rfl

theorem stepPc_leaseless (hl : w.Leases env) (c : ConnID) (r : Role) (fate : Fate) (p : Pc) (h : p.leaseless = false) :
    (stepPc env w c r fate p).2.leaseless = false := by
  cases p with
  | acquire a =>
    simp only [stepPc, stepHandshake]
    split
    · rename_i l hr
      obtain ⟨-, hok⟩ := request_some hr
      have hne := (Server.acquireLease_ok hl.inv (env.uuid_ne _) hok).1
      split
      · exact routeNext_leaseless _ a hne _
      · simp [Pc.leaseless, hne]
    · split <;> rfl
  | routeLabels a leaseID rest =>
    have hne : leaseID ≠ "" := by simpa [Pc.leaseless] using h
    cases rest <;> simpa [stepPc, stepHandshake] using routeNext_leaseless _ a hne _
  | drawToken a leaseID => exact h
  | respond a leaseID token =>
    simp only [stepPc, stepHandshake]
    split
    · exact h
    · rfl
  | refuse status rest =>
    simp only [stepPc, stepResume]
    split
    · exact opening_leaseless (fullAuth_opening _ _ rest)
    · rfl
  | suspend t =>
    rcases suspend_cases env w c r fate t with h | h | ⟨_, _, _, h⟩ | ⟨_, _, h⟩ <;> rw [h] <;> rfl
  | _ =>
    simp only [stepPc, stepHandshake, stepResume, stepStream, stepRemoval, stepBeat, removed]
    repeat' split
    all_goals rfl

/-- Every handshake past its lease acquisition and every entry of a tunnel map has a lease id. -/
structure Leased (w : World σ) : Prop where
  pcs : ∀ c r, (w.pc c r).leaseless = false
  entries : ∀ g t at_, (w.gateway g).tunnels.lookup t = some at_ → at_.leaseID ≠ ""

theorem leased_ran (hb : w.Leases env) (hi : Leased w) (c : ConnID) (r : Role) (fate : Fate) :
    Leased (w.ran env c r fate) := by
  refine ⟨fun c' r' => ?_, fun g t at_ hl => ?_⟩
  · rcases ran_pc env w c r fate c' r' with h | ⟨-, -, h⟩ | ⟨-, -, t, h⟩
    · rw [h]
      exact hi.pcs c' r'
    · rw [h]
      exact stepPc_leaseless hb c r fate _ (hi.pcs c r)
    · rw [h]
      rfl
  · by_cases hg : g = w.home c
    · subst hg
      cases ran_tunnels env w c r fate with
      | same he => exact hi.entries _ t at_ (he ▸ hl)
      | install a leaseID token hp he =>
        -- the new entry has the lease id of the handshake
        rw [he] at hl
        simp only [addTunnel, GoMap.lookup_insert_ite] at hl
        split at hl
        · cases hl
          have := hi.pcs c r
          rw [hp] at this
          simpa [Pc.leaseless] using this
        · exact hi.entries _ t at_ hl
      | attach t' token rest at' hp hl' he =>
        rw [he, GoMap.lookup_insert_ite] at hl
        split at hl
        · cases hl
          exact hi.entries _ t' at' hl'
        · exact hi.entries _ t at_ hl
      | suspend t' at' hp hl' he =>
        rw [he, GoMap.lookup_insert_ite] at hl
        split at hl
        · cases hl
          exact hi.entries _ t' at' hl'
        · exact hi.entries _ t at_ hl
      | take t' reason hp he =>
        rw [he, GoMap.lookup_erase_ite] at hl
        split at hl
        · cases hl
        · exact hi.entries _ t at_ hl
    · rw [(ran_keeps env w c r fate).2.2.2 g hg] at hl
      exact hi.entries g t at_ hl

theorem leased_quiet (hq : Quiet env w w') (hi : Leased w) : Leased w' := by
  refine ⟨fun c r => ?_, fun g t at_ hl => hi.entries g t at_ (hq.gateway ▸ hl)⟩
  by_contra h
  rw [hq.pc_eq (P := fun q => ¬ q.leaseless = false) (fun _ _ ho h => h (outside_leaseless ho)) (fun _ h => h rfl) h]
    at h
  exact h (hi.pcs c r)

/-! ## Rounds of the loop -/

theorem peek_gone {t : String} (h : (stepPc env w c r fate (.peek t)).2 = .ticked t .gone) :
    (w.gateway (w.home c)).tunnels.lookup t = none := by
  cases hl : (w.gateway (w.home c)).tunnels.lookup t with
  | none => rfl
  | some at_ =>
    simp only [stepPc, stepBeat, hl] at h
    split at h <;> cases h

theorem peek_leased (hi : Leased w) {t : String} : (stepPc env w c r fate (.peek t)).2 ≠ .ticked t .unleased := by
  intro h
  cases hl : (w.gateway (w.home c)).tunnels.lookup t with
  | none =>
    simp only [stepPc, stepBeat, hl] at h
    cases h
  | some at_ =>
    simp only [stepPc, stepBeat, hl, if_pos (hi.entries _ t at_ hl)] at h
    cases h

theorem cleared_of_early {q : Pc} (h : q.early = true) (t : String) : q.cleared t = false := by
  cases q <;> first | rfl | cases h

theorem next_cleared {p q : Pc} {t : String} (hn : Pc.Next r p q) (h : q.cleared t = true) :
    p.cleared t = true ∨ (∃ reason, p = .take t reason) ∨ (p = .peek t ∧ q = .ticked t .gone) := by
  cases hn with
  | early _ _ _ hq =>
    rw [cleared_of_early hq] at h
    cases h
  | _ => simp_all [Pc.cleared]

theorem outside_cleared {p q : Pc} (h : Pc.Outside r p q) (t : String) : q.cleared t = false := by
  cases h with
  | accept _ ho =>
    rcases early_of_opening ho with hq | ⟨f, rfl⟩
    · exact cleared_of_early hq t
    · rfl
  | _ => rfl

theorem next_unleased {p q : Pc} {t : String} (hn : Pc.Next r p q) (h : q = .ticked t .unleased) : p = .peek t := by
  cases hn with
  | early _ _ _ he => subst h; cases he
  | _ => cases h <;> rfl

theorem outside_ticked {p q : Pc} (h : Pc.Outside r p q) (t : String) (how : TickEnd) : q ≠ .ticked t how := by
  rintro rfl
  cases h with
  | accept _ ho => cases ho

structure Watched (w : World σ) : Prop where
  leased : Leased w
  renewing : ∀ c t, w.pc c .beat ≠ .ticked t .unleased
  cleared : ∀ c t, (w.pc c .beat).cleared t = true → (w.gateway (w.home c)).tunnels.lookup t = none

theorem watched_init (env : Env σ) (start : Time) (store : σ) : Watched (.init env start store) := by
  refine ⟨⟨fun _ _ => rfl, fun g t at_ h => ?_⟩, fun c t h => ?_, fun c t h => ?_⟩
  · simp [World.init] at h
  · cases h
  · cases h

theorem leaseWatched_install {a : Auth} {leaseID token : String}
    (hok : leaseWatched w (.run c r fate) = true) (hp : w.pc c r = .install a leaseID token) {c' : ConnID}
    (hc : c' ∈ w.conns) (hh : w.home c' = w.home c) : (w.pc c' .beat).cleared a.tunnelID = false := by
  simp only [leaseWatched, hp, List.all_eq_true] at hok
  simpa [hh] using hok c' hc

theorem watched_ran (hb : Base env w) (hi : Watched w) (hok : leaseWatched w (.run c r fate) = true)
    (hr : (w.pc c r).runnable = true) : Watched (w.ran env c r fate) := by
  obtain ⟨-, -, hhome, hothers⟩ := ran_keeps env w c r fate
  -- a cleared round of any connection finds its tunnel still gone
  have hgone : ∀ c' t, (w.pc c' .beat).cleared t = true →
      ((w.ran env c r fate).gateway (w.home c')).tunnels.lookup t = none := by
    intro c' t h
    have hnone := hi.cleared c' t h
    by_cases hh : w.home c' = w.home c
    · rw [hh] at hnone ⊢
      refine (ran_tunnels env w c r fate).lookup_none hnone fun a leaseID token hp ht => ?_
      have hc' : c' ∈ w.conns := hb.mem_of rfl h
      have hf := leaseWatched_install hok hp hc' hh
      rw [ht, h] at hf
      cases hf
    · rw [hothers _ hh, hnone]
  refine ⟨leased_ran hb.leases hi.leased c r fate, fun c' t h => ?_, fun c' t h => ?_⟩
  · rcases ran_pc env w c r fate c' .beat with hpc | ⟨rfl, rfl, hpc⟩ | ⟨-, -, t', hpc⟩
    · exact hi.renewing c' t (hpc.symm.trans h)
    · -- every entry has a lease to renew
      rw [hpc] at h
      rw [next_unleased (stepPc_next env w c' .beat fate _ hr) h] at h
      exact peek_leased hi.leased h
    · cases hpc.symm.trans h
  rw [hhome]
  rcases ran_pc env w c r fate c' .beat with hpc | ⟨rfl, rfl, hpc⟩ | ⟨-, -, t', hpc⟩
  · exact hgone c' t (hpc ▸ h)
  · rw [hpc] at h
    rcases next_cleared (stepPc_next env w c' .beat fate _ hr) h with hp | ⟨reason, hp⟩ | ⟨hp, hq⟩
    · exact hgone c' t hp
    · have hl := take_lookup env w c' .beat fate t reason
      rw [← hp] at hl
      exact hl
    · rw [hp] at hq
      have hl := peek_gone hq
      refine (ran_tunnels env w c' .beat fate).lookup_none hl fun a leaseID token hp' => ?_
      rw [hp] at hp'
      cases hp'
  · rw [hpc] at h
    cases h

theorem watched_quiet (hb : Base env w) (hi : Watched w) (hq : Quiet env w w') : Watched w' := by
  refine ⟨leased_quiet hq hi.leased, fun c t h => ?_, fun c t h => ?_⟩
  · have hpc := hq.pc_eq (P := fun q => q = .ticked t .unleased) (fun _ _ ho => outside_ticked ho t _)
      (fun _ h => by cases h) h
    exact hi.renewing c t (hpc.symm.trans h)
  rw [hq.pc_eq (P := fun q => q.cleared t = true) (fun _ _ ho => by simp [outside_cleared ho])
    (fun _ h => by cases h) h] at h
  have hc : c ∈ w.conns := hb.mem_of rfl h
  rw [hq.gateway, (hq.conns c hc).2]
  exact hi.cleared c t h

theorem watched_step (hb : Base env w) (hi : Watched w) {l : Label} (hok : leaseWatched w l = true)
    (h : w.step env l = some w') : Watched w' := by
  rcases step_cases hb h with ⟨c, r, fate, rfl, hr, rfl⟩ | hq
  · exact watched_ran hb hi hok hr
  · exact watched_quiet hb hi hq

theorem run_watched {start : Time} {store : σ} {ls : List Label}
    (h : Run (World.step env) (leaseWatched · ·) (.init env start store) ls w) : Base env w ∧ Watched w :=
  run_inv Watched (watched_init env start store) (fun _ _ _ hb hi hok hst => watched_step hb hi hok hst) h

/-- While leases are watched, a round that is over, so that the loop waits for the next tick or has returned, after
the expiry of the last lease its gateway was granted for the tunnel leaves that gateway without the tunnel. -/
theorem expired_round_removes {start : Time} {store : σ} {ls : List Label}
    (h : Run (World.step env) (leaseWatched · ·) (.init env start store) ls w) {t : String} {how : TickEnd}
    (hpc : w.pc c .beat = .ticked t how) (hok : leaseWatched w (.run c .beat fate) = true)
    (hst : w.step env (.run c .beat fate) = some w') {e : Time} (he : lastExpiry w'.log (w'.home c) t = some e)
    (hlt : e < w'.now) :
    (w'.pc c .beat = .waiting t ∨ w'.pc c .beat = .done) ∧ (w'.gateway (w'.home c)).tunnels.lookup t = none := by
  obtain ⟨-, hi⟩ := run_watched h
  obtain ⟨-, rfl⟩ := run_step hst
  -- the last step of a round only sees how it ended
  have hend : stepPc env w c .beat fate (.ticked t how) = (w, if how = .removed then .done else .waiting t) := rfl
  have hran : w.ran env c .beat fate = w.setPc c .beat (if how = .removed then .done else .waiting t) := by
    rw [World.ran, hpc, hend]
  rw [hran] at he hlt ⊢
  refine ⟨?_, ?_⟩
  · rw [World.setPc_self]
    split
    · exact .inr rfl
    · exact .inl rfl
  · have hlate : ¬ (lastExpiry w.log (w.home c) t).all (fun e => w.now ≤ e) = true := by
      rw [show lastExpiry w.log (w.home c) t = some e from he, Option.all_some, decide_eq_true_eq]
      exact Int.not_le.2 hlt
    cases how with
    | failed | renewed =>
      simp only [leaseWatched, hpc] at hok
      exact absurd hok hlate
    | unleased => exact absurd hpc (hi.renewing c t)
    | gone | removed => exact hi.cleared c t (by rw [hpc]; exact decide_eq_true rfl)

/-- The registry has swept the session: a late round removes the tunnel. -/
def sweptRound : List Label :=
  connect 0 "g1" ++ [.clock 400000000000, .sweepLeases, .sweepSessions, .tick 0] ++
    List.replicate 5 (.run 0 .beat .ok)

theorem expired_round_removes_swept :
    ∃ w w', Run (World.step (demo Memory.repo false)) (leaseWatched · ·) (.init (demo Memory.repo false) 0 ∅)
        sweptRound w ∧ w.step (demo Memory.repo false) (.run 0 .beat .ok) = some w' ∧
      w'.pc 0 .beat = .done ∧ (w'.gateway (w'.home 0)).tunnels.lookup "t-a" = none := by
  obtain ⟨w, hr, hpc, hok, hst⟩ := run_checked_any (P := fun w : World Memory =>
    w.pc 0 .beat = .ticked "t-a" .removed ∧ leaseWatched w (.run 0 .beat .ok) = true ∧
      (w.step (demo Memory.repo false) (.run 0 .beat .ok)).any (fun w' => w'.pc 0 .beat = .done ∧
        lastExpiry w'.log (w'.home 0) "t-a" = some 45000000000 ∧ 45000000000 < w'.now) = true)
    (show (exec (checked (World.step (demo Memory.repo false)) leaseWatched) (.init (demo Memory.repo false) 0 ∅)
      sweptRound).any _ = true by decide +kernel)
  obtain ⟨w', hst, hend⟩ := (Option.any_eq_true _ _).1 hst
  obtain ⟨hdone, he, hlt⟩ := of_decide_eq_true hend
  exact ⟨w, w', hr, hst, hdone, (expired_round_removes hr hpc hok hst he hlt).2⟩

/-- Gateway `g1` is cut off from the registry; after its lease and its session have been swept the agent connects
to `g2`, which is then cut off as well. -/
def partitioned : List Label :=
  connect 0 "g1" ++ [.clock 400000000000, .sweepLeases, .sweepSessions] ++ connect 1 "g2" ++
    [.clock 46000000000, .tick 0, .run 0 .beat .lost, .run 0 .beat .ok, .tick 1, .run 1 .beat .lost, .run 1 .beat .ok]

/-- Both gateways complete a round after the expiry of their lease, and both still serve the tunnel. -/
theorem partitioned_gateways_keep_tunnel :
    ∃ w, Run (World.step (demo Memory.repo false)) (fun _ _ => True) (.init (demo Memory.repo false) 0 ∅)
        partitioned w ∧ w.home 0 ≠ w.home 1 ∧
      ∀ c ∈ [0, 1], w.pc c .beat = .waiting "t-a" ∧
        (lastExpiry w.log (w.home c) "t-a").any (fun e => e < w.now) = true ∧
        ((w.gateway (w.home c)).tunnels.lookup "t-a").isSome = true :=
  run_any (by decide +kernel)

end TunnelEdge.Gateway
