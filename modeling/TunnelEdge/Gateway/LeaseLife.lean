import TunnelEdge.Gateway.LeaseCustody
/-!
# How long a lease lives

A lease is granted for a tunnel and a gateway, and wherever a gateway has its id,
it has it for that tunnel (`Traced`). Until it expires a lease goes away only by
`ReleaseLease`, and its expiry moves only to a TTL of its gateway after the moment
of the request (`ran_lease_kept`).
-/

namespace TunnelEdge.Gateway

open GoLib Store Registry

variable {σ : Type} {env : Env σ} {w w' : World σ} {c : ConnID} {r : Role} {fate : Fate} {p q : Pc} {t id : String}

/-! ## Tunnel and lease of a goroutine -/

/-- The lease id that a goroutine works with, and the tunnel it has it for. -/
def Pc.claim : Pc → Option (String × String)
  | .routeLabels a leaseID _ | .drawToken a leaseID | .respond a leaseID _ | .unroute a leaseID
  | .install a leaseID _ => some (a.tunnelID, leaseID)
  | .dropRoutes t leaseID _ | .release t leaseID _ | .renew t leaseID => some (t, leaseID)
  | _ => none

theorem routeNext_claim (cfg : Config) (a : Auth) (leaseID : String) (rest : List TunnelRoute) :
    (routeNext cfg a leaseID rest).claim = some (a.tunnelID, leaseID) := by
  unfold routeNext
  split
  · split <;> rfl
  · rfl

theorem opening_claim (h : q.opening = true) : q.claim = none := by
  cases q <;> first | rfl | cases h

theorem outside_claim (h : Pc.Outside r p q) : q.claim = none := by
  cases h with
  | accept _ ho => exact opening_claim ho
  | _ => rfl

theorem leaseOf_taken {reason : Reason} (h : (stepPc env w c r fate (.take t reason)).2 = .dropRoutes t id reason) :
    w.leaseOf (w.home c) t = some id := by
  cases hl : (w.gateway (w.home c)).tunnels.lookup t with
  | none =>
    simp only [stepPc, stepRemoval, hl, removed] at h
    split at h <;> cases h
  | some at_ =>
    simp only [stepPc, stepRemoval, hl] at h
    cases h
    simp [World.leaseOf, hl]

theorem leaseOf_peeked (h : (stepPc env w c r fate (.peek t)).2 = .renew t id) : w.leaseOf (w.home c) t = some id := by
  cases hl : (w.gateway (w.home c)).tunnels.lookup t with
  | none =>
    simp only [stepPc, stepBeat, hl] at h
    cases h
  | some at_ =>
    simp only [stepPc, stepBeat, hl] at h
    split at h
    · cases h
      simp [World.leaseOf, hl]
    · cases h

theorem stepPc_claim (hr : p.runnable = true) (h : (stepPc env w c r fate p).2.claim = some (t, id)) :
    p.claim = some (t, id) ∨
      (∃ a l, p = .acquire a ∧ w.acquisition env c fate a = some l ∧ a.tunnelID = t ∧ l.leaseID = id) ∨
      ((∃ reason, p = .take t reason) ∨ p = .peek t) ∧ w.leaseOf (w.home c) t = some id := by
  obtain ⟨q, hgoes, hq | ⟨he, hq⟩ | ⟨hwait, -⟩⟩ := stepPc_goes env w c r fate p <;> rw [hgoes] at h
  · cases hq with
    | leased a l hl =>
      rw [routeNext_claim] at h
      cases h
      exact .inr (.inl ⟨a, l, rfl, hl, rfl, rfl⟩)
    | leasedDefault a l hl =>
      cases h
      exact .inr (.inl ⟨a, l, rfl, hl, rfl, rfl⟩)
    | routedLabel => exact .inl (by rwa [routeNext_claim] at h)
    | fullAuth =>
      rw [opening_claim (fullAuth_opening ..)] at h
      cases h
    | _ => first | exact .inl h | cases h
  · cases hq with
    | early _ _ hp => cases he.symm.trans hp
    | taken t' leaseID reason =>
      cases h
      exact .inr (.inr ⟨.inl ⟨reason, rfl⟩, leaseOf_taken hgoes⟩)
    | peekLeased t' leaseID =>
      cases h
      exact .inr (.inr ⟨.inr rfl, leaseOf_peeked hgoes⟩)
    | _ => first | exact .inl h | cases h
  · cases hr.symm.trans hwait

/-! ## A lease id keeps its tunnel and its gateway -/

/-- Wherever a gateway has the id of a lease, it is a lease of that gateway, for that tunnel. -/
structure Traced (env : Env σ) (w : World σ) : Prop where
  drawn : Drawn env w
  fresh : ∀ c r t id, (w.pc c r).claim = some (t, id) → ∃ k < w.drawn, env.uuid k = id
  pcs : ∀ c r t id l, (w.pc c r).claim = some (t, id) → w.server.coord.leasesByID.lookup id = some l →
    l.tunnelID = t ∧ l.relayID = w.home c
  entries : ∀ g t id l, w.leaseOf g t = some id → w.server.coord.leasesByID.lookup id = some l →
    l.tunnelID = t ∧ l.relayID = g

theorem traced_init (env : Env σ) (start : Time) (store : σ) : Traced env (.init env start store) := by
  refine ⟨drawn_init env start store, fun c r t id h => ?_, fun c r t id l h => ?_, fun g t id l h => ?_⟩
  · cases h
  · cases h
  · simp [World.leaseOf, World.init] at h

theorem ran_lease_old (hb : Base env w) {l : Lease} (hid : ∃ k < w.drawn, env.uuid k = id)
    (hl : (w.ran env c r fate).server.coord.leasesByID.lookup id = some l) :
    ∃ l₀, w.server.coord.leasesByID.lookup id = some l₀ ∧ l₀.tunnelID = l.tunnelID ∧ l₀.relayID = l.relayID := by
  obtain ⟨k, hk, hid⟩ := hid
  rcases ran_leases hb.leases hl with h | ⟨a, -, hfresh, -⟩
  · exact h
  · exact absurd (env.uuid_inj (hid.trans hfresh)) (Nat.ne_of_lt hk)

theorem ran_claim (hr : (w.pc c r).runnable = true) {c' : ConnID} {r' : Role}
    (h : ((w.ran env c r fate).pc c' r').claim = some (t, id)) :
    (w.pc c' r').claim = some (t, id) ∨
      c' = c ∧ ((∃ a l, w.pc c r = .acquire a ∧ w.acquisition env c fate a = some l ∧ a.tunnelID = t ∧ l.leaseID = id) ∨
        w.leaseOf (w.home c) t = some id) := by
  rcases ran_pc env w c r fate c' r' with hp | ⟨rfl, rfl, hp⟩ | ⟨-, -, t', hp⟩
  · exact .inl (hp ▸ h)
  · rw [hp] at h
    rcases stepPc_claim hr h with h | h | ⟨-, h⟩
    · exact .inl h
    · exact .inr ⟨rfl, .inl h⟩
    · exact .inr ⟨rfl, .inr h⟩
  · rw [hp] at h
    cases h

theorem acquired_lease (hb : Base env w) {a : Auth} {l l' : Lease} (hp : w.pc c r = .acquire a)
    (hacq : w.acquisition env c fate a = some l)
    (hl : (w.ran env c r fate).server.coord.leasesByID.lookup l.leaseID = some l') :
    l'.tunnelID = a.tunnelID ∧ l'.relayID = w.home c := by
  rcases ran_leases hb.leases hl with ⟨l₀, hl₀, h1, h2⟩ | ⟨a', hp', -, h1, h2⟩
  · -- the request extended the lease that the tunnel had
    rcases acquisition_some hb.leases hacq with he | ⟨l₁, hl₁, h3, h4⟩
    · obtain ⟨k, hk, hid⟩ := hb.leases.drawn _ _ hl₀
      exact absurd (env.uuid_inj (hid.trans he)) (Nat.ne_of_lt hk)
    · rw [hl₀] at hl₁
      cases hl₁
      exact ⟨h1.symm.trans h3, h2.symm.trans h4⟩
  · rw [hp] at hp'
    cases hp'
    exact ⟨h1, h2⟩

theorem traced_ran (hb : Base env w) (ht : Traced env w) (hr : (w.pc c r).runnable = true) :
    Traced env (w.ran env c r fate) := by
  have hmono : ∀ {id}, (∃ k < w.drawn, env.uuid k = id) → ∃ k < (w.ran env c r fate).drawn, env.uuid k = id :=
    fun ⟨k, hk, he⟩ => ⟨k, Nat.lt_of_lt_of_le hk (ran_drawn_le env w c r fate), he⟩
  have hpcs : ∀ {c' r' t id l}, (w.pc c' r').claim = some (t, id) →
      (w.ran env c r fate).server.coord.leasesByID.lookup id = some l → l.tunnelID = t ∧ l.relayID = w.home c' := by
    intro c' r' t id l h hl
    obtain ⟨l₀, hl₀, h1, h2⟩ := ran_lease_old hb (ht.fresh c' r' t id h) hl
    exact h1 ▸ h2 ▸ ht.pcs c' r' t id l₀ h hl₀
  have hentries : ∀ {g t id l}, w.leaseOf g t = some id →
      (w.ran env c r fate).server.coord.leasesByID.lookup id = some l → l.tunnelID = t ∧ l.relayID = g := by
    intro g t id l h hl
    obtain ⟨l₀, hl₀, h1, h2⟩ := ran_lease_old hb (ht.drawn.entries g t id h) hl
    exact h1 ▸ h2 ▸ ht.entries g t id l₀ h hl₀
  refine ⟨drawn_ran hb ht.drawn hr, fun c' r' t id h => ?_, fun c' r' t id l h hl => ?_, fun g t id l h hl => ?_⟩
  · rcases ran_claim hr h with h | ⟨rfl, ⟨a, l, hp, hacq, -, rfl⟩ | h⟩
    · exact hmono (ht.fresh c' r' t id h)
    · rcases acquisition_some hb.leases hacq with he | ⟨l₀, hl₀, -⟩
      · exact ⟨w.drawn, by rw [acquire_drawn env w c' r fate hp]; omega, he.symm⟩
      · exact hmono (hb.leases.drawn _ _ hl₀)
    · exact hmono (ht.drawn.entries _ t id h)
  · rw [(ran_keeps env w c r fate).2.2.1]
    rcases ran_claim hr h with h | ⟨rfl, ⟨a, l', hp, hacq, rfl, rfl⟩ | h⟩
    · exact hpcs h hl
    · exact acquired_lease hb hp hacq hl
    · exact hentries h hl
  · rw [ran_leaseOf] at h
    split at h
    · rename_i hg
      subst hg
      rcases relet_some h with ⟨a, token, hp, rfl⟩ | h
      · exact hpcs (show (w.pc c r).claim = some (a.tunnelID, id) by rw [hp]; rfl) hl
      · exact hentries h hl
    · exact hentries h hl

theorem traced_quiet (hb : Base env w) (ht : Traced env w) (hq : Quiet env w w') : Traced env w' := by
  have hclaim : ∀ {c r t id}, (w'.pc c r).claim = some (t, id) → (w.pc c r).claim = some (t, id) := by
    intro c r t id h
    rw [hq.pc_eq (P := fun q => q.claim = some (t, id)) (fun _ _ ho h => by rw [outside_claim ho] at h; cases h)
      (fun _ h => by cases h) h] at h
    exact h
  refine ⟨drawn_quiet ht.drawn hq, fun c r t id h => ?_, fun c r t id l h hl => ?_, fun g t id l h hl => ?_⟩
  · rw [hq.drawn]
    exact ht.fresh c r t id (hclaim h)
  · have hpc := hclaim h
    have hc : c ∈ w.conns := by
      refine hb.mem_conns (r := r) fun h0 => ?_
      rw [h0] at hpc
      cases hpc
    rw [(hq.conns c hc).2]
    exact ht.pcs c r t id l hpc (quiet_leases hb.leases hq hl)
  · rw [World.leaseOf, hq.gateway] at h
    exact ht.entries g t id l h (quiet_leases hb.leases hq hl)

theorem traced_step (hb : Base env w) (ht : Traced env w) {l : Label} (h : w.step env l = some w') : Traced env w' := by
  rcases step_cases hb h with ⟨c, r, fate, -, hr, rfl⟩ | hq
  · exact traced_ran hb ht hr
  · exact traced_quiet hb ht hq

/-! ## Until it expires -/

/-- What another request can do to a lease that has not expired and is not released: nothing, or count its TTL from
now on. -/
theorem ran_lease_kept (fate : Fate) (hb : Base env w) (ht : Traced env w) {l : Lease}
    (hl : w.server.coord.leasesByID.lookup id = some l) (hlive : w.now ≤ l.expiresAt)
    (hrel : (w.pc c r).releases ≠ some id) :
    ∃ l', (w.ran env c r fate).server.coord.leasesByID.lookup id = some l' ∧ l'.tunnelID = l.tunnelID ∧
      l'.relayID = l.relayID ∧ (l'.expiresAt = l.expiresAt ∨
        l'.expiresAt = w.now + Server.wireTTL (env.config l.relayID).leaseTTL) := by
  have hlive' : ¬ l.expiresAt < w.now := Int.not_lt.2 hlive
  have hinv := hb.leases.inv
  cases ran_coord env w c r fate with
  | same hs => exact ⟨l, hs ▸ hl, rfl, rfl, .inl rfl⟩
  | acquire a _ _ hs =>
    rw [hs]
    simp only [Server.acquireLease]
    rcases hres : w.server.coord.acquireLease w.now (env.uuid w.drawn)
      ⟨a.tunnelID, w.home c, Server.wireTTL (env.config (w.home c)).leaseTTL⟩ with ⟨m₁, res⟩
    have hc := MemCoordinator.acquireLease_cases hinv w.now (env.uuid w.drawn)
      ⟨a.tunnelID, w.home c, Server.wireTTL (env.config (w.home c)).leaseTTL⟩
    rw [hres] at hc
    cases hc with
    | invalid | conflict => exact ⟨l, hl, rfl, rfl, .inl rfl⟩
    | extend l₀ _ hh _ hrelay =>
      rw [MemCoordinator.putLease_leases]
      split
      · rename_i hid
        have hlook : w.server.coord.leasesByID.lookup id = some l₀ := hid ▸ hh.1
        rw [hl] at hlook
        cases hlook
        exact ⟨_, rfl, rfl, hrelay.symm, .inr (by rw [hrelay]; rfl)⟩
      · exact ⟨l, hl, rfl, rfl, .inl rfl⟩
    | grant m' _ hm =>
      rw [MemCoordinator.putLease_leases]
      split
      · rename_i hid
        have hfree := hb.leases.fresh env.uuid_inj
        rw [show env.uuid w.drawn = id from hid.symm, hl] at hfree
        cases hfree
      · rcases (MemCoordinator.grant_purged hinv hm).2.2 id with he | ⟨-, l₀, hl₀, hexp, -⟩
        · exact ⟨l, he ▸ hl, rfl, rfl, .inl rfl⟩
        · rw [hl] at hl₀
          cases hl₀
          exact absurd hexp hlive'
  | renew t leaseID hp _ hs =>
    rw [hs]
    simp only [Server.renewLease]
    rcases MemCoordinator.renewLease_cases hinv w.now leaseID (Server.wireTTL (env.config (w.home c)).leaseTTL) with
      ⟨s, hres, -⟩ | ⟨l₀, hl₀, -, hres⟩
    · rw [hres]
      exact ⟨l, hl, rfl, rfl, .inl rfl⟩
    · rw [hres]
      simp only [GoMap.lookup_insert_ite]
      split
      · rename_i hid
        subst hid
        rw [hl] at hl₀
        cases hl₀
        have hrelay := (ht.pcs c r t id l (by rw [hp]; rfl) hl).2
        exact ⟨_, rfl, rfl, rfl, .inr (by rw [hrelay])⟩
      · exact ⟨l, hl, rfl, rfl, .inl rfl⟩
  | release leaseID hp _ hs =>
    have hne : id ≠ leaseID := by
      rintro rfl
      rcases hp with hp | ⟨t, reason, hp⟩
      · exact hrel (by rw [hp]; rfl)
      · exact hrel (by rw [hp]; rfl)
    rw [hs]
    rcases MemCoordinator.releaseLease_cases hinv leaseID with ⟨s, hres, -⟩ | ⟨l₀, -, hres⟩
    · rw [hres]
      exact ⟨l, hl, rfl, rfl, .inl rfl⟩
    · rw [hres, MemCoordinator.drop_leases, if_neg hne]
      exact ⟨l, hl, rfl, rfl, .inl rfl⟩
  | current a _ _ hs =>
    rw [hs, MemCoordinator.currentLease]
    rcases MemCoordinator.currentLeaseLocked_cases hinv a.tunnelID w.now with
      ⟨l₀, -, -, hres⟩ | ⟨l₀, hh, hexp, hres⟩ | ⟨-, hres⟩
    · rw [hres]
      exact ⟨l, hl, rfl, rfl, .inl rfl⟩
    · rw [hres, MemCoordinator.drop_leases, if_neg]
      · exact ⟨l, hl, rfl, rfl, .inl rfl⟩
      · rintro rfl
        rw [hh.1] at hl
        cases hl
        exact hlive' hexp
    · rw [hres]
      exact ⟨l, hl, rfl, rfl, .inl rfl⟩

theorem quiet_lease_kept (hb : Base env w) (hq : Quiet env w w') {l : Lease}
    (hl : w.server.coord.leasesByID.lookup id = some l) (hlive : w.now ≤ l.expiresAt) :
    w'.server.coord.leasesByID.lookup id = some l := by
  rcases hq.coord with hs | hs
  · rw [hs, hl]
  · rw [hs]
    simp only [Server.releaseExpiredLeases, (MemCoordinator.releaseExpiredLeases_spec hb.leases.inv w.now).2, hl]
    simp [Option.filter_some, hlive]

end TunnelEdge.Gateway
