import TunnelEdge.Gateway.Routes
/-!
# Who has a lease

A lease id is in one place at a time: a handshake has it from `AcquireLease` to
`addTunnel`, then the entry of the tunnel map has it, then the goroutine that
took the entry out, which passes it to `ReleaseLease`. `stepPc_held` and
`ran_leaseOf` say how a step moves it, `ran_leases` which leases the registry can
hold afterwards, and `Drawn` that every id in these places has been drawn.
-/

namespace TunnelEdge.Gateway

open GoLib Store Registry

variable {σ : Type} {env : Env σ} {w w' : World σ} {c : ConnID} {r : Role} {fate : Fate} {p q : Pc} {t x : String}

/-! ## Places -/

def Pc.held : Pc → Option String
  | .routeLabels _ leaseID _ | .drawToken _ leaseID | .respond _ leaseID _ | .unroute _ leaseID | .unlease leaseID
  | .install _ leaseID _ | .dropRoutes _ leaseID _ | .release _ leaseID _ => some leaseID
  | _ => none

def Pc.releases : Pc → Option String
  | .unlease leaseID | .release _ leaseID _ => some leaseID
  | _ => none

theorem held_of_releases {id : String} (h : p.releases = some id) : p.held = some id := by
  cases p <;> first | exact h | cases h

def World.leaseOf (w : World σ) (g t : String) : Option String :=
  ((w.gateway g).tunnels.lookup t).map ActiveTunnel.leaseID

theorem leaseOf_none {g : String} : w.leaseOf g t = none ↔ (w.gateway g).tunnels.lookup t = none := by
  simp [World.leaseOf]

/-- What the next step of a program counter makes of the lease id in the entry of `t`. -/
def Pc.relet (t : String) (leaseID : Option String) : Pc → Option String
  | .install a leaseID' _ => if a.tunnelID = t then some leaseID' else leaseID
  | .take t' _ => if t' = t then none else leaseID
  | _ => leaseID

theorem relet_some {leaseID : Option String} (h : p.relet t leaseID = some x) :
    (∃ a token, p = .install a x token ∧ a.tunnelID = t) ∨ leaseID = some x := by
  cases p with
  | install a leaseID' token =>
    simp only [Pc.relet] at h
    split at h
    · cases h
      exact .inl ⟨a, token, rfl, ‹_›⟩
    · exact .inr h
  | take t' reason =>
    simp only [Pc.relet] at h
    split at h
    · cases h
    · exact .inr h
  | _ => exact .inr h

theorem stepPc_leaseOf (env : Env σ) (w : World σ) (c : ConnID) (r : Role) (fate : Fate) (p : Pc) (t : String) :
    (stepPc env w c r fate p).1.leaseOf (w.home c) t = p.relet t (w.leaseOf (w.home c) t) := by
  cases p with
  | install a leaseID token =>
    rcases eq_or_ne t a.tunnelID with rfl | ht
    · simp [stepPc, stepHandshake, World.note, World.leaseOf, addTunnel, Pc.relet]
    · simp [stepPc, stepHandshake, World.note, World.leaseOf, addTunnel, Pc.relet, ht, Ne.symm ht]
  | take t' reason =>
    cases hl : (w.gateway (w.home c)).tunnels.lookup t' with
    | none =>
      rcases eq_or_ne t t' with rfl | ht
      · simp [stepPc, stepRemoval, hl, World.leaseOf, Pc.relet]
      · simp [stepPc, stepRemoval, hl, World.leaseOf, Pc.relet, Ne.symm ht]
    | some at_ =>
      rcases eq_or_ne t t' with rfl | ht
      · simp [stepPc, stepRemoval, hl, World.leaseOf, Pc.relet]
      · simp [stepPc, stepRemoval, hl, World.leaseOf, Pc.relet, ht, Ne.symm ht]
  | _ =>
    cases stepPc_tunnels env w c r fate _ with
    | same h => exact congrArg (fun m => (m.lookup t).map ActiveTunnel.leaseID) h
    | attach t' token rest at_ hp hl h | suspend t' at_ hp hl h =>
      rw [World.leaseOf, h]
      refine Eq.trans (GoMap.map_lookup_insert _ hl ?_ t) rfl
      rfl
    | install a leaseID token hp h => cases hp
    | take t' reason hp h => cases hp

theorem ran_leaseOf (env : Env σ) (w : World σ) (c : ConnID) (r : Role) (fate : Fate) (g t : String) :
    (w.ran env c r fate).leaseOf g t = if g = w.home c then (w.pc c r).relet t (w.leaseOf g t) else w.leaseOf g t := by
  split
  · rename_i hg
    subst hg
    exact stepPc_leaseOf env w c r fate (w.pc c r) t
  · rename_i hg
    rw [World.leaseOf, (ran_keeps env w c r fate).2.2.2 g hg, ← World.leaseOf]

def Pc.heldNext (env : Env σ) (w : World σ) (c : ConnID) (fate : Fate) : Pc → Option String
  | .acquire a => (w.acquisition env c fate a).map Lease.leaseID
  | .take t _ => w.leaseOf (w.home c) t
  | .install .. | .unlease _ | .release .. => none
  | .respond _ leaseID _ | .unroute _ leaseID | .drawToken _ leaseID | .routeLabels _ leaseID _ => some leaseID
  | .dropRoutes _ leaseID _ => if leaseID ≠ "" then some leaseID else none
  | _ => none

theorem routeNext_held (cfg : Config) (a : Auth) (leaseID : String) (rest : List TunnelRoute) :
    (routeNext cfg a leaseID rest).held = some leaseID := by
  unfold routeNext
  split
  · split <;> rfl
  · rfl

theorem opening_held (h : q.opening = true) : q.held = none := by
  cases q with
  | quota | routeDefault | lookup | refuse | failed => rfl
  | _ => cases h

theorem removed_held (r : Role) (t : String) (reason : Reason) : (removed r t reason).held = none := by
  unfold removed
  split <;> rfl

theorem stepPc_held (env : Env σ) (w : World σ) (c : ConnID) (r : Role) (fate : Fate) (p : Pc)
    (hr : p.runnable = true) : (stepPc env w c r fate p).2.held = p.heldNext env w c fate := by
  cases p with
  | idle | serving _ | waiting _ | done | failed _ => cases hr
  | acquire a =>
    simp only [stepPc, stepHandshake, Pc.heldNext, World.acquisition]
    split
    · rename_i l hl
      rw [hl]
      split
      · exact routeNext_held ..
      · rfl
    · rename_i hl
      rw [hl]
      split <;> rfl
  | routeLabels a leaseID rest => cases rest <;> simpa [stepPc, stepHandshake, Pc.heldNext] using routeNext_held ..
  | refuse status rest =>
    simp only [stepPc, stepResume, Pc.heldNext]
    split
    · exact opening_held (fullAuth_opening ..)
    · rfl
  | suspend t =>
    rcases suspend_cases env w c r fate t with h | h | ⟨_, _, _, h⟩ | ⟨_, _, h⟩ <;> rw [h] <;> rfl
  | take t reason =>
    cases hl : (w.gateway (w.home c)).tunnels.lookup t with
    | none => simp [stepPc, stepRemoval, hl, removed_held, Pc.heldNext, World.leaseOf]
    | some at_ => simp [stepPc, stepRemoval, hl, Pc.held, Pc.heldNext, World.leaseOf]
  | deregister t reason => exact removed_held ..
  | _ =>
    simp only [stepPc, stepHandshake, stepResume, stepStream, stepRemoval, stepBeat, Pc.heldNext]
    repeat' split
    all_goals rfl

theorem outside_held (h : Pc.Outside r p q) : q.held = none := by
  cases h with
  | accept _ ho => exact opening_held ho
  | _ => rfl

theorem ran_held (env : Env σ) (w : World σ) (c : ConnID) (r : Role) (fate : Fate)
    (hr : (w.pc c r).runnable = true) {c' : ConnID} {r' : Role} (h : ((w.ran env c r fate).pc c' r').held = some x) :
    (w.pc c' r').held = some x ∨ (c' = c ∧ r' = r ∧ (w.pc c r).heldNext env w c fate = some x) := by
  rcases ran_pc env w c r fate c' r' with hp | ⟨rfl, rfl, hp⟩ | ⟨-, -, t, hp⟩
  · exact .inl (hp ▸ h)
  · exact .inr ⟨rfl, rfl, by rw [← stepPc_held env w c' r' fate _ hr, ← hp, h]⟩
  · rw [hp] at h
    cases h

theorem quiet_held (hq : Quiet env w w') {r : Role} (h : (w'.pc c r).held = some x) : (w.pc c r).held = some x := by
  rw [hq.pc_eq (P := fun q => q.held = some x) (fun _ _ ho h => by rw [outside_held ho] at h; cases h)
    (fun _ h => by cases h) h] at h
  exact h

/-! ## The registry's leases -/

theorem acquisition_some (hl : w.Leases env) {a : Auth} {l : Lease} (h : w.acquisition env c fate a = some l) :
    l.leaseID = env.uuid w.drawn ∨
      ∃ l₀, w.server.coord.leasesByID.lookup l.leaseID = some l₀ ∧ l₀.tunnelID = a.tunnelID ∧
        l₀.relayID = w.home c := by
  obtain ⟨-, hok⟩ := request_some h
  simp only [Server.acquireLease] at hok
  have hc := MemCoordinator.acquireLease_cases hl.inv w.now (env.uuid w.drawn)
    ⟨a.tunnelID, w.home c, Server.wireTTL (env.config (w.home c)).leaseTTL⟩
  rcases hr : w.server.coord.acquireLease w.now (env.uuid w.drawn)
    ⟨a.tunnelID, w.home c, Server.wireTTL (env.config (w.home c)).leaseTTL⟩ with ⟨m, res⟩
  rw [hr] at hc hok
  cases hc with
  | invalid | conflict => cases hok
  | extend l₀ _ hh _ hrelay =>
    cases hok
    exact .inr ⟨l₀, hh.1, hh.2, hrelay⟩
  | grant =>
    cases hok
    exact .inl rfl

theorem acquireLease_leases {m : MemCoordinator} (hi : m.Inv) {now : Time} {fresh id : String} {req : LeaseRequest}
    {l : Lease} (h : (m.acquireLease now fresh req).1.leasesByID.lookup id = some l) :
    (∃ l₀, m.leasesByID.lookup id = some l₀ ∧ l₀.tunnelID = l.tunnelID ∧ l₀.relayID = l.relayID) ∨
      (id = fresh ∧ l.tunnelID = req.tunnelID ∧ l.relayID = req.relayID) := by
  rcases hr : m.acquireLease now fresh req with ⟨m₁, res⟩
  have hc := MemCoordinator.acquireLease_cases hi now fresh req
  rw [hr] at hc h
  cases hc with
  | invalid | conflict => exact .inl ⟨l, h, rfl, rfl⟩
  | extend l₀ _ hh _ hrelay =>
    rw [MemCoordinator.putLease_leases] at h
    split at h
    · rename_i hid
      cases h
      exact .inl ⟨l₀, hid ▸ hh.1, rfl, hrelay⟩
    · exact .inl ⟨l, h, rfl, rfl⟩
  | grant m' _ hm =>
    rw [MemCoordinator.putLease_leases] at h
    split at h
    · rename_i hid
      cases h
      exact .inr ⟨hid, rfl, rfl⟩
    · rcases (MemCoordinator.grant_purged hi hm).2.2 id with he | ⟨he, -⟩
      · exact .inl ⟨l, he ▸ h, rfl, rfl⟩
      · rw [he] at h
        cases h

theorem renewLease_leases {m : MemCoordinator} (hi : m.Inv) {now : Time} {id id' : String} {ttl : Duration} {l : Lease}
    (h : (m.renewLease now id' ttl).1.leasesByID.lookup id = some l) :
    ∃ l₀, m.leasesByID.lookup id = some l₀ ∧ l₀.tunnelID = l.tunnelID ∧ l₀.relayID = l.relayID := by
  rcases MemCoordinator.renewLease_cases hi now id' ttl with ⟨s, hr, -⟩ | ⟨l₀, hl₀, -, hr⟩
  · rw [hr] at h
    exact ⟨l, h, rfl, rfl⟩
  · rw [hr] at h
    simp only [GoMap.lookup_insert_ite] at h
    split at h
    · rename_i hid
      cases h
      exact ⟨l₀, hid ▸ hl₀, rfl, rfl⟩
    · exact ⟨l, h, rfl, rfl⟩

theorem releaseLease_leases {m : MemCoordinator} (hi : m.Inv) {id id' : String} {l : Lease}
    (h : (m.releaseLease id').1.leasesByID.lookup id = some l) : m.leasesByID.lookup id = some l := by
  rcases MemCoordinator.releaseLease_cases hi id' with ⟨s, hr, -⟩ | ⟨l₀, -, hr⟩
  · rwa [hr] at h
  · rw [hr, MemCoordinator.drop_leases] at h
    split at h
    · cases h
    · exact h

theorem currentLease_leases {m : MemCoordinator} (hi : m.Inv) {now : Time} {t' id : String} {l : Lease}
    (h : (m.currentLease now t').1.leasesByID.lookup id = some l) : m.leasesByID.lookup id = some l := by
  unfold MemCoordinator.currentLease at h
  rcases MemCoordinator.currentLeaseLocked_cases hi t' now with ⟨l₀, -, -, hc⟩ | ⟨l₀, -, -, hc⟩ | ⟨-, hc⟩
  · rwa [hc] at h
  · rw [hc, MemCoordinator.drop_leases] at h
    split at h
    · cases h
    · exact h
  · rwa [hc] at h

theorem ran_coord (env : Env σ) (w : World σ) (c : ConnID) (r : Role) (fate : Fate) :
    CoordMove env w c (w.pc c r) (w.ran env c r fate) := by
  cases stepPc_coord env w c r fate (w.pc c r) with
  | same h hd => exact .same h hd
  | acquire a hp hd h => exact .acquire a hp hd h
  | renew t leaseID hp hd h => exact .renew t leaseID hp hd h
  | release leaseID hp hd h => exact .release leaseID hp hd h
  | current a hp hd h => exact .current a hp hd h

theorem ran_leases (hl : w.Leases env) {id : String} {l : Lease}
    (h : (w.ran env c r fate).server.coord.leasesByID.lookup id = some l) :
    (∃ l₀, w.server.coord.leasesByID.lookup id = some l₀ ∧ l₀.tunnelID = l.tunnelID ∧ l₀.relayID = l.relayID) ∨
      ∃ a, w.pc c r = .acquire a ∧ id = env.uuid w.drawn ∧ l.tunnelID = a.tunnelID ∧ l.relayID = w.home c := by
  cases ran_coord env w c r fate with
  | same hs => exact .inl ⟨l, hs ▸ h, rfl, rfl⟩
  | acquire a hp _ hs =>
    rw [hs] at h
    rcases acquireLease_leases hl.inv h with h | ⟨rfl, ht⟩
    · exact .inl h
    · exact .inr ⟨a, hp, rfl, ht⟩
  | renew t' leaseID _ _ hs =>
    rw [hs] at h
    exact .inl (renewLease_leases hl.inv h)
  | release leaseID _ _ hs =>
    rw [hs] at h
    exact .inl ⟨l, releaseLease_leases hl.inv h, rfl, rfl⟩
  | current a _ _ hs =>
    rw [hs] at h
    exact .inl ⟨l, currentLease_leases hl.inv h, rfl, rfl⟩

theorem quiet_leases (hl : w.Leases env) (hq : Quiet env w w') {id : String} {l : Lease}
    (h : w'.server.coord.leasesByID.lookup id = some l) : w.server.coord.leasesByID.lookup id = some l := by
  rcases hq.coord with hs | hs
  · exact hs ▸ h
  · rw [hs] at h
    simp only [Server.releaseExpiredLeases, (MemCoordinator.releaseExpiredLeases_spec hl.inv w.now).2] at h
    exact (Option.filter_eq_some_iff.1 h).1

/-! ## Ids are drawn -/

/-- Every lease id that a goroutine or an entry has is one of those drawn so far. -/
structure Drawn (env : Env σ) (w : World σ) : Prop where
  pcs : ∀ c r id, (w.pc c r).held = some id → ∃ k < w.drawn, env.uuid k = id
  entries : ∀ g t id, w.leaseOf g t = some id → ∃ k < w.drawn, env.uuid k = id

theorem drawn_init (env : Env σ) (start : Time) (store : σ) : Drawn env (.init env start store) := by
  refine ⟨fun c r id h => ?_, fun g t id h => ?_⟩
  · cases h
  · simp [World.leaseOf, World.init] at h

theorem ran_drawn_le (env : Env σ) (w : World σ) (c : ConnID) (r : Role) (fate : Fate) :
    w.drawn ≤ (w.ran env c r fate).drawn := by
  change w.drawn ≤ (stepPc env w c r fate (w.pc c r)).1.drawn
  cases stepPc_coord env w c r fate (w.pc c r) with
  | same _ hd => exact hd
  | acquire _ _ hd => omega
  | renew _ _ _ hd | release _ _ hd | current _ _ hd => omega

theorem acquire_drawn (env : Env σ) (w : World σ) (c : ConnID) (r : Role) (fate : Fate) {a : Auth}
    (hp : w.pc c r = .acquire a) : (w.ran env c r fate).drawn = w.drawn + 1 := by
  change (stepPc env w c r fate (w.pc c r)).1.drawn = w.drawn + 1
  rw [hp]
  simp only [stepPc, stepHandshake]
  split
  · simp [World.note]
  · split <;> simp [World.send]

theorem drawn_ran (hb : Base env w) (hi : Drawn env w) (hr : (w.pc c r).runnable = true) :
    Drawn env (w.ran env c r fate) := by
  have hle := ran_drawn_le env w c r fate
  have hmono : ∀ id, (∃ k < w.drawn, env.uuid k = id) → ∃ k < (w.ran env c r fate).drawn, env.uuid k = id :=
    fun id ⟨k, hk, he⟩ => ⟨k, by omega, he⟩
  refine ⟨fun c' r' id h => ?_, fun g t id h => ?_⟩
  · rcases ran_held env w c r fate hr h with h | ⟨rfl, rfl, h⟩
    · exact hmono id (hi.pcs c' r' id h)
    · cases hp : w.pc c' r' with
      | acquire a =>
        rw [hp] at h
        obtain ⟨l, hl, rfl⟩ := Option.map_eq_some_iff.1 h
        rcases acquisition_some hb.leases hl with he | ⟨l₀, hl₀, -⟩
        · exact ⟨w.drawn, by rw [acquire_drawn env w c' r' fate hp]; omega, he.symm⟩
        · exact hmono _ (hb.leases.drawn _ _ hl₀)
      | take t reason =>
        rw [hp] at h
        exact hmono id (hi.entries _ t id h)
      | respond a leaseID token | unroute a leaseID | drawToken a leaseID | routeLabels a leaseID rest =>
        rw [hp] at h
        exact hmono id (hi.pcs c' r' id (hp ▸ h))
      | dropRoutes t leaseID reason =>
        rw [hp] at h
        simp only [Pc.heldNext] at h
        split at h
        · exact hmono id (hi.pcs c' r' id (hp ▸ h))
        · cases h
      | _ => rw [hp] at h; cases h
  · rw [ran_leaseOf] at h
    split at h
    · rcases relet_some h with ⟨a, token, hp, -⟩ | h
      · exact hmono id (hi.pcs c r id (by rw [hp]; rfl))
      · exact hmono id (hi.entries g t id h)
    · exact hmono id (hi.entries g t id h)

theorem drawn_quiet (hi : Drawn env w) (hq : Quiet env w w') : Drawn env w' := by
  refine ⟨fun c r id h => ?_, fun g t id h => ?_⟩
  · rw [hq.drawn]
    exact hi.pcs c r id (quiet_held hq h)
  · rw [World.leaseOf, hq.gateway] at h
    rw [hq.drawn]
    exact hi.entries g t id h

theorem drawn_step (hb : Base env w) (hi : Drawn env w) {l : Label} (h : w.step env l = some w') : Drawn env w' := by
  rcases step_cases hb h with ⟨c, r, fate, -, hr, rfl⟩ | hq
  · exact drawn_ran hb hi hr
  · exact drawn_quiet hi hq

end TunnelEdge.Gateway
