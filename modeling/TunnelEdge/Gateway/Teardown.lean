import TunnelEdge.Gateway.Leftovers
/-!
# Teardown

What is left of a tunnel when `handleAgentConnection` returns. For an agent with one
connection and without session resume every path leaves nothing behind: no entry, no
host, no session, and the lease has been passed to `ReleaseLease` once.

Three layers carry the argument. `Isolated`: no other goroutine works on the tunnel,
and no resume token leads to it. `Placed`: the entry, the hosts and the session are
there only while a goroutine of the connection is still to remove them. `Custody`:
each lease of the tunnel is in one place, or it has been released.
-/

namespace TunnelEdge.Gateway

open GoLib Store Registry

variable {σ : Type} {env : Env σ} {w w' : World σ} {c c' : ConnID} {r : Role} {fate : Fate} {p q : Pc} {t : String}
  {present lasting : σ → String → Prop}

/-! ## The calls of a run -/

/-- A gateway got a lease for a tunnel, or passed a lease id to `ReleaseLease`. -/
inductive LeaseCall
  | acquired (t leaseID : String)
  | released (leaseID : String)
deriving DecidableEq, Repr

def leaseCalls (env : Env σ) (w : World σ) (l : Label) (_ : World σ) (calls : List LeaseCall) : List LeaseCall :=
  match l with
  | .run c r fate =>
    match w.pc c r with
    | .acquire a => ((w.acquisition env c fate a).map fun l => .acquired a.tunnelID l.leaseID).toList ++ calls
    | .unlease leaseID | .release _ leaseID _ => .released leaseID :: calls
    | _ => calls
  | _ => calls

/-! ## Where the lease is -/

/-- Before the lease of `t`: the handshake has not acquired one, or it works on another tunnel. -/
def Pc.unleased (t : String) : Pc → Bool
  | .idle | .quota _ | .routeDefault _ | .acquire _ | .lookup .. | .refuse .. => true
  | .unlease _ | .done | .failed _ => false
  | .cancelTimer .. | .drawNew .. | .attach .. | .storeNew .. | .reply .. => true
  | p => p.tunnel ≠ some t

def tally (leaseID : String) (o : Option String) : Nat := if o = some leaseID then 1 else 0

@[simp] theorem tally_none (leaseID : String) : tally leaseID none = 0 := rfl

theorem tally_ne {leaseID : String} {o : Option String} (h : o ≠ some leaseID) : tally leaseID o = 0 := if_neg h

/-- In how many places of `c` a lease id is: its two goroutines and the entry of the tunnel. -/
def World.places (w : World σ) (c : ConnID) (t leaseID : String) : Nat :=
  tally leaseID (w.pc c .main).held + tally leaseID (w.pc c .beat).held + tally leaseID (w.leaseOf (w.home c) t)

/-- Every lease that `c` got for `t` is in one of its places, or has been released; nobody else has it. -/
structure Custody (env : Env σ) (c : ConnID) (t : String) (w : World σ) (calls : List LeaseCall) : Prop where
  unleased : (w.pc c .main).unleased t = true →
    (∀ id l, w.server.coord.leasesByID.lookup id = some l → l.tunnelID ≠ t) ∧ ∀ id, .acquired t id ∉ calls
  drawn : ∀ id, .acquired t id ∈ calls ∨ .released id ∈ calls → ∃ k < w.drawn, env.uuid k = id
  others : ∀ id, .acquired t id ∈ calls → (∀ c' r, c' ≠ c ∨ r = .timer → (w.pc c' r).held ≠ some id) ∧
    (∀ g t', t' ≠ t → w.leaseOf g t' ≠ some id) ∧
    ∀ l, w.server.coord.leasesByID.lookup id = some l → l.tunnelID = t
  once : ∀ id, .acquired t id ∈ calls → w.places c t id + calls.count (.released id) = 1

section Calls

variable {calls : List LeaseCall} {id : String}

theorem mem_acquired (h : .acquired t id ∈ leaseCalls env w (.run c r fate) w' calls) :
    .acquired t id ∈ calls ∨
      ∃ a l, w.pc c r = .acquire a ∧ a.tunnelID = t ∧ w.acquisition env c fate a = some l ∧ l.leaseID = id := by
  cases hpc : w.pc c r with
  | acquire a =>
    simp only [leaseCalls, hpc, List.mem_append, Option.mem_toList, Option.map_eq_some_iff] at h
    rcases h with ⟨l, hl, he⟩ | h
    · cases he
      exact .inr ⟨a, l, rfl, rfl, hl, rfl⟩
    · exact .inl h
  | unlease id' | release t' id' reason =>
    simp only [leaseCalls, hpc, List.mem_cons, reduceCtorEq, false_or] at h
    exact .inl h
  | _ =>
    simp only [leaseCalls, hpc] at h
    exact .inl h

theorem mem_released (h : .released id ∈ leaseCalls env w (.run c r fate) w' calls) :
    .released id ∈ calls ∨ (w.pc c r).releases = some id := by
  cases hpc : w.pc c r with
  | acquire a =>
    simp only [leaseCalls, hpc, List.mem_append, Option.mem_toList, Option.map_eq_some_iff] at h
    rcases h with ⟨l, hl, he⟩ | h
    · cases he
    · exact .inl h
  | unlease id' | release t' id' reason =>
    simp only [leaseCalls, hpc, List.mem_cons, LeaseCall.released.injEq] at h
    rcases h with rfl | h
    · exact .inr rfl
    · exact .inl h
  | _ =>
    simp only [leaseCalls, hpc] at h
    exact .inl h

theorem count_released (env : Env σ) (w w' : World σ) (c : ConnID) (r : Role) (fate : Fate) (calls : List LeaseCall)
    (id : String) : (leaseCalls env w (.run c r fate) w' calls).count (.released id) =
      calls.count (.released id) + tally id (w.pc c r).releases := by
  cases hpc : w.pc c r with
  | acquire a =>
    simp only [leaseCalls, hpc, Pc.releases, tally, reduceCtorEq, if_false, Nat.add_zero]
    cases w.acquisition env c fate a <;> simp
  | unlease id' | release t' id' reason =>
    simp [leaseCalls, hpc, Pc.releases, tally, List.count_cons]
  | _ => simp [leaseCalls, hpc, Pc.releases, tally]

end Calls

theorem heldNext_cases {x : String} (h : p.heldNext env w c fate = some x) :
    p.held = some x ∨ (∃ a l, p = .acquire a ∧ w.acquisition env c fate a = some l ∧ l.leaseID = x) ∨
      ∃ t reason, p = .take t reason ∧ w.leaseOf (w.home c) t = some x := by
  cases p with
  | acquire a =>
    obtain ⟨l, hl, hx⟩ := Option.map_eq_some_iff.1 h
    exact .inr (.inl ⟨a, l, rfl, hl, hx⟩)
  | take t reason => exact .inr (.inr ⟨t, reason, rfl, h⟩)
  | dropRoutes t leaseID reason =>
    simp only [Pc.heldNext] at h
    split at h
    · exact .inl h
    · cases h
  | respond | unroute | drawToken | routeLabels => exact .inl h
  | _ => cases h

theorem places_move (env : Env σ) (w : World σ) (c : ConnID) (fate : Fate) {id : String} (hid : id ≠ "")
    (hacq : ∀ a, p ≠ .acquire a)
    (hinst : ∀ a leaseID token, p = .install a leaseID token → a.tunnelID = t ∧ w.leaseOf (w.home c) t = none)
    (htake : ∀ t' reason, p = .take t' reason → t' ≠ t → w.leaseOf (w.home c) t' ≠ some id) :
    tally id (p.heldNext env w c fate) + tally id (p.relet t (w.leaseOf (w.home c) t)) + tally id p.releases =
      tally id p.held + tally id (w.leaseOf (w.home c) t) := by
  cases p with
  | acquire a => exact absurd rfl (hacq a)
  | install a leaseID token =>
    obtain ⟨ha, hnone⟩ := hinst a leaseID token rfl
    simp [Pc.heldNext, Pc.relet, Pc.held, Pc.releases, ha, hnone]
  | take t' reason =>
    by_cases ht : t' = t
    · simp [Pc.heldNext, Pc.relet, Pc.held, Pc.releases, ht]
    · simp [Pc.heldNext, Pc.relet, Pc.held, Pc.releases, ht, tally_ne (htake t' reason rfl ht)]
  | dropRoutes t' leaseID reason =>
    by_cases he : leaseID = ""
    · have hne : some leaseID ≠ some id := by simpa [he] using Ne.symm hid
      simp [Pc.heldNext, Pc.relet, Pc.held, Pc.releases, he, tally_ne (he ▸ hne)]
    · simp [Pc.heldNext, Pc.relet, Pc.held, Pc.releases, he]
  | unlease leaseID | release t' leaseID reason =>
    simp [Pc.heldNext, Pc.relet, Pc.held, Pc.releases, Nat.add_comm]
  | _ => simp [Pc.heldNext, Pc.relet, Pc.held, Pc.releases]

theorem routeNext_leased {cfg : Config} {a : Auth} (ha : a.tunnelID = t) (leaseID : String) (rest : List TunnelRoute) :
    (routeNext cfg a leaseID rest).unleased t = false := by
  unfold routeNext
  split
  · split <;> simp [Pc.unleased, Pc.tunnel, ha]
  · simp [Pc.unleased, Pc.tunnel, ha]

theorem stepPc_leased (hr : p.runnable = true)
    (h : p.unleased t = false ∨ ∃ a, p = .acquire a ∧ a.tunnelID = t) :
    (stepPc env w c r fate p).2.unleased t = false := by
  obtain ⟨q, hgoes, hq | ⟨he, hq⟩ | ⟨hwait, -⟩⟩ := stepPc_goes env w c r fate p <;> rw [hgoes]
  · cases hq with
    | leased a | leasedDefault a | unleased a =>
      have ha : a.tunnelID = t := by simpa [Pc.unleased] using h
      first | exact routeNext_leased ha .. | simp [Pc.unleased, Pc.tunnel, ha]
    | routedLabel a =>
      have ha : a.tunnelID = t := by simpa [Pc.unleased, Pc.tunnel] using h
      exact routeNext_leased ha ..
    | admitted | routed | found | unknown | fullAuth | cancelTimer | drawNew | gone | attachStore | attachReply =>
      simp [Pc.unleased] at h
    | failed | unrouted => rfl
    | _ => exact h.resolve_right (by simp)
  · cases hq with
    | early _ _ hp => cases he.symm.trans hp
    | storeNew | reply => simp [Pc.unleased] at h
    | done | failed => rfl
    | _ => exact h.resolve_right (by simp)
  · cases hr.symm.trans hwait

section CustodyRan

variable {calls : List LeaseCall} {id : String}

theorem Isolated.acquirer (hb : Base env w) (hi : Isolated env lasting c t w) {a : Auth}
    (hpc : w.pc c' r = .acquire a) (ha : a.tunnelID = t) : c' = c ∧ r = .main :=
  ⟨(hi.actor (show (w.pc c' r).tunnel = some t by rw [hpc, ← ha]; rfl)).1,
    (fits_of_early rfl).1 (hpc ▸ hb.fits c' r)⟩

theorem Custody.fresh (hb : Base env w) (hc : Custody env c t w calls) {a : Auth} (hpc : w.pc c .main = .acquire a)
    (ha : a.tunnelID = t) {l : Lease} (hl : w.acquisition env c fate a = some l) : l.leaseID = env.uuid w.drawn := by
  rcases acquisition_some hb.leases hl with h | ⟨l₀, hl₀, ht, -⟩
  · exact h
  · exact absurd (ht.trans ha) ((hc.unleased (by rw [hpc]; rfl)).1 _ l₀ hl₀)

theorem uuid_ne_drawn {n : Nat} (h : ∃ k < n, env.uuid k = id) : id ≠ env.uuid n := by
  rintro rfl
  obtain ⟨k, hk, he⟩ := h
  have := env.uuid_inj he
  omega

theorem Custody.unleased_ran (hb : Base env w) (hi : Isolated env lasting c t w) (hc : Custody env c t w calls)
    (hr : (w.pc c' r).runnable = true) (h : ((w.ran env c' r fate).pc c .main).unleased t = true) :
    (∀ id l, (w.ran env c' r fate).server.coord.leasesByID.lookup id = some l → l.tunnelID ≠ t) ∧
      ∀ id, .acquired t id ∉ leaseCalls env w (.run c' r fate) w' calls := by
  have hacq : ∀ a, w.pc c' r = .acquire a → a.tunnelID ≠ t := by
    intro a hpc ha
    obtain ⟨rfl, rfl⟩ := hi.acquirer hb hpc ha
    rw [ran_pc_self env rfl, stepPc_leased hr (.inr ⟨a, hpc, ha⟩)] at h
    cases h
  have hold : (w.pc c .main).unleased t = true := by
    rcases ran_goroutines env w c' r fate c .main with h1 | ⟨rfl, rfl, h1⟩ | ⟨-, h1, -⟩
    · exact h1 ▸ h
    · by_contra hn
      rw [Bool.not_eq_true] at hn
      rw [h1, stepPc_leased hr (.inl hn)] at h
      cases h
    · cases h1
  obtain ⟨hreg, hcalls⟩ := hc.unleased hold
  refine ⟨fun id l hl => ?_, fun id hm => ?_⟩
  · rcases ran_leases hb.leases hl with ⟨l₀, hl₀, ht, -⟩ | ⟨a, hpc, -, ht, -⟩
    · exact ht ▸ hreg id l₀ hl₀
    · exact ht ▸ hacq a hpc
  · rcases mem_acquired hm with h1 | ⟨a, l, hpc, ha, -⟩
    · exact hcalls id h1
    · exact hacq a hpc ha

theorem Custody.drawn_ran (hb : Base env w) (hd : Drawn env w) (hc : Custody env c t w calls)
    (hr : (w.pc c' r).runnable = true) (h : .acquired t id ∈ leaseCalls env w (.run c' r fate) w' calls ∨
      .released id ∈ leaseCalls env w (.run c' r fate) w' calls) :
    ∃ k < (w.ran env c' r fate).drawn, env.uuid k = id := by
  have hle := ran_drawn_le env w c' r fate
  have hmono : (∃ k < w.drawn, env.uuid k = id) → ∃ k < (w.ran env c' r fate).drawn, env.uuid k = id :=
    fun ⟨k, hk, he⟩ => ⟨k, by omega, he⟩
  rcases h with h | h
  · rcases mem_acquired h with h1 | ⟨a, l, hpc, -, hl, rfl⟩
    · exact hmono (hc.drawn id (.inl h1))
    · refine (Gateway.drawn_ran hb hd hr).pcs c' r _ ?_
      rw [ran_pc_self env hpc, stepPc_held env w c' r fate _ rfl]
      simp [Pc.heldNext, hl]
  · rcases mem_released h with h1 | h1
    · exact hmono (hc.drawn id (.inr h1))
    · exact hmono (hd.pcs c' r id (held_of_releases h1))

theorem Custody.others_ran (hb : Base env w) (hi : Isolated env lasting c t w) (hc : Custody env c t w calls)
    (hr : (w.pc c' r).runnable = true) (h : .acquired t id ∈ calls) :
    (∀ c₁ r₁, c₁ ≠ c ∨ r₁ = .timer → ((w.ran env c' r fate).pc c₁ r₁).held ≠ some id) ∧
      (∀ g t', t' ≠ t → (w.ran env c' r fate).leaseOf g t' ≠ some id) ∧
      ∀ l, (w.ran env c' r fate).server.coord.leasesByID.lookup id = some l → l.tunnelID = t := by
  obtain ⟨hheld, hentries, hreg⟩ := hc.others id h
  have hfresh := uuid_ne_drawn (hc.drawn id (.inl h))
  refine ⟨fun c₁ r₁ hother hx => ?_, fun g t' ht hx => ?_, fun l hl => ?_⟩
  · rcases ran_held env w c' r fate hr hx with h1 | ⟨rfl, rfl, h1⟩
    · exact hheld c₁ r₁ hother h1
    · have htunnel := (concerns_iff.1 (hi.others c₁ r₁ hother)).1
      rcases heldNext_cases h1 with h2 | ⟨a, l, hpc, hl, rfl⟩ | ⟨t', reason, hpc, h2⟩
      · exact hheld c₁ r₁ hother h2
      · rcases acquisition_some hb.leases hl with h3 | ⟨l₀, hl₀, ht, -⟩
        · exact hfresh h3
        · rw [hpc] at htunnel
          exact htunnel (congrArg some (ht.symm.trans (hreg l₀ hl₀)))
      · rw [hpc] at htunnel
        exact hentries _ t' (fun ht => htunnel (congrArg some ht)) h2
  · rw [ran_leaseOf] at hx
    split at hx
    · cases hpc : w.pc c' r with
      | install a leaseID token =>
        rw [hpc] at hx
        simp only [Pc.relet] at hx
        split at hx
        · rename_i ha
          have hx' : (w.pc c' r).held = some id := by rw [hpc]; exact hx
          by_cases hother : c' ≠ c ∨ r = .timer
          · exact hheld c' r hother hx'
          · -- the handshake of `c` works on another tunnel, so it has no lease of `t`
            rw [not_or, not_ne_iff] at hother
            obtain ⟨rfl, -⟩ := hother
            have hmain : r = .main := (fits_of_early rfl).1 (hpc ▸ hb.fits c' r)
            subst hmain
            refine (hc.unleased ?_).2 id h
            rw [hpc]
            simp [Pc.unleased, Pc.tunnel, ha, ht]
        · exact hentries g t' ht hx
      | take t₁ reason =>
        rw [hpc] at hx
        simp only [Pc.relet] at hx
        split at hx
        · cases hx
        · exact hentries g t' ht hx
      | _ =>
        rw [hpc] at hx
        exact hentries g t' ht hx
    · exact hentries g t' ht hx
  · rcases ran_leases hb.leases hl with ⟨l₀, hl₀, ht, -⟩ | ⟨a, -, hid, -⟩
    · exact ht ▸ hreg l₀ hl₀
    · exact absurd hid hfresh

theorem Custody.others_fresh (hb : Base env w) (hd : Drawn env w) (hc : Custody env c t w calls) {a : Auth}
    (hpc : w.pc c .main = .acquire a) (ha : a.tunnelID = t) {l : Lease} (hl : w.acquisition env c fate a = some l) :
    (∀ c₁ r₁, c₁ ≠ c ∨ r₁ = .timer → ((w.ran env c .main fate).pc c₁ r₁).held ≠ some l.leaseID) ∧
      (∀ g t', t' ≠ t → (w.ran env c .main fate).leaseOf g t' ≠ some l.leaseID) ∧
      ∀ l', (w.ran env c .main fate).server.coord.leasesByID.lookup l.leaseID = some l' → l'.tunnelID = t := by
  have hfresh := hc.fresh hb hpc ha hl
  refine ⟨fun c₁ r₁ hother hx => ?_, fun g t' ht hx => ?_, fun l' hl' => ?_⟩
  · rcases ran_held env w c .main fate (by rw [hpc]; rfl) hx with h1 | ⟨rfl, rfl, -⟩
    · exact uuid_ne_drawn (hd.pcs c₁ r₁ _ h1) hfresh
    · simp at hother
  · rw [ran_leaseOf, hpc] at hx
    have hx' : w.leaseOf g t' = some l.leaseID := by
      split at hx <;> exact hx
    exact uuid_ne_drawn (hd.entries g t' _ hx') hfresh
  · rcases ran_leases hb.leases hl' with ⟨l₀, hl₀, -⟩ | ⟨a', hpc', -, ht, -⟩
    · exact absurd hfresh (uuid_ne_drawn (hb.leases.drawn _ l₀ hl₀))
    · rw [hpc] at hpc'
      cases hpc'
      exact ht.trans ha

theorem Custody.once_fresh (hb : Base env w) (hpl : Placed present c t w) (hc : Custody env c t w calls) {a : Auth}
    (hpc : w.pc c .main = .acquire a) (ha : a.tunnelID = t) {l : Lease} (hl : w.acquisition env c fate a = some l) :
    (w.ran env c .main fate).places c t l.leaseID +
      (leaseCalls env w (.run c .main fate) w' calls).count (.released l.leaseID) = 1 := by
  have hfresh := hc.fresh hb hpc ha hl
  have hmain : ((w.ran env c .main fate).pc c .main).held = some l.leaseID := by
    rw [ran_pc_self env hpc, stepPc_held env w c .main fate _ rfl]
    simp [Pc.heldNext, hl]
  have hbeat : ((w.ran env c .main fate).pc c .beat).held = none := by
    have hidle := hpl.unstarted (by rw [hpc]; rfl)
    rcases ran_goroutines env w c .main fate c .beat with h1 | ⟨-, h1, -⟩ | ⟨-, -, t', h1, -⟩
    · rw [h1, hidle]
      rfl
    · cases h1
    · rw [hpc] at h1
      cases h1
  have hentry : (w.ran env c .main fate).leaseOf (w.home c) t = none := by
    rw [ran_leaseOf, if_pos rfl, hpc]
    by_contra hne
    have hk := (hpl.entry (w.home c) hne).2
    rw [hpc] at hk
    cases hk
  have hcount : calls.count (.released l.leaseID) = 0 := by
    refine List.count_eq_zero.2 fun hm => ?_
    exact uuid_ne_drawn (hc.drawn _ (.inr hm)) hfresh
  rw [count_released, hcount, hpc, World.places, hmain, hbeat, (ran_keeps env w c .main fate).2.2.1, hentry]
  simp [tally, Pc.releases]

/-- What a step of `c` moves from one of its places stays in its places or is released. -/
theorem Custody.once_own (hb : Base env w) (hpl : Placed present c t w) (hc : Custody env c t w calls)
    (hr' : r ≠ .timer)
    (hr : (w.pc c r).runnable = true) (h : .acquired t id ∈ calls) :
    (w.ran env c r fate).places c t id + (leaseCalls env w (.run c r fate) w' calls).count (.released id) = 1 := by
  obtain ⟨-, hentries, -⟩ := hc.others id h
  have hleased : (w.pc c .main).unleased t = false := by
    by_contra hn
    rw [Bool.not_eq_false] at hn
    exact (hc.unleased hn).2 id h
  have hid : id ≠ "" := by
    obtain ⟨k, -, rfl⟩ := hc.drawn id (.inl h)
    exact env.uuid_ne k
  have hmain : (w.pc c r).early = true → r = .main := fun he => (fits_of_early he).1 (hb.fits c r)
  have hmove : tally id ((w.pc c r).heldNext env w c fate) + tally id ((w.pc c r).relet t (w.leaseOf (w.home c) t)) +
      tally id (w.pc c r).releases = tally id (w.pc c r).held + tally id (w.leaseOf (w.home c) t) := by
    refine places_move env w c fate hid (fun a hpc => ?_) (fun a leaseID token hpc => ?_) fun t' reason hpc ht => ?_
    · obtain rfl := hmain (by rw [hpc]; rfl)
      rw [hpc] at hleased
      cases hleased
    · obtain rfl := hmain (by rw [hpc]; rfl)
      have ha : a.tunnelID = t := by simpa [hpc, Pc.unleased, Pc.tunnel] using hleased
      refine ⟨ha, ?_⟩
      by_contra hne
      have hk := (hpl.entry _ hne).2
      rw [hpc] at hk
      cases hk
    · exact hentries _ t' ht
  have hself : ((w.ran env c r fate).pc c r).held = (w.pc c r).heldNext env w c fate := by
    rw [ran_pc_self env rfl, stepPc_held env w c r fate _ hr]
  have honce := hc.once id h
  have hkeep : ∀ r', r' ≠ r → ((w.ran env c r fate).pc c r').held = (w.pc c r').held := by
    intro r' hne
    rcases hpl.stays hb c r fate (fun h => hne h.2) with h1 | ⟨h1, t', h2⟩
    · rw [h1]
    · rw [h1, h2]
      rfl
  simp only [World.places, (ran_keeps env w c r fate).2.2.1, count_released, ran_leaseOf, if_true] at honce ⊢
  cases r with
  | timer => exact absurd rfl hr'
  | beat =>
    rw [hself, hkeep .main (by simp)]
    omega
  | main =>
    rw [hself, hkeep .beat (by simp)]
    omega

theorem Custody.once_other (hb : Base env w) (hi : Isolated env lasting c t w) (hpl : Placed present c t w)
    (hc : Custody env c t w calls) (hother : c' ≠ c ∨ r = .timer) (h : .acquired t id ∈ calls) :
    (w.ran env c' r fate).places c t id + (leaseCalls env w (.run c' r fate) w' calls).count (.released id) = 1 := by
  have htunnel := (concerns_iff.1 (hi.others c' r hother)).1
  have hkeep : ∀ r', r' ≠ .timer → ((w.ran env c' r fate).pc c r').held = (w.pc c r').held := by
    intro r' hne
    have hnot : ¬ (c = c' ∧ r' = r) := fun h => hother.elim (fun hc => hc h.1.symm) fun hr => hne (h.2.trans hr)
    rcases hpl.stays hb c' r fate hnot with h1 | ⟨h1, t', h2⟩
    · rw [h1]
    · rw [h1, h2]
      rfl
  have hentry : (w.ran env c' r fate).leaseOf (w.home c) t = w.leaseOf (w.home c) t := by
    rw [ran_leaseOf]
    split
    · cases hpc : w.pc c' r with
      | install a leaseID token =>
        rw [hpc] at htunnel
        exact if_neg fun ha => htunnel (congrArg some ha)
      | take t' reason =>
        rw [hpc] at htunnel
        exact if_neg fun ht => htunnel (congrArg some ht)
      | _ => rfl
    · rfl
  have hcount : tally id (w.pc c' r).releases = 0 :=
    tally_ne fun hrel => (hc.others id h).1 c' r hother (held_of_releases hrel)
  rw [count_released, hcount, World.places, hkeep .main (by simp), hkeep .beat (by simp),
    (ran_keeps env w c' r fate).2.2.1, hentry]
  exact hc.once id h

theorem custody_ran (hb : Base env w) (hd : Drawn env w) (hi : Isolated env lasting c t w)
    (hpl : Placed present c t w) (hc : Custody env c t w calls) (hr : (w.pc c' r).runnable = true) :
    Custody env c t (w.ran env c' r fate) (leaseCalls env w (.run c' r fate) w' calls) := by
  refine ⟨hc.unleased_ran hb hi hr, fun id h => hc.drawn_ran hb hd hr h, fun id h => ?_, fun id h => ?_⟩
  · rcases mem_acquired h with h1 | ⟨a, l, hpc, ha, hl, rfl⟩
    · exact hc.others_ran hb hi hr h1
    · obtain ⟨rfl, rfl⟩ := hi.acquirer hb hpc ha
      exact hc.others_fresh hb hd hpc ha hl
  · rcases mem_acquired h with h1 | ⟨a, l, hpc, ha, hl, rfl⟩
    · by_cases hother : c' ≠ c ∨ r = .timer
      · exact hc.once_other hb hi hpl hother h1
      · rw [not_or, not_ne_iff] at hother
        obtain ⟨rfl, hne⟩ := hother
        exact hc.once_own hb hpl hne hr h1
    · obtain ⟨rfl, rfl⟩ := hi.acquirer hb hpc ha
      exact hc.once_fresh hb hpl hpc ha hl

theorem outside_unleased (h : Pc.Outside r p q) (hq : q.unleased t = true) : p.unleased t = true := by
  cases h with
  | accept => rfl
  | quit => cases hq
  | _ => simpa [Pc.unleased, Pc.tunnel] using hq

theorem custody_quiet (hb : Base env w) (hc : Custody env c t w calls) (hq : Quiet env w w') :
    Custody env c t w' calls := by
  have hheld : ∀ r, r ≠ .timer → (w'.pc c r).held = (w.pc c r).held := by
    intro r hr
    rcases hq.pc c r with h | h | ⟨h, -⟩
    · rw [h]
    · rw [outside_held h]
      generalize w'.pc c r = q at h
      generalize w.pc c r = p at h
      cases h <;> rfl
    · exact absurd h hr
  refine ⟨fun h => ?_, fun id h => hq.drawn ▸ hc.drawn id h, fun id h => ?_, fun id h => ?_⟩
  · have hold : (w.pc c .main).unleased t = true := by
      rcases hq.pc c .main with h1 | h1 | ⟨h1, -⟩
      · exact h1 ▸ h
      · exact outside_unleased h1 h
      · cases h1
    obtain ⟨hreg, hcalls⟩ := hc.unleased hold
    exact ⟨fun id l hl => hreg id l (quiet_leases hb.leases hq hl), hcalls⟩
  · obtain ⟨hpcs, hentries, hreg⟩ := hc.others id h
    refine ⟨fun c₁ r₁ hother hx => hpcs c₁ r₁ hother (quiet_held hq hx), fun g t' ht => ?_, fun l hl => ?_⟩
    · rw [hq.leaseOf_eq]
      exact hentries g t' ht
    · exact hreg l (quiet_leases hb.leases hq hl)
  · -- with a lease, `c` has been accepted
    have hmem : c ∈ w.conns := by
      by_contra hn
      refine (hc.unleased ?_).2 id h
      rw [(hb.idle c hn).1]
      rfl
    rw [World.places, hheld .main (by simp), hheld .beat (by simp), (hq.conns c hmem).2, hq.leaseOf_eq]
    exact hc.once id h

end CustodyRan

/-! ## The end of the connection -/

structure Clear (env : Env σ) (present : σ → String → Prop) (w : World σ) (t : String) : Prop where
  entry : ∀ g, (w.gateway g).tunnels.lookup t = none
  hosts : ∀ g host label, (w.gateway g).router.lookupWithLabel host ≠ some (t, label)
  lease : ∀ l, ¬ w.server.coord.Holds t l
  session : ¬ present w.server.store t
  goroutines : ∀ c r, (w.pc c r).concerns (env.config (w.home c)) t = false
  timers : ∀ c due, w.timer c ≠ .armed t due

/-- `handleAgentConnection` has returned: it failed, or both loops have ended. -/
def World.returned (w : World σ) (c : ConnID) : Bool :=
  (match w.pc c .main with
    | .done | .failed _ => true
    | _ => false) &&
  match w.pc c .beat with
    | .idle | .done => true
    | _ => false

structure Tidy (env : Env σ) (present lasting : σ → String → Prop) (c : ConnID) (t : String) (w : World σ)
    (calls : List LeaseCall) : Prop where
  base : Base env w
  drawn : Drawn env w
  isolated : Isolated env lasting c t w
  placed : Placed present c t w
  custody : Custody env c t w calls

theorem tidy_clear (hp : env.repo.Presence present lasting) (hb : Base env w) (hd : Drawn env w)
    (hc : c ∉ w.conns) (h : Clear env present w t) : Tidy env present lasting c t w [] := by
  have hidle := (hb.idle c hc).1
  refine ⟨hb, hd, ⟨fun c' r _ => h.goroutines c' r, h.timers, fun hne => absurd (hidle .main) hne, ?_, ?_⟩, ?_, ?_⟩
  · rw [hidle]
    rfl
  · exact fun hl => h.session (hp.lasts _ _ hl)
  · refine ⟨fun g hl => absurd (leaseOf_none.2 (h.entry g)) hl, fun g host label hl => absurd hl (h.hosts g host label),
      fun hs => absurd hs h.session, fun a ha => ?_, fun _ => hidle .beat, ?_⟩
    · rw [hidle] at ha
      cases ha
    · rw [hidle]
      rfl
  · refine ⟨fun _ => ⟨fun id l hl ht => ?_, by simp⟩, by simp, by simp, by simp⟩
    exact h.lease l (ht ▸ hb.leases.inv.holds hl)

theorem tidy_step (hp : env.repo.Presence present lasting) {calls : List LeaseCall}
    (ht : Tidy env present lasting c t w calls) {l : Label} (hok : soleConnection env c t w l = true)
    (h : w.step env l = some w') : Tidy env present lasting c t w' (leaseCalls env w l w' calls) := by
  obtain ⟨hb, hd, hi, hpl, hc⟩ := ht
  rcases step_kinds hb h with ⟨c', r, fate, rfl, hr, rfl⟩ | ⟨c', g, frames, rfl, hn⟩ | ⟨hrun, hq⟩
  · exact ⟨base_ran hb hr, drawn_ran hb hd hr, isolated_ran hp hb hi hr, placed_ran hp hb hi hpl hok hr,
      custody_ran hb hd hi hpl hc hr⟩
  · exact ⟨base_quiet hb hn.quiet, drawn_quiet hd hn.quiet, isolated_accept hp hb hi hn hok,
      placed_accept hp hb hpl hn, custody_quiet hb hc hn.quiet⟩
  · have hcalls : leaseCalls env w l w' calls = calls := by
      cases l with
      | run c' r fate => exact absurd rfl (hrun c' r fate)
      | _ => rfl
    rw [hcalls]
    exact ⟨base_quiet hb hq.quiet, drawn_quiet hd hq.quiet, isolated_prompt hp hi hq, placed_prompt hp hi hpl hq,
      custody_quiet hb hc hq.quiet⟩

theorem run_tidy (hp : env.repo.Presence present lasting) {start : Time} {store : σ} {ls₀ : List Label} {w₀ : World σ}
    (h₀ : Run (World.step env) (fun _ _ => True) (.init env start store) ls₀ w₀) (hc : c ∉ w₀.conns)
    (hclear : Clear env present w₀ t) {ls : List Label} {calls : List LeaseCall}
    (h : Run (tracked (World.step env) (leaseCalls env)) (fun s l => soleConnection env c t s.1 l = true) (w₀, []) ls
      (w, calls)) : Tidy env present lasting c t w calls := by
  obtain ⟨hb₀, hd₀⟩ := run_inv (Drawn env) (drawn_init env start store)
    (fun _ _ _ hb hd _ hst => drawn_step hb hd hst) h₀
  refine h.inv (fun s => Tidy env present lasting c t s.1 s.2) (tidy_clear hp hb₀ hd₀ hc hclear) ?_
  intro s l s' ht hok hst
  obtain ⟨hst, hcalls⟩ := tracked_some hst
  rw [hcalls]
  exact tidy_step hp ht hok hst

/-! ## After the end -/

theorem returned_main (h : w.returned c = true) (t : String) :
    (w.pc c .main).keeps t = false ∧ (w.pc c .main).held = none ∧ (w.pc c .main).removing t = false ∧
      ∀ d host, (w.pc c .main).routing t d host = false := by
  simp only [World.returned, Bool.and_eq_true] at h
  have h1 := h.1
  split at h1
  all_goals first | cases h1; done | (rename_i hpc; rw [hpc]; exact ⟨rfl, rfl, rfl, fun _ _ => rfl⟩)

theorem returned_beat (h : w.returned c = true) (t : String) :
    (w.pc c .beat).held = none ∧ (w.pc c .beat).removing t = false := by
  simp only [World.returned, Bool.and_eq_true] at h
  have h1 := h.2
  split at h1
  all_goals first | cases h1; done | (rename_i hpc; rw [hpc]; exact ⟨rfl, rfl⟩)

theorem returned_removing (hi : Isolated env lasting c t w) (h : w.returned c = true) (r : Role) :
    (w.pc c r).removing t = false := by
  cases r with
  | main => exact (returned_main h t).2.2.1
  | beat => exact (returned_beat h t).2
  | timer =>
    have htimer := (concerns_iff.1 (hi.others c .timer (.inr rfl))).1
    cases hpc : w.pc c .timer <;> rw [hpc] at htimer <;> simp_all [Pc.removing, Pc.tunnel]

theorem returned_entry (hpl : Placed present c t w) (h : w.returned c = true) (g : String) :
    w.leaseOf g t = none := by
  by_contra hne
  have hk := (hpl.entry g hne).2
  rw [(returned_main h t).1] at hk
  cases hk

theorem returned_session (hi : Isolated env lasting c t w) (hpl : Placed present c t w)
    (h : w.returned c = true) : ¬ present w.server.store t := by
  intro hs
  rcases hpl.session hs with h1 | ⟨r, h1⟩
  · exact h1 (returned_entry hpl h _)
  · rw [returned_removing hi h r] at h1
    cases h1

theorem returned_hosts (hi : Isolated env lasting c t w) (hpl : Placed present c t w) (h : w.returned c = true)
    (g host label : String) : (w.gateway g).router.lookupWithLabel host ≠ some (t, label) := by
  intro hl
  rcases (hpl.hosts g host label hl).2 with h1 | h1 | ⟨r, leaseID, reason, h1⟩
  · rw [(returned_main h t).2.2.2] at h1
    cases h1
  · exact h1 (returned_entry hpl h g)
  · have h2 := returned_removing hi h r
    rw [h1] at h2
    simp [Pc.removing] at h2

/-- Once `handleAgentConnection` has returned for the only connection of an agent, nothing is left of its tunnel: no
entry and no host on any gateway and no session in the registry; and every lease that was acquired for it has been
passed to `ReleaseLease` exactly once. -/
theorem teardown_complete (hp : env.repo.Presence present lasting) {start : Time} {store : σ} {ls₀ : List Label}
    {w₀ : World σ} (h₀ : Run (World.step env) (fun _ _ => True) (.init env start store) ls₀ w₀) (hc : c ∉ w₀.conns)
    (hclear : Clear env present w₀ t) {ls : List Label} {calls : List LeaseCall}
    (h : Run (tracked (World.step env) (leaseCalls env)) (fun s l => soleConnection env c t s.1 l = true) (w₀, []) ls
      (w, calls)) (hret : w.returned c = true) :
    (∀ g, (w.gateway g).tunnels.lookup t = none) ∧
      (∀ g host label, (w.gateway g).router.lookupWithLabel host ≠ some (t, label)) ∧
      (∀ leaseID, .acquired t leaseID ∈ calls → calls.count (.released leaseID) = 1) ∧
      (∀ sess, env.repo.get w.server.store t ≠ .ok sess) ∧
      ∀ token sess, env.repo.getResumable w.server.store w.now token = .ok sess → sess.tunnelID ≠ t := by
  obtain ⟨-, -, hi, hpl, hcust⟩ := run_tidy hp h₀ hc hclear h
  refine ⟨fun g => leaseOf_none.1 (returned_entry hpl hret g), returned_hosts hi hpl hret, fun id hid => ?_,
    fun sess hs => ?_, fun token sess hs => ?_⟩
  · have honce := hcust.once id hid
    rw [World.places, (returned_main hret t).2.1, (returned_beat hret t).1, returned_entry hpl hret] at honce
    simpa using honce
  · exact returned_session hi hpl hret (hp.get _ _ _ hs)
  · exact hi.lookup hp hs

/-- One connection from its handshake to the end of both loops: it is lost, and `agentStreamLoop` removes the tunnel. -/
def wholeLife : List Label :=
  connect 0 "g1" ++ [.tick 0] ++ List.replicate 4 (.run 0 .beat .ok) ++ [.lost 0] ++
    List.replicate 4 (.run 0 .main .ok) ++ [.quit 0]

theorem clear_init (env : Env Memory) (start : Time) (t : String) :
    Clear env Memory.present (.init env start ∅) t := by
  refine ⟨fun _ => by simp [World.init], fun _ _ _ => by simp [World.init, TunnelRouter.lookupWithLabel], ?_, ?_,
    fun _ _ => rfl, fun _ _ h => by cases h⟩
  · rintro l ⟨hl, -⟩
    simp [World.init, MemCoordinator.new] at hl
  · rintro ⟨key, sess, hl, -⟩
    simp [World.init] at hl

theorem teardown_complete_wholeLife :
    ∃ w calls, Run (tracked (World.step (demo Memory.repo false)) (leaseCalls (demo Memory.repo false)))
        (fun s l => soleConnection (demo Memory.repo false) 0 "t-a" s.1 l = true)
        (.init (demo Memory.repo false) 0 ∅, []) wholeLife (w, calls) ∧ w.returned 0 = true ∧
      .acquired "t-a" "u" ∈ calls ∧ calls.count (.released "u") = 1 ∧
      (∀ g, (w.gateway g).tunnels.lookup "t-a" = none) ∧ ∀ sess, Memory.repo.get w.server.store "t-a" ≠ .ok sess := by
  obtain ⟨⟨w, calls⟩, hr, hret, hacq⟩ := run_checked_any (P := fun s : World Memory × List LeaseCall =>
    s.1.returned 0 = true ∧ .acquired "t-a" "u" ∈ s.2)
    (show (exec (checked (tracked (World.step (demo Memory.repo false)) (leaseCalls (demo Memory.repo false)))
        fun s l => soleConnection (demo Memory.repo false) 0 "t-a" s.1 l)
      (.init (demo Memory.repo false) 0 ∅, []) wholeLife).any _ = true by decide +kernel)
  obtain ⟨hentry, -, honce, hget, -⟩ :=
    teardown_complete Memory.presence .nil (by simp [World.init]) (clear_init _ 0 "t-a") hr hret
  exact ⟨w, calls, hr, hret, hacq, honce _ hacq, hentry, hget⟩

end TunnelEdge.Gateway
