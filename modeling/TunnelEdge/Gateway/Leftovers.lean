import TunnelEdge.Gateway.SoleConnection
/-!
# What is left to remove

The entry of a tunnel, its hosts and its session are there only while a goroutine of
the connection is still to remove them. The failure paths of the handshake undo what
it has done so far, each in its own way; once the tunnel is in the map, whichever
goroutine takes it out does the rest.
-/

namespace TunnelEdge.Gateway

open GoLib Store Registry

variable {σ : Type} {env : Env σ} {w w' : World σ} {c c' : ConnID} {r : Role} {fate : Fate} {p q : Pc} {t : String}
  {present lasting : σ → String → Prop}

/-- The goroutine of the connection is still to remove the tunnel. -/
def Pc.keeps (t : String) : Pc → Bool
  | .storeToken a _ | .register a => a.tunnelID = t
  | .serving t' | .pulse t' | .take t' _ => t' = t
  | _ => false

/-- The handshake may have registered this host: the default host without labels, any host with them. -/
def Pc.routing (t defaultHost host : String) : Pc → Bool
  | .acquire a | .unrouteDefault a => a.tunnelID = t && !a.v2 && host = defaultHost
  | .routeLabels a _ _ | .drawToken a _ | .install a _ _ => a.tunnelID = t
  | .respond a _ _ | .unroute a _ => a.tunnelID = t && (a.v2 || host = defaultHost)
  | _ => false

/-- `removeTunnel` has taken the entry out and has requests to make. -/
def Pc.removing (t : String) : Pc → Bool
  | .dropRoutes t' _ _ | .release t' _ _ | .deregister t' _ => t' = t
  | _ => false

def Pc.unstarted : Pc → Bool
  | .idle | .storeToken .. | .register _ | .storeNew .. | .reply .. => true
  | p => p.early

/-- Hosts are registered before the lease without labels, after it with labels. -/
def Pc.versioned : Pc → Bool
  | .routeDefault a => !a.v2
  | .routeLabels a _ _ | .drawToken a _ => a.v2
  | _ => true

/-- Entry, hosts and session of `t` are there only while a goroutine of `c` is still to remove them. -/
structure Placed (present : σ → String → Prop) (c : ConnID) (t : String) (w : World σ) : Prop where
  entry : ∀ g, w.leaseOf g t ≠ none → g = w.home c ∧ (w.pc c .main).keeps t = true
  hosts : ∀ g host label, (w.gateway g).router.lookupWithLabel host = some (t, label) → g = w.home c ∧
    ((w.pc c .main).routing t (TunnelRouter.hostnameForTunnel (w.gateway g).router.domain t) host = true ∨
      w.leaseOf g t ≠ none ∨ ∃ r leaseID reason, w.pc c r = .dropRoutes t leaseID reason)
  session : present w.server.store t → w.leaseOf (w.home c) t ≠ none ∨ ∃ r, (w.pc c r).removing t = true
  registering : ∀ a, w.pc c .main = .register a → a.tunnelID = t → w.leaseOf (w.home c) t ≠ none
  unstarted : (w.pc c .main).unstarted = true → w.pc c .beat = .idle
  versioned : (w.pc c .main).versioned = true

theorem relet_ne_none {leaseID : Option String} (h : p.relet t leaseID ≠ none) :
    (∃ a leaseID' token, p = .install a leaseID' token ∧ a.tunnelID = t) ∨
      (leaseID ≠ none ∧ ∀ reason, p ≠ .take t reason) := by
  cases p with
  | install a leaseID' token =>
    by_cases ha : a.tunnelID = t
    · exact .inl ⟨a, leaseID', token, rfl, ha⟩
    · exact .inr ⟨by simpa [Pc.relet, ha] using h, by simp⟩
  | take t' reason =>
    by_cases ht : t' = t
    · simp [Pc.relet, ht] at h
    · exact .inr ⟨by simpa [Pc.relet, ht] using h, by simp [ht]⟩
  | _ => exact .inr ⟨h, by simp⟩

theorem relet_none {leaseID : Option String} (h : p.relet t leaseID = none) :
    leaseID = none ∨ ∃ reason, p = .take t reason := by
  by_contra hne
  rw [not_or] at hne
  cases p with
  | install a leaseID' token =>
    simp only [Pc.relet] at h
    split at h
    · cases h
    · exact hne.1 h
  | take t' reason =>
    simp only [Pc.relet] at h
    split at h
    · rename_i ht
      exact hne.2 ⟨reason, by rw [ht]⟩
    · exact hne.1 h
  | _ => exact hne.1 h

theorem stepPc_stays (hk : p.keeps t = true) (hne : ∀ reason, p ≠ .take t reason) :
    (stepPc env w c r fate p).2.keeps t = true := by
  cases p with
  | storeToken a token => exact hk
  | serving t' => exact hk
  | register a =>
    simp only [stepPc, stepHandshake]
    split <;> exact hk
  | pulse t' =>
    simp only [stepPc, stepStream]
    split <;> exact hk
  | take t' reason =>
    have ht : t' = t := by simpa [Pc.keeps] using hk
    exact absurd (by rw [ht]) (hne reason)
  | _ => cases hk

theorem Placed.entry_ran (hb : Base env w) (hi : Isolated env lasting c t w) (hpl : Placed present c t w)
    (hr : (w.pc c' r).runnable = true) {g : String} (h : (w.ran env c' r fate).leaseOf g t ≠ none) :
    g = w.home c ∧ ((w.ran env c' r fate).pc c .main).keeps t = true := by
  have hold : w.leaseOf g t ≠ none → (g = w.home c' → ∀ reason, w.pc c' r ≠ .take t reason) →
      g = w.home c ∧ ((w.ran env c' r fate).pc c .main).keeps t = true := by
    intro hl htake
    obtain ⟨hg, hk⟩ := hpl.entry g hl
    refine ⟨hg, ?_⟩
    rcases ran_goroutines env w c' r fate c .main with h1 | ⟨rfl, rfl, h1⟩ | ⟨-, h1, -⟩
    · rwa [h1]
    · rw [h1]
      exact stepPc_stays hk (htake hg)
    · cases h1
  rw [ran_leaseOf] at h
  split at h
  · rename_i hg
    rcases relet_ne_none h with ⟨a, leaseID, token, hpc, ha⟩ | ⟨hl, htake⟩
    · -- only the handshake of `c` can be at its `addTunnel`
      obtain ⟨rfl, -⟩ := hi.actor (show (w.pc c' r).tunnel = some t by rw [hpc, ← ha]; rfl)
      have hmain : r = .main := (fits_of_early rfl).1 (hpc ▸ hb.fits c' r)
      subst hmain
      refine ⟨hg, ?_⟩
      rw [ran_pc_self env hpc]
      simp only [stepPc, stepHandshake]
      split <;> simp [Pc.keeps, ha]
    · exact hold hl fun _ => htake
  · rename_i hg
    exact hold h fun hg' => absurd hg' hg

def Pc.unroutes (t defaultHost host : String) : Pc → Bool
  | .unrouteDefault a => a.tunnelID = t && host = defaultHost
  | .unroute a _ => a.tunnelID = t && (a.v2 || host = defaultHost)
  | .dropRoutes t' _ _ => t' = t
  | _ => false

theorem reroute_host {router : TunnelRouter} {host label : String}
    (h : (p.reroute router).lookupWithLabel host = some (t, label)) :
    (router.lookupWithLabel host = some (t, label) ∧
      p.unroutes t (TunnelRouter.hostnameForTunnel router.domain t) host = false) ∨
    (∃ a, p = .routeDefault a ∧ a.tunnelID = t ∧ host = TunnelRouter.hostnameForTunnel router.domain t) ∨
    ∃ a leaseID route rest, p = .routeLabels a leaseID (route :: rest) ∧ a.tunnelID = t := by
  have hall : ∀ t', (router.deregisterAll t').lookupWithLabel host = some (t, label) →
      router.lookupWithLabel host = some (t, label) ∧ t' ≠ t := by
    intro t' h
    obtain ⟨key, hk, he⟩ := Option.map_eq_some_iff.1 h
    rw [TunnelRouter.deregisterAll_hostMap, Option.filter_eq_some_iff] at hk
    cases he
    exact ⟨Option.map_eq_some_iff.2 ⟨key, hk.1, rfl⟩, by simpa using Ne.symm (by simpa using hk.2)⟩
  have hone : ∀ t', (router.deregister t').lookupWithLabel host = some (t, label) →
      router.lookupWithLabel host = some (t, label) ∧ host ≠ TunnelRouter.hostnameForTunnel router.domain t' := by
    intro t' h
    obtain ⟨key, hk, he⟩ := Option.map_eq_some_iff.1 h
    rw [TunnelRouter.deregister_hostMap] at hk
    split at hk
    · cases hk
    · exact ⟨Option.map_eq_some_iff.2 ⟨key, hk, he⟩, ‹_›⟩
  cases p with
  | routeDefault a =>
    obtain ⟨key, hk, he⟩ := Option.map_eq_some_iff.1 h
    simp only [Pc.reroute, TunnelRouter.register_hostMap] at hk
    split at hk
    · rename_i hhost
      cases hk
      cases he
      exact .inr (.inl ⟨a, rfl, rfl, hhost⟩)
    · exact .inl ⟨Option.map_eq_some_iff.2 ⟨key, hk, he⟩, rfl⟩
  | routeLabels a leaseID rest =>
    cases rest with
    | nil => exact .inl ⟨h, rfl⟩
    | cons route rest =>
      obtain ⟨key, hk, he⟩ := Option.map_eq_some_iff.1 h
      simp only [Pc.reroute, TunnelRouter.registerLabel_hostMap] at hk
      split at hk
      · cases hk
        cases he
        exact .inr (.inr ⟨a, leaseID, route, rest, rfl, rfl⟩)
      · exact .inl ⟨Option.map_eq_some_iff.2 ⟨key, hk, he⟩, rfl⟩
  | unrouteDefault a =>
    obtain ⟨hl, hne⟩ := hone a.tunnelID h
    refine .inl ⟨hl, ?_⟩
    by_cases ha : a.tunnelID = t
    · simp [Pc.unroutes, ha ▸ hne]
    · simp [Pc.unroutes, ha]
  | unroute a leaseID =>
    by_cases hv : a.v2 = true
    · simp only [Pc.reroute, hv, if_true] at h
      obtain ⟨hl, hne⟩ := hall a.tunnelID h
      exact .inl ⟨hl, by simp [Pc.unroutes, hne]⟩
    · simp only [Pc.reroute, hv] at h
      obtain ⟨hl, hne⟩ := hone a.tunnelID h
      refine .inl ⟨hl, ?_⟩
      by_cases ha : a.tunnelID = t
      · simp [Pc.unroutes, hv, ha ▸ hne]
      · simp [Pc.unroutes, ha]
  | dropRoutes t' leaseID reason =>
    obtain ⟨hl, hne⟩ := hall t' h
    exact .inl ⟨hl, by simp [Pc.unroutes, hne]⟩
  | _ => exact .inl ⟨h, rfl⟩

theorem routeNext_routing {cfg : Config} {a : Auth} {leaseID d host : String} (ha : a.tunnelID = t) (hv : a.v2 = true)
    (rest : List TunnelRoute) : (routeNext cfg a leaseID rest).routing t d host = true := by
  unfold routeNext
  split
  · split <;> simp [Pc.routing, ha, hv]
  · simp [Pc.routing, ha]

theorem stepPc_routing {d host : String} (hv : p.versioned = true) (h : p.routing t d host = true)
    (hun : p.unroutes t d host = false) :
    (∃ a leaseID token, p = .install a leaseID token ∧ a.tunnelID = t) ∨
      (stepPc env w c r fate p).2.routing t d host = true := by
  cases p with
  | acquire a =>
    simp only [Pc.routing, Bool.and_eq_true, decide_eq_true_eq, Bool.not_eq_true'] at h
    refine .inr ?_
    simp only [stepPc, stepHandshake]
    split <;> simp [h, Pc.routing]
  | unrouteDefault a => simp_all [Pc.routing, Pc.unroutes]
  | routeLabels a leaseID rest =>
    have ha : a.tunnelID = t := by simpa [Pc.routing] using h
    cases rest <;> exact .inr (by simpa [stepPc, stepHandshake] using routeNext_routing ha hv _)
  | drawToken a leaseID =>
    have ha : a.tunnelID = t := by simpa [Pc.routing] using h
    have hv : a.v2 = true := hv
    exact .inr (by simp [stepPc, stepHandshake, Pc.routing, ha, hv])
  | respond a leaseID token =>
    refine .inr ?_
    have ha : a.tunnelID = t := by
      simp only [Pc.routing, Bool.and_eq_true, decide_eq_true_eq] at h
      exact h.1
    simp only [stepPc, stepHandshake]
    split
    · simp [Pc.routing, ha]
    · exact h
  | unroute a leaseID =>
    have h' : (Pc.unroute a leaseID).unroutes t d host = true := h
    rw [hun] at h'
    cases h'
  | install a leaseID token => exact .inl ⟨a, leaseID, token, rfl, by simpa [Pc.routing] using h⟩
  | _ => cases h

theorem take_next (env : Env σ) (r : Role) (fate : Fate) (reason : Reason) (h : w.leaseOf (w.home c) t ≠ none) :
    ∃ leaseID, (stepPc env w c r fate (.take t reason)).2 = .dropRoutes t leaseID reason := by
  cases hl : (w.gateway (w.home c)).tunnels.lookup t with
  | none => exact absurd (leaseOf_none.2 hl) h
  | some at_ => exact ⟨at_.leaseID, by simp [stepPc, stepRemoval, hl]⟩

theorem Isolated.entry_kept (hi : Isolated env lasting c t w) (c' : ConnID) (r : Role) (fate : Fate) {g : String}
    (h : w.leaseOf g t ≠ none) :
    (w.ran env c' r fate).leaseOf g t ≠ none ∨
      ∃ leaseID reason, c' = c ∧ r ≠ .timer ∧ (w.ran env c' r fate).pc c r = .dropRoutes t leaseID reason := by
  by_cases hn : (w.ran env c' r fate).leaseOf g t = none
  · rw [ran_leaseOf] at hn
    split at hn
    · rename_i hg
      subst hg
      obtain ⟨reason, hpc⟩ := (relet_none hn).resolve_left h
      obtain ⟨rfl, hr⟩ := hi.actor (show (w.pc c' r).tunnel = some t by rw [hpc]; rfl)
      obtain ⟨leaseID, hnext⟩ := take_next env r fate reason h
      exact .inr ⟨leaseID, reason, rfl, hr, by rw [ran_pc_self env hpc, hnext]⟩
    · exact absurd hn h
  · exact .inl hn

theorem Placed.stays (hb : Base env w) (hpl : Placed present c t w) (c' : ConnID) (r : Role) (fate : Fate) {r' : Role}
    (hne : ¬ (c = c' ∧ r' = r)) : (w.ran env c' r fate).pc c r' = w.pc c r' ∨
      (w.pc c r' = .idle ∧ ∃ t', (w.ran env c' r fate).pc c r' = .waiting t') := by
  rcases ran_goroutines env w c' r fate c r' with h | ⟨h1, h2, -⟩ | ⟨rfl, rfl, t', hs, -, h⟩
  · exact .inl h
  · exact absurd ⟨h1, h2⟩ hne
  · refine .inr ⟨hpl.unstarted ?_, t', h⟩
    obtain rfl := starts_main hb hs
    cases hpc : w.pc c .main <;> rw [hpc] at hs <;> first | rfl | cases hs

theorem Placed.hosts_ran (hb : Base env w) (hi : Isolated env lasting c t w) (hpl : Placed present c t w)
    {g host label : String} (h : ((w.ran env c' r fate).gateway g).router.lookupWithLabel host = some (t, label)) :
    g = w.home c ∧ (((w.ran env c' r fate).pc c .main).routing t
        (TunnelRouter.hostnameForTunnel ((w.ran env c' r fate).gateway g).router.domain t) host = true ∨
      (w.ran env c' r fate).leaseOf g t ≠ none ∨
      ∃ r' leaseID reason, (w.ran env c' r fate).pc c r' = .dropRoutes t leaseID reason) := by
  have hdomain : ((w.ran env c' r fate).gateway g).router.domain = (w.gateway g).router.domain := by
    rw [ran_router]
    split <;> simp
  rw [hdomain]
  -- a host that was there before, and that this step does not take away
  have hold : (w.gateway g).router.lookupWithLabel host = some (t, label) →
      (g = w.home c' →
        (w.pc c' r).unroutes t (TunnelRouter.hostnameForTunnel (w.gateway g).router.domain t) host = false) →
      g = w.home c ∧ (((w.ran env c' r fate).pc c .main).routing t
        (TunnelRouter.hostnameForTunnel (w.gateway g).router.domain t) host = true ∨
      (w.ran env c' r fate).leaseOf g t ≠ none ∨
      ∃ r' leaseID reason, (w.ran env c' r fate).pc c r' = .dropRoutes t leaseID reason) := by
    intro hl hun
    obtain ⟨hg, hcase⟩ := hpl.hosts g host label hl
    refine ⟨hg, ?_⟩
    rcases hcase with hrt | hentry | ⟨r', leaseID, reason, hdrop⟩
    · by_cases hself : c = c' ∧ .main = r
      · obtain ⟨rfl, rfl⟩ := hself
        rcases stepPc_routing hpl.versioned hrt (hun hg) with ⟨a, leaseID, token, hpc, ha⟩ | hnext
        · refine .inr (.inl ?_)
          rw [ran_leaseOf, if_pos hg, hpc]
          simp [Pc.relet, ha]
        · refine .inl ?_
          rwa [ran_pc_self env rfl]
      · rcases hpl.stays hb c' r fate hself with h1 | ⟨h1, -⟩
        · exact .inl (by rwa [h1])
        · rw [h1] at hrt
          cases hrt
    · rcases hi.entry_kept c' r fate hentry with h1 | ⟨leaseID, reason, -, -, h1⟩
      · exact .inr (.inl h1)
      · exact .inr (.inr ⟨_, leaseID, reason, h1⟩)
    · refine .inr (.inr ⟨r', leaseID, reason, ?_⟩)
      by_cases hself : c = c' ∧ r' = r
      · obtain ⟨rfl, rfl⟩ := hself
        have := hun hg
        rw [hdrop] at this
        simp [Pc.unroutes] at this
      · rcases hpl.stays hb c' r fate hself with h1 | ⟨h1, -⟩
        · rw [h1, hdrop]
        · rw [h1] at hdrop
          cases hdrop
  rw [ran_router] at h
  split at h
  · rename_i hg
    have hself : (w.pc c' r).tunnel = some t → (w.pc c' r).early = true → c' = c ∧ r = .main := by
      intro ht he
      exact ⟨(hi.actor ht).1, (fits_of_early he).1 (hb.fits c' r)⟩
    rcases reroute_host h with ⟨hl, hun⟩ | ⟨a, hpc, ha, hhost⟩ | ⟨a, leaseID, route, rest, hpc, ha⟩
    · exact hold hl fun _ => hun
    · obtain ⟨rfl, rfl⟩ := hself (by rw [hpc, ← ha]; rfl) (by rw [hpc]; rfl)
      have hv : a.v2 = false := by simpa [hpc, Pc.versioned] using hpl.versioned
      refine ⟨hg, .inl ?_⟩
      rw [ran_pc_self env hpc]
      simp [stepPc, stepHandshake, Pc.routing, ha, hv, hhost]
    · obtain ⟨rfl, rfl⟩ := hself (by rw [hpc, ← ha]; rfl) (by rw [hpc]; rfl)
      have hv : a.v2 = true := by simpa [hpc, Pc.versioned] using hpl.versioned
      refine ⟨hg, .inl ?_⟩
      rw [ran_pc_self env hpc]
      simpa [stepPc, stepHandshake] using routeNext_routing ha hv rest
  · rename_i hg
    exact hold h fun hg' => absurd hg' hg

theorem removing_next (h : p.removing t = true) (hne : ∀ reason, p ≠ .deregister t reason) :
    (stepPc env w c r fate p).2.removing t = true := by
  cases p with
  | dropRoutes t' leaseID reason =>
    simp only [stepPc, stepRemoval]
    split <;> exact h
  | release t' leaseID reason => exact h
  | deregister t' reason =>
    have ht : t' = t := by simpa [Pc.removing] using h
    exact absurd (by rw [ht]) (hne reason)
  | _ => cases h

theorem Placed.session_ran (hp : env.repo.Presence present lasting) (hb : Base env w) (hi : Isolated env lasting c t w)
    (hpl : Placed present c t w) (hok : soleConnection env c t w (.run c' r fate) = true)
    (h : present (w.ran env c' r fate).server.store t) :
    (w.ran env c' r fate).leaseOf (w.home c) t ≠ none ∨ ∃ r', ((w.ran env c' r fate).pc c r').removing t = true := by
  have hentry : w.leaseOf (w.home c) t ≠ none → (w.ran env c' r fate).leaseOf (w.home c) t ≠ none ∨
      ∃ r', ((w.ran env c' r fate).pc c r').removing t = true := by
    intro hl
    rcases hi.entry_kept c' r fate hl with h1 | ⟨leaseID, reason, -, -, h1⟩
    · exact .inl h1
    · exact .inr ⟨r, by rw [h1]; simp [Pc.removing]⟩
  -- a session that was there before, unless this step deregisters the tunnel
  have hold : present w.server.store t → (∀ reason, w.pc c' r ≠ .deregister t reason) →
      (w.ran env c' r fate).leaseOf (w.home c) t ≠ none ∨ ∃ r', ((w.ran env c' r fate).pc c r').removing t = true := by
    intro hs hne
    rcases hpl.session hs with hl | ⟨r', hrem⟩
    · exact hentry hl
    · refine .inr ⟨r', ?_⟩
      by_cases hself : c = c' ∧ r' = r
      · obtain ⟨rfl, rfl⟩ := hself
        rw [ran_pc_self env rfl]
        exact removing_next hrem hne
      · rcases hpl.stays hb c' r fate hself with h1 | ⟨h1, -⟩
        · rwa [h1]
        · rw [h1] at hrem
          cases hrem
  by_cases hd : ∃ reason, w.pc c' r = .deregister t reason
  · -- the request reaches the registry, and no session of the tunnel outlives it
    obtain ⟨reason, hpc⟩ := hd
    have hfate : fate ≠ .lost := by simpa [soleConnection, hpc] using hok
    have hstore : (w.ran env c' r fate).server.store = (env.repo.deregister w.server.store w.now t).1 := by
      change (stepPc env w c' r fate (w.pc c' r)).1.server.store = _
      rw [hpc]
      cases fate with
      | lost => exact absurd rfl hfate
      | ok => exact deregisterTunnel_store ..
      | replyLost => exact deregisterTunnel_store ..
    rw [hstore] at h
    exact absurd (((hp.deregister _ _ _ _).1 h).2 rfl) hi.lasting
  · have hne : ∀ reason, w.pc c' r ≠ .deregister t reason := fun reason hpc => hd ⟨reason, hpc⟩
    cases ran_store env w c' r fate with
    | same hs => exact hold (hs ▸ h) hne
    | resumable t' token deadline hpc hs =>
      have htok := hi.byToken hb c' r
      have hne' : t ≠ t' := by
        rintro rfl
        rcases hpc with hpc | hpc | ⟨a, hpc, ha⟩ <;> simp_all [Pc.byToken]
      exact hold ((hp.setResumable _ _ _ _ _ _ hne').1 (hs ▸ h)) hne
    | register a hpc sess ht hs =>
      rcases (hp.register _ _ _ _ ht.2).1 (hs ▸ h) with h1 | h1
      · exact hold h1 hne
      · -- the handshake of `c` registers, with its entry in the map
        have ha : a.tunnelID = t := by rw [h1, ht.1]
        obtain ⟨rfl, -⟩ := hi.actor (show (w.pc c' r).tunnel = some t by rw [hpc, ← ha]; rfl)
        have hmain : r = .main := by
          have hf := hb.fits c' r
          rw [hpc] at hf
          cases r <;> first | rfl | cases hf
        subst hmain
        exact hentry (hpl.registering a hpc ha)
    | deregister t' reason hpc hs => exact hold ((hp.deregister _ _ _ _).1 (hs ▸ h)).1 hne
    | heartbeat t' hs => exact hold ((hp.heartbeat _ _ _ _).1 (hs ▸ h)) hne

theorem unstarted_of_early (h : p.early = true) : p.unstarted = true := by
  cases p <;> first | rfl | cases h

theorem unstarted_prev (h : Pc.Next r p q) (hq : q.unstarted = true) : p.unstarted = true := by
  cases h with
  | early _ _ hp _ => exact unstarted_of_early hp
  | done | failed => cases hq
  | _ => first | rfl | cases hq

theorem fullAuth_versioned (cfg : Config) (first : Bool) (frames : List Frame) :
    (fullAuth cfg first frames).1.versioned = true := by
  unfold fullAuth rejected
  split
  all_goals try split
  all_goals rfl

theorem handleAgentConnection_versioned (cfg : Config) (frames : List Frame) :
    (handleAgentConnection cfg frames).1.versioned = true := by
  have hd : ∀ fs, (dispatch cfg fs).1.versioned = true := by
    intro fs
    unfold dispatch
    split
    · split <;> rfl
    · rfl
    · exact fullAuth_versioned ..
  unfold handleAgentConnection
  split
  · split
    · rfl
    · exact hd _
  · rfl
  · exact hd _

theorem routeNext_versioned {cfg : Config} {a : Auth} (hv : a.v2 = true) (leaseID : String) (rest : List TunnelRoute) :
    (routeNext cfg a leaseID rest).versioned = true := by
  unfold routeNext
  split
  · split
    · exact hv
    · rfl
  · exact hv

theorem stepPc_versioned (h : p.versioned = true) : (stepPc env w c r fate p).2.versioned = true := by
  obtain ⟨q, hgoes, hq | ⟨he, hq⟩ | ⟨-, rfl⟩⟩ := stepPc_goes env w c r fate p <;> rw [hgoes]
  · cases hq with
    | leased a l _ hv => exact routeNext_versioned hv ..
    | routedLabel => exact routeNext_versioned h ..
    | fullAuth => exact fullAuth_versioned ..
    | _ => rfl
  · cases hq with
    | early _ _ hp => cases he.symm.trans hp
    | _ => rfl
  · exact h

theorem register_prev {a : Auth} (h : Pc.Next r p (.register a)) :
    (∃ leaseID token, p = .install a leaseID token) ∨ ∃ token, p = .storeToken a token := by
  generalize hq : Pc.register a = q at h
  cases h with
  | early _ _ _ he => subst hq; cases he
  | installRegister a' leaseID token => cases hq; exact .inl ⟨leaseID, token, rfl⟩
  | storeToken a' token => cases hq; exact .inr ⟨token, rfl⟩
  | _ => cases hq

theorem placed_ran (hp : env.repo.Presence present lasting) (hb : Base env w) (hi : Isolated env lasting c t w)
    (hpl : Placed present c t w) (hok : soleConnection env c t w (.run c' r fate) = true)
    (hr : (w.pc c' r).runnable = true) : Placed present c t (w.ran env c' r fate) := by
  obtain ⟨-, -, hhome, -⟩ := ran_keeps env w c' r fate
  refine ⟨fun g h => ?_, fun g host label h => ?_, fun h => ?_, fun a h ha => ?_, fun h => ?_, ?_⟩
  · rw [hhome]
    exact hpl.entry_ran hb hi hr h
  · rw [hhome]
    exact hpl.hosts_ran hb hi h
  · rw [hhome]
    exact hpl.session_ran hp hb hi hok h
  · rw [hhome]
    rcases ran_goroutines env w c' r fate c .main with h1 | ⟨rfl, rfl, h1⟩ | ⟨-, h1, -⟩
    · -- `heartbeatLoop` has not started, so nobody takes the entry out
      rw [h1] at h
      rcases hi.entry_kept c' r fate (hpl.registering a h ha) with h2 | ⟨leaseID, reason, rfl, hne, h2⟩
      · exact h2
      · exfalso
        have hbeat := hpl.unstarted (by rw [h]; rfl)
        cases r with
        | main => rw [h1, h] at h2; cases h2
        | beat => rw [hbeat] at hr; cases hr
        | timer => exact hne rfl
    · rw [h1] at h
      have hn := stepPc_next env w c .main fate (w.pc c .main) hr
      rw [h] at hn
      rcases register_prev hn with ⟨leaseID, token, hpc⟩ | ⟨token, hpc⟩
      · rw [ran_leaseOf, if_pos rfl, hpc]
        simp [Pc.relet, ha]
      · have htok := hi.plain
        rw [hpc] at htok
        simp [Pc.byToken, ha] at htok
    · cases h1
  · have hmain : r ≠ .main ∨ c' ≠ c → (w.ran env c' r fate).pc c .main = w.pc c .main := by
      intro hne
      rcases ran_goroutines env w c' r fate c .main with h1 | ⟨h1, h2, -⟩ | ⟨-, h1, -⟩
      · exact h1
      · exact absurd h2.symm (hne.resolve_right fun h => h h1.symm)
      · cases h1
    rcases ran_goroutines env w c' r fate c .beat with h1 | ⟨rfl, rfl, h1⟩ | ⟨rfl, -, t', hs, h1, -⟩
    · rw [h1]
      refine hpl.unstarted ?_
      rcases ran_goroutines env w c' r fate c .main with h2 | ⟨rfl, rfl, h2⟩ | ⟨-, h2, -⟩
      · exact h2 ▸ h
      · rw [h2] at h
        exact unstarted_prev (stepPc_next env w c .main fate _ hr) h
      · cases h2
    · rw [hmain (.inl (by simp))] at h
      rw [hpl.unstarted h] at hr
      cases hr
    · obtain rfl := starts_main hb hs
      rw [h1] at h
      cases h
  · rcases ran_goroutines env w c' r fate c .main with h1 | ⟨rfl, rfl, h1⟩ | ⟨-, h1, -⟩
    · rw [h1]
      exact hpl.versioned
    · rw [h1]
      exact stepPc_versioned hpl.versioned
    · cases h1

theorem Quiet.leaseOf_eq (hq : Quiet env w w') (g t : String) : w'.leaseOf g t = w.leaseOf g t := by
  rw [World.leaseOf, hq.gateway, World.leaseOf]

theorem Placed.present_quiet (hp : env.repo.Presence present lasting) (hq : Quiet env w w')
    (h : present w'.server.store t) : present w.server.store t := by
  rcases hq.store with hs | hs
  · exact hs ▸ h
  · exact (hp.cleanupExpired _ _ _ _).1 (hs ▸ h)

theorem placed_accept (hp : env.repo.Presence present lasting) (hb : Base env w) (hpl : Placed present c t w)
    {g : String} {frames : List Frame} (hn : NewConn env w w' c' g frames) : Placed present c t w' := by
  have hlease := hn.quiet.leaseOf_eq
  by_cases hc : c = c'
  · -- before its connection, nothing of the tunnel is there
    subst hc
    have hidle := (hb.idle c hn.new).1
    have hentry : ∀ g, w'.leaseOf g t = none := by
      intro g
      by_contra h
      have hk := (hpl.entry g (hlease g t ▸ h)).2
      rw [hidle] at hk
      cases hk
    have hmain : w'.pc c .main = (handleAgentConnection (env.config g) frames).1 := by rw [hn.pc, if_pos ⟨rfl, rfl⟩]
    refine ⟨fun g h => absurd (hentry g) h, fun g host label h => ?_, fun h => ?_, fun a h _ => ?_, fun _ => ?_, ?_⟩
    · rw [hn.quiet.gateway] at h
      rcases (hpl.hosts g host label h).2 with h1 | h1 | ⟨r, leaseID, reason, h1⟩
      · rw [hidle] at h1
        cases h1
      · exact absurd (hentry g) (hlease g t ▸ h1)
      · rw [hidle] at h1
        cases h1
    · rcases hpl.session (Placed.present_quiet hp hn.quiet h) with h1 | ⟨r, h1⟩
      · exact absurd (hentry _) (hlease _ t ▸ h1)
      · rw [hidle] at h1
        cases h1
    · have ho := handleAgentConnection_opening (env.config g) frames
      rw [← hmain, h] at ho
      cases ho
    · rw [hn.pc, if_neg (by simp), hidle]
    · rw [hmain]
      exact handleAgentConnection_versioned ..
  · have hpc : ∀ r, w'.pc c r = w.pc c r := fun r => by rw [hn.pc, if_neg fun h => hc h.1]
    have hhome : w'.home c = w.home c := by rw [hn.home, Function.update_of_ne hc]
    refine ⟨fun g h => ?_, fun g host label h => ?_, fun h => ?_, fun a h ha => ?_, fun h => ?_, ?_⟩
    · rw [hhome, hpc]
      exact hpl.entry g (hlease g t ▸ h)
    · rw [hn.quiet.gateway] at h ⊢
      rw [hhome, hlease]
      simp only [hpc]
      exact hpl.hosts g host label h
    · rw [hhome, hlease]
      simp only [hpc]
      exact hpl.session (Placed.present_quiet hp hn.quiet h)
    · rw [hhome, hlease]
      exact hpl.registering a (hpc .main ▸ h) ha
    · rw [hpc]
      exact hpl.unstarted (hpc .main ▸ h)
    · rw [hpc]
      exact hpl.versioned

theorem prompted_idle {cfg : Config} {timer : Timer} (h : Pc.Prompted cfg timer r p q) (hr : r ≠ .timer) :
    (∃ t, p = .serving t) ∨ ∃ t, p = .waiting t := by
  cases h with
  | fire => exact absurd rfl hr
  | tick t | quit t => exact .inr ⟨t, rfl⟩
  | suspend t | remove t | pulse t => exact .inl ⟨t, rfl⟩

theorem Prompt.removing (hi : Isolated env lasting c t w) (hq : Prompt env w w') (h : (w.pc c r).removing t = true) :
    w'.pc c r = w.pc c r := by
  have htunnel : (w.pc c r).tunnel = some t := by
    cases hpc : w.pc c r <;> rw [hpc] at h <;> first | cases h | simpa [Pc.removing, Pc.tunnel] using h
  rcases hq.pc c r with h1 | h1
  · exact h1
  · rcases prompted_idle h1 (hi.actor htunnel).2 with ⟨t', h2⟩ | ⟨t', h2⟩ <;> rw [h2] at h <;> cases h

theorem placed_prompt (hp : env.repo.Presence present lasting) (hi : Isolated env lasting c t w)
    (hpl : Placed present c t w) (hq : Prompt env w w') : Placed present c t w' := by
  have hlease := hq.quiet.leaseOf_eq
  have hmain : w'.pc c .main = w.pc c .main ∨ ∃ t', w.pc c .main = .serving t' ∧
      (w'.pc c .main = .pulse t' ∨ ∃ reason, w'.pc c .main = .take t' reason) := by
    rcases hq.pc c .main with h | h
    · exact .inl h
    · refine .inr ?_
      generalize hpc : w.pc c .main = p₀ at h
      generalize w'.pc c .main = q₀ at h
      cases h with
      | suspend t' hon =>
        rw [hi.off (by simp [hpc])] at hon
        cases hon
      | remove t' reason => exact ⟨t', rfl, .inr ⟨reason, rfl⟩⟩
      | pulse t' => exact ⟨t', rfl, .inl rfl⟩
  have hkeeps : (w.pc c .main).keeps t = true → (w'.pc c .main).keeps t = true := by
    intro h
    rcases hmain with h1 | ⟨t', h1, h2 | ⟨reason, h2⟩⟩
    · rwa [h1]
    · rw [h2]
      rwa [h1] at h
    · rw [h2]
      rwa [h1] at h
  refine ⟨fun g h => ?_, fun g host label h => ?_, fun h => ?_, fun a h ha => ?_, fun h => ?_, ?_⟩
  · obtain ⟨hg, hk⟩ := hpl.entry g (hlease g t ▸ h)
    exact ⟨hq.home ▸ hg, hkeeps hk⟩
  · rw [hq.quiet.gateway] at h ⊢
    rw [hq.home, hlease]
    obtain ⟨hg, hcase⟩ := hpl.hosts g host label h
    refine ⟨hg, ?_⟩
    rcases hcase with h1 | h1 | ⟨r, leaseID, reason, h1⟩
    · rcases hmain with h2 | ⟨t', h2, -⟩
      · exact .inl (by rwa [h2])
      · rw [h2] at h1
        cases h1
    · exact .inr (.inl h1)
    · refine .inr (.inr ⟨r, leaseID, reason, ?_⟩)
      rw [hq.removing hi (by rw [h1]; simp [Pc.removing]), h1]
  · rw [hq.home, hlease]
    rcases hpl.session (Placed.present_quiet hp hq.quiet h) with h1 | ⟨r, h1⟩
    · exact .inl h1
    · exact .inr ⟨r, by rwa [hq.removing hi h1]⟩
  · rw [hq.home, hlease]
    rcases hmain with h2 | ⟨t', -, h2 | ⟨reason, h2⟩⟩
    · exact hpl.registering a (h2 ▸ h) ha
    · rw [h] at h2
      cases h2
    · rw [h] at h2
      cases h2
  · rcases hmain with h2 | ⟨t', -, h2 | ⟨reason, h2⟩⟩
    · have hbeat := hpl.unstarted (h2 ▸ h)
      rcases hq.pc c .beat with h3 | h3
      · exact h3.trans hbeat
      · rw [hbeat] at h3
        cases h3
    · rw [h2] at h
      cases h
    · rw [h2] at h
      cases h
  · rcases hmain with h2 | ⟨t', -, h2 | ⟨reason, h2⟩⟩
    · rw [h2]
      exact hpl.versioned
    · rw [h2]
      rfl
    · rw [h2]
      rfl

end TunnelEdge.Gateway
