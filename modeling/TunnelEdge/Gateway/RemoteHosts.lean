import TunnelEdge.Gateway.DistributedRouter
import TunnelEdge.Gateway.Reach
/-!
# Hostnames across gateways

An agent is connected to one gateway, and its public hostnames are in the
`TunnelRouter` of that gateway. The other gateways know of the tunnel what the
registry publishes about its lease and its session. `Established` is a run in
which a handshake brings a tunnel up, with the lease that the registry granted
and the session that it stored; the main result says which of the owner's
hostnames a peer resolves once it has consumed the two events.
-/

namespace TunnelEdge.Gateway

open GoLib TunnelRouter Registry Store

/-! ## What a few events about one tunnel leave -/

/-- The peer that an event assigns a tunnel to, seen from `selfRelayID`. -/
def peerOf (selfRelayID : String) (event : RegistryEvent) : Option String :=
  ((ownerChange event).bind OwnerChange.owner).filter (· != selfRelayID)

/-- The last peer that the events name as an owner. -/
def lastPeer (selfRelayID : String) (events : List RegistryEvent) : Option String :=
  events.reverse.findSome? (peerOf selfRelayID)

theorem lastPeer_snoc (selfRelayID : String) (events : List RegistryEvent) (event : RegistryEvent) :
    lastPeer selfRelayID (events ++ [event]) = (peerOf selfRelayID event).or (lastPeer selfRelayID events) := by
  simp only [lastPeer, List.reverse_append, List.reverse_singleton, List.singleton_append, List.findSome?_cons]
  cases peerOf selfRelayID event <;> rfl

/-- The event assigns the tunnel to a relay, or says nothing about an owner. -/
def Assigns (t : String) (event : RegistryEvent) : Prop :=
  ∀ change, ownerChange event = some change → ∃ relayID, change = .assigned t relayID

namespace DistributedRouter

def hostOwner (d : DistributedRouter) (host : String) : Option String :=
  (d.lookup host).map RemoteRoute.ownerRelayID

theorem hostOwner_handleEvent (d : DistributedRouter) {t : String} {event : RegistryEvent} (h : Assigns t event)
    (host : String) : (d.handleEvent event).hostOwner host =
      if host = hostnameForTunnel d.domain t then (peerOf d.selfRelayID event).or (d.hostOwner host)
      else d.hostOwner host := by
  have hroutes := d.handleEvent_routes event host
  simp only [hostOwner, lookup, handleEvent_selfRelayID, hroutes, peerOf]
  cases hc : ownerChange event with
  | none => simp
  | some change =>
    obtain ⟨relayID, rfl⟩ := h change hc
    by_cases hself : relayID = d.selfRelayID
    · simp [OwnerChange.owner, hself, Option.filter_some]
    · by_cases hh : host = hostnameForTunnel d.domain t
      · simp [OwnerChange.owner, hself, hh, Option.filter_some]
      · simp [hself, hh]

@[simp] theorem consume_domain (d : DistributedRouter) (events : List RegistryEvent) :
    (d.consume events).domain = d.domain := by
  induction events generalizing d with
  | nil => rfl
  | cons event events ih => exact (ih (d.handleEvent event)).trans (handleEvent_domain d event)

@[simp] theorem consume_selfRelayID (d : DistributedRouter) (events : List RegistryEvent) :
    (d.consume events).selfRelayID = d.selfRelayID := by
  induction events generalizing d with
  | nil => rfl
  | cons event events ih => exact (ih (d.handleEvent event)).trans (handleEvent_selfRelayID d event)

/-- Events about one tunnel change the owner of its default hostname, to the last peer they name. -/
theorem hostOwner_consume (d : DistributedRouter) {t : String} {events : List RegistryEvent}
    (h : ∀ event ∈ events, Assigns t event) (host : String) : (d.consume events).hostOwner host =
      if host = hostnameForTunnel d.domain t then (lastPeer d.selfRelayID events).or (d.hostOwner host)
      else d.hostOwner host := by
  induction events using List.reverseRecOn with
  | nil => simp [consume, lastPeer]
  | append_singleton events event ih =>
    have ih := ih fun e he => h e (List.mem_append_left _ he)
    have hlast : d.consume (events ++ [event]) = (d.consume events).handleEvent event := by simp [consume]
    rw [hlast, hostOwner_handleEvent _ (h event (by simp)), ih, consume_domain, consume_selfRelayID, lastPeer_snoc]
    split
    · rw [Option.or_assoc]
    · rfl

end DistributedRouter

/-! ## Bringing a tunnel up -/

variable {σ : Type}

/-- `Register` hands back the session it was given, under the same id. -/
def Returns (repo : SessionRepository σ) : Prop :=
  ∀ s now sess sess', (repo.register s now sess).2 = .ok sess' → sess'.tunnelID = sess.tunnelID

theorem returns_memory : Returns Memory.repo := by
  intro s now sess sess' h
  rcases Memory.register_cases s now sess with ⟨err, he⟩ | ⟨sess₁, ht, he⟩
  · simp only [Memory.repo, he] at h
    cases h
  · simp only [Memory.repo, he] at h
    cases h
    exact ht

theorem returns_table : Returns Table.repo := by
  intro s now sess sess' h
  simp only [Table.repo, Table.register] at h
  split at h
  · cases h
  · cases h
    rfl

/-- In a run from the start to `w`, the handshake of `c` acquired `lease` and
registered its tunnel; `sess` is the session that the registry stored. -/
structure Established (env : Env σ) (start : Time) (store : σ) (c : ConnID) (a : Auth) (lease : Lease)
    (sess : Session) (w : World σ) : Prop where
  steps : ∃ ls₁ w₁ ls₂ w₂ ls₃,
    Run (World.step env) (fun _ _ => True) (.init env start store) ls₁ w₁ ∧ w₁.pc c .main = .acquire a ∧
    (w₁.server.coord.acquireLease w₁.now (env.uuid w₁.drawn)
      ⟨a.tunnelID, w₁.home c, Server.wireTTL (env.config (w₁.home c)).leaseTTL⟩).2 = .ok lease ∧
    Run (World.step env) (fun _ _ => True) (w₁.ran env c .main .ok) ls₂ w₂ ∧ w₂.pc c .main = .register a ∧
    (env.repo.register w₂.server.store w₂.now
      (w₂.server.newSession w₂.now a.tunnelID a.agentID (sessionAddrs (env.config (w₂.home c)) a).1
        (sessionAddrs (env.config (w₂.home c)) a).2)).2 = .ok sess ∧
    Run (World.step env) (fun _ _ => True) (w₂.ran env c .main .ok) ls₃ w

theorem acquired_relay {m : MemCoordinator} (hi : m.Inv) {now : Time} {fresh : String} {req : LeaseRequest}
    {lease : Lease} (h : (m.acquireLease now fresh req).2 = .ok lease) :
    lease.tunnelID = req.tunnelID ∧ lease.relayID = req.relayID ∧ lease.relayID ≠ "" := by
  have hc := MemCoordinator.acquireLease_cases hi now fresh req
  rcases hr : m.acquireLease now fresh req with ⟨m', r⟩
  rw [hr] at hc h
  cases hc with
  | invalid | conflict => cases h
  | extend l hok hl =>
    cases h
    exact ⟨hl.2, rfl, fun he => hok (.inr he)⟩
  | grant _ hok =>
    cases h
    exact ⟨rfl, rfl, fun he => hok (.inr he)⟩

theorem run_home {env : Env σ} {w w' : World σ} {c : ConnID} (hb : Base env w) (hc : c ∈ w.conns) {ls : List Label}
    (h : Run (World.step env) (fun _ _ => True) w ls w') : c ∈ w'.conns ∧ w'.home c = w.home c := by
  refine (run_inv_from (fun w₁ => c ∈ w₁.conns ∧ w₁.home c = w.home c) hb ⟨hc, rfl⟩ ?_ h).2
  rintro w₁ l w₂ hb₁ ⟨hm, hh⟩ - hst
  rcases step_cases hb₁ hst with ⟨c', r, fate, -, -, rfl⟩ | hq
  · obtain ⟨-, hconns, hhome, -⟩ := ran_keeps env w₁ c' r fate
    rw [hconns, hhome]
    exact ⟨hm, hh⟩
  · exact ⟨(hq.conns c hm).1, (hq.conns c hm).2.trans hh⟩

theorem Established.home {env : Env σ} {start : Time} {store : σ} {c : ConnID} {a : Auth} {lease : Lease}
    {sess : Session} {w : World σ} (h : Established env start store c a lease sess w) :
    lease.tunnelID = a.tunnelID ∧ lease.relayID = w.home c ∧ lease.relayID ≠ "" := by
  obtain ⟨ls₁, w₁, ls₂, w₂, ls₃, hr₁, hp₁, hl, hr₂, hp₂, -, hr₃⟩ := h.steps
  have hb₁ := run_base hr₁
  have hb₁' : Base env (w₁.ran env c .main .ok) := base_ran hb₁ (by rw [hp₁]; rfl)
  have hc : c ∈ (w₁.ran env c .main .ok).conns := by
    rw [(ran_keeps env w₁ c .main .ok).2.1]
    exact hb₁.mem_conns (by rw [hp₁]; simp)
  obtain ⟨hc₂, hh₂⟩ := run_home hb₁' hc hr₂
  have hb₂ := (run_inv_from (fun _ => True) hb₁' trivial (fun _ _ _ _ _ _ _ => trivial) hr₂).1
  have hc₂' : c ∈ (w₂.ran env c .main .ok).conns := by rwa [(ran_keeps env w₂ c .main .ok).2.1]
  have hh₃ := (run_home (base_ran hb₂ (by rw [hp₂]; rfl)) hc₂' hr₃).2
  rw [(ran_keeps env w₂ c .main .ok).2.2.1, hh₂, (ran_keeps env w₁ c .main .ok).2.2.1] at hh₃
  rw [hh₃]
  exact acquired_relay hb₁.leases.inv hl

theorem Established.session {env : Env σ} (hrepo : Returns env.repo) {start : Time} {store : σ} {c : ConnID} {a : Auth}
    {lease : Lease} {sess : Session} {w : World σ} (h : Established env start store c a lease sess w) :
    sess.tunnelID = a.tunnelID := by
  obtain ⟨ls₁, w₁, ls₂, w₂, ls₃, -, -, -, -, -, hs, -⟩ := h.steps
  exact hrepo _ _ _ _ hs

theorem established_any {env : Env σ} {start : Time} {store : σ} {c : ConnID} {a : Auth} {lease : Lease}
    {sess : Session} (ls₁ ls₂ : List Label) {P : World σ → Prop} [DecidablePred P]
    (h : (exec (World.step env) (.init env start store) ls₁).any (fun w₁ =>
      decide (w₁.pc c .main = .acquire a ∧ (w₁.server.coord.acquireLease w₁.now (env.uuid w₁.drawn)
        ⟨a.tunnelID, w₁.home c, Server.wireTTL (env.config (w₁.home c)).leaseTTL⟩).2.toOption = some lease) &&
      (exec (World.step env) (w₁.ran env c .main .ok) ls₂).any fun w₂ =>
        decide (w₂.pc c .main = .register a ∧ (env.repo.register w₂.server.store w₂.now
          (w₂.server.newSession w₂.now a.tunnelID a.agentID (sessionAddrs (env.config (w₂.home c)) a).1
            (sessionAddrs (env.config (w₂.home c)) a).2)).2.toOption = some sess ∧
          P (w₂.ran env c .main .ok))) = true) :
    ∃ w, Established env start store c a lease sess w ∧ P w := by
  have hok : ∀ {ε α : Type} {x : Except ε α} {y : α}, x.toOption = some y → x = .ok y := by
    intro ε α x y hx
    cases x with
    | error e => cases hx
    | ok z =>
      cases hx
      rfl
  obtain ⟨w₁, he₁, hw₁⟩ := (Option.any_eq_true _ _).1 h
  rw [Bool.and_eq_true, decide_eq_true_eq] at hw₁
  obtain ⟨⟨hp₁, hl⟩, hw₂⟩ := hw₁
  obtain ⟨w₂, he₂, hw₂⟩ := (Option.any_eq_true _ _).1 hw₂
  obtain ⟨hp₂, hs, hp⟩ := of_decide_eq_true hw₂
  exact ⟨_, ⟨ls₁, w₁, ls₂, w₂, [], run_of_exec he₁, hp₁, hok hl, run_of_exec he₂, hp₂, hok hs, .nil⟩, hp⟩

/-! ## What a peer resolves -/

theorem assigns_acquired (lease : Lease) : Assigns lease.tunnelID (.acquired lease) := by
  intro change h
  rw [ownerChange_acquired] at h
  split at h
  · cases h
  · cases h
    exact ⟨_, rfl⟩

theorem assigns_upserted (sess : Session) (record : Option Session) :
    Assigns sess.tunnelID ((RegistryEvent.upserted sess).reread record) := by
  obtain ⟨sess', he, ht⟩ : ∃ sess', (RegistryEvent.upserted sess).reread record = .upserted sess' ∧
      sess'.tunnelID = sess.tunnelID := by
    cases record with
    | none => exact ⟨sess, rfl, rfl⟩
    | some r => exact ⟨_, rfl, rfl⟩
  intro change h
  rw [he, ownerChange_upserted] at h
  split at h
  · cases h
  · cases h
    exact ⟨_, congrArg (OwnerChange.assigned · _) ht⟩

theorem lastPeer_ne_none {selfRelayID : String} {lease : Lease} {events : List RegistryEvent}
    (hne : lease.relayID ≠ "") (hpeer : selfRelayID ≠ lease.relayID) (h : .acquired lease ∈ events) :
    lastPeer selfRelayID events ≠ none := by
  intro hn
  have hp := List.findSome?_eq_none_iff.1 hn _ (List.mem_reverse.2 h)
  simp [peerOf, hne, OwnerChange.owner, Option.filter_some, hpeer.symm] at hp

/-- A gateway `B` that has consumed the events of `A`'s lease and registration,
in either order, resolves a hostname of the tunnel to `A` exactly when it is the
default hostname under `B`'s own domain and `A` is the last peer the events name,
or another hostname that `B` led to `A` before. -/
theorem peer_resolves_iff {env : Env σ} (hrepo : Returns env.repo) {start : Time} {store : σ} {c : ConnID} {a : Auth}
    {lease : Lease} {sess : Session} {w : World σ} (h : Established env start store c a lease sess w)
    (d : DistributedRouter) (hpeer : d.selfRelayID ≠ w.home c) (record : Option Session) {events : List RegistryEvent}
    (hev : events.Perm [.acquired lease, (RegistryEvent.upserted sess).reread record]) :
    (∀ host label, (w.gateway (w.home c)).router.lookupWithLabel host = some (a.tunnelID, label) →
      (d.consume events).hostOwner host = some (w.home c)) ↔
    ∀ host label, (w.gateway (w.home c)).router.lookupWithLabel host = some (a.tunnelID, label) →
      if host = hostnameForTunnel d.domain a.tunnelID then lastPeer d.selfRelayID events = some (w.home c)
      else d.hostOwner host = some (w.home c) := by
  obtain ⟨hlt, hlr, hne⟩ := h.home
  have hassign : ∀ event ∈ events, Assigns a.tunnelID event := by
    intro event he
    rcases List.mem_cons.1 (hev.subset he) with rfl | he
    · exact hlt ▸ assigns_acquired lease
    · rw [List.mem_singleton.1 he, ← h.session hrepo]
      exact assigns_upserted sess record
  have hlast : lastPeer d.selfRelayID events ≠ none :=
    lastPeer_ne_none hne (hlr ▸ hpeer) (hev.symm.subset (by simp))
  have hhost : ∀ host, (d.consume events).hostOwner host = some (w.home c) ↔
      if host = hostnameForTunnel d.domain a.tunnelID then lastPeer d.selfRelayID events = some (w.home c)
      else d.hostOwner host = some (w.home c) := by
    intro host
    rw [d.hostOwner_consume hassign]
    split
    · obtain ⟨relayID, hr⟩ := Option.ne_none_iff_exists'.1 hlast
      rw [hr, Option.some_or]
    · rfl
  simp only [hhost]

/-- The lease and the session of the demo agent on `g`, up to the session's addresses. -/
def demoLease : Lease := ⟨"u", "t-a", "g", 45 * second, 1⟩

def demoSession (publicAddr localAddr : String) : Session :=
  { tunnelID := "t-a", agentID := "a", ownerRelayID := "g", leaseID := "u", publicAddr, localAddr }

/-- An agent without labels: `b` resolves its one hostname to `g`. -/
theorem peer_resolves_default_host :
    ∃ w, Established (demo Memory.repo false) 0 ∅ 0 ⟨"a", [{ label := "default" }], false⟩ demoLease
        (demoSession "a.x:443" "") w ∧
      w.home 0 = "g" ∧ (w.gateway "g").router.lookupWithLabel "a.x" = some ("t-a", "default") ∧
      ∀ host label, (w.gateway "g").router.lookupWithLabel host = some ("t-a", label) →
        (DistributedRouter.consume { selfRelayID := "b", domain := "x" }
          [.acquired demoLease, .upserted (demoSession "a.x:443" "")]).hostOwner host = some "g" := by
  have hrun : ∃ w, Established (demo Memory.repo false) 0 ∅ 0 ⟨"a", [{ label := "default" }], false⟩ demoLease
      (demoSession "a.x:443" "") w ∧
      w.home 0 = "g" ∧ (w.gateway "g").router.lookupWithLabel "a.x" = some ("t-a", "default") ∧
      (w.gateway "g").router.hostMap.keys = ["a.x"] :=
    established_any [.accept 0 "g" [.auth "k"], .run 0 .main .ok] [.run 0 .main .ok, .run 0 .main .ok]
      (by decide +kernel)
  obtain ⟨w, he, hh, hl, hk⟩ := hrun
  have h := peer_resolves_iff returns_memory he { selfRelayID := "b", domain := "x" } (by rw [hh]; decide) none
    (.refl _)
  rw [hh] at h
  refine ⟨w, he, hh, hl, h.2 fun host label hr => ?_⟩
  obtain ⟨k, hk', -⟩ := Option.map_eq_some_iff.1 hr
  have hmem : host ∈ (w.gateway "g").router.hostMap.keys :=
    AList.mem_keys.1 (AList.lookup_isSome.1 (by rw [hk']; rfl))
  rw [hk, List.mem_singleton] at hmem
  subst hmem
  decide +kernel

/-- An agent with the label `web`: `g` serves `web-a.x`, and `b` does not know it. -/
theorem peer_misses_label_host :
    ∃ w, Established (demo Memory.repo false) 0 ∅ 0 ⟨"a", [{ label := "web", localAddr := "127.0.0.1:8080" }], true⟩
        demoLease (demoSession "web=web-a.x:443" "web=127.0.0.1:8080") w ∧
      w.home 0 = "g" ∧ (w.gateway "g").router.lookupWithLabel "web-a.x" = some ("t-a", "web") ∧
      (DistributedRouter.consume { selfRelayID := "b", domain := "x" }
        [.acquired demoLease, .upserted (demoSession "web=web-a.x:443" "web=127.0.0.1:8080")]).hostOwner "web-a.x" =
          none :=
  established_any [.accept 0 "g" [.hello 3, .authV2 "k" [{ label := "web", localAddr := "127.0.0.1:8080" }]],
    .run 0 .main .ok] (List.replicate 3 (.run 0 .main .ok)) (by decide +kernel)

end TunnelEdge.Gateway
