import TunnelEdge.Gateway.PublicURLs
/-!
# Routes after a second authentication

A V2 handshake replaces the entry of its tunnel in `g.tunnels` as a whole, and adds its
hosts to the router one by one. Nothing takes away the hosts of a label that an earlier
connection of the agent had and the new one has not: they lead to the tunnel, whose
`routeMap` no longer knows the label. And where the earlier connection is removed while
the handshake is under way, `DeregisterAll` takes the new hosts away with the old ones.
-/

namespace TunnelEdge.Gateway

open GoLib Store Registry TunnelRouter

variable {σ : Type} {env : Env σ} {w w' : World σ} {c : ConnID} {r : Role} {fate : Fate} {p : Pc} {t : String}

def TunnelRouter.Leads (router : TunnelRouter) (t h : String) : Prop :=
  (router.lookupWithLabel h).map Prod.fst = some t

instance (router : TunnelRouter) (t h : String) : Decidable (router.Leads t h) := inferInstanceAs (Decidable (_ = _))

/-- The hosts of the tunnel are those of the labels in its `routeMap`. -/
def RoutesMatch (gw : Gateway) (t : String) : Prop :=
  ∃ at_, gw.tunnels.lookup t = some at_ ∧
    ∀ h, gw.router.Leads t h ↔ ∃ l, at_.routeMap.lookup l ≠ none ∧ h = hostnameForLabel gw.router.domain t l

def HostOf (domain t : String) (routes : List TunnelRoute) (h : String) : Prop :=
  ∃ r ∈ routes, h = hostnameForLabel domain t r.label

instance (domain t : String) (routes : List TunnelRoute) (h : String) : Decidable (HostOf domain t routes h) :=
  inferInstanceAs (Decidable (∃ r ∈ routes, _))

/-- No host leads to the tunnel but those of the routes. -/
def TunnelRouter.leadsOnly (router : TunnelRouter) (t : String) (routes : List TunnelRoute) : Bool :=
  router.hostMap.keys.all fun h => !router.Leads t h || HostOf router.domain t routes h

/-- A handshake about to register its first label, or past its lease with none to register. -/
def Pc.firstLabel : Pc → Option Auth
  | .acquire a => if a.routes = [] then some a else none
  | .routeLabels a _ rest => if rest = a.routes then some a else none
  | _ => none

/-- A handshake from its first label on. -/
def Pc.routed : Pc → Bool
  | .routeLabels a _ rest => rest ≠ a.routes
  | .drawToken .. | .respond .. | .install .. | .storeToken .. | .register _ => true
  | _ => false

/-- A goroutine about to take the tunnel or its routes away, to add an entry or a route of it, or to write or
delete one of its hosts for another tunnel. -/
def Pc.disturbs (router : TunnelRouter) (t : String) : Pc → Bool
  | .routeDefault a | .unrouteDefault a => a.tunnelID = t || router.Leads t (hostnameForTunnel router.domain a.tunnelID)
  | .routeLabels a _ (r :: _) => a.tunnelID = t || router.Leads t (hostnameForLabel router.domain a.tunnelID r.label)
  | .unroute a _ =>
    a.tunnelID = t || (!a.v2 && router.Leads t (hostnameForTunnel router.domain a.tunnelID))
  | .dropRoutes t' _ _ | .take t' _ => t' = t
  | .install a _ _ => a.tunnelID = t
  | _ => false

/-- The handshake of `c` finds no other host of the tunnel when it registers its first label, and from then on no
other goroutine of its gateway disturbs the tunnel. Before that anything may happen. -/
def replaces (c : ConnID) (t : String) (w : World σ) : Label → Bool
  | .run c' r _ =>
    let router := (w.gateway (w.home c)).router
    if c' = c ∧ r = .main then (w.pc c .main).firstLabel.all fun a => router.leadsOnly t a.routes
    else !(w.pc c .main).routed || w.home c' ≠ w.home c || !(w.pc c' r).disturbs router t
  | _ => true

/-! ## Hosts -/

theorem leads_iff {router : TunnelRouter} {h : String} :
    router.Leads t h ↔ ∃ l, router.hostMap.lookup h = some ⟨t, l⟩ := by
  unfold TunnelRouter.Leads TunnelRouter.lookupWithLabel
  cases router.hostMap.lookup h with
  | none => simp
  | some key =>
    cases key
    simp

theorem leadsOnly_hosts {router : TunnelRouter} {routes : List TunnelRoute} (h : router.leadsOnly t routes = true)
    {host : String} (hl : router.Leads t host) : HostOf router.domain t routes host := by
  obtain ⟨l, hlookup⟩ := leads_iff.1 hl
  have hmem : host ∈ router.hostMap.keys :=
    AList.mem_keys.1 (AList.lookup_isSome.1 (Option.isSome_iff_exists.2 ⟨_, hlookup⟩))
  simpa [hl] using List.all_eq_true.1 h host hmem

theorem leads_registerLabel {router : TunnelRouter} {l h : String} :
    (router.registerLabel t l).1.Leads t h ↔ router.Leads t h ∨ h = hostnameForLabel router.domain t l := by
  rw [leads_iff, leads_iff, registerLabel_hostMap]
  by_cases hh : h = hostnameForLabel router.domain t l
  · simp [hh]
  · simp [hh]

/-- A host that is another tunnel's, or nobody's, may be written for another tunnel or deleted. -/
theorem leads_of_lookup {router router' : TunnelRouter} {host : String} {key : Option RouteKey}
    (hlookup : ∀ h, router'.hostMap.lookup h = if h = host then key else router.hostMap.lookup h)
    (hkey : ∀ k ∈ key, k.tunnelID ≠ t) (hhost : ¬ router.Leads t host) (h : String) :
    router'.Leads t h ↔ router.Leads t h := by
  by_cases hh : h = host
  · subst hh
    refine iff_of_false (fun hl => ?_) hhost
    obtain ⟨l, hl⟩ := leads_iff.1 hl
    rw [hlookup, if_pos rfl] at hl
    exact hkey _ hl rfl
  · rw [leads_iff, leads_iff, hlookup, if_neg hh]

theorem leads_deregisterAll {router : TunnelRouter} {t' h : String} (hne : t' ≠ t) :
    (router.deregisterAll t').Leads t h ↔ router.Leads t h := by
  rw [leads_iff, leads_iff, deregisterAll_hostMap]
  cases router.hostMap.lookup h with
  | none => simp
  | some key =>
    cases key with
    | mk t'' l'' =>
      by_cases ht : t'' = t
      · subst ht
        simp [Option.filter_some, Ne.symm hne]
      · simp [Option.filter_some, ht]

theorem leads_reroute {router : TunnelRouter} (hp : p.disturbs router t = false) (h : String) :
    (p.reroute router).Leads t h ↔ router.Leads t h := by
  cases p with
  | routeDefault a =>
    obtain ⟨hne, hhost⟩ : a.tunnelID ≠ t ∧ ¬ router.Leads t _ := by simpa [Pc.disturbs] using hp
    exact leads_of_lookup (register_hostMap router a.tunnelID) (by simpa using hne) hhost h
  | unrouteDefault a =>
    obtain ⟨-, hhost⟩ : a.tunnelID ≠ t ∧ ¬ router.Leads t _ := by simpa [Pc.disturbs] using hp
    exact leads_of_lookup (deregister_hostMap router a.tunnelID) (fun _ hk => by cases hk) hhost h
  | routeLabels a leaseID rest =>
    cases rest with
    | nil => exact Iff.rfl
    | cons route rest =>
      obtain ⟨hne, hhost⟩ : a.tunnelID ≠ t ∧ ¬ router.Leads t _ := by simpa [Pc.disturbs] using hp
      exact leads_of_lookup (registerLabel_hostMap router a.tunnelID route.label) (by simpa using hne) hhost h
  | unroute a leaseID =>
    cases hv : a.v2 with
    | true =>
      have hne : a.tunnelID ≠ t := by simpa [Pc.disturbs, hv] using hp
      simp only [Pc.reroute, hv, if_true]
      exact leads_deregisterAll hne
    | false =>
      obtain ⟨-, hhost⟩ : a.tunnelID ≠ t ∧ ¬ router.Leads t _ := by simpa [Pc.disturbs, hv] using hp
      simp only [Pc.reroute, hv, Bool.false_eq_true, if_false]
      exact leads_of_lookup (deregister_hostMap router a.tunnelID) (fun _ hk => by cases hk) hhost h
  | dropRoutes t' leaseID reason => exact leads_deregisterAll (of_decide_eq_false hp)
  | _ => exact Iff.rfl

theorem lookup_routeMap (routes : List TunnelRoute) (l : String) :
    (routeMap routes).lookup l ≠ none ↔ ∃ r ∈ routes, r.label = l := by
  induction routes using List.reverseRecOn with
  | nil => simp [routeMap]
  | append_singleton routes r ih =>
    have hsnoc : routeMap (routes ++ [r]) = (routeMap routes).insert r.label r.localAddr := by
      simp only [routeMap, List.foldl_append, List.foldl_cons, List.foldl_nil]
    rw [hsnoc, GoMap.lookup_insert_ite]
    by_cases hl : l = r.label
    · simp [hl]
    · simp [hl, Ne.symm hl, ih]

/-! ## The handshake -/

/-- The hosts of `done` lead to the tunnel of `a`, and no host that is not one of its message. -/
structure Hosts (router : TunnelRouter) (a : Auth) (done : List TunnelRoute) : Prop where
  only : ∀ h, router.Leads a.tunnelID h → HostOf router.domain a.tunnelID a.routes h
  all : ∀ h, HostOf router.domain a.tunnelID done h → router.Leads a.tunnelID h

/-- How far the handshake has come with the routes and the entry of its tunnel. -/
def Replacing (a : Auth) (router : TunnelRouter) (entry : Option ActiveTunnel) : Pc → Prop
  | .quota x | .acquire x => x = a
  | .routeLabels x _ rest => x = a ∧ ∃ done, a.routes = done ++ rest ∧ (done = [] ∨ Hosts router a done)
  | .drawToken x _ | .respond x _ _ | .install x _ _ => x = a ∧ Hosts router a a.routes
  | .storeToken x _ | .register x => x = a ∧ Hosts router a a.routes ∧
      entry.map ActiveTunnel.routeMap = some (routeMap a.routes)
  | p => p.past = true

def World.Replacing (a : Auth) (c : ConnID) (w : World σ) : Prop :=
  Gateway.Replacing a (w.gateway (w.home c)).router ((w.gateway (w.home c)).tunnels.lookup a.tunnelID)
    (w.pc c .main)

section Handshake

variable {router router' : TunnelRouter} {a : Auth} {entry entry' : Option ActiveTunnel}

theorem hosts_of_leadsOnly (h : router.leadsOnly a.tunnelID a.routes = true) : Hosts router a [] :=
  ⟨fun _ => leadsOnly_hosts h, fun _ ⟨_, hr, _⟩ => by cases hr⟩

theorem Hosts.registerLabel {done : List TunnelRoute} (h : Hosts router a done) {route : TunnelRoute}
    (hr : route ∈ a.routes) : Hosts (router.registerLabel a.tunnelID route.label).1 a (done ++ [route]) := by
  refine ⟨fun host hl => ?_, fun host hh => leads_registerLabel.2 ?_⟩
  · rcases leads_registerLabel.1 hl with hl | rfl
    · exact h.only host hl
    · exact ⟨route, hr, rfl⟩
  · obtain ⟨r, hmem, rfl⟩ := hh
    rcases List.mem_append.1 hmem with hmem | hmem
    · exact .inl (h.all _ ⟨r, hmem, rfl⟩)
    · rw [List.mem_singleton.1 hmem]
      exact .inr rfl

theorem Hosts.congr {done : List TunnelRoute} (h : Hosts router a done) (hd : router'.domain = router.domain)
    (hr : ∀ host, router'.Leads a.tunnelID host ↔ router.Leads a.tunnelID host) : Hosts router' a done :=
  ⟨fun host hl => hd ▸ h.only host ((hr host).1 hl), fun host hh => (hr host).2 (h.all host (hd ▸ hh))⟩

/-- Before the first label the routes and the entry do not matter. -/
theorem Replacing.frame (h : Replacing a router entry p)
    (hk : p.routed = true → (router'.domain = router.domain ∧
      ∀ host, router'.Leads a.tunnelID host ↔ router.Leads a.tunnelID host) ∧
      entry'.map ActiveTunnel.routeMap = entry.map ActiveTunnel.routeMap) : Replacing a router' entry' p := by
  cases p with
  | routeLabels x leaseID rest =>
    obtain ⟨rfl, done, hdone, hh⟩ := h
    refine ⟨rfl, done, hdone, ?_⟩
    by_cases hrest : rest = x.routes
    · rw [hrest] at hdone
      exact .inl (List.append_left_eq_self.1 hdone.symm)
    · obtain ⟨⟨hd, hr⟩, -⟩ := hk (by simpa [Pc.routed] using hrest)
      exact hh.imp_right fun hh => hh.congr hd hr
  | drawToken | respond | install => exact ⟨h.1, h.2.congr (hk rfl).1.1 (hk rfl).1.2⟩
  | storeToken | register => exact ⟨h.1, h.2.1.congr (hk rfl).1.1 (hk rfl).1.2, (hk rfl).2.trans h.2.2⟩
  | _ => exact h

theorem replacing_past (hp : p.past = true) : Replacing a router entry p := by
  cases p <;> first | exact hp | cases hp

theorem replacing_ne_idle (h : Replacing a router entry p) : p ≠ .idle := by
  rintro rfl
  cases h

theorem replacing_routeNext {cfg : Config} {leaseID : String} (done : List TunnelRoute) {rest : List TunnelRoute}
    (hd : a.routes = done ++ rest) (hh : Hosts router a done) :
    Replacing a router entry (routeNext cfg a leaseID rest) := by
  cases rest with
  | nil =>
    rw [List.append_nil] at hd
    simp only [routeNext]
    split
    · exact ⟨rfl, hd ▸ hh⟩
    · exact ⟨rfl, hd ▸ hh⟩
  | cons route rest => exact ⟨rfl, done, hd, .inr hh⟩

theorem stepPc_replacing (ha : a.v2 = true) (hr : p.runnable = true)
    (hfirst : p.firstLabel.all (fun x => (w.gateway (w.home c)).router.leadsOnly a.tunnelID x.routes) = true)
    (h : Replacing a (w.gateway (w.home c)).router ((w.gateway (w.home c)).tunnels.lookup a.tunnelID) p) :
    Replacing a ((stepPc env w c .main fate p).1.gateway (w.home c)).router
      (((stepPc env w c .main fate p).1.gateway (w.home c)).tunnels.lookup a.tunnelID)
      (stepPc env w c .main fate p).2 := by
  rw [stepPc_router]
  cases p with
  | quota x =>
    simp only [stepPc, stepHandshake]
    repeat' split
    · exact replacing_past rfl
    · exact h
    · exact replacing_past rfl
  | acquire x =>
    obtain rfl : x = a := h
    simp only [stepPc, stepHandshake, ha, if_true]
    split
    · -- without labels this is the step that the condition is about
      by_cases hnil : x.routes = []
      · simp only [Pc.firstLabel, hnil, if_true, Option.all_some] at hfirst
        exact replacing_routeNext [] rfl (hosts_of_leadsOnly (hnil.symm ▸ hfirst))
      · rw [routeNext]
        · exact ⟨rfl, [], rfl, .inl rfl⟩
        · exact hnil
    · exact replacing_past rfl
  | routeLabels x leaseID rest =>
    obtain ⟨rfl, done, hd, hh⟩ := h
    have hhosts : Hosts (w.gateway (w.home c)).router x done := by
      rcases hh with rfl | hh
      · rw [List.nil_append] at hd
        simp only [Pc.firstLabel, hd, if_true, Option.all_some] at hfirst
        exact hosts_of_leadsOnly (hd.symm ▸ hfirst)
      · exact hh
    cases rest with
    | nil => exact replacing_routeNext done hd hhosts
    | cons route rest =>
      have hmem : route ∈ x.routes := by
        rw [hd]
        simp
      exact replacing_routeNext (done ++ [route]) (by rw [hd]; simp) (hhosts.registerLabel hmem)
  | drawToken x leaseID => exact h
  | respond x leaseID token =>
    simp only [stepPc, stepHandshake]
    split
    · exact h
    · exact replacing_past rfl
  | install x leaseID token =>
    obtain ⟨rfl, hhosts⟩ := h
    have hentry : (((stepPc env w c .main fate (.install x leaseID token)).1.gateway (w.home c)).tunnels.lookup
        x.tunnelID).map ActiveTunnel.routeMap = some (routeMap x.routes) := by
      simp [stepPc, stepHandshake, World.note, addTunnel]
    revert hentry
    simp only [stepPc, stepHandshake]
    split
    · exact fun hentry => ⟨rfl, hhosts, hentry⟩
    · exact fun hentry => ⟨rfl, hhosts, hentry⟩
  | storeToken x token =>
    simp only [stepPc, stepHandshake, World.setResumable, request_gateway]
    exact h
  | register x =>
    simp only [stepPc, stepHandshake]
    split
    · exact replacing_past rfl
    · exact replacing_past rfl
  | idle | routeDefault | unrouteDefault | lookup | refuse | cancelTimer | drawNew | attach | storeNew | reply
  | cancelPending | waiting | beat | peek | renew | ticked => cases h
  | _ => exact replacing_past (stepPc_past env w c fate h hr)

theorem undisturbed_entry (hp : (w.pc c r).disturbs router t = false) :
    (((w.ran env c r fate).gateway (w.home c)).tunnels.lookup t).map ActiveTunnel.routeMap =
      ((w.gateway (w.home c)).tunnels.lookup t).map ActiveTunnel.routeMap := by
  cases ran_tunnels env w c r fate with
  | same h => rw [h]
  | install a leaseID token hpc h =>
    rw [hpc] at hp
    have hne : t ≠ a.tunnelID := fun he => of_decide_eq_false hp he.symm
    simp [h, addTunnel, hne]
  | attach t' token rest at_ hpc hl h | suspend t' at_ hpc hl h =>
    rw [h]
    refine GoMap.map_lookup_insert _ hl ?_ t
    rfl
  | take t' reason hpc h =>
    rw [hpc] at hp
    have hne : t ≠ t' := fun he => of_decide_eq_false hp he.symm
    simp [h, hne]

theorem replacing_ran (ha : a.v2 = true) (h : w.Replacing a c) {c' : ConnID}
    (hr : (w.pc c' r).runnable = true) (hok : replaces c a.tunnelID w (.run c' r fate) = true) :
    (w.ran env c' r fate).Replacing a c := by
  have hhome : (w.ran env c' r fate).home = w.home := (ran_keeps env w c' r fate).2.2.1
  simp only [replaces] at hok
  by_cases hown : c' = c ∧ r = .main
  · rw [if_pos hown] at hok
    obtain ⟨rfl, rfl⟩ := hown
    rw [World.Replacing, hhome, ran_pc_self env rfl]
    exact stepPc_replacing ha hr hok h
  · -- another goroutine moves, and the handshake stays where it is
    rw [if_neg hown] at hok
    have hpc : (w.ran env c' r fate).pc c .main = w.pc c .main := by
      rcases ran_pc env w c' r fate c .main with h | ⟨hc, hm, -⟩ | ⟨-, hm, -⟩
      · exact h
      · exact absurd ⟨hc.symm, hm.symm⟩ hown
      · cases hm
    rw [World.Replacing, hhome, hpc]
    by_cases hg : w.home c' = w.home c
    · refine h.frame fun hrouted => ?_
      have hp : (w.pc c' r).disturbs (w.gateway (w.home c)).router a.tunnelID = false := by
        simpa [hrouted, hg] using hok
      have hrouter := ran_router env w c' r fate (w.home c)
      rw [if_pos hg.symm] at hrouter
      refine ⟨⟨by rw [hrouter, reroute_domain], fun host => ?_⟩, ?_⟩
      · rw [hrouter]
        exact leads_reroute hp host
      · rw [← hg]
        exact undisturbed_entry hp
    · rw [(ran_keeps env w c' r fate).2.2.2 _ (Ne.symm hg)]
      exact h

theorem replacing_step (hb : Base env w) (ha : a.v2 = true) (h : w.Replacing a c) {l : Label}
    (hok : replaces c a.tunnelID w l = true) (hst : w.step env l = some w') : w'.Replacing a c := by
  rcases step_kinds hb hst with ⟨c', r, fate, rfl, hr, rfl⟩ | ⟨c', g, frames, rfl, hn⟩ | ⟨-, hq⟩
  · exact replacing_ran ha h hr hok
  · have hne : c ≠ c' := by
      rintro rfl
      exact hn.new (hb.mem_conns (replacing_ne_idle h))
    rw [World.Replacing, hn.home, Function.update_of_ne hne, hn.quiet.gateway, hn.pc, if_neg fun he => hne he.1]
    exact h
  · rw [World.Replacing, hq.home, hq.quiet.gateway]
    rcases hq.pc c .main with hpc | hpc
    · rw [hpc]
      exact h
    · exact replacing_past (prompted_past hpc)

theorem Hosts.routesMatch {gw : Gateway} {at_ : ActiveTunnel} (h : Hosts gw.router a a.routes)
    (hl : gw.tunnels.lookup a.tunnelID = some at_) (hm : at_.routeMap = routeMap a.routes) :
    RoutesMatch gw a.tunnelID := by
  refine ⟨at_, hl, fun host => ?_⟩
  have hlabels : HostOf gw.router.domain a.tunnelID a.routes host ↔
      ∃ l, at_.routeMap.lookup l ≠ none ∧ host = hostnameForLabel gw.router.domain a.tunnelID l := by
    simp only [hm, lookup_routeMap, HostOf]
    constructor
    · rintro ⟨r, hr, rfl⟩
      exact ⟨r.label, ⟨r, hr, rfl⟩, rfl⟩
    · rintro ⟨l, ⟨r, hr, rfl⟩, rfl⟩
      exact ⟨r, hr, rfl⟩
  exact ⟨fun hleads => hlabels.1 (h.only host hleads), fun hlabel => h.all host (hlabels.2 hlabel)⟩

end Handshake

/-- In a run whose steps all meet the condition, a V2 handshake that comes through `RegisterTunnel` has replaced the
routes of its tunnel, whatever earlier connections of the agent there are. -/
theorem reauth_replaces_routes {w₀ : World σ} {agentID : String} {tunnels : List TunnelRoute} {ls : List Label}
    (hb : Base env w₀) (hcall : w₀.pc c .main = .quota ⟨agentID, tunnels, true⟩)
    (hrun : Run (World.step env) (fun w l => replaces c (newTunnelID agentID) w l = true) w₀ ls w)
    (hret : w.pc c .main = .register ⟨agentID, tunnels, true⟩) (hst : w.step env (.run c .main fate) = some w') :
    RoutesMatch (w'.gateway (w'.home c)) (newTunnelID agentID) := by
  have hstart : w₀.Replacing ⟨agentID, tunnels, true⟩ c := by
    rw [World.Replacing, hcall]
    rfl
  have hu := (run_inv_from _ hb hstart (fun _ _ _ hb hi hok hst => replacing_step hb rfl hi hok hst) hrun).2
  rw [World.Replacing, hret] at hu
  obtain ⟨-, hhosts, hentry⟩ := hu
  obtain ⟨at_, hl, hm⟩ := Option.map_eq_some_iff.1 hentry
  obtain ⟨-, rfl⟩ := run_step hst
  rw [(ran_keeps env w c .main fate).2.2.1]
  refine Hosts.routesMatch (a := ⟨agentID, tunnels, true⟩) ?_ ?_ hm
  · have hrouter := ran_router env w c .main fate (w.home c)
    rw [if_pos rfl, hret] at hrouter
    rw [hrouter]
    exact hhosts
  · cases ran_tunnels env w c .main fate with
    | same h =>
      rw [h]
      exact hl
    | install _ _ _ hp _ | attach _ _ _ _ hp _ _ | suspend _ _ hp _ _ | take _ _ hp _ =>
      rw [hret] at hp
      cases hp

/-- While the connection of an agent with one label is served, the agent connects again with two labels. -/
theorem reauth_replaces_routes_second :
    ∃ w w' : World Table, w.pc 0 .main = .serving "t-a" ∧
      ((w.gateway "g1").tunnels.lookup "t-a").map (·.routes.map TunnelRoute.label) = some ["web"] ∧
      w'.pc 1 .main = .serving "t-a" ∧ RoutesMatch (w'.gateway "g1") "t-a" := by
  obtain ⟨w, w₀, w₁, h₀, hacc, h, ⟨hold, hroutes⟩, hcall, hret, hst⟩ :=
    run_step_any (World.step (demo Table.repo false)) (replaces 1 "t-a") (.init (demo Table.repo false) 0 [])
      firstHandshake (.accept 1 "g1" [.authV2 "k" threeTunnels]) (List.replicate 7 (.run 1 .main .ok))
      (P := fun w w₀ w₁ => (w.pc 0 .main = .serving "t-a" ∧
          ((w.gateway "g1").tunnels.lookup "t-a").map (·.routes.map TunnelRoute.label) = some ["web"]) ∧
        w₀.pc 1 .main = .quota ⟨"a", threeTunnels, true⟩ ∧ w₁.pc 1 .main = .register ⟨"a", threeTunnels, true⟩ ∧
        (w₁.step (demo Table.repo false) (.run 1 .main .ok)).any fun w₂ =>
          w₂.pc 1 .main = .serving "t-a" ∧ w₂.home 1 = "g1") (by decide +kernel)
  obtain ⟨w₂, hst, hend⟩ := (Option.any_eq_true _ _).1 hst
  obtain ⟨hserving, hhome⟩ := of_decide_eq_true hend
  have hmatch := reauth_replaces_routes (run_base (h₀.append (.snoc .nil trivial hacc))) hcall h hret hst
  rw [hhome] at hmatch
  exact ⟨w, w₂, hold, hroutes, hserving, hmatch⟩

/-- An agent connects with one label, and connects again with another one. -/
def relabels : List Label :=
  .accept 0 "g1" [.authV2 "k" [⟨"web", ":80", ""⟩]] :: List.replicate 6 (.run 0 .main .ok) ++
    .accept 1 "g1" [.authV2 "k" [⟨"db", ":90", ""⟩]] :: List.replicate 6 (.run 1 .main .ok)

/-- The second connection has no tunnel `web`, and the router leads `web-a.x` to it. -/
theorem reauth_keeps_old_route :
    ∃ w : World Table, Run (World.step (demo Table.repo false)) (fun _ _ => True) (.init (demo Table.repo false) 0 [])
        relabels w ∧
      w.pc 1 .main = .serving "t-a" ∧ ¬RoutesMatch (w.gateway "g1") "t-a" := by
  obtain ⟨w, hrun, hserving, hdomain, hweb, hgone⟩ := run_any (P := fun w : World Table =>
      w.pc 1 .main = .serving "t-a" ∧ (w.gateway "g1").router.domain = "x" ∧
        (w.gateway "g1").router.lookupWithLabel "web-a.x" = some ("t-a", "web") ∧
        ((w.gateway "g1").tunnels.lookup "t-a").bind (·.routeMap.lookup "web") = none)
    (show (exec (World.step (demo Table.repo false)) (.init (demo Table.repo false) 0 []) relabels).any _ = true by
      decide +kernel)
  refine ⟨w, hrun, hserving, fun hmatch => ?_⟩
  obtain ⟨at_, hl, hroutes⟩ := hmatch
  obtain ⟨l, hlabel, hhost⟩ := (hroutes "web-a.x").1 (congrArg (Option.map Prod.fst) hweb)
  rw [hdomain] at hhost
  have hname : hostnameForLabel "x" "t-a" "web" = "web-a.x" := by decide
  have hl' : "web" = l := hostnameForLabel_inj (hname.trans hhost)
  rw [hl, Option.bind_some, hl'] at hgone
  exact hlabel hgone

end TunnelEdge.Gateway
