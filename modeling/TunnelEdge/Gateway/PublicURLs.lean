import TunnelEdge.Agent.Streams
import TunnelEdge.Gateway.Replies
import TunnelEdge.Gateway.Routes
/-!
# The URLs of a V2 response

The way of a public URL to a service: `handleV2Auth` registers a host for each
label and reports it, the router resolves the host to the tunnel and the label,
the gateway writes the label in front of each stream, and the agent dials what its
`tunnelMap` has for it.

The hosts are registered one call at a time, and the handshake goes on after the
last of them. Other goroutines of the gateway use the router in between: the
teardown of an older connection of the agent deletes every host of the tunnel.
-/

namespace TunnelEdge.Gateway

open GoLib Store Registry Transport TunnelRouter

variable {σ : Type} {env : Env σ} {w w' : World σ} {c : ConnID} {r : Role} {fate : Fate} {p : Pc} {t : String}

/-! ## Hosts of one tunnel -/

theorem hostnameForLabel_inj {domain l m : String} (h : hostnameForLabel domain t l = hostnameForLabel domain t m) :
    l = m := by
  have h := congrArg String.toList h
  simp only [hostnameForLabel, String.toList_append, List.append_assoc] at h
  exact String.toList_inj.1 (List.append_cancel_right h)

theorem hostnameForLabel_ne_default (domain l : String) : hostnameForLabel domain t l ≠ hostnameForTunnel domain t := by
  intro h
  have h := congrArg String.length h
  simp [hostnameForLabel, hostnameForTunnel] at h

def Hosted (router : TunnelRouter) (t : String) (routes : List TunnelRoute) : Prop :=
  ∀ r ∈ routes, router.hostMap.lookup (hostnameForLabel router.domain t r.label) = some ⟨t, r.label⟩

/-- A handshake of another agent is about to write or undo its routes. -/
def Pc.registersOther (t : String) : Pc → Bool
  | .routeDefault a | .routeLabels a _ _ | .unrouteDefault a | .unroute a _ => a.tunnelID ≠ t
  | _ => false

/-- `DeregisterAll` for the tunnel is about to run, after a removal or a failed V2 handshake. -/
def Pc.removesHosts (t : String) : Pc → Bool
  | .unroute a _ => a.v2 && a.tunnelID = t
  | .dropRoutes t' _ _ => t' = t
  | _ => false

theorem hosted_registerLabel {router : TunnelRouter} {routes : List TunnelRoute} (h : Hosted router t routes)
    (route : TunnelRoute) : Hosted (router.registerLabel t route.label).1 t (routes ++ [route]) := by
  intro r hr
  change AList.lookup (hostnameForLabel router.domain t r.label) _ = _
  rw [registerLabel_hostMap]
  split
  · rename_i he
    rw [hostnameForLabel_inj he]
  · rename_i hne
    rcases List.mem_append.1 hr with hr | hr
    · exact h r hr
    · rw [List.mem_singleton.1 hr] at hne
      exact absurd rfl hne

theorem hosted_deregister {router : TunnelRouter} {routes : List TunnelRoute} (h : Hosted router t routes) :
    Hosted (router.deregister t) t routes := by
  intro r hr
  change AList.lookup (hostnameForLabel router.domain t r.label) _ = _
  rw [deregister_hostMap, if_neg (hostnameForLabel_ne_default _ _)]
  exact h r hr

theorem hosted_deregisterAll {router : TunnelRouter} {routes : List TunnelRoute} {t' : String}
    (h : Hosted router t routes) (hne : t' ≠ t) : Hosted (router.deregisterAll t') t routes := by
  intro r hr
  change AList.lookup (hostnameForLabel router.domain t r.label) _ = _
  rw [deregisterAll_hostMap, h r hr]
  simp [Ne.symm hne]

theorem hosted_reroute {router : TunnelRouter} {routes : List TunnelRoute} (h : Hosted router t routes)
    (hreg : p.registersOther t = false) (hrem : p.removesHosts t = false) : Hosted (p.reroute router) t routes := by
  cases p with
  | routeDefault a =>
    have ha : a.tunnelID = t := by simpa [Pc.registersOther] using hreg
    intro r hr
    change AList.lookup (hostnameForLabel router.domain t r.label) (router.register a.tunnelID).1.hostMap = _
    rw [ha, register_hostMap, if_neg (hostnameForLabel_ne_default _ _)]
    exact h r hr
  | routeLabels a leaseID rest =>
    have ha : a.tunnelID = t := by simpa [Pc.registersOther] using hreg
    cases rest with
    | nil => exact h
    | cons route rest =>
      intro r hr
      have hnew := hosted_registerLabel h route r (List.mem_append_left _ hr)
      rw [← ha] at hnew ⊢
      exact hnew
  | unrouteDefault a =>
    have ha : a.tunnelID = t := by simpa [Pc.registersOther] using hreg
    rw [Pc.reroute, ha]
    exact hosted_deregister h
  | unroute a leaseID =>
    have ha : a.tunnelID = t := by simpa [Pc.registersOther] using hreg
    have hv : a.v2 = false := by simpa [Pc.removesHosts, ha] using hrem
    rw [Pc.reroute, hv, ha]
    exact hosted_deregister h
  | dropRoutes t' leaseID reason => exact hosted_deregisterAll h (of_decide_eq_false hrem)
  | _ => exact h

/-! ## handleV2Auth -/

/-- Program counters behind `handleV2Auth`: it has failed, or `handleAgentConnection` has gone on. -/
def Pc.past : Pc → Bool
  | .unroute .. | .unlease _ | .failed _ | .serving _ | .pulse _ | .suspend _ | .storeResume .. | .arm _ | .record _
  | .take .. | .dropRoutes .. | .release .. | .deregister .. | .done => true
  | _ => false

/-- How far `handleV2Auth` has come for `a`; `before` is what the agent had been sent when it began. -/
def Underway (cfg : Config) (a : Auth) (before sent : List Message) (router : TunnelRouter) : Pc → Prop
  | .quota x => x = a ∧ sent = before
  | .acquire x => x = a ∧ sent = before ∧ labelsValid a.routes = true
  | .routeLabels x _ rest => x = a ∧ sent = before ∧ labelsValid a.routes = true ∧
      ∃ done, a.routes = done ++ rest ∧ Hosted router a.tunnelID done
  | .drawToken x _ | .respond x _ _ => x = a ∧ sent = before ∧ labelsValid a.routes = true ∧
      Hosted router a.tunnelID a.routes
  | .install x _ _ | .storeToken x _ | .register x => x = a ∧ (∃ token, sent = before ++ [authOK cfg a token]) ∧
      labelsValid a.routes = true ∧ Hosted router a.tunnelID a.routes
  | p => p.past = true

section Underway

variable {cfg : Config} {a : Auth} {before sent : List Message} {router router' : TunnelRouter}

theorem Underway.congr (h : Underway cfg a before sent router p)
    (hr : ∀ routes, Hosted router a.tunnelID routes → Hosted router' a.tunnelID routes) :
    Underway cfg a before sent router' p := by
  cases p with
  | routeLabels x leaseID rest =>
    obtain ⟨hx, hs, hv, done, hd, hh⟩ := h
    exact ⟨hx, hs, hv, done, hd, hr _ hh⟩
  | drawToken | respond | install | storeToken | register => exact ⟨h.1, h.2.1, h.2.2.1, hr _ h.2.2.2⟩
  | _ => exact h

theorem underway_past (hp : p.past = true) : Underway cfg a before sent router p := by
  cases p <;> first | exact hp | cases hp

theorem underway_ne_idle (h : Underway cfg a before sent router p) : p ≠ .idle := by
  rintro rfl
  cases h

/-- The label hosts are registered in the order of the message. -/
theorem underway_routeNext {leaseID : String} (done : List TunnelRoute) {rest : List TunnelRoute} (hs : sent = before)
    (hv : labelsValid a.routes = true) (hd : a.routes = done ++ rest) (hh : Hosted router a.tunnelID done) :
    Underway cfg a before sent router (routeNext cfg a leaseID rest) := by
  cases rest with
  | nil =>
    rw [List.append_nil] at hd
    simp only [routeNext]
    split
    · exact ⟨rfl, hs, hv, hd ▸ hh⟩
    · exact ⟨rfl, hs, hv, hd ▸ hh⟩
  | cons route rest => exact ⟨rfl, hs, hv, done, hd, hh⟩

end Underway

theorem stepPc_past (env : Env σ) (w : World σ) (c : ConnID) (fate : Fate) (h : p.past = true)
    (hr : p.runnable = true) : (stepPc env w c .main fate p).2.past = true := by
  cases p with
  | suspend t =>
    rcases suspend_cases env w c .main fate t with h | h | ⟨_, _, _, h⟩ | ⟨_, _, h⟩ <;> rw [h] <;> rfl
  | unroute | unlease | pulse | storeResume | arm | record | take | dropRoutes | release | deregister =>
    simp only [stepPc, stepHandshake, stepStream, stepRemoval, removed]
    repeat' split
    all_goals first | rfl | contradiction
  | failed | serving | done => cases hr
  | _ => cases h

theorem stepPc_underway {a : Auth} {before : List Message} (ha : a.v2 = true) (hr : p.runnable = true)
    (h : Underway (env.config (w.home c)) a before (w.sent c) (w.gateway (w.home c)).router p) :
    Underway (env.config (w.home c)) a before ((stepPc env w c .main fate p).1.sent c)
      ((stepPc env w c .main fate p).1.gateway (w.home c)).router (stepPc env w c .main fate p).2 := by
  rw [stepPc_router]
  cases p with
  | quota x =>
    obtain ⟨rfl, hs⟩ := h
    simp only [stepPc, stepHandshake]
    split
    · exact underway_past rfl
    · split
      · exact ⟨rfl, hs, ‹_›⟩
      · exact underway_past rfl
  | acquire x =>
    obtain ⟨rfl, hs, hv⟩ := h
    simp only [stepPc, stepHandshake, ha, if_true]
    split
    · refine underway_routeNext [] ?_ hv rfl fun _ hr => by cases hr
      simpa [World.note] using hs
    · exact underway_past rfl
  | routeLabels x leaseID rest =>
    obtain ⟨rfl, hs, hv, done, hd, hh⟩ := h
    cases rest with
    | nil => exact underway_routeNext done hs hv hd hh
    | cons route rest =>
      exact underway_routeNext (done ++ [route]) hs hv (by rw [hd]; simp) (hosted_registerLabel hh route)
  | drawToken x leaseID =>
    simp only [stepPc, stepHandshake, token_sent]
    exact h
  | respond x leaseID token =>
    obtain ⟨rfl, hs, hv, hh⟩ := h
    simp only [stepPc, stepHandshake]
    split
    · exact ⟨rfl, ⟨token, by rw [send_sent, hs]⟩, hv, hh⟩
    · exact underway_past rfl
  | install x leaseID token =>
    simp only [stepPc, stepHandshake]
    split
    · exact h
    · exact h
  | storeToken x token =>
    simp only [stepPc, stepHandshake, setResumable_sent]
    exact h
  | register x =>
    simp only [stepPc, stepHandshake]
    split
    · exact underway_past rfl
    · exact underway_past rfl
  | idle | routeDefault | unrouteDefault | lookup | refuse | cancelTimer | drawNew | attach | storeNew | reply
  | cancelPending | waiting | beat | peek | renew | ticked => cases h
  | _ => exact underway_past (stepPc_past env w c fate h hr)

/-! ## While other goroutines run -/

/-- No goroutine of the gateway of `c`, other than its handshake, runs at such a program counter. -/
def noneElsewhere (c : ConnID) (P : Pc → Bool) (w : World σ) : Label → Bool
  | .run c' r _ => (c' = c && r = .main) || w.home c' ≠ w.home c || !P (w.pc c' r)
  | _ => true

/-- No other goroutine touches the hosts of the tunnel. -/
def hostsLeft (c : ConnID) (t : String) (w : World σ) (l : Label) : Bool :=
  noneElsewhere c (fun p => p.registersOther t || p.removesHosts t) w l

def World.Underway (env : Env σ) (a : Auth) (before : List Message) (c : ConnID) (w : World σ) : Prop :=
  Gateway.Underway (env.config (w.home c)) a before (w.sent c) (w.gateway (w.home c)).router (w.pc c .main)

section Along

variable {a : Auth} {before : List Message}

theorem underway_ran (ha : a.v2 = true) (h : w.Underway env a before c) {c' : ConnID}
    (hr : (w.pc c' r).runnable = true) (hok : hostsLeft c a.tunnelID w (.run c' r fate) = true)
    (hsent : ¬ (c' = c ∧ r = .main) → (w.ran env c' r fate).sent c = w.sent c) :
    (w.ran env c' r fate).Underway env a before c := by
  have hhome : (w.ran env c' r fate).home = w.home := (ran_keeps env w c' r fate).2.2.1
  by_cases hown : c' = c ∧ r = .main
  · obtain ⟨rfl, rfl⟩ := hown
    rw [World.Underway, hhome, ran_pc_self env rfl]
    exact stepPc_underway ha hr h
  · have hpc : (w.ran env c' r fate).pc c .main = w.pc c .main := by
      rcases ran_pc env w c' r fate c .main with h | ⟨hc, hm, -⟩ | ⟨-, hm, -⟩
      · exact h
      · exact absurd ⟨hc.symm, hm.symm⟩ hown
      · cases hm
    rw [World.Underway, hhome, hpc, hsent hown, ran_router]
    split
    · rename_i hg
      have hpc : (w.pc c' r).registersOther a.tunnelID = false ∧ (w.pc c' r).removesHosts a.tunnelID = false := by
        simpa [hostsLeft, noneElsewhere, hown, hg] using hok
      exact h.congr fun routes hh => hosted_reroute hh hpc.1 hpc.2
    · exact h

theorem prompted_past {cfg : Config} {timer : Timer} {q : Pc} (h : Pc.Prompted cfg timer .main p q) :
    q.past = true := by
  cases h <;> rfl

theorem underway_step (hb : Base env w) (ha : a.v2 = true) (h : w.Underway env a before c) {l : Label}
    (hok : hostsLeft c a.tunnelID w l = true) (hst : w.step env l = some w') : w'.Underway env a before c := by
  have hmem : c ∈ w.conns := hb.mem_conns (underway_ne_idle h)
  have hsent := step_sent hb hst c
  rcases step_kinds hb hst with ⟨c', r, fate, rfl, hr, rfl⟩ | ⟨c', g, frames, rfl, hn⟩ | ⟨hrun, hq⟩
  · refine underway_ran ha h hr hok fun hown => ?_
    rcases hsent with hs | ⟨fate', he⟩ | ⟨g, frames, he⟩
    · exact hs
    · cases he
      exact absurd ⟨rfl, rfl⟩ hown
    · cases he
  · have hne : c ≠ c' := by
      rintro rfl
      exact hn.new hmem
    have hs : w'.sent c = w.sent c := by
      rcases hsent with hs | ⟨fate', he⟩ | ⟨g, frames, he⟩
      · exact hs
      · cases he
      · cases he
        exact absurd rfl hne
    rw [World.Underway, hn.home, Function.update_of_ne hne, hn.quiet.gateway, hn.pc, if_neg fun he => hne he.1, hs]
    exact h
  · have hs : w'.sent c = w.sent c := by
      rcases hsent with hs | ⟨fate', rfl⟩ | ⟨g, frames, rfl⟩
      · exact hs
      · exact absurd rfl (hrun c .main fate')
      · exact absurd hmem (accept_step hb hst).new
    rw [World.Underway, hq.home, hq.quiet.gateway, hs]
    rcases hq.pc c .main with hpc | hpc
    · rw [hpc]
      exact h
    · exact underway_past (prompted_past hpc)

end Along

/-- What a public URL of the tunnels of an agent is to lead to. -/
structure LeadsToService (router : TunnelRouter) (port agentID : String) (tunnels : List TunnelRoute)
    (label url : String) : Prop where
  /-- The router resolves the host of the URL to the tunnel and the label. -/
  resolves : ∃ host, url = host ++ ":" ++ port ∧ router.lookupWithLabel host = some (newTunnelID agentID, label)
  /-- The label goes through the stream-label frame, and the agent dials the last tunnel configured with it. -/
  dials : ∃ frame, encodeStreamLabel (bytesOf label) = .ok frame ∧ ∀ rest,
    decodeStreamLabel (frame ++ rest) = .ok (bytesOf label, rest) ∧
    ∃ pre t post, tunnels = pre ++ t :: post ∧ t.label = label ∧ (∀ t' ∈ post, t'.label ≠ label) ∧
      handleStream tunnels (frame ++ rest) = .ok (t.localAddr, rest)

theorem leadsToService_entry {router : TunnelRouter} {cfg : Config} {agentID : String} {tunnels : List TunnelRoute}
    (hd : router.domain = cfg.baseDomain) (hv : labelsValid tunnels = true)
    (hh : Hosted router (newTunnelID agentID) tunnels) {e : String × String}
    (he : e ∈ hostEntries cfg ⟨agentID, tunnels, true⟩) :
    LeadsToService router cfg.publicPort agentID tunnels e.1 e.2 := by
  obtain ⟨route, hmem, rfl⟩ := List.mem_map.1 he
  obtain ⟨frame, henc, hdec⟩ := streamLabel_of_valid (List.all_eq_true.1 hv route hmem)
  refine ⟨⟨_, rfl, ?_⟩, frame, henc, fun rest => ⟨hdec rest, handleStream_last (List.mem_map_of_mem hmem) (hdec rest)⟩⟩
  have hl := hh route hmem
  rw [hd] at hl
  simp only [lookupWithLabel, Auth.tunnelID, hl, Option.map_some]

/-- When `handleV2Auth` returns without an error, the response has one entry for each tunnel of the message, in
order, and the URL of each entry leads to the service that the agent has configured last for its label; provided
that the hosts of the tunnel were left alone while it ran. -/
theorem reported_urls_lead_to_service {start : Time} {store : σ} {ls₀ ls : List Label} {w₀ : World σ}
    {agentID : String} {tunnels : List TunnelRoute}
    (h₀ : Run (World.step env) (fun _ _ => True) (.init env start store) ls₀ w₀)
    (hcall : w₀.pc c .main = .quota ⟨agentID, tunnels, true⟩)
    (h : Run (World.step env) (fun w l => hostsLeft c (newTunnelID agentID) w l = true) w₀ ls w)
    (hret : w.pc c .main = .register ⟨agentID, tunnels, true⟩) :
    ∃ entries token, w.sent c = w₀.sent c ++
        [.authV2Response .ok (newTunnelID agentID) entries token (env.config (w.home c)).region] ∧
      entries.map Prod.fst = tunnels.map TunnelRoute.label ∧
      ∀ e ∈ entries, LeadsToService (w.gateway (w.home c)).router (env.config (w.home c)).publicPort agentID tunnels
        e.1 e.2 := by
  have hstart : w₀.Underway env ⟨agentID, tunnels, true⟩ (w₀.sent c) c := by
    rw [World.Underway, hcall]
    exact ⟨rfl, rfl⟩
  have hu := (run_inv_from _ (run_base h₀) hstart (fun _ _ _ hb hi hok hst => underway_step hb rfl hi hok hst) h).2
  rw [World.Underway, hret] at hu
  obtain ⟨-, ⟨token, hsent⟩, hv, hh⟩ := hu
  have hd := run_domain (h₀.append (h.mono fun _ _ _ => trivial)) (w.home c)
  refine ⟨_, token, hsent, ?_, fun e he => leadsToService_entry hd hv hh he⟩
  simp [hostEntries]

/-- Three tunnels, two of them with one label. -/
def threeTunnels : List TunnelRoute := [⟨"web", ":80", ""⟩, ⟨"db", ":90", ""⟩, ⟨"web", ":81", ""⟩]

theorem reported_urls_threeTunnels :
    ∃ w : World Memory, w.pc 0 .main = .register ⟨"a", threeTunnels, true⟩ ∧
      ∃ entries token, w.sent 0 = [.authV2Response .ok "t-a" entries token ""] ∧
        entries.map Prod.fst = ["web", "db", "web"] ∧
        ∀ e ∈ entries, LeadsToService (w.gateway "g1").router "443" "a" threeTunnels e.1 e.2 := by
  obtain ⟨w, w₀, w₁, h₀, hacc, h, ⟨hcall, hsent⟩, hret, hhome⟩ :=
    run_step_any (World.step (demo Memory.repo false)) (hostsLeft 0 "t-a") (.init (demo Memory.repo false) 0 ∅) []
      (.accept 0 "g1" [.authV2 "k" threeTunnels]) (List.replicate 7 (.run 0 .main .ok))
      (P := fun _ w₀ w₁ => (w₀.pc 0 .main = .quota ⟨"a", threeTunnels, true⟩ ∧ w₀.sent 0 = []) ∧
        w₁.pc 0 .main = .register ⟨"a", threeTunnels, true⟩ ∧ w₁.home 0 = "g1") (by decide +kernel)
  obtain ⟨entries, token, hs, hlabels, hlead⟩ :=
    reported_urls_lead_to_service (h₀.append (.snoc .nil trivial hacc)) hcall h hret
  rw [hsent, hhome] at hs
  rw [hhome] at hlead
  exact ⟨w₁, hret, entries, token, hs, hlabels, hlead⟩

def webConnection (c : ConnID) : Label := .accept c "g1" [.authV2 "k" [⟨"web", ":80", ""⟩]]

def firstHandshake : List Label := webConnection 0 :: List.replicate 6 (.run 0 .main .ok)

/-- Between the last `RegisterLabel` of a new handshake and its response the old connection is found lost, and its
tunnel is removed. -/
def oldTeardown : List Label :=
  List.replicate 3 (.run 1 .main .ok) ++ .lost 0 :: List.replicate 4 (.run 0 .main .ok) ++
    List.replicate 2 (.run 1 .main .ok)

/-- The response reports a URL whose host the router does not know, though no other agent is there. -/
theorem reported_url_unresolved :
    ∃ w₀ w : World Memory,
      Run (World.step (demo Memory.repo false)) (fun _ _ => True) (.init (demo Memory.repo false) 0 ∅)
        (firstHandshake ++ [webConnection 1]) w₀ ∧
      w₀.pc 1 .main = .quota ⟨"a", [⟨"web", ":80", ""⟩], true⟩ ∧
      Run (World.step (demo Memory.repo false)) (fun w l => noneElsewhere 1 (Pc.registersOther "t-a") w l = true) w₀
        oldTeardown w ∧
      w.pc 1 .main = .register ⟨"a", [⟨"web", ":80", ""⟩], true⟩ ∧
      w.sent 1 = [.authV2Response .ok "t-a" [("web", "web-a.x:443")] "" ""] ∧
      (w.gateway (w.home 1)).router.lookupWithLabel "web-a.x" = none := by
  obtain ⟨w, w₀, w₁, h₀, hacc, h, hcall, hend⟩ :=
    run_step_any (World.step (demo Memory.repo false)) (noneElsewhere 1 (Pc.registersOther "t-a"))
      (.init (demo Memory.repo false) 0 ∅) firstHandshake (webConnection 1) oldTeardown
      (P := fun _ w₀ w => w₀.pc 1 .main = .quota ⟨"a", [⟨"web", ":80", ""⟩], true⟩ ∧
        w.pc 1 .main = .register ⟨"a", [⟨"web", ":80", ""⟩], true⟩ ∧
        w.sent 1 = [.authV2Response .ok "t-a" [("web", "web-a.x:443")] "" ""] ∧
        (w.gateway (w.home 1)).router.lookupWithLabel "web-a.x" = none) (by decide +kernel)
  exact ⟨w₀, w₁, h₀.append (.snoc .nil trivial hacc), hcall, h, hend⟩

end TunnelEdge.Gateway
