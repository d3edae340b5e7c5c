import Mathlib.Data.List.Dedup
import TunnelEdge.Gateway.Routes
/-!
# What the tunnel quota bounds

`handleV2Auth` compares `maxTunnelsPerAgent` with the entries of the agent in `g.tunnels`.
There is at most one, under `t-<agentID>`, whatever the number of its labels. The labels
that the router has hosts for come from the messages, and stay until `DeregisterAll`. So
the quota bounds them where every handshake keeps to it by itself: where the labels it
asks for, those of its agent that have a host, and those that other handshakes of the
agent are still to register are not too many.
-/

namespace TunnelEdge.Gateway

open GoLib Store Registry TunnelRouter

variable {σ : Type} {env : Env σ} {w w' : World σ} {c : ConnID} {r : Role} {fate : Fate} {p q : Pc}
  {g t label : String}

def TunnelRouter.labels (router : TunnelRouter) (t : String) : List String :=
  ((GoMap.values (fun _ key => key.tunnelID = t) router.hostMap).map RouteKey.label).dedup

/-- The labels of the tunnel that a handshake past its quota check is still to register. -/
def Pc.pending (t : String) : Pc → List String
  | .acquire a => if a.tunnelID = t ∧ a.v2 then a.routes.map TunnelRoute.label else []
  | .routeLabels a _ rest => if a.tunnelID = t then rest.map TunnelRoute.label else []
  | _ => []

def World.claimed (w : World σ) (g t : String) : List String :=
  (w.gateway g).router.labels t ++ (w.conns.filter (w.home · = g)).flatMap fun c => (w.pc c .main).pending t

/-- A V2 handshake of the agent that passes the quota check claims at most `maxTunnelsPerAgent` labels, with
those claimed before. There is no V1 handshake of the agent. -/
def asksWithin (env : Env σ) (g agentID : String) (w : World σ) : Label → Bool
  | .run c r _ =>
    let max := (env.config g).maxTunnelsPerAgent
    match w.pc c r with
    | .quota a => w.home c ≠ g || a.agentID ≠ agentID ||
        (0 < max && max ≤ countTunnelsByAgent (w.gateway g) agentID) ||
        (w.claimed g a.tunnelID ++ a.routes.map TunnelRoute.label).dedup.length ≤ max
    | .routeDefault a => w.home c ≠ g || a.agentID ≠ agentID
    | _ => true
  | _ => true

/-! ## Labels of the router -/

theorem mem_labels {router : TunnelRouter} :
    label ∈ router.labels t ↔ ∃ h, router.hostMap.lookup h = some ⟨t, label⟩ := by
  unfold TunnelRouter.labels
  rw [List.mem_dedup, List.mem_map]
  constructor
  · rintro ⟨⟨t', l⟩, hm, rfl⟩
    obtain ⟨h, hl, ht⟩ := (GoMap.mem_values_iff _ _ _).1 hm
    exact ⟨h, by rw [hl, ← of_decide_eq_true ht]⟩
  · rintro ⟨h, hl⟩
    exact ⟨⟨t, label⟩, (GoMap.mem_values_iff _ _ _).2 ⟨h, hl, decide_eq_true rfl⟩, rfl⟩

theorem labels_reroute {router : TunnelRouter} (h : label ∈ (p.reroute router).labels t)
    (hd : ∀ a, p = .routeDefault a → a.tunnelID ≠ t) : label ∈ router.labels t ∨ label ∈ p.pending t := by
  rw [mem_labels] at h ⊢
  obtain ⟨host, hl⟩ := h
  cases p with
  | routeDefault a =>
    simp only [Pc.reroute, register_hostMap] at hl
    split at hl
    · cases hl
      exact absurd rfl (hd a rfl)
    · exact .inl ⟨host, hl⟩
  | routeLabels a leaseID rest =>
    cases rest with
    | nil => exact .inl ⟨host, hl⟩
    | cons route rest =>
      simp only [Pc.reroute, registerLabel_hostMap] at hl
      split at hl
      · cases hl
        exact .inr (by simp [Pc.pending])
      · exact .inl ⟨host, hl⟩
  | unrouteDefault a =>
    simp only [Pc.reroute, deregister_hostMap] at hl
    split at hl
    · cases hl
    · exact .inl ⟨host, hl⟩
  | unroute a leaseID =>
    simp only [Pc.reroute] at hl
    split at hl
    · rw [deregisterAll_hostMap] at hl
      exact .inl ⟨host, (Option.filter_eq_some_iff.1 hl).1⟩
    · rw [deregister_hostMap] at hl
      split at hl
      · cases hl
      · exact .inl ⟨host, hl⟩
  | dropRoutes t' leaseID reason =>
    rw [Pc.reroute, deregisterAll_hostMap] at hl
    exact .inl ⟨host, (Option.filter_eq_some_iff.1 hl).1⟩
  | _ => exact .inl ⟨host, hl⟩

/-! ## What is still to come -/

theorem pending_main (hf : p.fits r = true) (h : label ∈ p.pending t) : r = .main := by
  cases p with
  | acquire | routeLabels => cases r <;> first | rfl | cases hf
  | _ => cases h

theorem pending_of_opening (h : q.opening = true) : q.pending t = [] := by
  cases q <;> first | rfl | cases h

theorem routeNext_pending {cfg : Config} {a : Auth} {leaseID : String} (rest : List TunnelRoute)
    (h : label ∈ (routeNext cfg a leaseID rest).pending t) :
    a.tunnelID = t ∧ label ∈ rest.map TunnelRoute.label := by
  cases rest with
  | nil =>
    simp only [routeNext] at h
    split at h <;> cases h
  | cons route rest =>
    simp only [routeNext, Pc.pending] at h
    split at h
    · exact ⟨‹_›, h⟩
    · cases h

theorem stepPc_pending (hr : p.runnable = true) (h : label ∈ (stepPc env w c r fate p).2.pending t)
    (hd : ∀ a, p = .routeDefault a → a.tunnelID ≠ t) :
    label ∈ p.pending t ∨ ∃ a, p = .quota a ∧ a.tunnelID = t ∧ label ∈ a.routes.map TunnelRoute.label ∧
      (stepPc env w c r fate p).2 = .acquire a := by
  obtain ⟨q, hgoes, hq | ⟨he, hq⟩ | ⟨hwait, -⟩⟩ := stepPc_goes env w c r fate p <;> rw [hgoes] at h ⊢
  · cases hq with
    | admitted a =>
      simp only [Pc.pending] at h
      split at h
      · rename_i ht
        exact .inr ⟨a, rfl, ht.1, h, rfl⟩
      · cases h
    | routed a =>
      have ht : ¬(a.tunnelID = t ∧ a.v2) := fun ht => hd a rfl ht.1
      rw [Pc.pending, if_neg ht] at h
      cases h
    | leased a l _ hv =>
      obtain ⟨ht, hl⟩ := routeNext_pending _ h
      exact .inl (by rwa [Pc.pending, if_pos ⟨ht, hv⟩])
    | routedLabel a leaseID routes =>
      obtain ⟨ht, hl⟩ := routeNext_pending _ h
      refine .inl ?_
      rw [Pc.pending, if_pos ht]
      rw [List.map_tail] at hl
      exact List.mem_of_mem_tail hl
    | fullAuth status rest =>
      rw [pending_of_opening (fullAuth_opening _ _ rest)] at h
      cases h
    | _ => cases h
  · cases hq with
    | early _ _ hp => cases he.symm.trans hp
    | _ => cases h
  · cases hr.symm.trans hwait

theorem pending_of_prompted {cfg : Config} {timer : Timer} (h : Pc.Prompted cfg timer r p q) : q.pending t = [] := by
  cases h <;> rfl

/-! ## The claimed labels -/

theorem mem_claimed : label ∈ w.claimed g t ↔
    label ∈ (w.gateway g).router.labels t ∨
      ∃ c ∈ w.conns, w.home c = g ∧ label ∈ (w.pc c .main).pending t := by
  simp [World.claimed, and_assoc]

theorem Base.mem_claimed (hb : Base env w) (hg : w.home c = g) (h : label ∈ (w.pc c r).pending t) :
    label ∈ w.claimed g t := by
  obtain rfl := pending_main (hb.fits c r) h
  refine Gateway.mem_claimed.2 (.inr ⟨c, hb.mem_conns (r := .main) fun hidle => ?_, hg, h⟩)
  rw [hidle] at h
  cases h

theorem length_dedup_le {ls ls' : List String} (h : ∀ l ∈ ls, l ∈ ls') : ls.dedup.length ≤ ls'.dedup.length := by
  refine (List.subperm_of_subset (List.nodup_dedup _) fun l hl => ?_).length_le
  exact List.mem_dedup.2 (h l (List.mem_dedup.1 hl))

theorem claimed_ran (hb : Base env w) (hr : (w.pc c r).runnable = true) (h : label ∈ (w.ran env c r fate).claimed g t)
    (hd : ∀ a, w.home c = g → w.pc c r = .routeDefault a → a.tunnelID ≠ t) :
    label ∈ w.claimed g t ∨ w.home c = g ∧ ∃ a, w.pc c r = .quota a ∧ a.tunnelID = t ∧
      label ∈ a.routes.map TunnelRoute.label ∧ (stepPc env w c r fate (w.pc c r)).2 = .acquire a := by
  obtain ⟨-, hconns, hhome, -⟩ := ran_keeps env w c r fate
  rcases Gateway.mem_claimed.1 h with h | ⟨c', hc', hg', h⟩
  · rw [ran_router] at h
    split at h
    · rename_i hg
      rcases labels_reroute h fun a => hd a hg.symm with h | h
      · exact .inl (Gateway.mem_claimed.2 (.inl h))
      · exact .inl (hb.mem_claimed hg.symm h)
    · exact .inl (Gateway.mem_claimed.2 (.inl h))
  · rw [hhome] at hg'
    rcases ran_goroutines env w c r fate c' .main with h1 | ⟨rfl, rfl, h1⟩ | ⟨-, h1, -⟩
    · exact .inl (hb.mem_claimed hg' (h1 ▸ h))
    · rw [h1] at h
      rcases stepPc_pending hr h fun a => hd a hg' with h | h
      · exact .inl (hb.mem_claimed hg' h)
      · exact .inr ⟨hg', h⟩
    · cases h1

theorem claimed_accept (hb : Base env w) {g' : String} {frames : List Frame} (hn : NewConn env w w' c g' frames)
    (h : label ∈ w'.claimed g t) : label ∈ w.claimed g t := by
  rcases Gateway.mem_claimed.1 h with h | ⟨c', -, hg, h⟩
  · rw [hn.quiet.gateway] at h
    exact Gateway.mem_claimed.2 (.inl h)
  · rw [hn.pc] at h
    split at h
    · rw [pending_of_opening (handleAgentConnection_opening (env.config g') frames)] at h
      cases h
    · rename_i hne
      rw [hn.home, Function.update_of_ne fun he => hne ⟨he, rfl⟩] at hg
      exact hb.mem_claimed hg h

theorem claimed_prompt (hb : Base env w) (hq : Prompt env w w') (h : label ∈ w'.claimed g t) :
    label ∈ w.claimed g t := by
  rcases Gateway.mem_claimed.1 h with h | ⟨c', -, hg, h⟩
  · rw [hq.quiet.gateway] at h
    exact Gateway.mem_claimed.2 (.inl h)
  · rw [hq.home] at hg
    rcases hq.pc c' .main with h1 | h1
    · exact hb.mem_claimed hg (h1 ▸ h)
    · rw [pending_of_prompted h1] at h
      cases h

theorem claimed_step {agentID : String} (hb : Base env w)
    (hi : (w.claimed g (newTunnelID agentID)).dedup.length ≤ (env.config g).maxTunnelsPerAgent) {l : Label}
    (hok : asksWithin env g agentID w l = true) (hst : w.step env l = some w') :
    (w'.claimed g (newTunnelID agentID)).dedup.length ≤ (env.config g).maxTunnelsPerAgent := by
  rcases step_kinds hb hst with ⟨c, r, fate, rfl, hr, rfl⟩ | ⟨c, g', frames, rfl, hn⟩ | ⟨-, hq⟩
  · have hd : ∀ a, w.home c = g → w.pc c r = .routeDefault a → a.tunnelID ≠ newTunnelID agentID := by
      intro a hg hp ht
      simp [asksWithin, hp, hg, newTunnelID_inj ht] at hok
    by_cases hquota : w.home c = g ∧ ∃ a, w.pc c r = .quota a ∧ a.agentID = agentID ∧
        (stepPc env w c r fate (w.pc c r)).2 = .acquire a
    · obtain ⟨hg, a, hp, rfl, hnext⟩ := hquota
      -- the handshake has passed the check, so the condition speaks about its labels
      have hpass : ¬(0 < (env.config g).maxTunnelsPerAgent ∧
          (env.config g).maxTunnelsPerAgent ≤ countTunnelsByAgent (w.gateway g) a.agentID) := by
        intro hfull
        rw [hp] at hnext
        simp [stepPc, stepHandshake, hg, hfull] at hnext
      have hlen : (w.claimed g a.tunnelID ++ a.routes.map TunnelRoute.label).dedup.length ≤
          (env.config g).maxTunnelsPerAgent := by
        simpa [asksWithin, hp, hg, hpass] using hok
      refine Nat.le_trans (length_dedup_le fun label hl => ?_) hlen
      rcases claimed_ran hb hr hl hd with h | ⟨-, a', hp', -, h, -⟩
      · exact List.mem_append_left _ h
      · obtain rfl : a = a' := by
          rw [hp] at hp'
          cases hp'
          rfl
        exact List.mem_append_right _ h
    · refine Nat.le_trans (length_dedup_le fun label hl => ?_) hi
      rcases claimed_ran hb hr hl hd with h | ⟨hg, a, hp, ht, -, hnext⟩
      · exact h
      · exact absurd ⟨hg, a, hp, newTunnelID_inj ht, hnext⟩ hquota
  · exact Nat.le_trans (length_dedup_le fun label hl => claimed_accept hb hn hl) hi
  · exact Nat.le_trans (length_dedup_le fun label hl => claimed_prompt hb hq hl) hi

/-- While every handshake of the agent that passes the quota check keeps to the quota by itself, the router has
hosts for at most `maxTunnelsPerAgent` labels of the agent. -/
theorem quota_bounds_labels {start : Time} {store : σ} {agentID : String} {ls : List Label}
    (h : Run (World.step env) (fun w l => asksWithin env g agentID w l = true) (.init env start store) ls w) :
    ((w.gateway g).router.labels (newTunnelID agentID)).length ≤ (env.config g).maxTunnelsPerAgent := by
  have hinv := (run_inv
    (fun w => (w.claimed g (newTunnelID agentID)).dedup.length ≤ (env.config g).maxTunnelsPerAgent)
    (Nat.zero_le _) (fun _ _ _ hb hi hok hst => claimed_step hb hi hok hst) h).2
  have hnodup : ((w.gateway g).router.labels (newTunnelID agentID)).dedup =
      (w.gateway g).router.labels (newTunnelID agentID) := List.dedup_idem
  rw [← hnodup]
  refine Nat.le_trans (length_dedup_le fun label hl => ?_) hinv
  exact mem_claimed.2 (.inl hl)

def oneTunnel : Env Memory :=
  { demo Memory.repo false with config := fun g => { (demo Memory.repo false).config g with maxTunnelsPerAgent := 1 } }

def connectLabels (c : ConnID) (labels : List String) : List Label :=
  .accept c "g1" [.authV2 "k" (labels.map fun l => ⟨l, ":80", ""⟩)] ::
    List.replicate (labels.length + 5) (.run c .main .ok)

/-- An agent connects with one label, is lost and removed, and connects again with another one. -/
def changesLabel : List Label :=
  connectLabels 0 ["web"] ++ .lost 0 :: List.replicate 4 (.run 0 .main .ok) ++ connectLabels 1 ["db"]

theorem quota_bounds_changesLabel :
    ∃ w : World Memory, (w.gateway "g1").router.labels "t-a" = ["db"] ∧
      ((w.gateway "g1").router.labels (newTunnelID "a")).length ≤ 1 := by
  obtain ⟨w, hrun, hdb⟩ := run_checked_any
    (show (exec (checked (World.step oneTunnel) (asksWithin oneTunnel "g1" "a")) (.init oneTunnel 0 ∅) changesLabel).any
      (fun w => (w.gateway "g1").router.labels "t-a" = ["db"]) = true by decide +kernel)
  exact ⟨w, hdb, quota_bounds_labels hrun⟩

/-- One handshake passes the check with two labels. -/
theorem quota_exceeded :
    ∃ w : World Memory, Run (World.step oneTunnel) (fun _ _ => True) (.init oneTunnel 0 ∅)
        (connectLabels 0 ["web", "db"]) w ∧
      w.pc 0 .main = .serving "t-a" ∧
      (oneTunnel.config "g1").maxTunnelsPerAgent < ((w.gateway "g1").router.labels (newTunnelID "a")).length := by
  refine run_any (P := fun w : World Memory => w.pc 0 .main = .serving "t-a" ∧
      (oneTunnel.config "g1").maxTunnelsPerAgent < ((w.gateway "g1").router.labels (newTunnelID "a")).length) ?_
  decide +kernel

end TunnelEdge.Gateway
