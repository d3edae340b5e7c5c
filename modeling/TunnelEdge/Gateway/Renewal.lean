import TunnelEdge.Gateway.Heartbeat
import TunnelEdge.Gateway.LeaseLife
import TunnelEdge.Pkg.Config
/-!
# Renewals of a healthy gateway

`heartbeatLoop` renews the lease of its tunnel at every tick of a 15 s ticker. The
TTL it asks for is the configured one, cut to whole seconds by the client; the
registry takes 30 s where that leaves none. Nothing relates the TTL to the period
of the ticker, so a TTL between one second and 15 s runs out before the first tick.

The run is followed with the time of the next tick of one connection beside it.
-/

namespace TunnelEdge.Gateway

open GoLib Store Registry

variable {σ : Type} {env : Env σ} {w w' : World σ} {c : ConnID} {r : Role} {fate : Fate} {p q : Pc} {t id : String}
  {due : Time}

/-! ## From the configuration file to the gateway -/

def gatewayLeaseTTL (v : Duration) : Duration := if 0 < v then v else 45 * second

def sessionResumeTTL (v : Duration) : Duration := if 0 < v then v else 30 * second

/-- The options that `NewGateway` keeps of a configuration; `publicPort` is the one of `publicListenAddr`. -/
def newGateway (cfg : Pkg.GatewayConfig) (publicPort : String) (sessionRepo : Bool)
    (authenticate : String → Option String) : Config where
  leaseTTL := gatewayLeaseTTL cfg.leaseTTL
  maxTunnelsPerAgent := cfg.maxTunnelsPerAgent.toNat
  sessionResumeEnabled := cfg.sessionResumeEnabled
  sessionRepo
  sessionResumeTTL := sessionResumeTTL cfg.sessionResumeTTL
  baseDomain := cfg.baseDomain
  publicPort
  region := cfg.region
  authenticate

/-- `time.NewTicker(15 * time.Second)` -/
def tickInterval : Duration := 15 * second

theorem tickInterval_le_wireTTL_iff (ttl : Duration) :
    tickInterval ≤ Server.wireTTL ttl ↔ ttl < second ∨ tickInterval ≤ ttl := by
  have key : ∀ x : Int, (15000000000 : Int) ≤ (if x.tdiv 1000000000 ≤ 0 then 30 * 1000000000 else
      x.tdiv 1000000000 * 1000000000) ↔ x < 1000000000 ∨ 15000000000 ≤ x := by
    intro x
    rcases Int.lt_or_le x 0 with hx | hx
    · have hneg : 0 ≤ (-x).tdiv 1000000000 := Int.tdiv_nonneg (by omega) (by decide)
      rw [Int.neg_tdiv] at hneg
      rw [if_pos (by omega)]
      omega
    · rw [Int.tdiv_eq_ediv_of_nonneg hx]
      split <;> omega
  exact key ttl

/-! ## Ticks -/

def loopStarts (c : ConnID) (w w' : World σ) : Bool :=
  (w.pc c .main).startsLoop.any fun t => w'.pc c .beat = .waiting t

def nextTick (c : ConnID) (w : World σ) (l : Label) (w' : World σ) (due : Time) : Time :=
  match l with
  | .tick c' => if c' = c then due + tickInterval else due
  | .run c' .main _ => if c' = c && loopStarts c w w' then w.now + tickInterval else due
  | _ => due

/-- The ticks of `c` come on time, its rounds take no time, and their requests are answered. -/
def healthy (c : ConnID) (s : World σ × Time) : Label → Bool
  | .tick c' => c' ≠ c || s.1.now = s.2
  | .clock d =>
    match s.1.pc c .beat with
    | .waiting _ => s.1.now + d ≤ s.2
    | .beat _ | .peek _ | .renew .. | .ticked .. => d = 0
    | _ => true
  | .run c' r fate => !(c' = c && r = .beat) || fate = .ok
  | _ => true

/-- The lease has a tick of life left in the registry. -/
def World.lastsTick (w : World σ) (leaseID : String) : Bool :=
  (w.server.coord.leasesByID.lookup leaseID).any fun l => w.now + tickInterval ≤ l.expiresAt

/-- The TTL of the gateway that accepts `c` outlasts a tick. A lease that is recorded for `t`, or on which the loop
starts, has a tick left, and the lease that is recorded or being renewed is not released. -/
def leaseLasts (env : Env σ) (c : ConnID) (t : String) (w : World σ) : Label → Bool
  | .accept c' g _ => c' ≠ c || (env.config g).leaseTTL < second || tickInterval ≤ (env.config g).leaseTTL
  | .run c' r _ =>
    match w.pc c' r with
    | .install a leaseID _ => a.tunnelID ≠ t || w.home c' ≠ w.home c || w.lastsTick leaseID
    | .register a => c' ≠ c || a.tunnelID ≠ t || (w.leaseOf (w.home c) t).all w.lastsTick
    | .reply t' _ => c' ≠ c || t' ≠ t || (w.leaseOf (w.home c) t).all w.lastsTick
    | .unlease leaseID | .release _ leaseID _ =>
      w.leaseOf (w.home c) t ≠ some leaseID && w.pc c .beat ≠ .renew t leaseID
    | _ => true
  | _ => true

/-! ## The lease lasts until the next tick -/

def World.Lasts (w : World σ) (id : String) (e : Time) : Prop :=
  ∃ l, w.server.coord.leasesByID.lookup id = some l ∧ e ≤ l.expiresAt

/-- Whatever lease the entry of `t` records lasts until `e`. -/
def World.EntryLasts (w : World σ) (g t : String) (e : Time) : Prop := ∀ id, w.leaseOf g t = some id → w.Lasts id e

theorem World.lasts_of_lastsTick (h : w.lastsTick id = true) : w.Lasts id (w.now + tickInterval) := by
  obtain ⟨l, hl, he⟩ := (Option.any_eq_true _ _).1 h
  exact ⟨l, hl, of_decide_eq_true he⟩

theorem World.Lasts.mono {e e' : Time} (h : w.Lasts id e) (he : e' ≤ e) : w.Lasts id e' := by
  obtain ⟨l, hl, hle⟩ := h
  exact ⟨l, hl, Int.le_trans he hle⟩

/-- What the loop of `c` for `t` can rely on at each of its program counters. -/
def Timely (w : World σ) (c : ConnID) (t : String) (due : Time) : Pc → Prop
  | .waiting t' => t' = t → w.now ≤ due ∧ due ≤ w.now + tickInterval ∧ w.EntryLasts (w.home c) t due
  | .beat t' | .peek t' => t' = t → due = w.now + tickInterval ∧ w.EntryLasts (w.home c) t w.now
  | .renew t' id => t' = t → due = w.now + tickInterval ∧ w.Lasts id w.now ∧
      ∀ id', w.leaseOf (w.home c) t = some id' → id' ≠ id → w.Lasts id' due
  | .ticked t' how => t' = t → how ≠ .removed → due = w.now + tickInterval ∧ w.EntryLasts (w.home c) t due
  | _ => True

structure Renewing (env : Env σ) (c : ConnID) (t : String) (w : World σ) (due : Time) : Prop where
  ttl : c ∈ w.conns → tickInterval ≤ Server.wireTTL (env.config (w.home c)).leaseTTL
  timely : Timely w c t due (w.pc c .beat)

theorem lasts_ran (hb : Base env w) (ht : Traced env w) {g : String}
    (hTTL : tickInterval ≤ Server.wireTTL (env.config g).leaseTTL) {e : Time} (hnow : w.now ≤ e)
    (hle : e ≤ w.now + tickInterval) (hown : ∀ l, w.server.coord.leasesByID.lookup id = some l → l.relayID = g)
    (hrel : (w.pc c r).releases ≠ some id) (h : w.Lasts id e) : (w.ran env c r fate).Lasts id e := by
  obtain ⟨l, hl, hel⟩ := h
  obtain ⟨l', hl', -, -, hexp⟩ := ran_lease_kept fate hb ht hl (Int.le_trans hnow hel) hrel
  refine ⟨l', hl', ?_⟩
  rcases hexp with hexp | hexp
  · exact hexp ▸ hel
  · rw [hexp, hown l hl]
    exact Int.le_trans hle (Int.add_le_add_left hTTL w.now)

theorem lasts_quiet (hb : Base env w) (hq : Quiet env w w') {e : Time} (hnow : w.now ≤ e) (h : w.Lasts id e) :
    w'.Lasts id e := by
  obtain ⟨l, hl, hel⟩ := h
  exact ⟨l, quiet_lease_kept hb hq hl (Int.le_trans hnow hel), hel⟩

theorem entryLasts_ran (hb : Base env w) (ht : Traced env w) {g : String}
    (hTTL : tickInterval ≤ Server.wireTTL (env.config g).leaseTTL) {e : Time} (hnow : w.now ≤ e)
    (hle : e ≤ w.now + tickInterval)
    (hinst : ∀ a token, w.pc c r = .install a id token → w.home c = g → a.tunnelID = t → w.lastsTick id = true)
    (hrel : (w.pc c r).releases = some id → w.leaseOf g t ≠ some id) (h : w.leaseOf g t = some id → w.Lasts id e)
    (hid : (w.ran env c r fate).leaseOf g t = some id) : (w.ran env c r fate).Lasts id e := by
  have hold : w.leaseOf g t = some id → (w.ran env c r fate).Lasts id e := fun hid =>
    lasts_ran hb ht hTTL hnow hle (fun l hl => (ht.entries g t id l hid hl).2) (fun hr => hrel hr hid) (h hid)
  rw [ran_leaseOf] at hid
  split at hid
  · rename_i hg
    rcases relet_some hid with ⟨a, token, hp, ha⟩ | hid
    · -- the new entry has a lease with a tick left
      refine lasts_ran hb ht hTTL hnow hle (fun l hl => ?_) (by rw [hp]; simp [Pc.releases])
        ((World.lasts_of_lastsTick (hinst a token hp hg.symm ha)).mono hle)
      rw [hg]
      exact (ht.pcs c r a.tunnelID id l (by rw [hp]; rfl) hl).2
    · exact hold hid
  · exact hold hid

theorem leaseLasts_install {c' : ConnID} (hok : leaseLasts env c t w (.run c' r fate) = true) {a : Auth}
    {token : String} (hp : w.pc c' r = .install a id token) (hh : w.home c' = w.home c) (ha : a.tunnelID = t) :
    w.lastsTick id = true := by
  simpa [leaseLasts, hp, hh, ha] using hok

theorem leaseLasts_releases {c' : ConnID} (hok : leaseLasts env c t w (.run c' r fate) = true)
    (hp : (w.pc c' r).releases = some id) : w.leaseOf (w.home c) t ≠ some id ∧ w.pc c .beat ≠ .renew t id := by
  cases hpc : w.pc c' r with
  | unlease leaseID | release t' leaseID reason =>
    rw [hpc] at hp
    cases hp
    simpa [leaseLasts, hpc] using hok
  | _ =>
    rw [hpc] at hp
    cases hp

theorem leaseLasts_starts (hok : leaseLasts env c t w (.run c r fate) = true)
    (hp : (w.pc c r).startsLoop = some t) : w.EntryLasts (w.home c) t (w.now + tickInterval) := by
  have hall : (w.leaseOf (w.home c) t).all w.lastsTick = true := by
    cases hpc : w.pc c r with
    | register a | reply t' token =>
      rw [hpc] at hp
      cases hp
      simpa [leaseLasts, hpc] using hok
    | _ =>
      rw [hpc] at hp
      cases hp
  intro id hid
  rw [hid] at hall
  exact World.lasts_of_lastsTick (by simpa using hall)

theorem leaseLasts_entry (hb : Base env w) (ht : Traced env w)
    (hTTL : tickInterval ≤ Server.wireTTL (env.config (w.home c)).leaseTTL) {c' : ConnID}
    (hok : leaseLasts env c t w (.run c' r fate) = true) {e : Time} (hnow : w.now ≤ e) (hle : e ≤ w.now + tickInterval)
    (h : w.leaseOf (w.home c) t = some id → w.Lasts id e)
    (hid : (w.ran env c' r fate).leaseOf (w.home c) t = some id) : (w.ran env c' r fate).Lasts id e :=
  entryLasts_ran hb ht hTTL hnow hle (fun _ _ => leaseLasts_install hok) (fun h => (leaseLasts_releases hok h).1) h hid

theorem le_add_tickInterval (now : Time) : now ≤ now + tickInterval := Int.le_add_of_nonneg_right (by decide)

theorem timely_other (hb : Base env w) (ht : Traced env w)
    (hTTL : tickInterval ≤ Server.wireTTL (env.config (w.home c)).leaseTTL) {c' : ConnID}
    (hok : leaseLasts env c t w (.run c' r fate) = true)
    (hpc : (w.ran env c' r fate).pc c .beat = w.pc c .beat) (h : Timely w c t due (w.pc c .beat)) :
    Timely (w.ran env c' r fate) c t due ((w.ran env c' r fate).pc c .beat) := by
  obtain ⟨hnow, -, hhome, -⟩ := ran_keeps env w c' r fate
  have htick := le_add_tickInterval w.now
  rw [hpc]
  cases hp : w.pc c .beat with
  | waiting t' =>
    rw [hp] at h
    intro htt
    obtain ⟨h1, h2, h3⟩ := h htt
    rw [hnow, hhome]
    exact ⟨h1, h2, fun id => leaseLasts_entry hb ht hTTL hok h1 h2 (h3 id)⟩
  | beat t' | peek t' =>
    rw [hp] at h
    intro htt
    obtain ⟨h1, h2⟩ := h htt
    rw [hnow, hhome]
    exact ⟨h1, fun id => leaseLasts_entry hb ht hTTL hok (Int.le_refl _) htick (h2 id)⟩
  | renew t' id =>
    rw [hp] at h
    rintro rfl
    obtain ⟨h1, h2, h3⟩ := h rfl
    rw [hnow, hhome]
    refine ⟨h1, ?_, fun id' hid hne => ?_⟩
    · refine lasts_ran hb ht hTTL (Int.le_refl _) htick (fun l hl => ?_) (fun hr => ?_) h2
      · exact (ht.pcs c .beat t' id l (by rw [hp]; rfl) hl).2
      · exact (leaseLasts_releases hok hr).2 hp
    · exact leaseLasts_entry hb ht hTTL hok (h1 ▸ htick) (Int.le_of_eq h1) (fun hold => h3 id' hold hne) hid
  | ticked t' how =>
    rw [hp] at h
    intro htt hhow
    obtain ⟨h1, h2⟩ := h htt hhow
    rw [hnow, hhome]
    exact ⟨h1, fun id => leaseLasts_entry hb ht hTTL hok (h1 ▸ htick) (Int.le_of_eq h1) (h2 id)⟩
  | _ => trivial

theorem renewLease_of_lasts {s : Server σ} (hi : s.coord.Inv) {now : Time} {l : Lease}
    (hl : s.coord.leasesByID.lookup id = some l) (hlive : now ≤ l.expiresAt) (ttl : Duration) :
    ∃ l', (s.renewLease now id ttl).2 = .ok l' ∧
      ∃ l'', (s.renewLease now id ttl).1.coord.leasesByID.lookup id = some l'' ∧
        l''.expiresAt = now + Server.wireTTL ttl := by
  simp only [Server.renewLease]
  rcases MemCoordinator.renewLease_cases hi now id (Server.wireTTL ttl) with ⟨e, -, hexp⟩ | ⟨l₀, -, -, hres⟩
  · exact absurd (hexp l hl) (Int.not_lt.2 hlive)
  · rw [hres]
    exact ⟨_, rfl, _, AList.lookup_insert _, rfl⟩

theorem timely_peek (hb : Base env w) (ht : Traced env w)
    (hTTL : tickInterval ≤ Server.wireTTL (env.config (w.home c)).leaseTTL)
    (hok : leaseLasts env c t w (.run c .beat .ok) = true) {t' : String} (hp : w.pc c .beat = .peek t')
    (h : Timely w c t due (.peek t')) :
    Timely (w.ran env c .beat .ok) c t due ((w.ran env c .beat .ok).pc c .beat) := by
  obtain ⟨hnow, -, hhome, -⟩ := ran_keeps env w c .beat .ok
  have htick := le_add_tickInterval w.now
  rw [ran_pc_self env hp]
  -- the entry is read, not written
  have hsame : (w.ran env c .beat .ok).leaseOf (w.home c) t = w.leaseOf (w.home c) t := by
    rw [ran_leaseOf, if_pos rfl, hp]
    rfl
  cases hl : (w.gateway (w.home c)).tunnels.lookup t' with
  | none =>
    simp only [stepPc, stepBeat, hl]
    rintro rfl -
    rw [hnow, hhome]
    refine ⟨(h rfl).1, fun id hid => ?_⟩
    rw [hsame, leaseOf_none.2 hl] at hid
    cases hid
  | some at_ =>
    simp only [stepPc, stepBeat, hl]
    split
    · rintro rfl
      have hentry : w.leaseOf (w.home c) t' = some at_.leaseID := by simp [World.leaseOf, hl]
      rw [hnow, hhome]
      refine ⟨(h rfl).1, ?_, fun id hid hne => ?_⟩
      · exact leaseLasts_entry hb ht hTTL hok (Int.le_refl _) htick ((h rfl).2 _) (hsame.trans hentry)
      · rw [hsame, hentry] at hid
        exact absurd (Option.some.inj hid).symm hne
    · rename_i hid
      rintro rfl -
      -- a lease that lasts has an id
      obtain ⟨l, hl', -⟩ := (h rfl).2 "" (by simp [World.leaseOf, hl, not_not.1 hid])
      exact absurd rfl (hb.leases.inv.ids "" l hl').2

theorem timely_renew (hb : Base env w) (ht : Traced env w)
    (hTTL : tickInterval ≤ Server.wireTTL (env.config (w.home c)).leaseTTL)
    (hok : leaseLasts env c t w (.run c .beat .ok) = true) {t' : String} (hp : w.pc c .beat = .renew t' id)
    (h : Timely w c t due (.renew t' id)) :
    Timely (w.ran env c .beat .ok) c t due ((w.ran env c .beat .ok).pc c .beat) := by
  obtain ⟨hnow, -, hhome, -⟩ := ran_keeps env w c .beat .ok
  have htick := le_add_tickInterval w.now
  rw [ran_pc_self env hp]
  have hserver : (w.ran env c .beat .ok).server =
      (w.server.renewLease w.now id (env.config (w.home c)).leaseTTL).1 := by
    change (stepPc env w c .beat .ok (w.pc c .beat)).1.server = _
    rw [hp]
    simp only [stepPc, stepBeat]
    split <;> rfl
  simp only [stepPc, stepBeat]
  split
  · rintro rfl -
    obtain ⟨h1, ⟨l, hl, hlive⟩, h3⟩ := h rfl
    rw [hnow, hhome]
    refine ⟨h1, fun id' hid => ?_⟩
    by_cases hne : id' = id
    · subst hne
      obtain ⟨-, -, l', hl', hexp⟩ := renewLease_of_lasts hb.leases.inv hl hlive (env.config (w.home c)).leaseTTL
      refine ⟨l', by rw [hserver, hl'], ?_⟩
      rw [hexp, h1]
      exact Int.add_le_add_left hTTL w.now
    · exact leaseLasts_entry hb ht hTTL hok (h1 ▸ htick) (Int.le_of_eq h1) (fun hold => h3 id' hold hne) hid
  · trivial

theorem timely_own (hb : Base env w) (ht : Traced env w)
    (hTTL : tickInterval ≤ Server.wireTTL (env.config (w.home c)).leaseTTL)
    (hok : leaseLasts env c t w (.run c .beat .ok) = true) (hr : (w.pc c .beat).runnable = true)
    (h : Timely w c t due (w.pc c .beat)) :
    Timely (w.ran env c .beat .ok) c t due ((w.ran env c .beat .ok).pc c .beat) := by
  obtain ⟨hnow, -, hhome, -⟩ := ran_keeps env w c .beat .ok
  have htick := le_add_tickInterval w.now
  have hfits := hb.fits c .beat
  have hself : ∀ {p}, w.pc c .beat = p → (w.ran env c .beat .ok).pc c .beat = (stepPc env w c .beat .ok p).2 :=
    ran_pc_self env
  cases hp : w.pc c .beat with
  | idle | waiting | done | failed => rw [hp] at hr; cases hr
  | beat t' =>
    rw [hp] at h
    rw [hself hp]
    cases hres : (w.heartbeat env .ok t').2 with
    | none => cases hres
    | some alive =>
      cases alive with
      | false => simp [stepPc, stepBeat, hres, Timely]
      | true =>
        simp only [stepPc, stepBeat, hres]
        intro htt
        obtain ⟨h1, h2⟩ := h htt
        rw [hnow, hhome]
        exact ⟨h1, fun id => leaseLasts_entry hb ht hTTL hok (Int.le_refl _) htick (h2 id)⟩
  | peek t' => exact timely_peek hb ht hTTL hok hp (hp ▸ h)
  | renew t' id => exact timely_renew hb ht hTTL hok hp (hp ▸ h)
  | ticked t' how =>
    rw [hp] at h
    rw [hself hp]
    simp only [stepPc, stepBeat]
    split
    · trivial
    · rename_i hhow
      intro htt
      obtain ⟨h1, h2⟩ := h htt hhow
      rw [hnow, hhome]
      exact ⟨h1 ▸ htick, Int.le_of_eq h1,
        fun id => leaseLasts_entry hb ht hTTL hok (h1 ▸ htick) (Int.le_of_eq h1) (h2 id)⟩
  | take t' reason | deregister t' reason | dropRoutes t' leaseID reason | release t' leaseID reason =>
    rw [hself hp]
    simp only [stepPc, stepRemoval, removed]
    repeat' split
    all_goals first | trivial | (intro _ hne; exact absurd rfl hne)
  | _ => rw [hp] at hfits; cases hfits

/-! ## Along a run -/

theorem renewing_ran (hb : Base env w) (ht : Traced env w) (h : Renewing env c t w due) {c' : ConnID}
    (hr : (w.pc c' r).runnable = true) (hhealthy : healthy c (w, due) (.run c' r fate) = true)
    (hok : leaseLasts env c t w (.run c' r fate) = true) :
    Renewing env c t (w.ran env c' r fate) (nextTick c w (.run c' r fate) (w.ran env c' r fate) due) := by
  obtain ⟨hnow, hconns, hhome, -⟩ := ran_keeps env w c' r fate
  refine ⟨by rw [hconns, hhome]; exact h.ttl, ?_⟩
  by_cases hstart : c' = c ∧ r = .main ∧ loopStarts c w (w.ran env c' r fate) = true
  · obtain ⟨rfl, rfl, hs⟩ := hstart
    obtain ⟨t₀, ht₀, hbeat⟩ := (Option.any_eq_true _ _).1 hs
    have hTTL := h.ttl (hb.mem_conns (r := .main) fun h0 => by rw [h0] at hr; cases hr)
    rw [of_decide_eq_true hbeat, nextTick, hs]
    simp only [decide_true, Bool.and_self, if_true]
    rintro rfl
    rw [hnow, hhome]
    have htick := le_add_tickInterval w.now
    exact ⟨htick, Int.le_refl _, fun id => leaseLasts_entry hb ht hTTL hok htick (Int.le_refl _)
      (leaseLasts_starts hok ht₀ id)⟩
  · have hdue : nextTick c w (.run c' r fate) (w.ran env c' r fate) due = due := by
      cases r with
      | main =>
        refine if_neg fun he => hstart ?_
        simp only [Bool.and_eq_true, decide_eq_true_eq] at he
        exact ⟨he.1, rfl, he.2⟩
      | _ => rfl
    rw [hdue]
    have htimely := h.timely
    by_cases hc : c ∈ w.conns
    · have hTTL := h.ttl hc
      rcases ran_goroutines env w c' r fate c .beat with hpc | ⟨rfl, rfl, -⟩ | ⟨rfl, -, t₀, ht₀, -, hpc⟩
      · exact timely_other hb ht hTTL hok hpc htimely
      · have hfate : fate = .ok := by simpa [healthy] using hhealthy
        subst hfate
        exact timely_own hb ht hTTL hok hr htimely
      · -- the loop has started after all
        refine absurd ⟨rfl, starts_main hb ht₀, ?_⟩ hstart
        have hm := starts_main hb ht₀
        subst hm
        simp [loopStarts, ht₀, hpc]
    · rw [((base_ran hb hr).idle c (hconns ▸ hc)).1]
      trivial

theorem timely_quiet (hb : Base env w) (hq : Quiet env w w') (hnow : w'.now = w.now) (hhome : w'.home c = w.home c)
    (h : Timely w c t due p) : Timely w' c t due p := by
  have hleaseOf : ∀ g, w'.leaseOf g t = w.leaseOf g t := fun g => by rw [World.leaseOf, hq.gateway, ← World.leaseOf]
  have hentry : ∀ {e}, w.now ≤ e → w.EntryLasts (w.home c) t e → w'.EntryLasts (w.home c) t e :=
    fun he h id hid => lasts_quiet hb hq he (h id (hleaseOf _ ▸ hid))
  have htick := le_add_tickInterval w.now
  cases p with
  | waiting t' =>
    intro htt
    obtain ⟨h1, h2, h3⟩ := h htt
    rw [hnow, hhome]
    exact ⟨h1, h2, hentry h1 h3⟩
  | beat t' | peek t' =>
    intro htt
    obtain ⟨h1, h2⟩ := h htt
    rw [hnow, hhome]
    exact ⟨h1, hentry (Int.le_refl _) h2⟩
  | renew t' id =>
    intro htt
    obtain ⟨h1, h2, h3⟩ := h htt
    rw [hnow, hhome]
    exact ⟨h1, lasts_quiet hb hq (Int.le_refl _) h2,
      fun id' hid hne => lasts_quiet hb hq (h1 ▸ htick) (h3 id' (hleaseOf _ ▸ hid) hne)⟩
  | ticked t' how =>
    intro htt hhow
    obtain ⟨h1, h2⟩ := h htt hhow
    rw [hnow, hhome]
    exact ⟨h1, hentry (h1 ▸ htick) h2⟩
  | _ => trivial

/-- Time passes up to the next tick, and not during a round. -/
theorem timely_clock {d : Nat} (hok : healthy c (w, due) (.clock d) = true) (h : Timely w c t due (w.pc c .beat)) :
    Timely { w with now := w.now + d } c t due (w.pc c .beat) := by
  simp only [healthy] at hok
  cases hp : w.pc c .beat with
  | waiting t' =>
    rw [hp] at h hok
    intro htt
    obtain ⟨-, h2, h3⟩ := h htt
    have hd : w.now + tickInterval ≤ w.now + (d : Int) + tickInterval :=
      Int.add_le_add_right (Int.le_add_of_nonneg_right (Int.natCast_nonneg d)) tickInterval
    exact ⟨of_decide_eq_true hok, Int.le_trans h2 hd, h3⟩
  | beat t' | peek t' | renew t' id | ticked t' how =>
    rw [hp] at h hok
    have hd : d = 0 := of_decide_eq_true hok
    subst hd
    rw [show w.now + ((0 : Nat) : Int) = w.now from Int.add_zero _]
    exact h
  | _ => trivial

/-- A new connection starts no loop, and its gateway's leases last a tick. -/
theorem renewing_accept (hb : Base env w) (h : Renewing env c t w due) {c' : ConnID} {g : String} {frames : List Frame}
    (hok : leaseLasts env c t w (.accept c' g frames) = true) (hst : w.step env (.accept c' g frames) = some w') :
    Renewing env c t w' due := by
  have hn := accept_step hb hst
  have hnow : w'.now = w.now := by
    simp only [World.step] at hst
    split at hst
    · cases hst
      simp [World.setPc]
    · cases hst
  have hbeat : w'.pc c .beat = w.pc c .beat := by
    rw [hn.pc, if_neg fun he => by cases he.2]
  by_cases he : c = c'
  · subst he
    refine ⟨fun _ => ?_, ?_⟩
    · rw [hn.home, Function.update_self]
      refine (tickInterval_le_wireTTL_iff _).2 ?_
      simpa [leaseLasts] using hok
    · rw [hbeat, (hb.idle c hn.new).1]
      trivial
  · have hhome : w'.home c = w.home c := by rw [hn.home, Function.update_of_ne he]
    refine ⟨fun hc => ?_, ?_⟩
    · rw [hn.conns] at hc
      rw [hhome]
      exact h.ttl ((List.mem_cons.1 hc).resolve_left he)
    · rw [hbeat]
      exact timely_quiet hb hn.quiet hnow hhome h.timely

theorem renewing_tick (h : Renewing env c t w due) {t' : String} (hp : w.pc c .beat = .waiting t')
    (hdue : w.now = due) : Renewing env c t (w.setPc c .beat (.beat t')) (due + tickInterval) := by
  have htimely := h.timely
  rw [hp] at htimely
  refine ⟨h.ttl, ?_⟩
  rw [World.setPc_self]
  intro htt
  subst hdue
  exact ⟨rfl, (htimely htt).2.2⟩

theorem renewing_event (hb : Base env w) (h : Renewing env c t w due) {l : Label} (hrun : ∀ c r fate, l ≠ .run c r fate)
    (hhealthy : healthy c (w, due) l = true) (hok : leaseLasts env c t w l = true) (hst : w.step env l = some w') :
    Renewing env c t w' (nextTick c w l w' due) := by
  have hq : Quiet env w w' := (step_cases hb hst).resolve_left fun ⟨c', r, fate, hl, _⟩ => hrun c' r fate hl
  have hother : ∀ {q : Pc} {c' : ConnID} {r : Role}, (c' = c → r ≠ .beat) → w' = w.setPc c' r q →
      Renewing env c t w' due := by
    rintro q c' r hne rfl
    refine ⟨h.ttl, ?_⟩
    rw [World.setPc_pc, if_neg fun he => hne he.1.symm he.2.symm]
    exact timely_quiet hb hq rfl rfl h.timely
  cases l with
  | run c' r fate => exact absurd rfl (hrun c' r fate)
  | clock d =>
    cases hst
    exact ⟨h.ttl, timely_clock hhealthy h.timely⟩
  | sweepLeases | sweepSessions =>
    cases hst
    exact ⟨h.ttl, timely_quiet hb hq rfl rfl h.timely⟩
  | accept c' g frames => exact renewing_accept hb h hok hst
  | lost c' | cancelled c' | pulse c' =>
    obtain ⟨t', -, he⟩ := stream_quiet hst
    exact hother (by simp) he
  | tick c' =>
    obtain ⟨t', hp, he⟩ := ticker_quiet hst
    by_cases hc : c' = c
    · subst hc he
      simp only [nextTick, if_true]
      exact renewing_tick h hp (by simpa [healthy] using hhealthy)
    · simp only [nextTick, if_neg hc]
      exact hother (fun he' => absurd he' hc) he
  | quit c' =>
    obtain ⟨t', hp, he⟩ := ticker_quiet hst
    by_cases hc : c' = c
    · subst hc he
      refine ⟨h.ttl, ?_⟩
      rw [World.setPc_self]
      trivial
    · exact hother (fun he' => absurd he' hc) he
  | fire c' =>
    simp only [World.step] at hst
    split at hst
    · split at hst
      · cases hst
        refine ⟨h.ttl, ?_⟩
        rw [World.setPc_pc, if_neg fun he => by cases he.2]
        exact timely_quiet hb hq rfl rfl h.timely
      · cases hst
    · cases hst

theorem run_renewing {start due₀ : Time} {store : σ} {ls : List Label}
    (h : Run (tracked (World.step env) (nextTick c)) (fun s l => (healthy c s l && leaseLasts env c t s.1 l) = true)
      (.init env start store, due₀) ls (w, due)) : Base env w ∧ Traced env w ∧ Renewing env c t w due := by
  have h0 : Renewing env c t (.init env start store) due₀ := ⟨by simp [World.init], trivial⟩
  refine h.inv (fun s => Base env s.1 ∧ Traced env s.1 ∧ Renewing env c t s.1 s.2)
    ⟨base_init env start store, traced_init env start store, h0⟩ ?_
  rintro s l s' ⟨hb, ht, hi⟩ hok hst
  obtain ⟨hst, hdue⟩ := tracked_some hst
  rw [Bool.and_eq_true] at hok
  refine ⟨base_step hb hst, traced_step hb ht hst, ?_⟩
  rw [hdue]
  by_cases hrun : ∃ c' r fate, l = .run c' r fate
  · obtain ⟨c', r, fate, rfl⟩ := hrun
    obtain ⟨hr, he⟩ := run_step hst
    rw [he]
    exact renewing_ran hb ht hi hr hok.1 hok.2
  · exact renewing_event hb hi (fun c' r fate he => hrun ⟨c', r, fate, he⟩) hok.1 hok.2 hst

/-- While the rounds of `c` are on time and answered, every `RenewLease` of its loop succeeds, if the TTL of its
gateway is below a second or at least 15 s, every lease that is recorded for the tunnel, or on which the loop
starts, has 15 s left, and no goroutine releases the lease that is recorded. -/
theorem renewals_succeed {start due₀ : Time} {store : σ} {ls : List Label}
    (h : Run (tracked (World.step env) (nextTick c)) (fun s l => (healthy c s l && leaseLasts env c t s.1 l) = true)
      (.init env start store, due₀) ls (w, due)) (hpc : w.pc c .beat = .renew t id) :
    ∃ l, (w.server.renewLease w.now id (env.config (w.home c)).leaseTTL).2 = .ok l := by
  obtain ⟨hb, -, hi⟩ := run_renewing h
  have htimely := hi.timely
  rw [hpc] at htimely
  obtain ⟨-, ⟨l, hl, hlive⟩, -⟩ := htimely rfl
  obtain ⟨l', hl', -⟩ := renewLease_of_lasts hb.leases.inv hl hlive (env.config (w.home c)).leaseTTL
  exact ⟨l', hl'⟩

/-- A handshake and the first steps of the round at the first tick. -/
def firstRound : List Label :=
  connect 0 "g1" ++ [.clock 15000000000, .tick 0] ++ List.replicate 2 (.run 0 .beat .ok)

theorem renewals_succeed_firstRound :
    ∃ w : World Memory, w.pc 0 .beat = .renew "t-a" "u" ∧ w.now = tickInterval ∧
      ∃ l, (w.server.renewLease w.now "u" (45 * second)).2 = .ok l := by
  obtain ⟨⟨w, due⟩, h, hpc, hnow, hhome⟩ := run_checked_any (P := fun s : World Memory × Time =>
    s.1.pc 0 .beat = .renew "t-a" "u" ∧ s.1.now = tickInterval ∧
      ((demo Memory.repo false).config (s.1.home 0)).leaseTTL = 45 * second)
    (show (exec (checked (tracked (World.step (demo Memory.repo false)) (nextTick 0)) fun s l =>
        healthy 0 s l && leaseLasts (demo Memory.repo false) 0 "t-a" s.1 l)
      (.init (demo Memory.repo false) 0 ∅, 0) firstRound).any _ = true by decide +kernel)
  have hok := renewals_succeed h hpc
  rw [hhome] at hok
  exact ⟨w, hpc, hnow, hok⟩

def tenSeconds : Pkg.Config where
  gateway := {
    quicListenAddr := ":4433", publicListenAddr := ":443", baseDomain := "x", registryAddr := "localhost:50051"
    relayID := "g1", leaseTTL := 10 * second, healthReportInterval := 15 * second, shutdownTimeout := 15 * second
    streamIdleTimeout := 30 * second, maxStreams := 1000 }

def tenSecondGateways : Env Memory :=
  { demo Memory.repo false with
    config := fun _ => newGateway tenSeconds.gateway "443" false fun token => if token = "k" then some "a" else none }

/-- The configuration is accepted, every request is answered at once, and the first `RenewLease` finds no lease. -/
theorem first_renewal_not_found :
    tenSeconds.validate .gateway = .ok () ∧
      ∃ (w : World Memory) (due : Time),
        Run (tracked (World.step tenSecondGateways) (nextTick 0)) (fun s l => healthy 0 s l = true)
          (.init tenSecondGateways 0 ∅, 0) firstRound (w, due) ∧
        w.pc 0 .beat = .renew "t-a" "u" ∧
        (w.server.renewLease w.now "u" (tenSecondGateways.config (w.home 0)).leaseTTL).2 =
          .error ⟨.notFound, "lease u not found"⟩ := by
  refine ⟨by decide +kernel, ?_⟩
  obtain ⟨⟨w, due⟩, h, hpc, hres⟩ := run_checked_any (P := fun s : World Memory × Time =>
    s.1.pc 0 .beat = .renew "t-a" "u" ∧
      (s.1.server.renewLease s.1.now "u" (tenSecondGateways.config (s.1.home 0)).leaseTTL).2 =
        .error ⟨.notFound, "lease u not found"⟩)
    (show (exec (checked (tracked (World.step tenSecondGateways) (nextTick 0)) (healthy 0))
      (.init tenSecondGateways 0 ∅, 0) firstRound).any _ = true by decide +kernel)
  exact ⟨w, due, h, hpc, hres⟩

end TunnelEdge.Gateway
