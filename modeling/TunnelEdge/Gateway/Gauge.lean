import Mathlib.Algebra.BigOperators.Group.Finset.Basic
import TunnelEdge.Gateway.Leftovers
/-!
# The gauge of active tunnels

`addTunnel` makes an entry before `RegisterTunnel`, and `ActiveTunnels` is incremented
after it. It is decremented by whoever takes an entry out. So a handshake that the
registry refuses takes away what it never added, and an entry that is overwritten has
been added twice and is taken away once. Everything else is balanced: the difference
between the gauge and the map is the number of overwritten entries less the number of
refused registrations, as soon as nobody is between one and the other.
-/

namespace TunnelEdge.Gateway

open GoLib Store Registry

variable {σ : Type} {env : Env σ} {w w' : World σ} {c c' : ConnID} {r r' : Role} {fate : Fate} {p q : Pc}

/-! ## The history -/

/-- `len(g.tunnels)` -/
def openTunnels (gw : Gateway) : Nat := GoMap.count (fun _ _ => true) gw.tunnels

structure Tally where
  /-- Entries that `addTunnel` wrote over another one. -/
  overwritten : Nat := 0
  /-- Calls of `RegisterTunnel` that failed. -/
  refused : Nat := 0

/-- The entry that a goroutine is about to write over. -/
def Pc.overwrites (gw : Gateway) : Pc → Bool
  | .install a _ _ => (gw.tunnels.lookup a.tunnelID).isSome
  | _ => false

def Pc.refused : Pc → Pc → Bool
  | .register _, .serving _ => false
  | .register _, _ => true
  | _, _ => false

def tallyOf (g : String) (w : World σ) (l : Label) (w' : World σ) (h : Tally) : Tally :=
  match l with
  | .run c r _ =>
    if w.home c = g then
      { overwritten := h.overwritten + ((w.pc c r).overwrites (w.gateway g)).toNat
        refused := h.refused + (Pc.refused (w.pc c r) (w'.pc c r)).toNat }
    else h
  | _ => h

def Pc.inProgress : Pc → Bool
  | .quota _ | .routeDefault _ | .acquire _ | .unrouteDefault _ | .routeLabels .. | .drawToken .. | .respond ..
  | .unroute .. | .unlease _ | .install .. | .storeToken .. | .register _ => true
  | .cancelPending _ | .take .. | .dropRoutes .. | .release .. | .deregister .. => true
  | _ => false

def World.settled (w : World σ) (g : String) : Prop := ∀ c r, w.home c = g → (w.pc c r).inProgress = false

/-! ## One step -/

/-- What the gauge is behind the map where a goroutine stands: one too few between `addTunnel` and the
registry's answer, one too many between the removal of the entry and the decrement. -/
def Pc.owed : Pc → Int
  | .storeToken .. | .register _ => -1
  | .dropRoutes .. => 1
  | _ => 0

theorem owed_of_early (h : p.early = true) : p.owed = 0 := by
  cases p <;> first | rfl | cases h

theorem owed_of_inProgress (h : p.inProgress = false) : p.owed = 0 := by
  cases p <;> first | rfl | cases h

theorem next_owed (h : Pc.Next r p q) (hp : p.owed = 0) (hi : ∀ a leaseID token, p ≠ .install a leaseID token)
    (ht : ∀ t reason, p ≠ .take t reason) : q.owed = 0 := by
  cases h with
  | early _ _ _ hq => exact owed_of_early hq
  | installStore a leaseID token | installRegister a leaseID token => exact absurd rfl (hi a leaseID token)
  | taken t leaseID reason => exact absurd rfl (ht t reason)
  | storeToken => cases hp
  | _ => rfl

theorem prompted_owed {cfg : Config} {timer : Timer} (h : Pc.Prompted cfg timer r p q)
    (hfire : ∀ t due, timer = .armed t due → r = .timer → p.owed = 0) : p.owed = 0 ∧ q.owed = 0 := by
  cases h with
  | fire _ t due ha => exact ⟨hfire t due ha rfl, rfl⟩
  | _ => exact ⟨rfl, rfl⟩

/-- The increment after a registration and the decrement of a removal. -/
def Pc.gaugeMove : Pc → Pc → Int
  | .register _, .serving _ => 1
  | .dropRoutes .., _ => -1
  | _, _ => 0

theorem stepPc_gauge (env : Env σ) (w : World σ) (c : ConnID) (r : Role) (fate : Fate) (p : Pc) :
    ((stepPc env w c r fate p).1.gateway (w.home c)).activeTunnels =
      (w.gateway (w.home c)).activeTunnels + Pc.gaugeMove p (stepPc env w c r fate p).2 := by
  cases p with
  | register a =>
    simp only [stepPc, stepHandshake]
    split
    · split <;> simp [World.setPc, World.note, Pc.gaugeMove]
    · split <;> simp [World.note, Pc.gaugeMove]
  | dropRoutes t leaseID reason => simp [stepPc, stepRemoval, Int.sub_eq_add_neg, Pc.gaugeMove]
  | routeLabels a leaseID rest => cases rest <;> simp [stepPc, stepHandshake, Pc.gaugeMove]
  | cancelTimer t rest | cancelPending t =>
    simp only [stepPc, stepResume, stepRemoval, World.stopTimer, Pc.gaugeMove]
    split
    · simp
    · simp [World.updateGateway]
  | suspend t =>
    rcases suspend_cases env w c r fate t with h | h | ⟨_, _, _, h⟩ | ⟨_, _, h⟩ <;>
      simp [h, World.note, Pc.gaugeMove]
  | _ =>
    simp only [stepPc, stepHandshake, stepResume, stepStream, stepRemoval, stepBeat, World.heartbeat,
      World.setResumable, Pc.gaugeMove]
    repeat' split
    all_goals simp_all [World.note, World.send, World.setPc, World.updateGateway, addTunnel]

theorem openTunnels_move (hm : TunnelMove w c p w') (hi : ∀ a leaseID token, p ≠ .install a leaseID token)
    (ht : ∀ t reason, p ≠ .take t reason) :
    openTunnels (w'.gateway (w.home c)) = openTunnels (w.gateway (w.home c)) := by
  unfold openTunnels
  cases hm with
  | same h => rw [h]
  | install a leaseID token hp => exact absurd hp (hi a leaseID token)
  | attach t token rest at_ hp hl h =>
    rw [h]
    exact GoMap.count_insert_of_lookup _ hl rfl
  | suspend t at_ hp hl h =>
    rw [h]
    exact GoMap.count_insert_of_lookup _ hl rfl
  | take t reason hp => exact absurd hp (ht t reason)

theorem openTunnels_addTunnel (gw : Gateway) (a : Auth) (c : ConnID) (leaseID : String) :
    openTunnels (addTunnel gw a c leaseID) + ((gw.tunnels.lookup a.tunnelID).isSome).toNat = openTunnels gw + 1 := by
  change GoMap.count (fun _ _ => true) (gw.tunnels.insert a.tunnelID _) + _ = _
  cases hl : gw.tunnels.lookup a.tunnelID with
  | some at_ => exact congrArg (· + 1) (GoMap.count_insert_of_lookup _ hl rfl)
  | none =>
    rw [GoMap.count_insert_of_none _ hl]
    rfl

theorem openTunnels_erase (gw : Gateway) {t : String} {at_ : ActiveTunnel} (hl : gw.tunnels.lookup t = some at_) :
    openTunnels { gw with tunnels := gw.tunnels.erase t } + 1 = openTunnels gw :=
  GoMap.count_erase _ hl

/-- The difference between gauge and map, corrected by what a goroutine owes. -/
def account (gw : Gateway) (p : Pc) : Int := gw.activeTunnels - openTunnels gw - p.owed

section Account

variable (env : Env σ) (w : World σ) (c : ConnID) (r : Role) (fate : Fate)

theorem account_install (a : Auth) (leaseID token : String) :
    account ((stepPc env w c r fate (.install a leaseID token)).1.gateway (w.home c))
        (stepPc env w c r fate (.install a leaseID token)).2 =
      account (w.gateway (w.home c)) (.install a leaseID token) +
        ((Pc.install a leaseID token).overwrites (w.gateway (w.home c))).toNat := by
  have hsize := openTunnels_addTunnel (w.gateway (w.home c)) a c leaseID
  have hgw : (stepPc env w c r fate (.install a leaseID token)).1.gateway (w.home c) =
      addTunnel (w.gateway (w.home c)) a c leaseID := by
    simp [stepPc, stepHandshake, World.note]
  have howed : (stepPc env w c r fate (.install a leaseID token)).2.owed = -1 := by
    simp only [stepPc, stepHandshake]
    split <;> rfl
  have hgauge : (addTunnel (w.gateway (w.home c)) a c leaseID).activeTunnels =
      (w.gateway (w.home c)).activeTunnels := rfl
  unfold account
  rw [hgw, howed, hgauge]
  simp only [Pc.overwrites, Pc.owed]
  omega

theorem account_take (t : String) (reason : Reason) :
    account ((stepPc env w c r fate (.take t reason)).1.gateway (w.home c)) (stepPc env w c r fate (.take t reason)).2 =
      account (w.gateway (w.home c)) (.take t reason) := by
  cases hl : (w.gateway (w.home c)).tunnels.lookup t with
  | none =>
    have hnext : (removed r t reason).owed = 0 := by
      unfold removed
      split <;> rfl
    simp only [stepPc, stepRemoval, hl, account, hnext]
    rfl
  | some at_ =>
    have hsize := openTunnels_erase (w.gateway (w.home c)) hl
    simp only [stepPc, stepRemoval, hl, account, World.updateGateway_self, Pc.owed]
    omega

theorem account_register (a : Auth) :
    account ((stepPc env w c r fate (.register a)).1.gateway (w.home c)) (stepPc env w c r fate (.register a)).2 =
      account (w.gateway (w.home c)) (.register a) -
        (Pc.refused (.register a) (stepPc env w c r fate (.register a)).2).toNat := by
  have hgauge := stepPc_gauge env w c r fate (.register a)
  have hsize := openTunnels_move (stepPc_tunnels env w c r fate (.register a)) (by simp) (by simp)
  have hnext := stepPc_next env w c r fate (.register a) rfl
  unfold account
  rw [hsize, hgauge]
  generalize (stepPc env w c r fate (.register a)).2 = q at hnext ⊢
  cases hnext with
  | registered => simp [Pc.gaugeMove, Pc.refused, Pc.owed]; omega
  | done | failed | unregistered => simp [Pc.gaugeMove, Pc.refused, Pc.owed]
  | early _ _ hp => cases hp

theorem account_dropRoutes (t leaseID : String) (reason : Reason) :
    account ((stepPc env w c r fate (.dropRoutes t leaseID reason)).1.gateway (w.home c))
        (stepPc env w c r fate (.dropRoutes t leaseID reason)).2 =
      account (w.gateway (w.home c)) (.dropRoutes t leaseID reason) := by
  have hgauge := stepPc_gauge env w c r fate (.dropRoutes t leaseID reason)
  have hsize := openTunnels_move (stepPc_tunnels env w c r fate (.dropRoutes t leaseID reason)) (by simp) (by simp)
  have hnext := stepPc_next env w c r fate (.dropRoutes t leaseID reason) rfl
  unfold account
  rw [hsize, hgauge]
  generalize (stepPc env w c r fate (.dropRoutes t leaseID reason)).2 = q at hnext ⊢
  cases hnext with
  | early _ _ hp => cases hp
  | _ => simp [Pc.gaugeMove, Pc.owed]; omega

end Account

/-- A step moves it by an overwritten entry or a refused registration. -/
theorem stepPc_account (env : Env σ) (w : World σ) (c : ConnID) (r : Role) (fate : Fate) (hr : p.runnable = true) :
    account ((stepPc env w c r fate p).1.gateway (w.home c)) (stepPc env w c r fate p).2 =
      account (w.gateway (w.home c)) p + (p.overwrites (w.gateway (w.home c))).toNat -
        (Pc.refused p (stepPc env w c r fate p).2).toNat := by
  have hg := stepPc_gauge env w c r fate p
  have hm := stepPc_tunnels env w c r fate p
  have hn := stepPc_next env w c r fate p hr
  cases p with
  | install a leaseID token => simpa [Pc.refused] using account_install env w c r fate a leaseID token
  | take t reason => simpa [Pc.overwrites, Pc.refused] using account_take env w c r fate t reason
  | register a => simpa [Pc.overwrites] using account_register env w c r fate a
  | dropRoutes t leaseID reason =>
    simpa [Pc.overwrites, Pc.refused] using account_dropRoutes env w c r fate t leaseID reason
  | storeToken a token =>
    have hsize := openTunnels_move hm (by simp) (by simp)
    have hnext : (stepPc env w c r fate (.storeToken a token)).2 = .register a := rfl
    unfold account
    rw [hg, hsize, hnext]
    simp [Pc.owed, Pc.overwrites, Pc.refused, Pc.gaugeMove]
  | _ =>
    have hsize := openTunnels_move hm (by simp) (by simp)
    have howed := next_owed hn rfl (by simp) (by simp)
    unfold account
    rw [hg, hsize, howed]
    simp [Pc.owed, Pc.overwrites, Pc.refused, Pc.gaugeMove]

/-! ## No goroutine starts twice -/

/-- The goroutine of the connection has not armed a timer. -/
def Pc.unarmed : Pc → Bool
  | .serving _ | .pulse _ | .suspend _ | .storeResume .. | .arm _ => true
  | p => p.unstarted

/-- `heartbeatLoop` and the timer are unused until the goroutine of the connection comes to them, and a
timer that is still to fire has no goroutine. -/
structure Starts (w : World σ) (c : ConnID) : Prop where
  beat : (w.pc c .main).unstarted = true → w.pc c .beat = .idle
  timer : (w.pc c .main).unarmed = true → w.timer c = .none ∧ w.pc c .timer = .idle
  armed : ∀ t due, w.timer c = .armed t due → w.pc c .timer = .idle

theorem unarmed_of_unstarted (h : p.unstarted = true) : p.unarmed = true := by
  cases p <;> first | rfl | cases h

theorem unarmed_prev (h : Pc.Next r p q) (hq : q.unarmed = true) : p.unarmed = true := by
  cases h with
  | early _ _ hp _ => exact unarmed_of_unstarted (unstarted_of_early hp)
  | done | failed => cases hq
  | _ => first | rfl | cases hq

theorem arm_main (hb : Base env w) {t : String} (h : w.pc c r = .arm t) : r = .main := by
  have hf := hb.fits c r
  rw [h] at hf
  cases r <;> first | rfl | cases hf

theorem Starts.ran (hb : Base env w) (h : Starts w c) (hr : (w.pc c' r).runnable = true) :
    Starts (w.ran env c' r fate) c := by
  have hnext := stepPc_next env w c' r fate _ hr
  have htimer := stepPc_timer env w c' r fate (w.pc c' r) c
  have hmain : ∀ P : Pc → Bool, (∀ p q, Pc.Next .main p q → P q = true → P p = true) →
      P ((w.ran env c' r fate).pc c .main) = true → P (w.pc c .main) = true := by
    intro P hP hp
    rcases ran_goroutines env w c' r fate c .main with h1 | ⟨rfl, rfl, h1⟩ | ⟨-, h1, -⟩
    · rwa [h1] at hp
    · rw [h1] at hp
      exact hP _ _ hnext hp
    · cases h1
  -- an unused goroutine is not the one that moves
  have hidle : ∀ r', r' ≠ .main → w.pc c r' = .idle → (w.ran env c' r fate).pc c r' = .idle ∨
      r' = .beat ∧ ∃ t, (w.pc c .main).startsLoop = some t ∧ (w.ran env c' r fate).pc c .main = .serving t := by
    intro r' hr' hi
    rcases ran_goroutines env w c' r fate c r' with h1 | ⟨rfl, rfl, -⟩ | ⟨rfl, rfl, t, hs, h1, -⟩
    · exact .inl (h1.trans hi)
    · rw [hi] at hr
      cases hr
    · obtain rfl := starts_main hb hs
      exact .inr ⟨rfl, t, hs, h1⟩
  refine ⟨fun hu => ?_, fun hu => ?_, fun t due ht => ?_⟩
  · rcases hidle .beat (by simp) (h.beat (hmain _ (fun _ _ => unstarted_prev) hu)) with h1 | ⟨-, t, -, h1⟩
    · exact h1
    · rw [h1] at hu
      cases hu
  · obtain ⟨hnone, hi⟩ := h.timer (hmain _ (fun _ _ => unarmed_prev) hu)
    refine ⟨?_, (hidle .timer (by simp) hi).resolve_right fun h1 => by cases h1.1⟩
    rcases htimer with h1 | ⟨h1, -⟩ | ⟨rfl, t, due, h1, -⟩
    · exact h1.trans hnone
    · exact absurd hnone h1
    · obtain rfl := arm_main hb h1
      rw [ran_pc_self env h1] at hu
      cases hu
  · have hi : w.pc c .timer = .idle := by
      rcases htimer with h1 | ⟨-, h1⟩ | ⟨rfl, t', due', h1, -⟩
      · exact h.armed t due (h1.symm.trans ht)
      · cases h1.symm.trans ht
      · obtain rfl := arm_main hb h1
        exact (h.timer (by rw [h1]; rfl)).2
    exact (hidle .timer (by simp) hi).resolve_right fun h1 => by cases h1.1

/-- The goroutine of a timer moves only as the timer fires. -/
inductive TimerMove (w w' : World σ) (c : ConnID) : Prop
  | same (ht : w'.timer c = w.timer c) (hp : w'.pc c .timer = w.pc c .timer)
  | fired (t : String) (due : Time) (ha : w.timer c = .armed t due) (ht : w'.timer c = .fired)
      (hp : w'.pc c .timer = .cancelPending t)

theorem outside_timer {l : Label} (hrun : ∀ c r fate, l ≠ .run c r fate) (h : w.step env l = some w') (c : ConnID) :
    TimerMove w w' c := by
  have hset : ∀ (c' : ConnID) (r : Role) (p : Pc), r ≠ .timer →
      TimerMove w (w.setPc c' r p) c := by
    intro c' r p hr
    refine .same rfl ?_
    rw [World.setPc_pc, if_neg fun he => hr he.2.symm]
  cases l with
  | run c r fate => exact absurd rfl (hrun c r fate)
  | clock | sweepLeases | sweepSessions =>
    cases h
    exact .same rfl rfl
  | lost | cancelled | pulse =>
    obtain ⟨t, -, rfl⟩ := stream_quiet h
    exact hset _ _ _ (by simp)
  | tick | quit =>
    obtain ⟨t, -, rfl⟩ := ticker_quiet h
    exact hset _ _ _ (by simp)
  | accept c' g frames =>
    simp only [World.step] at h
    split at h
    · cases h
      refine .same (by simp [World.setPc]) ?_
      rw [World.setPc_pc]
      simp
    · cases h
  | fire c' =>
    simp only [World.step] at h
    split at h
    · rename_i t due ht
      split at h
      · cases h
        by_cases hc : c = c'
        · subst hc
          exact .fired t due ht (by simp [World.setPc]) (by simp)
        · refine .same (by simp [World.setPc, hc]) ?_
          rw [World.setPc_pc, if_neg fun he => hc he.1]
      · cases h
    · cases h

theorem prompted_unstarted {cfg : Config} {timer : Timer} (h : Pc.Prompted cfg timer .main p q)
    (hq : q.unstarted = true) : p.unstarted = true := by
  cases h <;> cases hq

theorem prompted_unarmed {cfg : Config} {timer : Timer} (h : Pc.Prompted cfg timer .main p q) : p.unarmed = true := by
  cases h <;> rfl

theorem Starts.prompt (h : Starts w c) (hq : Prompt env w w') (ht : TimerMove w w' c) : Starts w' c := by
  refine ⟨fun hu => ?_, fun hu => ?_, fun t due harmed => ?_⟩
  · have hbeat : w.pc c .beat = .idle := by
      refine h.beat ?_
      rcases hq.pc c .main with h1 | h1
      · rwa [h1] at hu
      · exact prompted_unstarted h1 hu
    rcases hq.pc c .beat with h1 | h1
    · exact h1.trans hbeat
    · rw [hbeat] at h1
      cases h1
  · have hold : (w.pc c .main).unarmed = true := by
      rcases hq.pc c .main with h1 | h1
      · rwa [h1] at hu
      · exact prompted_unarmed h1
    obtain ⟨hnone, hidle⟩ := h.timer hold
    cases ht with
    | same ht hp => exact ⟨ht.trans hnone, hp.trans hidle⟩
    | fired t due ha => cases hnone.symm.trans ha
  · cases ht with
    | same ht hp => exact hp.trans (h.armed t due (ht.symm.trans harmed))
    | fired _ _ _ ht => cases ht.symm.trans harmed

theorem Starts.accept {g : String} {frames : List Frame} (hb : Base env w) (h : Starts w c)
    (hn : NewConn env w w' c' g frames) : Starts w' c := by
  have hpc : ∀ r, r ≠ .main → w'.pc c r = w.pc c r := fun r hr => by rw [hn.pc, if_neg fun he => hr he.2]
  by_cases hc : c = c'
  · subst hc
    obtain ⟨hidle, hnone⟩ := hb.idle c hn.new
    have htimer : w'.timer c = .none := by rw [hn.timer, hnone]
    refine ⟨fun _ => ?_, fun _ => ⟨htimer, ?_⟩, fun t due ht => ?_⟩
    · rw [hpc _ (by simp), hidle]
    · rw [hpc _ (by simp), hidle]
    · rw [htimer] at ht
      cases ht
  · have hmain : w'.pc c .main = w.pc c .main := by rw [hn.pc, if_neg fun he => hc he.1]
    refine ⟨fun hu => ?_, fun hu => ?_, fun t due ht => ?_⟩
    · rw [hpc _ (by simp)]
      exact h.beat (hmain ▸ hu)
    · rw [hpc _ (by simp), hn.timer]
      exact h.timer (hmain ▸ hu)
    · rw [hpc _ (by simp)]
      exact h.armed t due (by rw [← hn.timer]; exact ht)

/-! ## The gauge of a gateway -/

def World.owedBy (w : World σ) (c : ConnID) : Int :=
  (w.pc c .main).owed + (w.pc c .beat).owed + (w.pc c .timer).owed

def World.owed (w : World σ) (g : String) : Int := ∑ c ∈ w.conns.toFinset, if w.home c = g then w.owedBy c else 0

/-- The gauge is the number of entries and of overwritten ones, less the refused registrations, up to what
the goroutines owe. -/
structure Balanced (g : String) (w : World σ) (h : Tally) : Prop where
  gauge : (w.gateway g).activeTunnels + h.refused = openTunnels (w.gateway g) + h.overwritten + w.owed g
  starts : ∀ c, Starts w c

theorem sum_change {s : Finset ConnID} {f f' : ConnID → Int} (hc : c ∈ s) (h : ∀ c' ∈ s, c' ≠ c → f' c' = f c') :
    ∑ x ∈ s, f' x = ∑ x ∈ s, f x + (f' c - f c) := by
  rw [← Finset.add_sum_erase s f hc, ← Finset.add_sum_erase s f' hc]
  have hrest : ∑ x ∈ s.erase c, f' x = ∑ x ∈ s.erase c, f x :=
    Finset.sum_congr rfl fun x hx => h x (Finset.mem_of_mem_erase hx) (Finset.ne_of_mem_erase hx)
  rw [hrest]
  omega

theorem owedBy_ran (hb : Base env w) (hs : Starts w c) :
    (w.ran env c r fate).owedBy c =
      w.owedBy c + ((stepPc env w c r fate (w.pc c r)).2.owed - (w.pc c r).owed) := by
  have hown : (w.ran env c r fate).pc c r = (stepPc env w c r fate (w.pc c r)).2 := ran_pc_self env rfl
  have hother : ∀ r', r' ≠ r → ((w.ran env c r fate).pc c r').owed = (w.pc c r').owed := by
    intro r' hr'
    rcases ran_goroutines env w c r fate c r' with h1 | ⟨-, h1, -⟩ | ⟨-, rfl, t, hstarts, -, h1⟩
    · rw [h1]
    · exact absurd h1 hr'
    · obtain rfl := starts_main hb hstarts
      have hidle : w.pc c .beat = .idle := by
        refine hs.beat ?_
        cases hp : w.pc c .main <;> rw [hp] at hstarts <;> first | rfl | cases hstarts
      rw [h1, hidle]
      rfl
  unfold World.owedBy
  cases r with
  | main => rw [hown, hother .beat (by simp), hother .timer (by simp)]; omega
  | beat => rw [hown, hother .main (by simp), hother .timer (by simp)]; omega
  | timer => rw [hown, hother .main (by simp), hother .beat (by simp)]; omega

theorem owed_ran (hb : Base env w) (hs : Starts w c) (hr : (w.pc c r).runnable = true) (g : String)
    (fate : Fate) : (w.ran env c r fate).owed g =
      w.owed g + if w.home c = g then (stepPc env w c r fate (w.pc c r)).2.owed - (w.pc c r).owed else 0 := by
  obtain ⟨-, hconns, hhome, -⟩ := ran_keeps env w c r fate
  unfold World.owed
  rw [hconns, hhome]
  rw [sum_change (c := c) (f := fun c => if w.home c = g then w.owedBy c else 0)
    (List.mem_toFinset.2 (hb.mem_of rfl hr)) fun c' _ hne => ?_]
  · rw [owedBy_ran hb hs]
    split <;> omega
  · have hpc : ∀ r', (w.ran env c r fate).pc c' r' = w.pc c' r' := by
      intro r'
      rcases ran_goroutines env w c r fate c' r' with h1 | ⟨h1, -⟩ | ⟨h1, -⟩
      · exact h1
      · exact absurd h1 hne
      · exact absurd h1 hne
    simp only [World.owedBy, hpc]

theorem owedBy_prompt (hs : Starts w c) (hq : Prompt env w w') : w'.owedBy c = w.owedBy c := by
  have hpc : ∀ r, (w'.pc c r).owed = (w.pc c r).owed := by
    intro r
    rcases hq.pc c r with h1 | h1
    · rw [h1]
    · obtain ⟨hold, hnew⟩ := prompted_owed h1 fun t due ha hr => by rw [hr, hs.armed t due ha]; rfl
      rw [hold, hnew]
  simp only [World.owedBy, hpc]

theorem owed_accept (hb : Base env w) {g' : String} {frames : List Frame} (hn : NewConn env w w' c g' frames)
    (g : String) : w'.owed g = w.owed g := by
  have hidle := (hb.idle c hn.new).1
  have hnew : w'.owedBy c = 0 := by
    have hopen : (handleAgentConnection (env.config g') frames).1.owed = 0 := by
      rcases early_of_opening (handleAgentConnection_opening (env.config g') frames) with he | ⟨f, hf⟩
      · exact owed_of_early he
      · rw [hf]
        rfl
    have hzero : Pc.idle.owed = 0 := rfl
    simp [World.owedBy, hn.pc, hopen, hidle, hzero]
  unfold World.owed
  rw [hn.conns, List.toFinset_cons, Finset.sum_insert (fun hc => hn.new (List.mem_toFinset.1 hc)), hnew, ite_self,
    zero_add]
  refine Finset.sum_congr rfl fun c' hc' => ?_
  have hne : c' ≠ c := fun he => hn.new (he ▸ List.mem_toFinset.1 hc')
  have hpc : ∀ r, w'.pc c' r = w.pc c' r := fun r => by rw [hn.pc, if_neg fun he => hne he.1]
  simp only [World.owedBy, hpc, hn.home, Function.update_of_ne hne]

theorem Balanced.ran {g : String} {h : Tally} (hb : Base env w) (hbal : Balanced g w h)
    (hr : (w.pc c r).runnable = true) :
    Balanced g (w.ran env c r fate) (tallyOf g w (.run c r fate) (w.ran env c r fate) h) := by
  refine ⟨?_, fun c' => (hbal.starts c').ran hb hr⟩
  have hgauge := hbal.gauge
  have howed := owed_ran hb (hbal.starts c) hr g fate
  by_cases hg : w.home c = g
  · have hacc := stepPc_account env w c r fate hr
    have hself : (w.ran env c r fate).pc c r = (stepPc env w c r fate (w.pc c r)).2 := ran_pc_self env rfl
    have hgw : (w.ran env c r fate).gateway = (stepPc env w c r fate (w.pc c r)).1.gateway := rfl
    simp only [tallyOf, if_pos hg, hself] at howed ⊢
    rw [hgw, howed]
    unfold account at hacc
    rw [hg] at hacc
    push_cast
    omega
  · have hgw := (ran_keeps env w c r fate).2.2.2 g (Ne.symm hg)
    simp only [tallyOf, if_neg hg] at howed ⊢
    rw [hgw, howed]
    omega

theorem Balanced.step {g : String} {h : Tally} (hb : Base env w) (hbal : Balanced g w h) {l : Label}
    (hst : w.step env l = some w') : Balanced g w' (tallyOf g w l w' h) := by
  rcases step_kinds hb hst with ⟨c, r, fate, rfl, hr, rfl⟩ | ⟨c, g', frames, rfl, hn⟩ | ⟨hrun, hq⟩
  · exact hbal.ran hb hr
  · refine ⟨?_, fun c' => (hbal.starts c').accept hb hn⟩
    rw [hn.quiet.gateway, owed_accept hb hn]
    exact hbal.gauge
  · have hnone : tallyOf g w l w' h = h := by
      cases l with
      | run c r fate => exact absurd rfl (hrun c r fate)
      | _ => rfl
    have howed : w'.owed g = w.owed g := by
      unfold World.owed
      rw [hq.conns, hq.home]
      exact Finset.sum_congr rfl fun c _ => by rw [owedBy_prompt (hbal.starts c) hq]
    refine ⟨?_, fun c' => (hbal.starts c').prompt hq (outside_timer hrun hst c')⟩
    rw [hnone, hq.quiet.gateway, howed]
    exact hbal.gauge

theorem owed_settled {g : String} (h : w.settled g) : w.owed g = 0 := by
  refine Finset.sum_eq_zero fun c _ => ?_
  split
  · rename_i hg
    have hpc : ∀ r, (w.pc c r).owed = 0 := fun r => owed_of_inProgress (h c r hg)
    simp [World.owedBy, hpc]
  · rfl

/-- Connections that have not been accepted need no look. -/
def World.allSettled (w : World σ) : Bool :=
  w.conns.all fun c => !(w.pc c .main).inProgress && !(w.pc c .beat).inProgress && !(w.pc c .timer).inProgress

theorem Base.settled (hb : Base env w) (h : w.allSettled = true) (g : String) : w.settled g := by
  intro c r _
  by_cases hc : c ∈ w.conns
  · have hpc := List.all_eq_true.1 h c hc
    simp only [Bool.and_eq_true, Bool.not_eq_true'] at hpc
    cases r with
    | main => exact hpc.1.1
    | beat => exact hpc.1.2
    | timer => exact hpc.2
  · rw [(hb.idle c hc).1 r]
    rfl

theorem run_tracked {note : World σ → Label → World σ → Tally → Tally} {start : Time} {store : σ} {ls : List Label}
    {s : World σ × Tally}
    (h : Run (tracked (World.step env) note) (fun _ _ => True) (.init env start store, {}) ls s) : Base env s.1 :=
  h.inv (fun s => Base env s.1) (base_init env start store) fun _ _ _ hb _ hst => base_step hb (tracked_some hst).1

/-- While no handshake or removal of the gateway is in progress, the gauge is exact if and only if `addTunnel`
has written over as many entries as `RegisterTunnel` has refused. -/
theorem gauge_exact_iff {start : Time} {store : σ} {g : String} {ls : List Label} {w : World σ} {h : Tally}
    (hrun : Run (tracked (World.step env) (tallyOf g)) (fun _ _ => True) (.init env start store, {}) ls (w, h))
    (hset : w.settled g) :
    (w.gateway g).activeTunnels = openTunnels (w.gateway g) ↔ h.overwritten = h.refused := by
  have hinv : Base env w ∧ Balanced g w h := by
    refine hrun.inv (fun s => Base env s.1 ∧ Balanced g s.1 s.2) ⟨base_init env start store, ?_⟩ ?_
    · exact ⟨rfl, fun c => ⟨fun _ => rfl, fun _ => ⟨rfl, rfl⟩, fun _ _ _ => rfl⟩⟩
    · rintro ⟨w, h⟩ l ⟨w', h'⟩ ⟨hb, hbal⟩ - hst
      obtain ⟨hst, hnote⟩ := tracked_some hst
      exact ⟨base_step hb hst, hnote ▸ hbal.step hb hst⟩
  have hgauge := hinv.2.gauge
  rw [owed_settled hset] at hgauge
  omega

/-- Connection 0 opens a tunnel. Connection 1 of the same agent writes over its entry, is refused by the
registry, and removes the entry. -/
def doubleConnect : List Label := connect 0 "g1" ++ connect 1 "g1" ++ List.replicate 4 (.run 1 .main .ok)

theorem gauge_exact_doubleConnect :
    ∃ (w : World Memory) (h : Tally), h.overwritten = 1 ∧ h.refused = 1 ∧
      (w.gateway "g1").activeTunnels = openTunnels (w.gateway "g1") := by
  obtain ⟨⟨w, h⟩, hrun, hset, hover, href⟩ :=
    run_any (P := fun s : World Memory × Tally => s.1.allSettled = true ∧ s.2.overwritten = 1 ∧ s.2.refused = 1)
      (show (exec (tracked (World.step (demo Memory.repo false)) (tallyOf "g1"))
        (.init (demo Memory.repo false) 0 ∅, {}) doubleConnect).any _ = true by decide +kernel)
  have hiff := gauge_exact_iff hrun ((run_tracked hrun).settled hset "g1")
  exact ⟨w, h, hover, href, hiff.2 (hover.trans href.symm)⟩

def unregistered : List Label :=
  .accept 0 "g1" [.auth "k"] :: List.replicate 4 (.run 0 .main .ok) ++ .run 0 .main .lost ::
    List.replicate 4 (.run 0 .main .ok)

/-- It leaves no entry, and a gauge of minus one. -/
theorem gauge_negative :
    ∃ w : World Memory, Run (World.step (demo Memory.repo false)) (fun _ _ => True) (.init (demo Memory.repo false) 0 ∅)
        unregistered w ∧
      w.settled "g1" ∧ openTunnels (w.gateway "g1") = 0 ∧ (w.gateway "g1").activeTunnels = -1 := by
  obtain ⟨w, hrun, hset, hentries, hgauge⟩ := run_any (P := fun w : World Memory =>
      w.allSettled = true ∧ openTunnels (w.gateway "g1") = 0 ∧ (w.gateway "g1").activeTunnels = -1)
    (show (exec (World.step (demo Memory.repo false)) (.init (demo Memory.repo false) 0 ∅) unregistered).any _ = true by
      decide +kernel)
  exact ⟨w, hrun, (run_base hrun).settled hset "g1", hentries, hgauge⟩

end TunnelEdge.Gateway
