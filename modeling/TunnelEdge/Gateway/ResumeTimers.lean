import TunnelEdge.Gateway.Reach
/-!
# Resume timers

`suspendTunnel` stores a token, arms a timer and records it, in three steps
outside the lock of the tunnel map. A resume stops the timer that is recorded at
that moment; a full handshake stops none. A timer that is left over removes the
tunnel a grace window later, whoever has it by then.
-/

namespace TunnelEdge.Gateway

open GoLib Store Registry

variable {σ : Type} {env : Env σ} {w w' : World σ} {c c' : ConnID} {r : Role} {fate : Fate} {p q : Pc} {g t : String}

def Event.attaches (g t : String) : Event → Bool
  | .attached g' t' _ => g' = g && t' = t
  | _ => false

/-- A connection has been attached to `t` since the end of `c` suspended it. -/
def reattached (log : List Event) (g t : String) (c : ConnID) : Bool :=
  (log.takeWhile (· ≠ .suspended g t c)).any (Event.attaches g t)

def Pc.suspending (t : String) : Pc → Bool
  | .storeResume t' _ | .arm t' => t' = t
  | _ => false

def Pc.finalizing (t : String) : Pc → Bool
  | .cancelPending t' | .take t' _ | .dropRoutes t' _ _ | .release t' _ _ | .deregister t' _ => t' = t
  | _ => false

def Timer.armedFor (t : String) : Timer → Bool
  | .armed t' _ => t' = t
  | _ => false

/-- The suspension of `t` by the end of `c` is on its way to a timer, has one running, or its timer has fired and
is at work. -/
def World.pending (w : World σ) (c : ConnID) (t : String) : Bool :=
  (w.pc c .main).suspending t || (w.timer c).armedFor t || (w.pc c .timer).finalizing t

def World.unarmed (w : World σ) (g t : String) : Bool := w.conns.all fun c => w.home c ≠ g || !w.pending c t

/-- A connection is attached to a tunnel only when no suspension of that tunnel is pending. -/
def attachesUnarmed (w : World σ) : Label → Bool
  | .run c r _ =>
    match w.pc c r with
    | .install a _ _ => w.unarmed (w.home c) a.tunnelID
    | .attach t _ _ => ((w.gateway (w.home c)).tunnels.lookup t).isNone || w.unarmed (w.home c) t
    | _ => true
  | _ => true

/-! ## Pending suspensions -/

theorem pending_iff : w.pending c t = true ↔
    (w.pc c .main).suspending t = true ∨ (w.timer c).armedFor t = true ∨ (w.pc c .timer).finalizing t = true := by
  simp only [World.pending, Bool.or_eq_true, or_assoc]

theorem Base.pending_conn (hb : Base env w) (h : w.pending c t = true) : c ∈ w.conns := by
  by_contra hc
  obtain ⟨hp, ht⟩ := hb.idle c hc
  rcases pending_iff.1 h with h | h | h
  · rw [hp] at h; cases h
  · rw [ht] at h; cases h
  · rw [hp] at h; cases h

theorem suspending_of_early (h : q.early = true) (t : String) : q.suspending t = false ∧ q.finalizing t = false := by
  cases q <;> first | exact ⟨rfl, rfl⟩ | cases h

theorem next_suspending (h : Pc.Next r p q) (hq : q.suspending t = true) :
    p.suspending t = true ∨ (p = .suspend t ∧ ∃ token, q = .storeResume t token) := by
  cases h with
  | early _ _ _ he =>
    rw [(suspending_of_early he t).1] at hq
    cases hq
  | _ => simp_all [Pc.suspending]

theorem next_finalizing (h : Pc.Next .timer p q) (hp : p.fits .timer = true) (hq : q.finalizing t = true) :
    p.finalizing t = true := by
  cases h with
  | early _ _ _ he =>
    rw [(suspending_of_early he t).2] at hq
    cases hq
  | _ => simp_all [Pc.finalizing, Pc.fits]

theorem outside_main (h : Pc.Outside .main p q) : q.suspending t = false := by
  cases h with
  | accept _ ho =>
    rcases early_of_opening ho with hq | ⟨f, rfl⟩
    · exact (suspending_of_early hq t).1
    · rfl
  | _ => rfl

theorem suspend_logged {token : String} (h : (stepPc env w c r fate (.suspend t)).2 = .storeResume t token) :
    (stepPc env w c r fate (.suspend t)).1.log = .suspended (w.home c) t c :: w.log := by
  cases hl : (w.gateway (w.home c)).tunnels.lookup t with
  | none => simp [stepPc, stepStream, hl] at h
  | some at_ =>
    cases fate <;> cases hc : at_.conn <;>
      simp_all [stepPc, stepStream, World.generateResumeToken, World.note, World.updateGateway]

theorem ran_pending (hb : Base env w) (hr : (w.pc c r).runnable = true)
    (h : (w.ran env c r fate).pending c' t = true) :
    w.pending c' t = true ∨ (c' = c ∧ (w.ran env c r fate).log = .suspended (w.home c) t c :: w.log) := by
  have hnext := stepPc_next env w c r fate (w.pc c r) hr
  rcases pending_iff.1 h with hs | ha | hf
  · rcases ran_pc env w c r fate c' .main with hpc | ⟨rfl, rfl, hpc⟩ | ⟨-, hr', -⟩
    · exact .inl (pending_iff.2 (.inl (hpc ▸ hs)))
    · rw [hpc] at hs
      rcases next_suspending hnext hs with hp | ⟨hp, token, hq⟩
      · exact .inl (pending_iff.2 (.inl hp))
      · rw [hp] at hq
        have hlog := suspend_logged hq
        rw [← hp] at hlog
        exact .inr ⟨rfl, hlog⟩
    · cases hr'
  · rcases stepPc_timer env w c r fate (w.pc c r) c' with ht | ⟨-, ht⟩ | ⟨rfl, t', due, hp, ht⟩
    · exact .inl (pending_iff.2 (.inr (.inl (ht ▸ ha))))
    · rw [show (w.ran env c r fate).timer c' = .stopped from ht] at ha
      cases ha
    · rw [show (w.ran env c' r fate).timer c' = .armed t' due from ht] at ha
      have hmain : r = .main := by
        have hfit := hb.fits c' r
        rw [hp] at hfit
        cases r <;> first | rfl | cases hfit
      rw [hmain] at hp
      exact .inl (pending_iff.2 (.inl (hp ▸ ha)))
  · rcases ran_pc env w c r fate c' .timer with hpc | ⟨rfl, rfl, hpc⟩ | ⟨-, hr', -⟩
    · exact .inl (pending_iff.2 (.inr (.inr (hpc ▸ hf))))
    · rw [hpc] at hf
      exact .inl (pending_iff.2 (.inr (.inr (next_finalizing hnext (hb.fits c' .timer) hf))))
    · cases hr'

theorem quiet_pending (hq : Quiet env w w') (h : w'.pending c t = true) : w.pending c t = true := by
  rcases pending_iff.1 h with h | h | h
  · rcases hq.pc c .main with h1 | h1 | ⟨h1, -⟩
    · exact pending_iff.2 (.inl (h1 ▸ h))
    · rw [outside_main h1] at h
      cases h
    · cases h1
  · rcases hq.timer c with h1 | ⟨-, h1⟩
    · exact pending_iff.2 (.inr (.inl (h1 ▸ h)))
    · rw [h1] at h
      cases h
  · rcases hq.pc c .timer with h1 | h1 | ⟨-, t', due, ht, h1⟩
    · exact pending_iff.2 (.inr (.inr (h1 ▸ h)))
    · cases h1
    · rw [h1] at h
      exact pending_iff.2 (.inr (.inl (by rw [ht]; exact h)))

/-! ## No attachment under a pending suspension -/

/-- No connection has been attached since a suspension that is pending. -/
def Disarmed (w : World σ) : Prop := ∀ c t, w.pending c t = true → reattached w.log (w.home c) t c = false

theorem reattached_cons {e : Event} {log : List Event} (he : e.attaches g t = false)
    (h : reattached log g t c = false) :
    reattached (e :: log) g t c = false := by
  unfold reattached at h ⊢
  by_cases hs : e = .suspended g t c
  · simp [hs]
  · simp only [List.takeWhile_cons, ne_eq, hs, not_false_eq_true, decide_true, if_true, List.any_cons, he, h,
      Bool.or_self]

theorem unarmed_pending (hb : Base env w) (h : w.unarmed (w.home c) t = true) (hp : w.pending c' t = true) :
    w.home c' ≠ w.home c := by
  intro hh
  simp only [World.unarmed, List.all_eq_true] at h
  have h1 := h c' (hb.pending_conn hp)
  simp [hh, hp] at h1

theorem disarmed_ran (hb : Base env w) (hi : Disarmed w) (hok : attachesUnarmed w (.run c r fate) = true)
    (hr : (w.pc c r).runnable = true) : Disarmed (w.ran env c r fate) := by
  intro c' t hp
  rw [(ran_keeps env w c r fate).2.2.1]
  rcases ran_pending hb hr hp with hold | ⟨rfl, hlog⟩
  · have hre := hi c' t hold
    cases ran_log hb.leases c r fate with
    | same hlog => rw [hlog]; exact hre
    | granted _ _ _ _ hlog => rw [hlog]; exact reattached_cons rfl hre
    | registered _ _ hlog => rw [hlog]; exact reattached_cons rfl hre
    | suspended _ _ hlog => rw [hlog]; exact reattached_cons rfl hre
    | installed a leaseID token hpc hlog =>
      rw [hlog]
      refine reattached_cons ?_ hre
      by_cases ht : a.tunnelID = t
      · simp only [attachesUnarmed, hpc] at hok
        simp [Event.attaches, Ne.symm (unarmed_pending hb hok (ht ▸ hold))]
      · simp [Event.attaches, ht]
    | attached t' token rest hpc hl hlog =>
      rw [hlog]
      refine reattached_cons ?_ hre
      by_cases ht : t' = t
      · simp only [attachesUnarmed, hpc, Bool.or_eq_true, Option.isNone_iff_eq_none] at hok
        simp [Event.attaches, Ne.symm (unarmed_pending hb (hok.resolve_left hl) (ht ▸ hold))]
      · simp [Event.attaches, ht]
  · rw [hlog]
    simp [reattached]

theorem disarmed_step (hb : Base env w) (hi : Disarmed w) {l : Label} (hok : attachesUnarmed w l = true)
    (h : w.step env l = some w') : Disarmed w' := by
  rcases step_cases hb h with ⟨c, r, fate, rfl, hr, rfl⟩ | hq
  · exact disarmed_ran hb hi hok hr
  · intro c t hp
    have hold := quiet_pending hq hp
    rw [hq.log, (hq.conns c (hb.pending_conn hold)).2]
    exact hi c t hold

theorem lookup_of_not_finalizing (hf : p.fits .timer = true) (hn : p.finalizing t = false) (hm : TunnelMove w c p w') :
    (w'.gateway (w.home c)).tunnels.lookup t = (w.gateway (w.home c)).tunnels.lookup t := by
  cases hm with
  | same h => rw [h]
  | install a leaseID token hp => rw [hp] at hf; cases hf
  | attach t' token rest at_ hp => rw [hp] at hf; cases hf
  | suspend t' at_ hp => rw [hp] at hf; cases hf
  | take t' reason hp h =>
    have hne : t ≠ t' := by
      rintro rfl
      rw [hp] at hn
      simp [Pc.finalizing] at hn
    simp [h, hne]

/-- When connections attach only while no suspension is pending, the timer of a suspension is stopped once a
connection has been attached again: it is not running, its goroutine is at no step of `finalizeTunnelRemoval` for
the tunnel, and does not remove the entry. -/
theorem resume_timer_spares_attached {start : Time} {store : σ} {ls : List Label}
    (h : Run (World.step env) (attachesUnarmed · ·) (.init env start store) ls w)
    (hre : reattached w.log (w.home c) t c = true) :
    (w.timer c).armedFor t = false ∧ (w.pc c .timer).finalizing t = false ∧
      ∀ fate w', w.step env (.run c .timer fate) = some w' →
        (w'.gateway (w.home c)).tunnels.lookup t = (w.gateway (w.home c)).tunnels.lookup t := by
  obtain ⟨hb, hi⟩ := run_inv Disarmed (fun _ _ h => by cases h)
    (fun _ _ _ hb hi hok hst => disarmed_step hb hi hok hst) h
  have hnot : w.pending c t = false := by
    by_contra hp
    rw [hi c t (by simpa using hp)] at hre
    cases hre
  simp only [World.pending, Bool.or_eq_false_iff] at hnot
  refine ⟨hnot.1.2, hnot.2, fun fate w' hs => ?_⟩
  obtain ⟨-, rfl⟩ := run_step hs
  exact lookup_of_not_finalizing (hb.fits c .timer) hnot.2 (ran_tunnels env w c .timer fate)

/-- The agent resumes in the grace window with the token that the suspension stored. -/
def resumedInTime : List Label :=
  connect 0 "g1" ++ .lost 0 :: List.replicate 4 (.run 0 .main .ok) ++
    .accept 1 "g1" [.resume "rr"] :: List.replicate 6 (.run 1 .main .ok)

theorem resume_timer_spares_attached_resumed :
    ∃ w, Run (World.step (demo Memory.repo true)) (attachesUnarmed · ·) (.init (demo Memory.repo true) 0 ∅)
        resumedInTime w ∧
      reattached w.log (w.home 0) "t-a" 0 = true ∧ w.pc 1 .main = .serving "t-a" ∧ w.timer 0 = .stopped ∧
      (w.timer 0).armedFor "t-a" = false := by
  obtain ⟨w, hr, hre, hpc, ht⟩ := run_checked_any (P := fun w : World Memory =>
    reattached w.log (w.home 0) "t-a" 0 = true ∧ w.pc 1 .main = .serving "t-a" ∧ w.timer 0 = .stopped)
    (show (exec (checked (World.step (demo Memory.repo true)) attachesUnarmed) (.init (demo Memory.repo true) 0 ∅)
      resumedInTime).any _ = true by decide +kernel)
  exact ⟨w, hr, hre, hpc, ht, (resume_timer_spares_attached hr hre).1⟩

/-- The agent authenticates again in the grace window; the timer fires. -/
def reauthenticated : List Label :=
  connect 0 "g1" ++ .lost 0 :: List.replicate 4 (.run 0 .main .ok) ++ connect 1 "g1" ++
    [.clock 30000000000, .fire 0, .run 0 .timer .ok]

/-- The timer of the suspension removes the tunnel from the connection that serves it. -/
theorem resume_timer_removes_attached :
    ∃ w, Run (World.step (demo Table.repo true)) (fun _ _ => True) (.init (demo Table.repo true) 0 [])
        reauthenticated w ∧
      reattached w.log (w.home 0) "t-a" 0 = true ∧ w.pc 1 .main = .serving "t-a" ∧
      w.pc 0 .timer = .take "t-a" .resumeTimeout ∧
      ((w.gateway "g1").tunnels.lookup "t-a").map ActiveTunnel.conn = some (some 1) ∧
      (((w.ran (demo Table.repo true) 0 .timer .ok).gateway "g1").tunnels.lookup "t-a").isNone :=
  run_any (by decide +kernel)

end TunnelEdge.Gateway
