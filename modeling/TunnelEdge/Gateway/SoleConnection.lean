import TunnelEdge.Gateway.LeaseCustody
import TunnelEdge.Store.Presence
/-!
# The only connection of an agent

When an agent has one connection, on a gateway without session resume, its tunnel
belongs to that connection: no other goroutine of any gateway works on it, no timer
waits for it, and no resume token leads to it.
-/

namespace TunnelEdge.Gateway

open GoLib Store Registry

variable {σ : Type} {env : Env σ} {w w' : World σ} {c c' : ConnID} {r : Role} {fate : Fate} {p q : Pc} {t : String}
  {present lasting : σ → String → Prop}

/-- `c` is the only connection of the agent of `t`, it reaches a gateway without session resume, and the
`DeregisterTunnel` requests for `t` reach the registry. -/
def soleConnection (env : Env σ) (c : ConnID) (t : String) (w : World σ) : Label → Bool
  | .accept c' g frames =>
    if c' = c then !((env.config g).sessionResumeEnabled && (env.config g).sessionRepo)
    else unasked (env.config g) t frames
  | .run c' r fate =>
    match w.pc c' r with
    | .deregister t' _ => t' ≠ t || fate ≠ .lost
    | _ => true
  | _ => true

/-! ## Nobody else works on the tunnel -/

/-- The program counters that come to `t`, or leave it, by a resume token. -/
def Pc.byToken (t : String) : Pc → Bool
  | .drawToken a _ | .storeToken a _ => a.tunnelID = t
  | .respond a _ token | .install a _ token => a.tunnelID = t && token ≠ ""
  | .cancelTimer t' _ | .drawNew t' _ | .attach t' _ _ | .storeNew t' _ | .reply t' _ | .suspend t' | .storeResume t' _
  | .arm t' | .record t' | .cancelPending t' => t' = t
  | _ => false

/-- Only the two loops of `c` and its handshake work on `t`, without resume tokens. -/
structure Isolated (env : Env σ) (lasting : σ → String → Prop) (c : ConnID) (t : String) (w : World σ) : Prop where
  others : ∀ c' r, c' ≠ c ∨ r = .timer → (w.pc c' r).concerns (env.config (w.home c')) t = false
  timers : ∀ c' due, w.timer c' ≠ .armed t due
  off : w.pc c .main ≠ .idle →
    ((env.config (w.home c)).sessionResumeEnabled && (env.config (w.home c)).sessionRepo) = false
  plain : (w.pc c .main).byToken t = false
  lasting : ¬ lasting w.server.store t

theorem byToken_of_concerns {cfg : Config} (h : p.concerns cfg t = false) : p.byToken t = false := by
  have ht := (concerns_iff.1 h).1
  cases p <;> simp_all [Pc.byToken, Pc.tunnel]

theorem byToken_of_fits (h : p.fits .beat = true) : p.byToken t = false := by
  cases p <;> first | rfl | cases h

theorem opening_byToken (h : q.opening = true) : q.byToken t = false := by
  cases q <;> first | rfl | cases h

theorem Isolated.byToken (hb : Base env w) (hi : Isolated env lasting c t w) (c' : ConnID) (r : Role) :
    (w.pc c' r).byToken t = false := by
  by_cases h : c' ≠ c ∨ r = .timer
  · exact byToken_of_concerns (hi.others c' r h)
  · rw [not_or, not_ne_iff] at h
    obtain ⟨rfl, hr⟩ := h
    cases r with
    | main => exact hi.plain
    | beat => exact byToken_of_fits (hb.fits c' .beat)
    | timer => exact absurd rfl hr

theorem Isolated.actor (hi : Isolated env lasting c t w) (h : (w.pc c' r).tunnel = some t) : c' = c ∧ r ≠ .timer := by
  by_contra hne
  have hother : c' ≠ c ∨ r = .timer := by
    by_cases hc : c' = c
    · exact .inr (not_ne_iff.1 fun hr => hne ⟨hc, hr⟩)
    · exact .inl hc
  exact (concerns_iff.1 (hi.others c' r hother)).1 h

theorem stepPc_byToken
    (hoff : ((env.config (w.home c)).sessionResumeEnabled && (env.config (w.home c)).sessionRepo) = false)
    (hlook : ∀ token rest sess, p = .lookup token rest →
      env.repo.getResumable w.server.store w.now token = .ok sess → sess.tunnelID ≠ t)
    (h : p.byToken t = false) : (stepPc env w c r fate p).2.byToken t = false := by
  have hroute : ∀ a leaseID rest, (routeNext (env.config (w.home c)) a leaseID rest).byToken t = false := by
    intro a leaseID rest
    cases rest <;> simp [routeNext, hoff, Pc.byToken]
  obtain ⟨q, hgoes, hq | ⟨he, hq⟩ | ⟨-, rfl⟩⟩ := stepPc_goes env w c r fate p <;> rw [hgoes]
  · cases hq with
    | found token rest sess hs => simpa [Pc.byToken] using hlook token rest sess rfl hs
    | leased | routedLabel => exact hroute ..
    | fullAuth => exact opening_byToken (fullAuth_opening ..)
    | _ => first | rfl | exact h | simp_all [Pc.byToken]
  · cases hq with
    | early _ _ hp => cases he.symm.trans hp
    | installStore | attachStore | attachReply => cases he
    | _ => first | rfl | exact h
  · exact h

theorem Isolated.lookup (hp : env.repo.Presence present lasting) (hi : Isolated env lasting c t w) {token : String}
    {sess : Session} (h : env.repo.getResumable w.server.store w.now token = .ok sess) : sess.tunnelID ≠ t := by
  rintro rfl
  exact hi.lasting (hp.getResumable _ _ _ _ h)

theorem Isolated.lasting_ran (hp : env.repo.Presence present lasting) (hb : Base env w)
    (hi : Isolated env lasting c t w) {c' : ConnID} : ¬ lasting (w.ran env c' r fate).server.store t := by
  have htok := hi.byToken hb c' r
  intro h
  cases ran_store env w c' r fate with
  | same hs => exact hi.lasting (hs ▸ h)
  | resumable t' token deadline hpc hs =>
    have hne : t ≠ t' := by
      rintro rfl
      rcases hpc with hpc | hpc | ⟨a, hpc, ha⟩ <;> simp_all [Pc.byToken]
    exact hi.lasting ((hp.setResumable _ _ _ _ _ _ hne).2 (hs ▸ h))
  | register a hpc sess ht hs => exact hi.lasting ((hp.register _ _ _ _ ht.2).2 (hs ▸ h))
  | deregister t' reason hpc hs => exact hi.lasting ((hp.deregister _ _ _ _).2 (hs ▸ h))
  | heartbeat t' hs => exact hi.lasting ((hp.heartbeat _ _ _ _).2 (hs ▸ h))

theorem Isolated.lasting_quiet (hp : env.repo.Presence present lasting) (hi : Isolated env lasting c t w)
    (hq : Quiet env w w') : ¬ lasting w'.server.store t := by
  intro h
  rcases hq.store with hs | hs
  · exact hi.lasting (hs ▸ h)
  · exact hi.lasting ((hp.cleanupExpired _ _ _ _).2 (hs ▸ h))

theorem isolated_ran (hp : env.repo.Presence present lasting) (hb : Base env w) (hi : Isolated env lasting c t w)
    (hr : (w.pc c' r).runnable = true) : Isolated env lasting c t (w.ran env c' r fate) := by
  obtain ⟨-, -, hhome, -⟩ := ran_keeps env w c' r fate
  have hlook : ∀ token rest sess, w.pc c' r = .lookup token rest →
      env.repo.getResumable w.server.store w.now token = .ok sess → sess.tunnelID ≠ t :=
    fun _ _ _ _ h => hi.lookup hp h
  refine ⟨fun c₁ r₁ hother => ?_, fun c₁ due h => ?_, fun h => ?_, ?_, hi.lasting_ran hp hb⟩
  · rw [hhome]
    rcases ran_goroutines env w c' r fate c₁ r₁ with h | ⟨rfl, rfl, h⟩ | ⟨rfl, rfl, t', hs, -, h⟩
    · rw [h]
      exact hi.others c₁ r₁ hother
    · rw [h]
      exact stepPc_concerns (hi.others c₁ r₁ hother) hlook
    · -- the loops of another connection are those of its own tunnel
      have hne : t' ≠ t := by
        rintro rfl
        exact (hother.resolve_right (by simp)) (hi.actor (startsLoop_tunnel hs)).1
      rw [h]
      simp [Pc.concerns, Pc.tunnel, Pc.unread, hne]
  · rcases stepPc_timer env w c' r fate (w.pc c' r) c₁ with h1 | ⟨-, h1⟩ | ⟨-, t', due', hpc, h1⟩
    · exact hi.timers c₁ due (h1.symm.trans h)
    · cases h1.symm.trans h
    · cases h1.symm.trans h
      have htok := hi.byToken hb c' r
      rw [hpc] at htok
      simp [Pc.byToken] at htok
  · rw [hhome]
    rcases ran_goroutines env w c' r fate c .main with h1 | ⟨rfl, rfl, -⟩ | ⟨-, hb', -⟩
    · exact hi.off (h1 ▸ h)
    · refine hi.off fun h0 => ?_
      rw [h0] at hr
      cases hr
    · cases hb'
  · rcases ran_goroutines env w c' r fate c .main with h1 | ⟨rfl, rfl, h1⟩ | ⟨-, hb', -⟩
    · rw [h1]
      exact hi.plain
    · rw [h1]
      refine stepPc_byToken (hi.off fun h0 => ?_) hlook hi.plain
      rw [h0] at hr
      cases hr
    · cases hb'

theorem isolated_accept (hp : env.repo.Presence present lasting) (hb : Base env w) (hi : Isolated env lasting c t w)
    {g : String} {frames : List Frame} (hn : NewConn env w w' c' g frames)
    (hok : soleConnection env c t w (.accept c' g frames) = true) : Isolated env lasting c t w' := by
  simp only [soleConnection] at hok
  have htimer := hn.timer
  refine ⟨fun c₁ r₁ hother => ?_, fun c₁ due => htimer ▸ hi.timers c₁ due, fun h => ?_, ?_,
    hi.lasting_quiet hp hn.quiet⟩
  · rw [hn.pc, hn.home]
    by_cases h1 : c₁ = c'
    · subst h1
      rw [Function.update_self]
      split
      · rename_i hm
        obtain ⟨-, rfl⟩ := hm
        rw [if_neg (hother.resolve_right (by simp))] at hok
        exact handleAgentConnection_concerns hok
      · rw [(hb.idle c₁ hn.new).1]
        rfl
    · rw [if_neg (fun h => h1 h.1), Function.update_of_ne h1]
      exact hi.others c₁ r₁ hother
  · rw [hn.home]
    by_cases h1 : c = c'
    · subst h1
      rw [Function.update_self]
      rwa [if_pos rfl, Bool.not_eq_true'] at hok
    · rw [Function.update_of_ne h1]
      refine hi.off fun h0 => h ?_
      rw [hn.pc, if_neg (fun h => h1 h.1), h0]
  · rw [hn.pc]
    split
    · exact opening_byToken (handleAgentConnection_opening ..)
    · exact hi.plain

theorem prompted_concerns {cfg : Config} {timer : Timer} (hpr : Pc.Prompted cfg timer r p q)
    (ht : ∀ due, timer ≠ .armed t due) (h : p.concerns cfg t = false) : q.concerns cfg t = false := by
  cases hpr with
  | fire _ t' due harm =>
    have hne : t' ≠ t := by
      rintro rfl
      exact ht due harm
    simp [Pc.concerns, Pc.tunnel, Pc.unread, hne]
  | quit => rfl
  | _ => simpa [Pc.concerns, Pc.tunnel, Pc.unread] using h

theorem isolated_prompt (hp : env.repo.Presence present lasting) (hi : Isolated env lasting c t w)
    (hq : Prompt env w w') : Isolated env lasting c t w' := by
  refine ⟨fun c₁ r₁ hother => ?_, fun c₁ due h => ?_, fun h => ?_, ?_, hi.lasting_quiet hp hq.quiet⟩
  · rw [hq.home]
    rcases hq.pc c₁ r₁ with h | h
    · rw [h]
      exact hi.others c₁ r₁ hother
    · exact prompted_concerns h (hi.timers c₁) (hi.others c₁ r₁ hother)
  · rcases hq.timer c₁ with h1 | h1
    · exact hi.timers c₁ due (h1.symm.trans h)
    · cases h1.symm.trans h
  · rw [hq.home]
    refine hi.off fun h0 => ?_
    rcases hq.pc c .main with h1 | h1
    · exact h (h1.trans h0)
    · rw [h0] at h1
      cases h1
  · rcases hq.pc c .main with h1 | h1
    · rw [h1]
      exact hi.plain
    · generalize hpc : w.pc c .main = p₀ at h1
      generalize w'.pc c .main = q₀ at h1
      cases h1 with
      | suspend t' hon =>
        rw [hi.off (by simp [hpc])] at hon
        cases hon
      | remove | pulse => rfl

end TunnelEdge.Gateway
