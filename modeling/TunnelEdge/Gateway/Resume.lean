import TunnelEdge.Gateway.Reach
import TunnelEdge.Store.Tokens
/-!
# Resuming a session

An agent has the resume token of its last handshake or resume. The gateway hands
that token to the session store once, in one `SetResumable` request, and the end
of the connection stores another one, which the agent never sees. Whether a
resume works is then a question about the store: what is left of the agent's
token when it comes back. Tokens are drawn once, so no other request can bring it
into the store.
-/

namespace TunnelEdge.Gateway

open GoLib Store Registry

variable {σ : Type} {env : Env σ} {w w' : World σ} {c c' : ConnID} {r r' : Role} {fate : Fate} {p q : Pc}
  {t x : String}

/-! ## Tokens on their way to the store -/

/-- The token of a program counter that has not been stored. -/
def Pc.resumeToken : Pc → Option String
  | .respond _ _ token | .install _ _ token | .storeToken _ token | .attach _ token _ | .storeNew _ token
  | .storeResume _ token => some token
  | _ => none

def Pc.storing : Pc → Bool
  | .storeToken .. | .storeNew .. | .storeResume .. => true
  | _ => false

theorem opening_token (h : q.opening = true) : q.resumeToken = none := by
  cases q with
  | quota | routeDefault | lookup | refuse | failed => rfl
  | _ => cases h

theorem outside_token (h : Pc.Outside r p q) : q.resumeToken = none := by
  cases h with
  | accept _ ho => exact opening_token ho
  | _ => rfl

theorem routeNext_token (cfg : Config) (a : Auth) (leaseID : String) (rest : List TunnelRoute)
    (h : (routeNext cfg a leaseID rest).resumeToken = some x) : x = "" := by
  unfold routeNext at h
  split at h
  · split at h
    · cases h
    · exact (Option.some.inj h).symm
  · cases h

theorem generated_token (hx : x ≠ "") (h : (w.generateResumeToken env fate).2.getD "" = x) :
    x = env.token w.drawn ∧ w.drawn < (w.generateResumeToken env fate).1.drawn := by
  cases fate with
  | ok => exact ⟨h.symm, Nat.lt_succ_self _⟩
  | lost => exact absurd h.symm hx
  | replyLost => exact absurd h.symm hx

theorem stepPc_token (env : Env σ) (w : World σ) (c : ConnID) (r : Role) (fate : Fate) (p : Pc) (hx : x ≠ "")
    (h : (stepPc env w c r fate p).2.resumeToken = some x) :
    (p.resumeToken = some x ∧ p.storing = false) ∨
      (x = env.token w.drawn ∧ w.drawn < (stepPc env w c r fate p).1.drawn) := by
  cases p with
  | acquire a =>
    simp only [stepPc, stepHandshake] at h
    repeat' split at h
    · exact absurd (routeNext_token _ _ _ _ h) hx
    · exact absurd (Option.some.inj h).symm hx
    · cases h
    · cases h
  | routeLabels a leaseID rest =>
    cases rest <;> simp only [stepPc, stepHandshake] at h <;> exact absurd (routeNext_token _ _ _ _ h) hx
  | drawToken a leaseID => exact .inr (generated_token hx (Option.some.inj h))
  | drawNew t rest => exact .inr (generated_token hx (Option.some.inj h))
  | respond a leaseID token =>
    simp only [stepPc, stepHandshake] at h
    split at h
    · exact .inl ⟨h, rfl⟩
    · cases h
  | install a leaseID token =>
    simp only [stepPc, stepHandshake] at h
    split at h
    · exact .inl ⟨h, rfl⟩
    · cases h
  | attach t token rest =>
    simp only [stepPc, stepResume] at h
    repeat' split at h
    · cases h
    · exact .inl ⟨h, rfl⟩
    · cases h
  | refuse status rest =>
    simp only [stepPc, stepResume] at h
    split at h
    · rw [opening_token (fullAuth_opening _ _ rest)] at h
      cases h
    · cases h
  | suspend t =>
    rcases suspend_cases env w c r fate t with hs | hs | ⟨_, _, _, hs⟩ | ⟨_, _, hs⟩ <;> rw [hs] at h <;> cases h
    exact .inr ⟨rfl, by rw [hs]; exact Nat.lt_succ_self _⟩
  | _ =>
    simp only [stepPc, stepHandshake, stepResume, stepStream, stepRemoval, stepBeat, removed] at h
    repeat' split at h
    all_goals cases h

theorem ran_token (hx : x ≠ "") (h : ((w.ran env c r fate).pc c' r').resumeToken = some x) :
    ((w.pc c' r').resumeToken = some x ∧ (c' = c ∧ r' = r → (w.pc c r).storing = false)) ∨
      (c' = c ∧ r' = r ∧ x = env.token w.drawn ∧ w.drawn < (w.ran env c r fate).drawn) := by
  by_cases he : c' = c ∧ r' = r
  · obtain ⟨rfl, rfl⟩ := he
    rw [World.ran, World.setPc_self] at h
    rcases stepPc_token env w c' r' fate (w.pc c' r') hx h with ⟨h1, h2⟩ | h1
    · exact .inl ⟨h1, fun _ => h2⟩
    · exact .inr ⟨rfl, rfl, h1⟩
  · rcases ran_pc env w c r fate c' r' with h1 | ⟨h1, h2, -⟩ | ⟨-, -, t, h1⟩
    · rw [h1] at h
      exact .inl ⟨h, fun he' => absurd he' he⟩
    · exact absurd ⟨h1, h2⟩ he
    · rw [h1] at h
      cases h

theorem quiet_token (hq : Quiet env w w') (h : (w'.pc c r).resumeToken = some x) :
    (w.pc c r).resumeToken = some x := by
  rwa [hq.pc_eq (P := fun q => q.resumeToken = some x) (fun _ _ ho => by simp [outside_token ho])
    (fun _ h => by cases h) h] at h

theorem ran_drawn (env : Env σ) (w : World σ) (c : ConnID) (r : Role) (fate : Fate) :
    w.drawn ≤ (w.ran env c r fate).drawn := by
  cases stepPc_coord env w c r fate (w.pc c r) with
  | same _ hd => exact hd
  | acquire a _ hd _ => exact Nat.le_of_succ_le (Nat.le_of_eq hd)
  | renew _ _ _ hd _ => exact Nat.le_of_eq hd
  | release _ _ hd _ => exact Nat.le_of_eq hd
  | current _ _ hd _ => exact Nat.le_of_eq hd

/-! ## Tokens in the store -/

section Store

variable {holds : σ → String → String → Prop} (ht : env.repo.Tokens holds)

include ht

theorem ran_holds (hx : x ≠ "") (h : holds (w.ran env c r fate).server.store t x) :
    holds w.server.store t x ∨ ((w.pc c r).resumeToken = some x ∧ (w.pc c r).storing = true) := by
  cases ran_store env w c r fate with
  | same hs => exact .inl (hs ▸ h)
  | resumable t' token deadline hp hs =>
    rw [hs] at h
    rcases ht.setResumable _ _ _ _ _ _ _ h with h1 | ⟨-, rfl⟩
    · exact .inl h1
    · rcases hp with hp | hp | ⟨a, hp, -⟩ <;> exact .inr (hp ▸ ⟨rfl, rfl⟩)
  | register a hp sess hsess hs hlog =>
    rw [hs] at h
    rcases ht.register _ _ _ _ _ h with h1 | h1 | h1
    · exact .inl h1
    · exact absurd (h1.trans hsess.2) hx
    · exact absurd h1 hx
  | deregister t' reason hp hs => exact .inl (ht.deregister _ _ _ _ _ (hs ▸ h))
  | heartbeat t' hs => exact .inl (ht.heartbeat _ _ _ _ _ (hs ▸ h))

theorem quiet_holds (hq : Quiet env w w') (h : holds w'.server.store t x) : holds w.server.store t x := by
  rcases hq.store with hs | hs
  · exact hs ▸ h
  · exact ht.cleanupExpired _ _ _ _ _ (hs ▸ h)

/-- Every token is used once: those to come are nowhere, and one on its way to the store is not there yet and has
one goroutine. -/
structure Fresh (env : Env σ) (holds : σ → String → String → Prop) (w : World σ) : Prop where
  undrawn : ∀ k, w.drawn ≤ k → (∀ t, ¬ holds w.server.store t (env.token k)) ∧
    ∀ c r, (w.pc c r).resumeToken ≠ some (env.token k)
  once : ∀ c r x, x ≠ "" → (w.pc c r).resumeToken = some x → (∀ t, ¬ holds w.server.store t x) ∧
    ∀ c' r', (w.pc c' r').resumeToken = some x → c' = c ∧ r' = r

omit ht in
theorem fresh_init (env : Env σ) (start : Time) {store : σ} (h : ∀ t k, ¬ holds store t (env.token k)) :
    Fresh env holds (.init env start store) := by
  refine ⟨fun k _ => ⟨fun t => h t k, fun c r hp => ?_⟩, fun c r x _ hp => ?_⟩
  · cases hp
  · cases hp

theorem fresh_ran (hf : Fresh env holds w) : Fresh env holds (w.ran env c r fate) := by
  have hd := ran_drawn env w c r fate
  refine ⟨fun k hk => ⟨fun t h => ?_, fun c' r' h => ?_⟩, fun c' r' x hx h => ⟨fun t hs => ?_, fun c₂ r₂ h₂ => ?_⟩⟩
  · rcases ran_holds ht (env.token_ne k) h with h1 | ⟨h1, -⟩
    · exact (hf.undrawn k (Nat.le_trans hd hk)).1 t h1
    · exact (hf.undrawn k (Nat.le_trans hd hk)).2 c r h1
  · rcases ran_token (env.token_ne k) h with ⟨h1, -⟩ | ⟨-, -, h1, hlt⟩
    · exact (hf.undrawn k (Nat.le_trans hd hk)).2 c' r' h1
    · have := env.token_inj h1
      omega
  · -- the token of `c'` was its own before the step or is new; the store got none of the two
    rcases ran_holds ht hx hs with h1 | ⟨h1, h2⟩
    · rcases ran_token hx h with ⟨h3, -⟩ | ⟨-, -, rfl, -⟩
      · exact (hf.once c' r' x hx h3).1 t h1
      · exact (hf.undrawn _ le_rfl).1 t h1
    · rcases ran_token hx h with ⟨h3, h4⟩ | ⟨-, -, rfl, -⟩
      · obtain ⟨rfl, rfl⟩ := (hf.once c r x hx h1).2 c' r' h3
        rw [h4 ⟨rfl, rfl⟩] at h2
        cases h2
      · exact (hf.undrawn _ le_rfl).2 c r h1
  · rcases ran_token hx h with ⟨h1, -⟩ | ⟨rfl, rfl, rfl, -⟩
    · rcases ran_token hx h₂ with ⟨h3, -⟩ | ⟨-, -, rfl, -⟩
      · exact (hf.once c' r' x hx h1).2 c₂ r₂ h3
      · exact absurd h1 ((hf.undrawn _ le_rfl).2 c' r')
    · rcases ran_token hx h₂ with ⟨h3, -⟩ | ⟨rfl, rfl, -, -⟩
      · exact absurd h3 ((hf.undrawn _ le_rfl).2 c₂ r₂)
      · exact ⟨rfl, rfl⟩

theorem fresh_step (hb : Base env w) (hf : Fresh env holds w) {l : Label} (h : w.step env l = some w') :
    Fresh env holds w' := by
  rcases step_cases hb h with ⟨c, r, fate, -, -, rfl⟩ | hq
  · exact fresh_ran ht hf
  · refine ⟨fun k hk => ?_, fun c r x hx hp => ?_⟩
    · obtain ⟨h1, h2⟩ := hf.undrawn k (hq.drawn ▸ hk)
      exact ⟨fun t hs => h1 t (quiet_holds ht hq hs), fun c r hp => h2 c r (quiet_token hq hp)⟩
    · obtain ⟨h1, h2⟩ := hf.once c r x hx (quiet_token hq hp)
      exact ⟨fun t hs => h1 t (quiet_holds ht hq hs), fun c' r' hp' => h2 c' r' (quiet_token hq hp')⟩

end Store

structure Spent (env : Env σ) (x : String) (w : World σ) : Prop where
  drawn : ∀ k, w.drawn ≤ k → env.token k ≠ x
  pc : ∀ c r, (w.pc c r).resumeToken ≠ some x

/-- Once a goroutine has stored its token, nobody can store it again. -/
theorem Fresh.spent {holds : σ → String → String → Prop} (hf : Fresh env holds w) (hx : x ≠ "")
    (hp : (w.pc c r).resumeToken = some x) (hs : (w.pc c r).storing = true) : Spent env x (w.ran env c r fate) := by
  have hdrawn : ∀ k, w.drawn ≤ k → env.token k ≠ x := by
    rintro k hk rfl
    exact (hf.undrawn k hk).2 c r hp
  refine ⟨fun k hk => hdrawn k (Nat.le_trans (ran_drawn env w c r fate) hk), fun c' r' h => ?_⟩
  rcases ran_token hx h with ⟨h1, h2⟩ | ⟨-, -, h1, -⟩
  · rw [h2 ((hf.once c r x hx hp).2 c' r' h1)] at hs
    cases hs
  · exact hdrawn _ le_rfl h1.symm

theorem spent_step (hb : Base env w) (hx : x ≠ "") (hs : Spent env x w) {l : Label} (h : w.step env l = some w') :
    Spent env x w' := by
  rcases step_cases hb h with ⟨c, r, fate, -, -, rfl⟩ | hq
  · refine ⟨fun k hk => hs.drawn k (Nat.le_trans (ran_drawn env w c r fate) hk), fun c' r' hp => ?_⟩
    rcases ran_token hx hp with ⟨h1, -⟩ | ⟨-, -, h1, -⟩
    · exact hs.pc c' r' h1
    · exact hs.drawn _ le_rfl h1.symm
  · exact ⟨fun k hk => hs.drawn k (hq.drawn ▸ hk), fun c r hp => hs.pc c r (quiet_token hq hp)⟩

theorem Spent.holds {holds : σ → String → String → Prop} (ht : env.repo.Tokens holds) (hb : Base env w) (hx : x ≠ "")
    (hs : Spent env x w) {l : Label} (h : w.step env l = some w') (hh : holds w'.server.store t x) :
    holds w.server.store t x := by
  rcases step_cases hb h with ⟨c, r, fate, -, -, rfl⟩ | hq
  · rcases ran_holds ht hx hh with h1 | ⟨h1, -⟩
    · exact h1
    · exact absurd h1 (hs.pc c r)
  · exact quiet_holds ht hq hh

/-! ## The answer of handleSessionResume -/

/-- `handleSessionResume` has found the session of the tunnel and goes on with it. -/
def Pc.resumes (t : String) : Pc → Bool
  | .cancelTimer t' _ | .drawNew t' _ | .attach t' _ _ | .storeNew t' _ | .reply t' _ => t' = t
  | _ => false

/-- It is about to write its answer, `ResumeStatusResumed` at `reply`. -/
def Pc.answers : Pc → Bool
  | .reply .. | .refuse .. => true
  | _ => false

/-- It has written its answer, or the connection does not resume. -/
def Pc.answered : Pc → Bool
  | .idle | .lookup .. | .cancelTimer .. | .drawNew .. | .attach .. | .storeNew .. | .reply .. | .refuse .. => false
  | _ => true

def Pc.stepsToAnswer : Pc → Nat
  | .lookup .. => 5
  | .cancelTimer .. => 4
  | .drawNew .. => 3
  | .attach .. => 2
  | .storeNew .. => 1
  | _ => 0

/-- When `c` re-attaches a tunnel, the gateway still has it. -/
def reattaches (c : ConnID) (w : World σ) : Label → Bool
  | .run c' .main _ =>
    match w.pc c .main with
    | .attach t _ _ => c' ≠ c || ((w.gateway (w.home c)).tunnels.lookup t).isSome
    | _ => true
  | _ => true

theorem reattaches_of_ne {l : Label} (h : ∀ fate, l ≠ .run c .main fate) (w : World σ) : reattaches c w l = true := by
  unfold reattaches
  split
  · rename_i c' fate
    have hne : c' ≠ c := by
      rintro rfl
      exact h fate rfl
    split <;> simp [hne]
  · rfl

theorem routeNext_answered (cfg : Config) (a : Auth) (leaseID : String) (rest : List TunnelRoute) :
    (routeNext cfg a leaseID rest).answered = true := by
  unfold routeNext
  repeat' split
  all_goals rfl

theorem stepPc_answered (env : Env σ) (w : World σ) (c : ConnID) (fate : Fate) (hp : p.answered = true) :
    (stepPc env w c .main fate p).2.answered = true := by
  obtain ⟨q, hgoes, hq | ⟨he, hq⟩ | ⟨-, rfl⟩⟩ := stepPc_goes env w c .main fate p <;> rw [hgoes]
  · cases hq with
    | leased | routedLabel => exact routeNext_answered _ _ _ _
    | found | unknown | fullAuth | cancelTimer | drawNew | gone | attachStore | attachReply => cases hp
    | _ => rfl
  · cases hq with
    | early _ _ h => cases he.symm.trans h
    | attachStore | attachReply | storeNew | reply => cases hp
    | _ => rfl
  · exact hp

theorem stepPc_refuse (env : Env σ) (w : World σ) (c : ConnID) (fate : Fate) (status : ResumeStatus)
    (rest : List Frame) : (stepPc env w c .main fate (.refuse status rest)).2.answered = true := by
  simp only [stepPc, stepResume]
  split
  · unfold fullAuth rejected
    repeat' split
    all_goals rfl
  · rfl

/-- It goes on where the tunnel is there to be re-attached, and refuses where it is not. -/
theorem stepPc_resumes (env : Env σ) (fate : Fate) (hp : (w.pc c .main).resumes t = true) :
    ((stepPc env w c .main fate (w.pc c .main)).2.resumes t = true ∧ reattaches c w (.run c .main fate) = true) ∨
      ((∃ status rest, (stepPc env w c .main fate (w.pc c .main)).2 = .refuse status rest) ∧
        reattaches c w (.run c .main fate) = false) ∨
      (stepPc env w c .main fate (w.pc c .main)).2.answered = true := by
  simp only [reattaches]
  generalize w.pc c .main = p at hp
  cases p with
  | cancelTimer | drawNew => exact .inl ⟨hp, rfl⟩
  | attach t' token rest =>
    cases hl : (w.gateway (w.home c)).tunnels.lookup t' with
    | none => exact .inr (.inl ⟨⟨_, _, by simp only [stepPc, stepResume, hl]; rfl⟩, by simp [hl]⟩)
    | some at_ =>
      refine .inl ⟨?_, by simp [hl]⟩
      simp only [stepPc, stepResume, hl]
      split <;> exact hp
  | storeNew => exact .inl ⟨hp, rfl⟩
  | reply =>
    refine .inr (.inr ?_)
    simp only [stepPc, stepResume]
    split <;> rfl
  | _ => cases hp

theorem main_step (hb : Base env w) {l : Label} (h : w.step env l = some w') (hp : w.pc c .main ≠ .idle) :
    (∃ fate, l = .run c .main fate ∧ w'.pc c .main = (stepPc env w c .main fate (w.pc c .main)).2) ∨
      (∀ fate, l ≠ .run c .main fate) ∧ (w'.pc c .main = w.pc c .main ∨
        (w.pc c .main).answered = true ∧ (w'.pc c .main).answered = true) := by
  rcases step_kinds hb h with ⟨c₁, r₁, fate, rfl, -, rfl⟩ | ⟨c₁, g, frames, rfl, hnew⟩ | ⟨hl, hprompt⟩
  · by_cases he : c₁ = c ∧ r₁ = .main
    · obtain ⟨rfl, rfl⟩ := he
      exact .inl ⟨fate, rfl, ran_pc_self env rfl⟩
    · refine .inr ⟨fun fate' h => he (by cases h; exact ⟨rfl, rfl⟩), ?_⟩
      rcases ran_pc env w c₁ r₁ fate c .main with h1 | ⟨h1, h2, -⟩ | ⟨-, h2, -⟩
      · exact .inl h1
      · exact absurd ⟨h1.symm, h2.symm⟩ he
      · cases h2
  · refine .inr ⟨fun fate h => (by cases h), .inl ?_⟩
    rw [hnew.pc, if_neg]
    rintro ⟨rfl, -⟩
    exact hnew.new (hb.mem_conns hp)
  · refine .inr ⟨hl c .main, ?_⟩
    rcases hprompt.pc c .main with h1 | h1
    · exact .inl h1
    · generalize w.pc c .main = p at h1 ⊢
      generalize w'.pc c .main = q at h1 ⊢
      cases h1 <;> exact .inr ⟨rfl, rfl⟩

theorem resumes_ne_idle (hp : p.resumes t = true) : p ≠ .idle := by
  rintro rfl
  cases hp

theorem answered_ne_idle (hp : p.answered = true) : p ≠ .idle := by
  rintro rfl
  cases hp

theorem answered_step (hb : Base env w) {l : Label} (h : w.step env l = some w')
    (hp : (w.pc c .main).answered = true) : (w'.pc c .main).answered = true := by
  rcases main_step hb h (answered_ne_idle hp) with ⟨fate, -, hq⟩ | ⟨-, hq | ⟨-, hq⟩⟩
  · rw [hq]
    exact stepPc_answered env w c fate hp
  · rwa [hq]
  · exact hq

/-- Before its answer, a resume has found the tunnel at its re-attachment, if that is behind it, or it refuses. -/
theorem resumes_run {ls : List Label} (hb : Base env w) (hp : (w.pc c .main).resumes t = true)
    (h : Run (World.step env) (fun _ _ => True) w ls w') :
    Base env w' ∧ (((w'.pc c .main).resumes t = true ∧
      Run (World.step env) (fun w l => reattaches c w l = true) w ls w') ∨
      (∃ status rest, w'.pc c .main = .refuse status rest) ∨ (w'.pc c .main).answered = true) := by
  induction h with
  | nil => exact ⟨hb, .inl ⟨hp, .nil⟩⟩
  | snoc hrun _ hst ih =>
    obtain ⟨hb', ih⟩ := ih
    refine ⟨base_step hb' hst, ?_⟩
    rcases ih with ⟨hres, hgood⟩ | ⟨status, rest, href⟩ | hans
    · rcases main_step hb' hst (resumes_ne_idle hres) with ⟨fate, rfl, hq⟩ | ⟨hl, hq | ⟨-, hq⟩⟩
      · rw [hq]
        exact (stepPc_resumes env fate hres).imp (And.imp_right fun hok => .snoc hgood hok hst) (.imp_left And.left)
      · exact .inl ⟨by rwa [hq], .snoc hgood (reattaches_of_ne hl _) hst⟩
      · exact .inr (.inr hq)
    · -- once refused it stays at its answer, or has written it
      rcases main_step hb' hst (by rw [href]; exact Pc.noConfusion) with ⟨fate, -, hq⟩ | ⟨-, hq | ⟨-, hq⟩⟩
      · refine .inr (.inr ?_)
        rw [hq, href]
        exact stepPc_refuse env _ c fate status rest
      · exact .inr (.inl ⟨status, rest, hq.trans href⟩)
      · exact .inr (.inr hq)
    · exact .inr (.inr (answered_step hb' hst hans))

theorem resumes_of_reattached {ls : List Label} (hb : Base env w) (hp : (w.pc c .main).resumes t = true)
    (h : Run (World.step env) (fun w l => reattaches c w l = true) w ls w') :
    (w'.pc c .main).resumes t = true ∨ (w'.pc c .main).answered = true := by
  refine (run_inv_from (fun w => (w.pc c .main).resumes t = true ∨ (w.pc c .main).answered = true) hb (.inl hp) ?_ h).2
  rintro w l w' hb (hres | hans) hok hst
  · rcases main_step hb hst (resumes_ne_idle hres) with ⟨fate, rfl, hq⟩ | ⟨-, hq | ⟨-, hq⟩⟩
    · rw [hq]
      rcases stepPc_resumes env fate hres with ⟨h1, -⟩ | ⟨-, h1⟩ | h1
      · exact .inl h1
      · rw [hok] at h1
        cases h1
      · exact .inr h1
    · exact .inl (by rwa [hq])
    · exact .inr hq
  · exact .inr (answered_step hb hst hans)

/-- A step of the handler brings it nearer to its answer and does not crash the gateway. -/
theorem stepsToAnswer_ran (env : Env σ) (hp : 0 < (w.pc c .main).stepsToAnswer) :
    ((w.ran env c .main .ok).gateway (w.home c)).crashed = (w.gateway (w.home c)).crashed ∧
      ((w.ran env c .main .ok).pc c .main).stepsToAnswer < (w.pc c .main).stepsToAnswer ∧
      (0 < ((w.ran env c .main .ok).pc c .main).stepsToAnswer ∨
        ((w.ran env c .main .ok).pc c .main).answers = true) := by
  rw [ran_pc_self env rfl, World.ran]
  simp only [World.setPc]
  generalize w.pc c .main = p at hp ⊢
  cases p with
  | lookup token rest =>
    cases hg : env.repo.getResumable w.server.store w.now token <;>
      simp [stepPc, stepResume, hg, Pc.stepsToAnswer, Pc.answers]
  | cancelTimer | drawNew | storeNew =>
    simp [stepPc, stepResume, World.generateResumeToken, World.setResumable, Pc.stepsToAnswer, Pc.answers]
  | attach t token rest =>
    cases hl : (w.gateway (w.home c)).tunnels.lookup t with
    | none => simp [stepPc, stepResume, hl, Pc.stepsToAnswer, Pc.answers]
    | some at_ =>
      by_cases ht : token = "" <;>
        simp [stepPc, stepResume, hl, ht, World.note, World.updateGateway, Pc.stepsToAnswer, Pc.answers]
  | _ => cases hp

theorem answers_alone (env : Env σ) (hp : 0 < (w.pc c .main).stepsToAnswer)
    (ha : (w.gateway (w.home c)).crashed = false) :
    ∃ n w', exec (World.step env) w (List.replicate n (.run c .main .ok)) = some w' ∧
      (w'.pc c .main).answers = true := by
  -- on the number of steps that are left
  induction hn : (w.pc c .main).stepsToAnswer using Nat.strongRecOn generalizing w with
  | ind n ih =>
    have hrun : (w.pc c .main).runnable = true := by
      cases hpc : w.pc c .main <;> first | rfl | (rw [hpc] at hp; cases hp)
    have hstep : w.step env (.run c .main .ok) = some (w.ran env c .main .ok) := step_ran env rfl hrun ha
    obtain ⟨hcrash, hlt, hpos | hans⟩ := stepsToAnswer_ran env hp
    · have hhome : (w.ran env c .main .ok).home c = w.home c := by rw [(ran_keeps env w c .main .ok).2.2.1]
      obtain ⟨k, w', hexec, hans⟩ := ih _ (hn ▸ hlt) hpos (by rw [hhome, hcrash, ha]) rfl
      exact ⟨k + 1, w', by rw [List.replicate_succ, exec, hstep]; exact hexec, hans⟩
    · exact ⟨1, _, by simp only [List.replicate, exec, hstep, Option.bind_some], hans⟩

/-! ## A reconnect -/

/-- An agent comes back with its resume token: in `w₀` connection `c` is about to give the token to the session
store, `c` is lost and suspended, connection `c'` presents the token, and its handler comes to its answer. All that
others do in between is arbitrary. -/
structure Reconnect (env : Env σ) (w₀ : World σ) where
  c : ConnID
  c' : ConnID
  t : String
  token : String
  rest : List Frame
  fate : Fate
  between : List Label
  after : List Label
  lookFate : Fate
  handled : List Label
  w₁ : World σ
  w₂ : World σ
  w₃ : World σ
  w₄ : World σ
  w₅ : World σ
  issued : token ≠ ""
  /-- After a V2 response with the token, or on the way to a resume response with it. -/
  stores : w₀.pc c .main = .storeNew t token ∨ ∃ a : Auth, w₀.pc c .main = .storeToken a token ∧ a.tunnelID = t
  stored : w₀.step env (.run c .main fate) = some w₁
  lost : Run (World.step env) (fun _ _ => True) w₁ between w₂
  /-- The last step of `suspendTunnel`. -/
  suspended : w₂.pc c .main = .record t
  back : Run (World.step env) (fun _ _ => True) w₂ after w₃
  completed : w₃.pc c .main = .done
  presents : w₃.pc c' .main = .lookup token rest
  sameGateway : w₃.home c' = w₃.home c
  looks : w₃.step env (.run c' .main lookFate) = some w₄
  handles : Run (World.step env) (fun _ _ => True) w₄ handled w₅
  answers : (w₅.pc c' .main).answers = true

/-- Before the deadline that the suspension set. -/
def Reconnect.InTime {w₀ : World σ} (R : Reconnect env w₀) : Prop :=
  ∃ due, R.w₂.timer R.c = .armed R.t due ∧ R.w₃.now < due

def Reconnect.Finds {w₀ : World σ} (R : Reconnect env w₀) : Prop :=
  ∃ sess, env.repo.getResumable R.w₃.server.store R.w₃.now R.token = .ok sess ∧ sess.tunnelID = R.t

/-- The request for it succeeds, and the answer is that the tunnel is resumed. -/
def Reconnect.Works {w₀ : World σ} (R : Reconnect env w₀) : Prop :=
  (R.lookFate = .ok ∧ R.Finds) ∧ ∃ newToken, R.w₅.pc R.c' .main = .reply R.t newToken

namespace Reconnect

variable {w₀ : World σ} (R : Reconnect env w₀)

theorem works_iff (hb : Base env R.w₃) : R.Works ↔ (R.lookFate = .ok ∧ R.Finds) ∧
    Run (World.step env) (fun w l => reattaches R.c' w l = true) R.w₄ R.handled R.w₅ := by
  refine and_congr_right ?_
  rintro ⟨hfate, sess, hfound, ht⟩
  have hp : (R.w₄.pc R.c' .main).resumes R.t = true := by
    rw [(run_step R.looks).2, ran_pc_self env R.presents, hfate]
    simp [stepPc, stepResume, hfound, ht, Pc.resumes]
  have hb₄ := base_step hb R.looks
  have hanswers := R.answers
  constructor
  · rintro ⟨token, hreply⟩
    rcases (resumes_run hb₄ hp R.handles).2 with ⟨-, hrun⟩ | ⟨status, rest, h⟩ | h
    · exact hrun
    · cases hreply.symm.trans h
    · rw [hreply] at h
      cases h
  · intro hrun
    have hres := resumes_of_reattached hb₄ hp hrun
    generalize R.w₅.pc R.c' .main = q at hanswers hres ⊢
    cases q with
    | reply t' token =>
      rcases hres with h | h
      · exact ⟨token, by rw [of_decide_eq_true h]⟩
      · cases h
    | refuse => rcases hres with h | h <;> cases h
    | _ => cases hanswers

theorem token_pc : (w₀.pc R.c .main).resumeToken = some R.token ∧ (w₀.pc R.c .main).storing = true := by
  rcases R.stores with h | ⟨a, h, -⟩ <;> exact h ▸ ⟨rfl, rfl⟩

theorem w₁_eq : R.w₁ = w₀.ran env R.c .main R.fate := (run_step R.stored).2

theorem spent {holds : σ → String → String → Prop} (hf : Fresh env holds w₀) : Spent env R.token R.w₁ := by
  rw [R.w₁_eq]
  exact hf.spent R.issued R.token_pc.1 R.token_pc.2

theorem w₁_store : R.w₁.server.store = if R.fate = .lost then w₀.server.store else
    (env.repo.setResumable w₀.server.store w₀.now R.t R.token
      (w₀.now + (env.config (w₀.home R.c)).sessionResumeTTL)).1 := by
  rw [R.w₁_eq]
  rcases R.stores with h | ⟨a, h, ht⟩
  · cases hf : R.fate <;>
      simp [World.ran, World.setPc, h, stepPc, stepResume, World.setResumable, World.request]
  · cases hf : R.fate <;>
      simp [World.ran, World.setPc, h, stepPc, stepHandshake, World.setResumable, World.request, ht]

end Reconnect

/-! ## The memory store -/

theorem next_arm (h : Pc.Next r p q) (hq : q = .arm t) : ∃ y, p = .storeResume t y := by
  cases h with
  | stored t' y => cases hq; exact ⟨y, rfl⟩
  | early _ _ _ he => subst hq; cases he
  | _ => cases hq

theorem next_record (h : Pc.Next r p q) (hq : q = .record t) : p = .arm t := by
  cases h with
  | arm t' => cases hq; rfl
  | early _ _ _ he => subst hq; cases he
  | _ => cases hq

theorem outside_arming (h : Pc.Outside r p q) : q ≠ .arm t ∧ q ≠ .record t := by
  cases h with
  | accept _ ho =>
    constructor
    · rintro rfl
      cases ho
    · rintro rfl
      cases ho
  | _ => simp

section Memory

variable {env : Env Memory} {w w' : World Memory} (hrepo : env.repo = Memory.repo)

include hrepo

/-- The `SetResumable` of a suspension that goes on replaced the tunnel's token. -/
theorem stored_replaces {y : String} (hp : w.pc c .main = .storeResume t y)
    (harm : (w.ran env c .main fate).pc c .main = .arm t)
    (h : Memory.holds (w.ran env c .main fate).server.store t x) : x = y := by
  have hstored : (w.setResumable env (w.home c) fate t y).2 = true := by
    rw [ran_pc_self env hp] at harm
    simp only [stepPc, stepStream] at harm
    by_contra hn
    rw [if_neg hn] at harm
    cases harm
  have hstore : (w.ran env c .main fate).server = (w.setResumable env (w.home c) fate t y).1.server := by
    simp [World.ran, World.setPc, hp, stepPc, stepStream]
  rw [hstore] at h
  cases fate with
  | ok =>
    simp only [World.setResumable, World.request, hrepo, Memory.repo] at hstored h
    exact Memory.setResumable_replaces hstored h
  | lost => cases hstored
  | replyLost => cases hstored

/-- The token is nowhere but on its tunnel, and once the suspension of `c` is past its `SetResumable`, nowhere. -/
structure Overwritten (c : ConnID) (t x : String) (env : Env Memory) (w : World Memory) : Prop where
  spent : Spent env x w
  only : ∀ t', Memory.holds w.server.store t' x → t' = t
  gone : w.pc c .main = .arm t ∨ w.pc c .main = .record t → ∀ t', ¬ Memory.holds w.server.store t' x

theorem overwritten_step (hb : Base env w) (hx : x ≠ "") (h : Overwritten c t x env w) {l : Label}
    (hst : w.step env l = some w') : Overwritten c t x env w' := by
  have htok : env.repo.Tokens Memory.holds := hrepo ▸ Memory.tokens
  have hback : ∀ {t'}, Memory.holds w'.server.store t' x → Memory.holds w.server.store t' x :=
    fun hh => h.spent.holds htok hb hx hst hh
  refine ⟨spent_step hb hx h.spent hst, fun t' hh => h.only t' (hback hh), fun hp t' hh => ?_⟩
  -- `c` has moved: had it stood at `arm` or `record` before, the token would have been gone already
  have hsame : w'.pc c .main ≠ w.pc c .main := fun he => h.gone (he ▸ hp) t' (hback hh)
  rcases step_cases hb hst with ⟨c₁, r₁, fate, -, hr, rfl⟩ | hq
  · rcases ran_pc env w c₁ r₁ fate c .main with h1 | ⟨rfl, rfl, h1⟩ | ⟨-, h1, -⟩
    · exact hsame h1
    · have hnext := stepPc_next env w c .main fate _ hr
      rcases hp with hp | hp
      · obtain ⟨y, hy⟩ := next_arm hnext (h1.symm.trans hp)
        obtain rfl := h.only t' (hback hh)
        have hxy := stored_replaces hrepo hy hp hh
        exact h.spent.pc c .main (by rw [hy, hxy]; rfl)
      · exact h.gone (.inl (next_record hnext (h1.symm.trans hp))) t' (hback hh)
    · cases h1
  · exact hsame (hq.pc_eq (P := fun q => q = .arm t ∨ q = .record t) (fun _ _ ho => by simp [outside_arming ho])
      (fun _ h => by simp at h) hp)

/-- With the memory store the agent's token is gone when it comes back. -/
theorem Reconnect.not_found {w₀ : World Memory} (R : Reconnect env w₀) (hb : Base env w₀)
    (hf : Fresh env Memory.holds w₀) (t : String) : ¬ Memory.holds R.w₃.server.store t R.token := by
  have htok : env.repo.Tokens Memory.holds := hrepo ▸ Memory.tokens
  have hnone := (hf.once R.c .main R.token R.issued R.token_pc.1).1
  -- after its `SetResumable` the token is on its tunnel or nowhere
  have h₁ : Overwritten R.c R.t R.token env R.w₁ := by
    refine ⟨R.spent hf, fun t' hh => ?_, fun hp => ?_⟩
    · rw [R.w₁_store] at hh
      split at hh
      · exact absurd hh (hnone t')
      · rcases htok.setResumable _ _ _ _ _ _ _ hh with h1 | ⟨h1, -⟩
        · exact absurd h1 (hnone t')
        · exact h1
    · rw [R.w₁_eq] at hp
      rcases R.stores with hs | ⟨a, hs, -⟩ <;> rw [ran_pc_self env hs] at hp <;>
        rcases hp with hp | hp <;> cases hp
  obtain ⟨hb₂, h₂⟩ := run_inv_from (Overwritten R.c R.t R.token env) (base_step hb R.stored) h₁
    (fun w l w' hb h _ hst => overwritten_step hrepo hb R.issued h hst) R.lost
  have hgone := h₂.gone (.inr R.suspended)
  refine (run_inv_from (fun w => Spent env R.token w ∧ ∀ t, ¬ Memory.holds w.server.store t R.token) hb₂
    ⟨h₂.spent, hgone⟩ ?_ R.back).2.2 t
  rintro w l w' hb ⟨hs, hn⟩ - hst
  exact ⟨spent_step hb R.issued hs hst, fun t hh => hn t (hs.holds htok hb R.issued hst hh)⟩

end Memory

/-! ## The table -/

section Table

variable {env : Env Table} {w w' : World Table} (hrepo : env.repo = Table.repo)

include hrepo

theorem carries_step {s : Table} {deadline : Time} (hb : Base env w) (hx : x ≠ "") (hs : Spent env x w)
    (h : Table.Carries s w.server.store t x deadline) {l : Label} (hst : w.step env l = some w') :
    Table.Carries s w'.server.store t x deadline := by
  rcases step_cases hb hst with ⟨c, r, fate, -, -, rfl⟩ | hq
  · cases ran_store env w c r fate with
    | same he => rw [he]; exact h
    | resumable t' token deadline' hp he =>
      -- another token, for whatever tunnel
      have hne : token ≠ x := by
        rintro rfl
        rcases hp with hp | hp | ⟨a, hp, -⟩ <;> exact hs.pc c r (hp ▸ rfl)
      rw [he, hrepo]
      exact h.setResumable hne t' deadline'
    | register a hp sess ht he hlog =>
      rw [he, hrepo]
      exact h.register hx w.now sess
    | deregister t' reason hp he =>
      rw [he, hrepo]
      exact h.deregister t'
    | heartbeat t' he =>
      rw [he, hrepo]
      exact h.heartbeat w.now t'
  · rcases hq.store with he | he
    · rw [he]
      exact h
    · rw [he, Server.cleanupExpired, hrepo]
      exact h.cleanupExpired w.now env.sessionTTL

/-- With the table the agent's token stands where its `SetResumable` put it. -/
theorem Reconnect.carries {w₀ : World Table} (R : Reconnect env w₀) (hb : Base env w₀)
    (hf : Fresh env Table.holds w₀) :
    Table.Carries (if R.fate = .lost then [] else w₀.server.store) R.w₃.server.store R.t R.token
      (w₀.now + (env.config (w₀.home R.c)).sessionResumeTTL) := by
  have hnone := (hf.once R.c .main R.token R.issued R.token_pc.1).1
  let I : World Table → Prop := fun w => Spent env R.token w ∧
    Table.Carries (if R.fate = .lost then [] else w₀.server.store) w.server.store R.t R.token
      (w₀.now + (env.config (w₀.home R.c)).sessionResumeTTL)
  have hkeep : ∀ w l w', Base env w → I w → True → w.step env l = some w' → I w' :=
    fun w l w' hb h _ hst => ⟨spent_step hb R.issued h.1 hst, carries_step hrepo hb R.issued h.1 h.2 hst⟩
  have h₁ : I R.w₁ := by
    refine ⟨R.spent hf, ?_⟩
    rw [R.w₁_store]
    split
    · exact Table.carries_lost hnone
    · rw [hrepo]
      exact Table.carries_set hnone
  obtain ⟨hb₂, h₂⟩ := run_inv_from I (base_step hb R.stored) h₁ hkeep R.lost
  exact (run_inv_from I hb₂ h₂ hkeep R.back).2.2

end Table

/-! ## Reconnects of one agent -/

/-- Connection `c` runs a V2 handshake up to the `SetResumable` of its token. -/
def handshakeV2 (c : ConnID) : List Label :=
  .accept c "g1" [.authV2 "k" [{ label := "web" }]] :: List.replicate 6 (.run c .main .ok)

def suspension (c : ConnID) (lived : Nat) : List Label :=
  [.run c .main .ok, .clock lived, .lost c, .run c .main .ok, .run c .main .ok, .run c .main .ok]

/-- The suspension ends, and five seconds later the agent is back on connection `c'`. -/
def comesBack (c c' : ConnID) (token : String) : List Label :=
  [.run c .main .ok, .clock 5000000000, .accept c' "g1" [.hello 3, .resume token]]

def webAgent : Auth := ⟨"a", [{ label := "web" }], true⟩

/-- Whether the agent, from `w₀`, makes a reconnect before `due`, its handler answers after `n` more steps and finds
the tunnel, and the states pass a test. -/
def reconnects (env : Env σ) (w₀ : World σ) (c c' : ConnID) (token : String) (lived : Nat) (due : Time) (n : Nat)
    (test : World σ → World σ → Bool) : Bool :=
  token ≠ "" && w₀.pc c .main = .storeToken webAgent token &&
    (w₀.step env (.run c .main .ok)).any fun w₁ => (exec (World.step env) w₁ (suspension c lived)).any fun w₂ =>
      (exec (World.step env) w₂ (comesBack c c' token)).any fun w₃ => (w₃.step env (.run c' .main .ok)).any fun w₄ =>
        (exec (checked (World.step env) (reattaches c')) w₄ (List.replicate n (.run c' .main .ok))).any fun w₅ =>
          w₂.pc c .main = .record "t-a" && w₂.timer c = .armed "t-a" due && w₃.pc c .main = .done &&
          w₃.pc c' .main = .lookup token [] && w₃.home c' = w₃.home c && (w₅.pc c' .main).answers && w₃.now < due &&
          test w₀ w₃

theorem exists_reconnect (env : Env σ) (store : σ) (ls : List Label) (c c' : ConnID) (token : String) (lived : Nat)
    (due : Time) (n : Nat) (test : World σ → World σ → Bool)
    (h : (exec (World.step env) (.init env 0 store) ls).any
      (fun w₀ => decide (reconnects env w₀ c c' token lived due n test = true)) = true) :
    ∃ w₀, Run (World.step env) (fun _ _ => True) (.init env 0 store) ls w₀ ∧ ∃ R : Reconnect env w₀, R.InTime ∧
      (R.c = c ∧ R.t = "t-a" ∧ R.token = token ∧ R.fate = .ok ∧ R.lookFate = .ok) ∧ test w₀ R.w₃ = true ∧
      Run (World.step env) (fun w l => reattaches R.c' w l = true) R.w₄ R.handled R.w₅ := by
  obtain ⟨w₀, hrun, hre⟩ := run_any h
  simp only [reconnects, Bool.and_eq_true, decide_eq_true_eq, Option.any_eq_true] at hre
  obtain ⟨⟨hne, hp⟩, w₁, h₁, w₂, h₂, w₃, h₃, w₄, h₄, w₅, h₅, ⟨⟨⟨⟨⟨⟨hs, htimer⟩, hd⟩, hl⟩, hh⟩, ha⟩, hnow⟩, ht⟩ := hre
  have hkept := run_of_checked h₅
  let R : Reconnect env w₀ := ⟨c, c', "t-a", token, [], .ok, _, _, .ok, _, w₁, w₂, w₃, w₄, w₅, hne,
    .inr ⟨webAgent, hp, by decide⟩, h₁, run_of_exec h₂, hs, run_of_exec h₃, hd, hl, hh, h₄,
    hkept.mono fun _ _ _ => trivial, ha⟩
  exact ⟨w₀, hrun, R, ⟨due, htimer, hnow⟩, ⟨rfl, rfl, rfl, rfl, rfl⟩, ht, hkept⟩

theorem not_works_of_error {w₀ : World σ} (R : Reconnect env w₀)
    (h : (env.repo.getResumable R.w₃.server.store R.w₃.now R.token).toBool = false) : ¬ R.Works := by
  rintro ⟨⟨-, sess, hfound, -⟩, -⟩
  rw [hfound] at h
  cases h

/-! ## Session resume -/

/-- The session stores that a registry can be started with. -/
inductive StoreKind
  | memstore | pgstore

namespace StoreKind

abbrev State : StoreKind → Type
  | .memstore => Memory
  | .pgstore => Table

def repo : (k : StoreKind) → SessionRepository k.State
  | .memstore => Memory.repo
  | .pgstore => Table.repo

def holds : (k : StoreKind) → k.State → String → String → Prop
  | .memstore => Memory.holds
  | .pgstore => Table.holds

/-- Where a token that `SetResumable` sets for the tunnel outlives the next suspension: never in the memory store,
and in the table when there is an active row to put it on. -/
def outlives : (k : StoreKind) → k.State → String → Prop
  | .memstore, _, _ => False
  | .pgstore, s, t => ∃ row ∈ s, Table.activeOf t row = true

theorem tokens : (k : StoreKind) → k.repo.Tokens k.holds
  | .memstore => Memory.tokens
  | .pgstore => Table.tokens

end StoreKind

theorem getResumable_iff {k : StoreKind} {env : Env k.State} (hrepo : env.repo = k.repo) {w₀ : World k.State}
    (hb : Base env w₀) (hf : Fresh env k.holds w₀) (R : Reconnect env w₀) :
    R.Finds ↔ R.fate ≠ .lost ∧ k.outlives w₀.server.store R.t ∧
      R.w₃.now < w₀.now + (env.config (w₀.home R.c)).sessionResumeTTL := by
  cases k with
  | memstore =>
    refine iff_of_false ?_ fun h => h.2.1
    rintro ⟨sess, hfound, -⟩
    rw [hrepo] at hfound
    obtain ⟨t, hh⟩ := Memory.holds_of_getResumable hfound
    exact R.not_found hrepo hb hf t hh
  | pgstore =>
    have hcarries := R.carries hrepo hb hf
    rw [Reconnect.Finds, hrepo]
    refine (hcarries.getResumable_iff R.issued).trans ?_
    by_cases hl : R.fate = .lost
    · simp [hl]
    · simp only [hl, if_false, ne_eq, not_false_eq_true, true_and]
      rfl

/-- A resume works exactly when the `SetResumable` of the agent's token reached the store, what it set there outlives
the suspension, the `GetResumable` request succeeds less than `sessionResumeTTL` later, and the gateway still has the
tunnel when `handleSessionResume` re-attaches it. Left alone, `handleSessionResume` gets to an answer. -/
theorem resume_works_iff (k : StoreKind) {env : Env k.State} (hrepo : env.repo = k.repo) {start : Time}
    {store : k.State} (hfresh : ∀ t n, ¬ k.holds store t (env.token n)) {ls : List Label} {w₀ : World k.State}
    (hrun : Run (World.step env) (fun _ _ => True) (.init env start store) ls w₀) :
    (∀ R : Reconnect env w₀, R.Works ↔
      (R.lookFate = .ok ∧ R.fate ≠ .lost ∧ k.outlives w₀.server.store R.t ∧
        R.w₃.now < w₀.now + (env.config (w₀.home R.c)).sessionResumeTTL) ∧
      Run (World.step env) (fun w l => reattaches R.c' w l = true) R.w₄ R.handled R.w₅) ∧
    ∀ (w : World k.State) (c : ConnID), 0 < (w.pc c .main).stepsToAnswer →
      (w.gateway (w.home c)).crashed = false →
      ∃ n w', exec (World.step env) w (List.replicate n (.run c .main .ok)) = some w' ∧
        (w'.pc c .main).answers = true := by
  refine ⟨fun R => ?_, fun w c => answers_alone env⟩
  obtain ⟨hb, hf⟩ := run_inv (Fresh env k.holds) (fresh_init env start hfresh)
    (fun w l w' hb hf _ hst => fresh_step (hrepo ▸ k.tokens) hb hf hst) hrun
  have hb₂ := (run_inv_from (fun _ => True) (base_step hb R.stored) trivial (fun _ _ _ _ _ _ _ => trivial) R.lost).1
  have hb₃ := (run_inv_from (fun _ => True) hb₂ trivial (fun _ _ _ _ _ _ _ => trivial) R.back).1
  rw [R.works_iff hb₃, getResumable_iff hrepo hb hf R]

/-- With the table and a session of the tunnel from another connection, a V2 handshake stores its token, and a resume
works. With the memory store it does not. -/
theorem resume_works_second_session :
    (∃ (w₀ : World Memory) (R : Reconnect (demo Memory.repo true) w₀), R.InTime ∧ ¬ R.Works) ∧
      ∃ (w₀ : World Table) (R : Reconnect (demo Table.repo true) w₀), R.InTime ∧ R.Works := by
  constructor
  · obtain ⟨w₀, hrun, R, htime, -⟩ := exists_reconnect (demo Memory.repo true) ∅ (handshakeV2 0) 0 1 "rr"
      10000000000 40000000000 0 (fun _ _ => true) (by decide +kernel)
    have hiff := (resume_works_iff .memstore rfl (by simp [StoreKind.holds, Memory.holds]) hrun).1 R
    exact ⟨w₀, R, htime, fun hworks => (hiff.1 hworks).1.2.2.1⟩
  · obtain ⟨w₀, hrun, R, htime, ⟨hc, ht, -, hfate, hlook⟩, htest, hkept⟩ := exists_reconnect (demo Table.repo true) []
      (connect 0 "g1" ++ handshakeV2 1) 1 2 "rrr" 10000000000 40000000000 4
      (fun w₀ w₃ => (∃ row ∈ w₀.server.store, Table.activeOf "t-a" row = true) ∧
        w₃.now < w₀.now + ((demo Table.repo true).config (w₀.home 1)).sessionResumeTTL) (by decide +kernel)
    have hiff := (resume_works_iff .pgstore rfl (by simp [StoreKind.holds, Table.holds]) hrun).1 R
    rw [hc, ht] at hiff
    have hstored := of_decide_eq_true htest
    exact ⟨w₀, R, htime, hiff.2 ⟨⟨hlook, by simp [hfate], hstored⟩, hkept⟩⟩

/-- After its first handshake an agent cannot resume, whichever store the registry has: it is back five seconds after
its connection was lost, and `GetResumable` does not know its token. -/
theorem first_resume_refused :
    (∃ w₀, Run (World.step (demo Memory.repo true)) (fun _ _ => True) (.init (demo Memory.repo true) 0 ∅)
      (handshakeV2 0) w₀ ∧ ∃ R : Reconnect (demo Memory.repo true) w₀, R.InTime ∧ ¬ R.Works) ∧
    ∃ w₀, Run (World.step (demo Table.repo true)) (fun _ _ => True) (.init (demo Table.repo true) 0 [])
      (handshakeV2 0) w₀ ∧ ∃ R : Reconnect (demo Table.repo true) w₀, R.InTime ∧ ¬ R.Works := by
  constructor
  · obtain ⟨w₀, hrun, R, htime, ⟨-, -, hx, -⟩, htest, -⟩ := exists_reconnect (demo Memory.repo true) ∅ (handshakeV2 0)
      0 1 "rr" 10000000000 40000000000 0
      (fun _ w₃ => (Memory.getResumable w₃.server.store w₃.now "rr").toBool = false) (by decide +kernel)
    refine ⟨w₀, hrun, R, htime, not_works_of_error R ?_⟩
    rw [hx]
    exact of_decide_eq_true htest
  · obtain ⟨w₀, hrun, R, htime, ⟨-, -, hx, -⟩, htest, -⟩ := exists_reconnect (demo Table.repo true) [] (handshakeV2 0)
      0 1 "rr" 10000000000 40000000000 0
      (fun _ w₃ => (Table.getResumable w₃.server.store w₃.now "rr").toBool = false) (by decide +kernel)
    refine ⟨w₀, hrun, R, htime, not_works_of_error R ?_⟩
    rw [hx]
    exact of_decide_eq_true htest

end TunnelEdge.Gateway
