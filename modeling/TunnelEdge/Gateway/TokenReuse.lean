import TunnelEdge.Gateway.Replies
import TunnelEdge.Gateway.Resume
import TunnelEdge.Gateway.Routes
import TunnelEdge.Store.SingleUse
/-!
# Presenting a resume token twice

`handleSessionResume` looks the token up, attaches the connection and only then
replaces the token, in a request of its own. Until that request has been carried out
another call that presents the same token finds it too. When no new token could be
drawn, the request did not arrive, or the table has the token in a row that is no
longer active, the token stays and can be presented again until its deadline.

A run is followed with the connections that have looked the token up. Apart from
those windows, one of them is told that it is resumed (`resumed_once`).
-/

namespace TunnelEdge.Gateway

open GoLib Store Registry

variable {σ : Type} {env : Env σ} {w w' : World σ} {c : ConnID} {r : Role} {fate : Fate} {p q : Pc} {k t : String}
  {calls : List ConnID}

/-! ## handleSessionResume -/

/-- Between the lookup and the end of `SetResumable`. -/
def Pc.consuming : Pc → Bool
  | .cancelTimer .. | .drawNew .. | .attach .. | .storeNew .. => true
  | _ => false

def Pc.replying : Pc → Bool
  | .reply .. => true
  | _ => false

inductive Resuming (env : Env σ) (w : World σ) (fate : Fate) : Pc → Pc → Prop
  | found (x : String) (rest : List Frame) (sess : Session)
      (h : env.repo.getResumable w.server.store w.now x = .ok sess) :
      Resuming env w fate (.lookup x rest) (.cancelTimer sess.tunnelID rest)
  | stopped (t : String) (rest : List Frame) : Resuming env w fate (.cancelTimer t rest) (.drawNew t rest)
  | drawn (t token : String) (rest : List Frame) (h : fate = .ok → token ≠ "") :
      Resuming env w fate (.drawNew t rest) (.attach t token rest)
  | attached (t token : String) (rest : List Frame) : Resuming env w fate (.attach t token rest) (.storeNew t token)
  | untokened (t : String) (rest : List Frame) : Resuming env w fate (.attach t "" rest) (.reply t "")
  | stored (t token token' : String) : Resuming env w fate (.storeNew t token) (.reply t token')

theorem opening_consuming (h : q.opening = true) : q.consuming = false ∧ q.replying = false := by
  cases q <;> first | exact ⟨rfl, rfl⟩ | cases h

theorem routeNext_consuming (cfg : Config) (a : Auth) (leaseID : String) (rest : List TunnelRoute) :
    (routeNext cfg a leaseID rest).consuming = false ∧ (routeNext cfg a leaseID rest).replying = false := by
  simp only [routeNext]
  split
  · split <;> exact ⟨rfl, rfl⟩
  · exact ⟨rfl, rfl⟩

theorem stepPc_resuming (env : Env σ) (w : World σ) (c : ConnID) (r : Role) (fate : Fate) (hr : p.runnable = true)
    (h : (stepPc env w c r fate p).2.consuming = true ∨ (stepPc env w c r fate p).2.replying = true) :
    Resuming env w fate p (stepPc env w c r fate p).2 := by
  obtain ⟨q, hgoes, hq | ⟨he, hq⟩ | ⟨hwait, -⟩⟩ := stepPc_goes env w c r fate p <;> rw [hgoes] at h ⊢
  · cases hq with
    | found x rest sess hs => exact .found x rest sess hs
    | cancelTimer t rest => exact .stopped t rest
    | drawNew t token rest htoken => exact .drawn t token rest htoken
    | attachStore t token rest => exact .attached t token rest
    | attachReply t rest => exact .untokened t rest
    | leased | routedLabel => simp [routeNext_consuming] at h
    | fullAuth => simp [opening_consuming (fullAuth_opening ..)] at h
    | _ => simp [Pc.consuming, Pc.replying] at h
  · cases hq with
    | early _ _ hp => cases he.symm.trans hp
    | attachStore | attachReply => cases he
    | storeNew t token token' => exact .stored t token token'
    | _ => simp [Pc.consuming, Pc.replying] at h
  · cases hr.symm.trans hwait

/-- Where no step leads: before the lookup, or to a refusal with `ResumeStatusResumed`. -/
def Pc.outset : Pc → Bool
  | .idle | .lookup .. | .refuse .resumed _ => true
  | _ => false

theorem fullAuth_outset (cfg : Config) (first : Bool) (frames : List Frame) :
    (fullAuth cfg first frames).1.outset = false := by
  unfold fullAuth rejected
  repeat' split
  all_goals rfl

theorem routeNext_outset (cfg : Config) (a : Auth) (leaseID : String) (rest : List TunnelRoute) :
    (routeNext cfg a leaseID rest).outset = false := by
  simp only [routeNext]
  split
  · split <;> rfl
  · rfl

theorem stepPc_outset (env : Env σ) (w : World σ) (c : ConnID) (r : Role) (fate : Fate) (hr : p.runnable = true) :
    (stepPc env w c r fate p).2.outset = false := by
  obtain ⟨q, hgoes, hq | ⟨he, hq⟩ | ⟨hwait, -⟩⟩ := stepPc_goes env w c r fate p <;> rw [hgoes]
  · cases hq with
    | leased | routedLabel => exact routeNext_outset ..
    | fullAuth => exact fullAuth_outset ..
    | _ => rfl
  · cases hq with
    | early _ _ hp => cases he.symm.trans hp
    | _ => rfl
  · cases hr.symm.trans hwait

/-! ## The answer -/

def Message.isResumed : Message → Bool
  | .resumeResp .resumed _ _ => true
  | _ => false

def World.resumed (w : World σ) (c : ConnID) : Bool := (w.sent c).any Message.isResumed

theorem fullAuth_message (cfg : Config) (first : Bool) (frames : List Frame) :
    (fullAuth cfg first frames).2.toList.any Message.isResumed = false := by
  unfold fullAuth rejected
  repeat' split
  all_goals rfl

theorem handleAgentConnection_message (cfg : Config) (frames : List Frame) :
    (handleAgentConnection cfg frames).2.toList.any Message.isResumed = false := by
  unfold handleAgentConnection dispatch rejected
  repeat' split
  all_goals first | exact fullAuth_message .. | rfl

theorem resumed_of_send {w : World σ} {c : ConnID} {msg : Message} (hm : msg.isResumed = false)
    (h : (w.send c msg).resumed c = true) : w.resumed c = true := by
  rw [World.resumed, send_sent, List.any_append, List.any_cons, hm, List.any_nil, Bool.or_false, Bool.or_false] at h
  exact h

theorem resumed_of_sent {w w' : World σ} {c : ConnID} (hs : w'.sent = w.sent) (h : w'.resumed c = true) :
    w.resumed c = true := by
  rw [World.resumed, hs] at h
  exact h

theorem authOK_message (cfg : Config) (a : Auth) (token : String) : (authOK cfg a token).isResumed = false := by
  unfold authOK
  split <;> rfl

/-- That message is the last step of `handleSessionResume`. -/
theorem stepPc_resumed (env : Env σ) (w : World σ) (c : ConnID) (r : Role) (fate : Fate) (hr : p.runnable = true)
    (hp : ∀ rest, p ≠ .refuse .resumed rest) (h : (stepPc env w c r fate p).1.resumed c = true) :
    w.resumed c = true ∨ p.replying = true := by
  by_cases hs : p.silent = true
  · rw [World.resumed, (stepPc_silent env w c r fate hs hr).1] at h
    exact .inl h
  cases p with
  | reply => exact .inr rfl
  | refuse status rest =>
    simp only [stepPc, stepResume] at h
    split at h
    · rw [World.resumed, sendOption_sent, List.any_append, fullAuth_message, Bool.or_false] at h
      refine .inl (resumed_of_send ?_ h)
      cases status with
      | resumed => exact absurd rfl (hp rest)
      | _ => rfl
    · exact .inl h
  | respond a leaseID token =>
    simp only [stepPc, stepHandshake] at h
    split at h
    · exact .inl (resumed_of_send (authOK_message ..) h)
    · exact .inl h
  | quota a =>
    simp only [stepPc, stepHandshake] at h
    repeat' split at h
    · exact .inl (resumed_of_send rfl h)
    · exact .inl h
    · exact .inl (resumed_of_send rfl h)
  | acquire a =>
    simp only [stepPc, stepHandshake] at h
    have hsent := request_sent { w with drawn := w.drawn + 1 } fate
      (·.acquireLease w.now (env.uuid w.drawn) ⟨a.tunnelID, w.home c, (env.config (w.home c)).leaseTTL⟩)
    left
    split at h
    · exact resumed_of_sent hsent h
    · split at h
      · exact resumed_of_sent hsent (resumed_of_send rfl h)
      · exact resumed_of_sent hsent (resumed_of_send rfl h)
  | drawToken | drawNew => exact .inl (resumed_of_sent (token_sent ..) h)
  | routeLabels a leaseID rest =>
    cases rest with
    | nil => exact .inl h
    | cons => exact .inl h
  | cancelTimer => exact .inl (resumed_of_sent (stopTimer_sent ..) h)
  | storeNew => exact .inl (resumed_of_sent (setResumable_sent ..) h)
  | lookup | attach =>
    simp only [stepPc, stepResume] at h
    split at h
    · exact .inl h
    · exact .inl h
  | idle | routeDefault => exact .inl h
  | _ => exact absurd rfl hs

/-! ## A step, seen from one connection -/

/-- Neither inside `handleSessionResume` nor before it. -/
def Pc.aside : Pc → Bool
  | .idle | .lookup .. | .cancelTimer .. | .drawNew .. | .attach .. | .storeNew .. | .reply ..
  | .refuse .resumed _ => false
  | _ => true

theorem aside_clear (h : p.aside = true) : p.outset = false ∧ p.consuming = false ∧ p.replying = false := by
  cases p with
  | refuse status => cases status <;> first | exact ⟨rfl, rfl, rfl⟩ | cases h
  | _ => first | exact ⟨rfl, rfl, rfl⟩ | cases h

theorem within_of_not_aside (h : p.aside = false) (ho : p.outset = false) :
    p.consuming = true ∨ p.replying = true := by
  cases p with
  | refuse status => cases status <;> first | cases h; done | cases ho
  | _ => first | cases h; done | cases ho; done | exact .inl rfl | exact .inr rfl

theorem Resuming.before (h : Resuming env w fate p q) : p.aside = false ∧ p.replying = false := by
  cases h <;> exact ⟨rfl, rfl⟩

theorem handleAgentConnection_refuse (cfg : Config) (frames rest : List Frame) :
    (handleAgentConnection cfg frames).1 ≠ .refuse .resumed rest := by
  have hfull : ∀ first frames, (fullAuth cfg first frames).1 ≠ .refuse .resumed rest := by
    intro first frames he
    have ho := fullAuth_outset cfg first frames
    rw [he] at ho
    cases ho
  unfold handleAgentConnection dispatch rejected
  repeat' split
  all_goals first | exact hfull _ _ | simp

/-- What a step does to the main goroutine of a connection and to what its agent knows. -/
inductive Seen (env : Env σ) (w w' : World σ) (l : Label) (c : ConnID) : Prop
  | own (fate : Fate) (hl : l = .run c .main fate) (hr : (w.pc c .main).runnable = true)
      (he : w' = w.ran env c .main fate)
  | opened (g : String) (frames : List Frame) (hidle : w.pc c .main = .idle)
      (hpc : w'.pc c .main = (handleAgentConnection (env.config g) frames).1) (hs : w'.resumed c = w.resumed c)
  | still (hpc : w'.pc c .main = w.pc c .main) (hs : w'.resumed c = w.resumed c)
  | aside (hpc : (w'.pc c .main).aside = true) (hs : w'.resumed c = w.resumed c)

theorem step_seen (hb : Base env w) {l : Label} (hst : w.step env l = some w') (c : ConnID) :
    Seen env w w' l c := by
  have hsame : w'.sent c = w.sent c → w'.resumed c = w.resumed c := fun h => by rw [World.resumed, h]; rfl
  have hsent := step_sent hb hst c
  rcases step_kinds hb hst with ⟨c₁, r₁, fate, rfl, hr, rfl⟩ | ⟨c₁, g, frames, rfl, hn⟩ | ⟨hrun, hp⟩
  · by_cases he : c₁ = c ∧ r₁ = .main
    · obtain ⟨rfl, rfl⟩ := he
      exact .own fate rfl hr rfl
    · refine .still ?_ (hsame ?_)
      · rcases ran_pc env w c₁ r₁ fate c .main with hpc | ⟨hc, hm, -⟩ | ⟨-, hm, -⟩
        · exact hpc
        · exact absurd ⟨hc.symm, hm.symm⟩ he
        · cases hm
      · rcases hsent with hs | ⟨fate', hl⟩ | ⟨g, frames, hl⟩
        · exact hs
        · cases hl
          exact absurd ⟨rfl, rfl⟩ he
        · cases hl
  · by_cases he : c = c₁
    · subst he
      refine .opened g frames ((hb.idle c hn.new).1 .main) (by rw [hn.pc, if_pos ⟨rfl, rfl⟩]) ?_
      obtain ⟨-, -, -, -, -, -, hs⟩ := accept_spec hst
      rw [World.resumed, hs, List.any_append, handleAgentConnection_message, Bool.or_false]
      rfl
    · refine .still (by rw [hn.pc, if_neg fun h => he h.1]) (hsame ?_)
      rcases hsent with hs | ⟨fate, hl⟩ | ⟨g', frames', hl⟩
      · exact hs
      · cases hl
      · cases hl
        exact absurd rfl he
  · have hs : w'.resumed c = w.resumed c := by
      rcases hsent with hs | ⟨fate, hl⟩ | ⟨g, frames, rfl⟩
      · exact hsame hs
      · exact absurd hl (hrun c .main fate)
      · have hconns := (accept_step hb hst).conns
        rw [hp.conns] at hconns
        exact absurd hconns.symm (List.cons_ne_self _ _)
    rcases hp.pc c .main with hpc | hpc
    · exact .still hpc hs
    · refine .aside ?_ hs
      generalize w'.pc c .main = q, w.pc c .main = p at hpc
      cases hpc <;> rfl

/-- Nobody is told that it is resumed before `handleSessionResume` has come to its end. -/
def Unanswered (w : World σ) : Prop :=
  ∀ c, (w.pc c .main).aside = false → w.resumed c = false ∧ ∀ rest, w.pc c .main ≠ .refuse .resumed rest

theorem unanswered_step (hb : Base env w) (h : Unanswered w) {l : Label} (hst : w.step env l = some w') :
    Unanswered w' := by
  intro c haside
  cases step_seen hb hst c with
  | own fate _ hr he =>
    subst he
    rw [ran_pc_self env rfl] at haside ⊢
    have ho := stepPc_outset env w c .main fate hr
    obtain ⟨hin, hnot⟩ := (stepPc_resuming env w c .main fate hr (within_of_not_aside haside ho)).before
    obtain ⟨hres, href⟩ := h c hin
    refine ⟨Bool.eq_false_iff.2 fun hres' => ?_, fun rest hq => ?_⟩
    · rcases stepPc_resumed env w c .main fate hr href hres' with h1 | h1
      · rw [hres] at h1
        cases h1
      · rw [hnot] at h1
        cases h1
    · rw [hq] at ho
      cases ho
  | opened g frames hidle hpc hs =>
    rw [hs, hpc]
    exact ⟨(h c (by rw [hidle]; rfl)).1, fun rest => handleAgentConnection_refuse _ _ rest⟩
  | still hpc hs =>
    rw [hpc] at haside ⊢
    rw [hs]
    exact h c haside
  | aside hpc => rw [hpc] at haside; cases haside

/-! ## The calls that present a token -/

def presented (k : String) (w : World σ) (l : Label) (_ : World σ) (calls : List ConnID) : List ConnID :=
  match l with
  | .run c r _ =>
    match w.pc c r with
    | .lookup x _ => if x = k then c :: calls else calls
    | _ => calls
  | _ => calls

/-- Told that it is resumed, or about to be. -/
def World.answered (w : World σ) (c : ConnID) : Bool := (w.pc c .main).replying || w.resumed c

/-- A call looks `k` up only while no other call that presented it is short of the end of its `SetResumable`, and once
one has been answered, only if `k` is not stuck. In the calls that present `k` a new token is drawn, and the
`SetResumable` arrives. -/
def separate (stuck : σ → Time → String → Bool) (k : String) (s : World σ × List ConnID) : Label → Bool
  | .run c r fate =>
    match s.1.pc c r with
    | .lookup x _ => x ≠ k || s.2.all fun c' => !(s.1.pc c' .main).consuming &&
        (!s.1.answered c' || !stuck s.1.server.store s.1.now k)
    | .drawNew _ _ => c ∉ s.2 || fate = .ok
    | .storeNew _ _ => c ∉ s.2 || fate ≠ .lost
    | _ => true
  | _ => true

section SingleUse

variable {keyed : σ → Prop} {holds replaceable : σ → String → String → Prop} {stuck : σ → Time → String → Bool}
  (hlaw : env.repo.Replaces keyed holds replaceable stuck)

include hlaw

theorem step_keyed (hb : Base env w) {l : Label} (hst : w.step env l = some w') (h : keyed w.server.store) :
    keyed w'.server.store := by
  rcases step_cases hb hst with ⟨c, r, fate, -, -, rfl⟩ | hq
  · cases ran_store env w c r fate with
    | same hs => exact hs ▸ h
    | resumable t' token deadline _ hs => exact hs ▸ (hlaw.setResumable _ _ _ _ _).1 h
    | register a _ sess hsess hs => exact hs ▸ (hlaw.register _ _ _ hsess.2).1 h
    | deregister t' reason _ hs => exact hs ▸ (hlaw.deregister _ _ _).1 h
    | heartbeat t' hs => exact hs ▸ (hlaw.heartbeat _ _ _).1 h
  · rcases hq.store with hs | hs
    · exact hs ▸ h
    · exact hs ▸ (hlaw.cleanupExpired _ _ _).1 h

theorem step_replaceable (hb : Base env w) (hk : k ≠ "") (hs : Spent env k w) {l : Label}
    (hst : w.step env l = some w') (h : replaceable w'.server.store t k) : replaceable w.server.store t k := by
  rcases step_cases hb hst with ⟨c, r, fate, -, -, rfl⟩ | hq
  · cases ran_store env w c r fate with
    | same he => exact he ▸ h
    | resumable t' token deadline hp he =>
      have hne : k ≠ token := by
        rintro rfl
        rcases hp with hp | hp | ⟨a, hp, -⟩ <;> exact hs.pc c r (hp ▸ rfl)
      exact ((hlaw.setResumable _ _ _ _ _).2 t k hne (he ▸ h)).1
    | register a _ sess hsess he => exact (hlaw.register _ _ _ hsess.2).2 t k hk (he ▸ h)
    | deregister t' reason _ he => exact (hlaw.deregister _ _ _).2 t k (he ▸ h)
    | heartbeat t' he => exact (hlaw.heartbeat _ _ _).2 t k (he ▸ h)
  · rcases hq.store with he | he
    · exact he ▸ h
    · exact (hlaw.cleanupExpired _ _ _).2 t k (he ▸ h)

theorem storeNew_replaces (hs : Spent env k w) (honly : ∀ t', holds w.server.store t' k → t' = t) {token : String}
    (hp : w.pc c .main = .storeNew t token) (hf : fate ≠ .lost) (t' : String) :
    ¬ replaceable (w.ran env c .main fate).server.store t' k := by
  intro h
  have hne : k ≠ token := by
    rintro rfl
    exact hs.pc c .main (hp ▸ rfl)
  have hstore : (w.ran env c .main fate).server.store = (env.repo.setResumable w.server.store w.now t token
      (w.now + (env.config (w.home c)).sessionResumeTTL)).1 := by
    cases fate with
    | lost => exact absurd rfl hf
    | _ => simp [World.ran, World.setPc, hp, stepPc, stepResume, World.setResumable, World.request]
  rw [hstore] at h
  obtain ⟨h1, h2⟩ := (hlaw.setResumable _ _ _ _ _).2 t' k hne h
  exact h2 (honly t' (hlaw.held _ _ _ h1))

omit hlaw in
theorem mem_presented (hb : Base env w) {l : Label} (h : c ∈ presented k w l w' calls) :
    c ∈ calls ∨ ∃ fate rest, l = .run c .main fate ∧ w.pc c .main = .lookup k rest := by
  cases l with
  | run c₁ r₁ fate =>
    simp only [presented] at h
    split at h
    · rename_i x rest hp
      split at h
      · rename_i hx
        subst hx
        rcases List.mem_cons.1 h with rfl | h
        · have hf := hb.fits c r₁
          rw [hp] at hf
          cases r₁ with
          | main => exact .inr ⟨fate, rest, rfl, hp⟩
          | _ => cases hf
        · exact .inl h
      · exact .inl h
    · exact .inl h
  | _ => exact .inl h

/-- A call is short of the end of its `SetResumable`, or it is answered. -/
def World.engaged (w : World σ) (c : ConnID) : Bool := (w.pc c .main).consuming || w.answered c

/-- What holds of the calls that have presented `k`, a token of `t`. -/
structure OneCall (env : Env σ) (keyed : σ → Prop) (holds replaceable : σ → String → String → Prop) (k t : String)
    (w : World σ) (calls : List ConnID) : Prop where
  spent : Spent env k w
  keyed : keyed w.server.store
  only : ∀ t', holds w.server.store t' k → t' = t
  unanswered : Unanswered w
  begun : ∀ c ∈ calls, (w.pc c .main).outset = false
  tunnel : ∀ c ∈ calls, (w.pc c .main).consuming = true → (w.pc c .main).tunnel = some t
  token : ∀ c ∈ calls, ∀ t' rest, w.pc c .main ≠ .attach t' "" rest
  one : ∀ c₁ ∈ calls, ∀ c₂ ∈ calls, w.engaged c₁ = true → w.engaged c₂ = true → c₁ = c₂
  used : ∀ c ∈ calls, w.answered c = true → ∀ t', ¬ replaceable w.server.store t' k

structure Advances (env : Env σ) (k t : String) (w w' : World σ) (l : Label) (calls : List ConnID) (c : ConnID) :
    Prop where
  begun : (w'.pc c .main).outset = false
  tunnel : (w'.pc c .main).consuming = true → (w'.pc c .main).tunnel = some t
  token : ∀ t' rest, w'.pc c .main ≠ .attach t' "" rest
  engaged : w'.engaged c = true → (c ∈ calls ∧ w.engaged c = true) ∨
    ∃ fate rest sess, l = .run c .main fate ∧ w.pc c .main = .lookup k rest ∧
      env.repo.getResumable w.server.store w.now k = .ok sess
  answered : w'.answered c = true → (c ∈ calls ∧ w.answered c = true) ∨
    ∃ fate token, l = .run c .main fate ∧ fate ≠ .lost ∧ w' = w.ran env c .main fate ∧ w.pc c .main = .storeNew t token

theorem lookup_advances (hx : OneCall env keyed holds replaceable k t w calls) {rest : List Frame} {l : Label}
    (hl : l = .run c .main fate) (hp : w.pc c .main = .lookup k rest) (hst : w.step env l = some w') :
    Advances env k t w w' l calls c := by
  subst hl
  obtain ⟨hr, rfl⟩ := run_step hst
  have hq : (w.ran env c .main fate).pc c .main = .refuse .expired rest ∨
      ∃ sess, env.repo.getResumable w.server.store w.now k = .ok sess ∧
        (w.ran env c .main fate).pc c .main = .cancelTimer sess.tunnelID rest := by
    rw [ran_pc_self env hp]
    cases hfound : env.repo.getResumable w.server.store w.now k with
    | error e => cases fate <;> simp [stepPc, stepResume, hfound]
    | ok sess => cases fate <;> simp [stepPc, stepResume, hfound]
  have hres : (w.ran env c .main fate).resumed c = false := by
    obtain ⟨h1, h2⟩ := hx.unanswered c (by rw [hp]; rfl)
    refine Bool.eq_false_iff.2 fun h => ?_
    rcases stepPc_resumed env w c .main fate hr h2 h with h | h
    · rw [h1] at h
      cases h
    · rw [hp] at h
      cases h
  rcases hq with hq | ⟨sess, hfound, hq⟩
  · have hans : (w.ran env c .main fate).answered c = false := by rw [World.answered, hq, hres]; rfl
    refine ⟨by rw [hq]; rfl, ?_, ?_, fun h => ?_, fun h => ?_⟩
    · rw [hq]
      intro h
      cases h
    · simp [hq]
    · rw [World.engaged, hans, hq] at h
      cases h
    · rw [hans] at h
      cases h
  · have hans : (w.ran env c .main fate).answered c = false := by rw [World.answered, hq, hres]; rfl
    refine ⟨by rw [hq]; rfl, fun _ => ?_, ?_, fun _ => .inr ⟨fate, rest, sess, rfl, hp, hfound⟩, fun h => ?_⟩
    · rw [hq, ← hx.only _ (hlaw.getResumable _ _ _ _ hx.keyed hfound).2.1]
      rfl
    · simp [hq]
    · rw [hans] at h
      cases h

omit hlaw in
theorem own_answered (hx : OneCall env keyed holds replaceable k t w calls) (hr : (w.pc c .main).runnable = true)
    (hok : separate stuck k (w, calls) (.run c .main fate) = true) (hc : c ∈ calls)
    (h : (w.ran env c .main fate).answered c = true) :
    w.answered c = true ∨ ∃ token, fate ≠ .lost ∧ w.pc c .main = .storeNew t token := by
  have hpc : (w.ran env c .main fate).pc c .main = (stepPc env w c .main fate (w.pc c .main)).2 := ran_pc_self env rfl
  have hnext := stepPc_resuming env w c .main fate hr
  rw [← hpc] at hnext
  rw [World.answered, Bool.or_eq_true] at h
  rcases h with h | h
  · have htoken := hx.token c hc
    have htunnel := hx.tunnel c hc
    generalize hq : (w.ran env c .main fate).pc c .main = q at hnext h
    generalize hp : w.pc c .main = p at hnext htoken htunnel
    cases hnext (.inr h) with
    | untokened t' rest => exact absurd rfl (htoken t' rest)
    | stored t' token =>
      cases htunnel rfl
      refine .inr ⟨token, ?_, rfl⟩
      simpa [separate, hp, hc] using hok
    | _ => cases h
  · have href : ∀ rest, w.pc c .main ≠ .refuse .resumed rest := by
      intro rest h
      have hbegun := hx.begun c hc
      rw [h] at hbegun
      cases hbegun
    rcases stepPc_resumed env w c .main fate hr href h with h | h
    · exact .inl (by rw [World.answered, h, Bool.or_true])
    · exact .inl (by rw [World.answered, h, Bool.true_or])

omit hlaw in
theorem own_consuming (hx : OneCall env keyed holds replaceable k t w calls) (hr : (w.pc c .main).runnable = true)
    (hc : c ∈ calls) (h : ((w.ran env c .main fate).pc c .main).consuming = true) :
    (w.pc c .main).consuming = true ∧ ((w.ran env c .main fate).pc c .main).tunnel = (w.pc c .main).tunnel := by
  have hpc : (w.ran env c .main fate).pc c .main = (stepPc env w c .main fate (w.pc c .main)).2 := ran_pc_self env rfl
  have hnext := stepPc_resuming env w c .main fate hr
  have hbegun := hx.begun c hc
  rw [← hpc] at hnext
  generalize (w.ran env c .main fate).pc c .main = q at hnext h
  generalize w.pc c .main = p at hnext hbegun
  cases hnext (.inl h) with
  | found => cases hbegun
  | untokened | stored => cases h
  | _ => exact ⟨rfl, rfl⟩

omit hlaw in
theorem own_advances (hx : OneCall env keyed holds replaceable k t w calls) {l : Label} (hl : l = .run c .main fate)
    (hr : (w.pc c .main).runnable = true) (he : w' = w.ran env c .main fate)
    (hok : separate stuck k (w, calls) l = true) (hc : c ∈ calls) : Advances env k t w w' l calls c := by
  subst hl he
  have hpc : (w.ran env c .main fate).pc c .main = (stepPc env w c .main fate (w.pc c .main)).2 := ran_pc_self env rfl
  have hnext := stepPc_resuming env w c .main fate hr
  have hout := stepPc_outset env w c .main fate hr
  rw [← hpc] at hnext hout
  refine ⟨hout, fun h => ?_, fun t' rest h => ?_, fun h => ?_, fun h => ?_⟩
  · obtain ⟨h1, h2⟩ := own_consuming hx hr hc h
    rw [h2]
    exact hx.tunnel c hc h1
  · rw [h] at hnext
    generalize hp : w.pc c .main = p at hnext
    cases hnext (.inl rfl) with
    | drawn _ _ _ hdrawn =>
      refine hdrawn ?_ rfl
      simpa [separate, hp, hc] using hok
  · refine .inl ⟨hc, ?_⟩
    rw [World.engaged, Bool.or_eq_true] at h ⊢
    rcases h with h | h
    · exact .inl (own_consuming hx hr hc h).1
    · rcases own_answered hx hr hok hc h with h | ⟨token, -, hp⟩
      · exact .inr h
      · exact .inl (by rw [hp]; rfl)
  · rcases own_answered hx hr hok hc h with h | ⟨token, hf, hp⟩
    · exact .inl ⟨hc, h⟩
    · exact .inr ⟨fate, token, rfl, hf, rfl, hp⟩

omit hlaw in
theorem call_advances (hb : Base env w) (hx : OneCall env keyed holds replaceable k t w calls) {l : Label}
    (hst : w.step env l = some w') (hok : separate stuck k (w, calls) l = true) (hc : c ∈ calls) :
    Advances env k t w w' l calls c := by
  cases step_seen hb hst c with
  | own fate hl hr he => exact own_advances hx hl hr he hok hc
  | opened g frames hidle =>
    have ho := hx.begun c hc
    rw [hidle] at ho
    cases ho
  | still hpc hs =>
    have hans : w'.answered c = w.answered c := by rw [World.answered, hpc, hs]; rfl
    have heng : w'.engaged c = w.engaged c := by rw [World.engaged, hpc, hans]; rfl
    refine ⟨hpc ▸ hx.begun c hc, hpc ▸ hx.tunnel c hc, hpc ▸ hx.token c hc, fun h => ?_, fun h => ?_⟩
    · exact .inl ⟨hc, heng ▸ h⟩
    · exact .inl ⟨hc, hans ▸ h⟩
  | aside hpc hs =>
    obtain ⟨ho, hcons, hrep⟩ := aside_clear hpc
    have hans : w'.answered c = true → w.answered c = true := by
      rw [World.answered, hrep, hs, World.answered, Bool.false_or]
      exact fun h => by rw [h, Bool.or_true]
    refine ⟨ho, fun h => ?_, fun t' rest h => ?_, fun h => ?_, fun h => .inl ⟨hc, hans h⟩⟩
    · rw [hcons] at h
      cases h
    · rw [h] at hcons
      cases hcons
    · rw [World.engaged, hcons, Bool.false_or] at h
      exact .inl ⟨hc, by rw [World.engaged, hans h, Bool.or_true]⟩

theorem oneCall_step (ht : env.repo.Tokens holds) (hb : Base env w) (hk : k ≠ "")
    (hx : OneCall env keyed holds replaceable k t w calls) {l : Label} (hst : w.step env l = some w')
    (hok : separate stuck k (w, calls) l = true) :
    OneCall env keyed holds replaceable k t w' (presented k w l w' calls) := by
  have hadv : ∀ c ∈ presented k w l w' calls, Advances env k t w w' l calls c := by
    intro c hc
    rcases mem_presented hb hc with hc | ⟨fate, rest, hl, hp⟩
    · exact call_advances hb hx hst hok hc
    · exact lookup_advances hlaw hx hl hp hst
  -- a lookup that finds the token finds no other call engaged
  have hfinds : ∀ {c c' fate rest sess}, l = .run c .main fate → w.pc c .main = .lookup k rest →
      env.repo.getResumable w.server.store w.now k = .ok sess → c' ∈ calls → w.engaged c' = true → False := by
    rintro c c' fate rest sess rfl hp hfound hc' heng
    simp only [separate, hp, ne_eq, not_true_eq_false, decide_false, Bool.false_or, List.all_eq_true] at hok
    have hoc := hok c' hc'
    rw [Bool.and_eq_true, Bool.not_eq_true'] at hoc
    rw [World.engaged, hoc.1, Bool.false_or] at heng
    rcases (hlaw.getResumable _ _ _ _ hx.keyed hfound).2.2 with hrep | hstuck
    · exact hx.used c' hc' heng _ hrep
    · rw [heng, hstuck] at hoc
      cases hoc.2
  refine ⟨spent_step hb hk hx.spent hst, step_keyed hlaw hb hst hx.keyed,
    fun t' hh => hx.only t' (hx.spent.holds ht hb hk hst hh), unanswered_step hb hx.unanswered hst,
    fun c hc => (hadv c hc).begun, fun c hc => (hadv c hc).tunnel, fun c hc => (hadv c hc).token,
    fun c₁ hc₁ c₂ hc₂ h₁ h₂ => ?_, fun c hc hans t' hrep => ?_⟩
  · rcases (hadv c₁ hc₁).engaged h₁ with ⟨hm₁, he₁⟩ | ⟨f₁, r₁, s₁, hl₁, hp₁, hfound⟩
    · rcases (hadv c₂ hc₂).engaged h₂ with ⟨hm₂, he₂⟩ | ⟨f₂, r₂, s₂, hl₂, hp₂, hfound⟩
      · exact hx.one c₁ hm₁ c₂ hm₂ he₁ he₂
      · exact (hfinds hl₂ hp₂ hfound hm₁ he₁).elim
    · rcases (hadv c₂ hc₂).engaged h₂ with ⟨hm₂, he₂⟩ | ⟨f₂, r₂, s₂, hl₂, -⟩
      · exact (hfinds hl₁ hp₁ hfound hm₂ he₂).elim
      · rw [hl₁] at hl₂
        cases hl₂
        rfl
  · rcases (hadv c hc).answered hans with ⟨hm, ha⟩ | ⟨fate, token, rfl, hf, he, hp⟩
    · exact hx.used c hm ha t' (step_replaceable hlaw hb hk hx.spent hst hrep)
    · rw [he] at hrep
      exact storeNew_replaces hlaw hx.spent hx.only hp hf t' hrep

end SingleUse

/-! ## Tokens of one tunnel -/

section Filed

variable {holds : σ → String → String → Prop} (ht : env.repo.Tokens holds)

include ht

theorem ran_holds_tunnel {x : String} (hx : x ≠ "") (h : holds (w.ran env c r fate).server.store t x) :
    holds w.server.store t x ∨ ((w.pc c r).resumeToken = some x ∧ (w.pc c r).tunnel = some t) := by
  cases ran_store env w c r fate with
  | same hs => exact .inl (hs ▸ h)
  | resumable t' token deadline hp hs =>
    rcases ht.setResumable _ _ _ _ _ _ _ (hs ▸ h) with h1 | ⟨rfl, rfl⟩
    · exact .inl h1
    · rcases hp with hp | hp | ⟨a, hp, rfl⟩ <;> exact .inr (hp ▸ ⟨rfl, rfl⟩)
  | register a hp sess hsess hs =>
    rcases ht.register _ _ _ _ _ (hs ▸ h) with h1 | h1 | h1
    · exact .inl h1
    · exact absurd (h1.trans hsess.2) hx
    · exact absurd h1 hx
  | deregister t' reason hp hs => exact .inl (ht.deregister _ _ _ _ _ (hs ▸ h))
  | heartbeat t' hs => exact .inl (ht.heartbeat _ _ _ _ _ (hs ▸ h))

omit ht in
/-- No token is held for two tunnels. -/
def OneTunnel (holds : σ → String → String → Prop) (s : σ) : Prop :=
  ∀ x, x ≠ "" → ∀ t t', holds s t x → holds s t' x → t = t'

theorem oneTunnel_step (hb : Base env w) (hf : Fresh env holds w) (h : OneTunnel holds w.server.store) {l : Label}
    (hst : w.step env l = some w') : OneTunnel holds w'.server.store := by
  intro x hx t t' h₁ h₂
  rcases step_cases hb hst with ⟨c, r, fate, -, -, rfl⟩ | hq
  · rcases ran_holds_tunnel ht hx h₁ with h₁ | ⟨hp, ht₁⟩
    · rcases ran_holds_tunnel ht hx h₂ with h₂ | ⟨hp, -⟩
      · exact h x hx t t' h₁ h₂
      · exact absurd h₁ ((hf.once c r x hx hp).1 t)
    · rcases ran_holds_tunnel ht hx h₂ with h₂ | ⟨-, ht₂⟩
      · exact absurd h₂ ((hf.once c r x hx hp).1 t')
      · exact Option.some.inj (ht₁.symm.trans ht₂)
  · exact h x hx t t' (quiet_holds ht hq h₁) (quiet_holds ht hq h₂)

omit ht in
theorem Fresh.spent_of_holds (hf : Fresh env holds w) (hk : k ≠ "") (h : holds w.server.store t k) :
    Spent env k w := by
  refine ⟨fun n hn he => ?_, fun c r hp => (hf.once c r k hk hp).1 t h⟩
  subst he
  exact (hf.undrawn n hn).1 t h

end Filed

/-! ## Single use -/

namespace StoreKind

/-- Where the sessions stand under their own tunnel ids; rows of the table have no other place. -/
def keyed : (kind : StoreKind) → kind.State → Prop
  | .memstore => Memory.keyed
  | .pgstore => fun _ => True

def replaceable : (kind : StoreKind) → kind.State → String → String → Prop
  | .memstore => Memory.holds
  | .pgstore => Table.replaceable

/-- The token can be looked up and no `SetResumable` replaces it: never in the memory store, and in the table when it
stands in a row that is `disconnecting`, before its deadline. -/
def stuck : (kind : StoreKind) → kind.State → Time → String → Bool
  | .memstore => fun _ _ _ => false
  | .pgstore => Table.stuck

theorem replaces : (kind : StoreKind) → kind.repo.Replaces kind.keyed kind.holds kind.replaceable kind.stuck
  | .memstore => Memory.replaces
  | .pgstore => Table.replaces

end StoreKind

/-- Of all the calls that present a resumable token, in any number and any interleaving, at most one is told that it
is resumed, if they keep `separate`. -/
theorem resumed_once (kind : StoreKind) {env : Env kind.State} (hrepo : env.repo = kind.repo) {start : Time}
    {store : kind.State} (hfresh : ∀ t n, ¬ kind.holds store t (env.token n)) (hkeyed : kind.keyed store)
    (hone : OneTunnel kind.holds store) {ls₀ ls : List Label} {w₀ w : World kind.State} {calls : List ConnID}
    {sess : Session} (h₀ : Run (World.step env) (fun _ _ => True) (.init env start store) ls₀ w₀)
    (hk : env.repo.getResumable w₀.server.store w₀.now k = .ok sess)
    (h : Run (tracked (World.step env) (presented k)) (fun s l => separate kind.stuck k s l = true) (w₀, []) ls
      (w, calls)) :
    ∀ c₁ ∈ calls, ∀ c₂ ∈ calls, w.resumed c₁ = true → w.resumed c₂ = true → c₁ = c₂ := by
  have htok : env.repo.Tokens kind.holds := hrepo ▸ kind.tokens
  have hlaw : env.repo.Replaces kind.keyed kind.holds kind.replaceable kind.stuck := hrepo ▸ kind.replaces
  obtain ⟨hb₀, hf, hkeyed₀, hone₀, hun⟩ := run_inv (fun w : World kind.State => Fresh env kind.holds w ∧
    kind.keyed w.server.store ∧ OneTunnel kind.holds w.server.store ∧ Unanswered w)
    ⟨fresh_init env start hfresh, hkeyed, hone, fun c _ => ⟨rfl, by simp [World.init]⟩⟩
    (fun w l w' hb ⟨hf, hkeyed, hone, hun⟩ _ hst => ⟨fresh_step htok hb hf hst, step_keyed hlaw hb hst hkeyed,
      oneTunnel_step htok hb hf hone hst, unanswered_step hb hun hst⟩) h₀
  obtain ⟨hne, hheld, -⟩ := hlaw.getResumable _ _ _ _ hkeyed₀ hk
  have hx₀ : OneCall env kind.keyed kind.holds kind.replaceable k sess.tunnelID w₀ [] :=
    ⟨hf.spent_of_holds hne hheld, hkeyed₀, fun t' ht' => hone₀ k hne t' _ ht' hheld, hun, by simp, by simp, by simp,
      by simp, by simp⟩
  obtain ⟨-, hx⟩ := h.inv (fun s => Base env s.1 ∧
      OneCall env kind.keyed kind.holds kind.replaceable k sess.tunnelID s.1 s.2) ⟨hb₀, hx₀⟩ (by
    rintro s l s' ⟨hb, hx⟩ hok hst
    obtain ⟨hst, hnote⟩ := tracked_some hst
    exact ⟨base_step hb hst, hnote ▸ oneCall_step hlaw htok hb hne hx hst hok⟩)
  have heng : ∀ {c}, w.resumed c = true → w.engaged c = true := fun h => by
    rw [World.engaged, World.answered, h, Bool.or_true, Bool.or_true]
  exact fun c₁ hc₁ c₂ hc₂ h₁ h₂ => hx.one c₁ hc₁ c₂ hc₂ (heng h₁) (heng h₂)

/-- A second connection of an agent stores its resume token. -/
def tokenStored : List Label := connect 0 "g1" ++ handshakeV2 1 ++ [.run 1 .main .ok]

def presents (c : ConnID) : List Label := [.accept c "g1" [.hello 3, .resume "rrr"], .run c .main .ok]

def goesOn (c : ConnID) : List Label := List.replicate 5 (.run c .main .ok)

theorem resumed_once_memstore :
    ∃ (w₀ w : World Memory) (calls : List ConnID),
      Run (World.step (demo Memory.repo true)) (fun _ _ => True) (.init (demo Memory.repo true) 0 ∅) tokenStored w₀ ∧
      Run (tracked (World.step (demo Memory.repo true)) (presented "rrr"))
        (fun s l => separate (fun _ _ _ => false) "rrr" s l = true) (w₀, [])
        (presents 2 ++ goesOn 2 ++ presents 3 ++ [.run 3 .main .ok]) (w, calls) ∧
      calls = [3, 2] ∧ w.resumed 2 = true ∧
      ∀ c₁ ∈ calls, ∀ c₂ ∈ calls, w.resumed c₁ = true → w.resumed c₂ = true → c₁ = c₂ := by
  obtain ⟨w₀, h₀, hk, hrest⟩ := run_any (P := fun w₀ : World Memory =>
      (Memory.repo.getResumable w₀.server.store w₀.now "rrr").toBool = true ∧
      (exec (checked (tracked (World.step (demo Memory.repo true)) (presented "rrr"))
          (separate (fun _ _ _ => false) "rrr")) (w₀, [])
        (presents 2 ++ goesOn 2 ++ presents 3 ++ [.run 3 .main .ok])).any
        (fun s => decide (s.2 = [3, 2] ∧ s.1.resumed 2 = true)) = true)
    (show (exec (World.step (demo Memory.repo true)) (.init (demo Memory.repo true) 0 ∅) tokenStored).any _ = true
      by decide +kernel)
  obtain ⟨⟨w, calls⟩, h, hcalls, hres⟩ := run_checked_any hrest
  cases hfound : Memory.repo.getResumable w₀.server.store w₀.now "rrr" with
  | error e => rw [hfound] at hk; cases hk
  | ok sess =>
    exact ⟨w₀, w, calls, h₀, h, hcalls, hres, resumed_once .memstore rfl (by simp [StoreKind.holds, Memory.holds])
      (by simp [StoreKind.keyed, Memory.keyed]) (by simp [OneTunnel, StoreKind.holds, Memory.holds]) h₀ hfound h⟩

/-- From a state in which the token is resumable, a run in which two of the calls that present it are resumed. -/
def ResumedTwice {σ : Type} (env : Env σ) (k : String) (w₀ : World σ) (ls : List Label) : Prop :=
  (∃ sess, env.repo.getResumable w₀.server.store w₀.now k = .ok sess) ∧
    ∃ w calls, Run (tracked (World.step env) (presented k)) (fun _ _ => True) (w₀, []) ls (w, calls) ∧
      ∃ c₁ ∈ calls, ∃ c₂ ∈ calls, w.resumed c₁ = true ∧ w.resumed c₂ = true ∧ c₁ ≠ c₂

theorem exists_resumedTwice {σ : Type} (env : Env σ) (store : σ) (ls₀ ls : List Label)
    (h : (exec (World.step env) (.init env 0 store) ls₀).any (fun w₀ => decide
      ((env.repo.getResumable w₀.server.store w₀.now "rrr").toBool = true ∧
        (exec (tracked (World.step env) (presented "rrr")) (w₀, []) ls).any (fun s => decide
          (s.2 = [3, 2] ∧ s.1.resumed 2 = true ∧ s.1.resumed 3 = true)) = true)) = true) :
    ∃ w₀, Run (World.step env) (fun _ _ => True) (.init env 0 store) ls₀ w₀ ∧ ResumedTwice env "rrr" w₀ ls := by
  obtain ⟨w₀, h₀, hk, hrest⟩ := run_any h
  obtain ⟨⟨w, calls⟩, hrun, hcalls, h2, h3⟩ := run_any hrest
  refine ⟨w₀, h₀, ?_, w, calls, hrun, 2, ?_, 3, ?_, h2, h3, by decide⟩
  · cases hfound : env.repo.getResumable w₀.server.store w₀.now "rrr" with
    | error e => rw [hfound] at hk; cases hk
    | ok sess => exact ⟨sess, rfl⟩
  all_goals
    simp only at hcalls
    simp [hcalls]

/-- With every request answered, two calls that look the token up one after the other are both resumed, whichever
store there is; with the table, also when the second starts after the end of the first. -/
theorem resumed_twice :
    (∃ w₀ : World Memory,
      Run (World.step (demo Memory.repo true)) (fun _ _ => True) (.init (demo Memory.repo true) 0 ∅) tokenStored w₀ ∧
      ResumedTwice (demo Memory.repo true) "rrr" w₀ (presents 2 ++ presents 3 ++ goesOn 2 ++ goesOn 3)) ∧
    ∃ w₀ : World Table,
      Run (World.step (demo Table.repo true)) (fun _ _ => True) (.init (demo Table.repo true) 0 []) tokenStored w₀ ∧
      ResumedTwice (demo Table.repo true) "rrr" w₀ (presents 2 ++ goesOn 2 ++ presents 3 ++ goesOn 3) := by
  constructor
  · exact exists_resumedTwice (demo Memory.repo true) ∅ tokenStored _ (by decide +kernel)
  · exact exists_resumedTwice (demo Table.repo true) [] tokenStored _ (by decide +kernel)

end TunnelEdge.Gateway
