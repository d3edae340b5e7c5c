import TunnelEdge.Gateway.Reach
/-!
# Routes, and the tunnel a goroutine works on

A step changes the routing table of its own gateway in a way that its program
counter fixes (`Pc.reroute`), so nothing but a goroutine at work on a tunnel adds
a host of that tunnel. Which tunnel that is stays the same from the
authentication to the end of the connection: a goroutine comes to another one
only by reading an authentication frame or by looking up a resume token.
-/

namespace TunnelEdge.Gateway

open GoLib Store Registry

variable {σ : Type} {env : Env σ} {w w' : World σ} {c : ConnID} {r : Role} {fate : Fate} {p q : Pc} {t : String}

/-! ## The routing table -/

/-- What the next step of a program counter makes of the routing table of its gateway. -/
def Pc.reroute (router : TunnelRouter) : Pc → TunnelRouter
  | .routeDefault a => (router.register a.tunnelID).1
  | .routeLabels a _ (r :: _) => (router.registerLabel a.tunnelID r.label).1
  | .unrouteDefault a => router.deregister a.tunnelID
  | .unroute a _ => if a.v2 then router.deregisterAll a.tunnelID else router.deregister a.tunnelID
  | .dropRoutes t _ _ => router.deregisterAll t
  | _ => router

theorem stepPc_router (env : Env σ) (w : World σ) (c : ConnID) (r : Role) (fate : Fate) (p : Pc) :
    ((stepPc env w c r fate p).1.gateway (w.home c)).router = p.reroute (w.gateway (w.home c)).router := by
  cases p with
  | routeLabels a leaseID rest => cases rest <;> simp [stepPc, stepHandshake, Pc.reroute]
  | cancelTimer t rest | cancelPending t =>
    simp only [stepPc, stepResume, stepRemoval, World.stopTimer, Pc.reroute]
    split
    · rfl
    · simp [World.updateGateway]
  | suspend t =>
    rcases suspend_cases env w c r fate t with h | h | ⟨_, _, _, h⟩ | ⟨_, _, h⟩ <;>
      simp [h, World.note, Pc.reroute]
  | _ =>
    simp only [stepPc, stepHandshake, stepResume, stepStream, stepRemoval, stepBeat, World.heartbeat,
      World.setResumable, Pc.reroute]
    repeat' split
    all_goals simp_all [World.note, World.send, World.setPc, World.updateGateway, addTunnel]

theorem ran_router (env : Env σ) (w : World σ) (c : ConnID) (r : Role) (fate : Fate) (g : String) :
    ((w.ran env c r fate).gateway g).router =
      if g = w.home c then (w.pc c r).reroute (w.gateway g).router else (w.gateway g).router := by
  split
  · rename_i hg
    subst hg
    exact stepPc_router env w c r fate (w.pc c r)
  · rw [(ran_keeps env w c r fate).2.2.2 g ‹_›]

@[simp] theorem reroute_domain (p : Pc) (router : TunnelRouter) : (p.reroute router).domain = router.domain := by
  unfold Pc.reroute
  split
  all_goals first | rfl | (split <;> rfl)

theorem run_domain {ok : World σ → Label → Prop} {start : Time} {store : σ} {ls : List Label}
    (h : Run (World.step env) ok (.init env start store) ls w) (g : String) :
    (w.gateway g).router.domain = (env.config g).baseDomain := by
  refine (run_inv (fun w => ∀ g, (w.gateway g).router.domain = (env.config g).baseDomain) (fun _ => rfl) ?_ h).2 g
  intro w l w' hb hd _ hst g
  rcases step_kinds hb hst with ⟨c, r, fate, -, -, rfl⟩ | ⟨c, g', frames, -, hn⟩ | ⟨-, hq⟩
  · rw [ran_router]
    split
    · rw [reroute_domain, hd g]
    · exact hd g
  · rw [hn.quiet.gateway, hd g]
  · rw [hq.quiet.gateway, hd g]

/-! ## Where heartbeatLoop starts -/

section Goroutines

variable (w : World σ) (fate : Fate)

@[simp] theorem request_pc {ε α : Type} (f : Server σ → Server σ × Except ε α) :
    (w.request fate f).1.pc = w.pc := by cases fate <;> rfl

@[simp] theorem token_pc (env : Env σ) : (w.generateResumeToken env fate).1.pc = w.pc := by cases fate <;> rfl

@[simp] theorem heartbeat_pc (env : Env σ) (t : String) : (w.heartbeat env fate t).1.pc = w.pc := request_pc ..

@[simp] theorem setResumable_pc (env : Env σ) (g t token : String) :
    (w.setResumable env g fate t token).1.pc = w.pc := request_pc ..

@[simp] theorem stopTimer_pc (g t : String) : (w.stopTimer g t).pc = w.pc := by
  unfold World.stopTimer
  split <;> rfl

end Goroutines

/-- The tunnel whose loops a program counter can start. -/
def Pc.startsLoop : Pc → Option String
  | .register a => some a.tunnelID
  | .reply t _ => some t
  | _ => none

theorem stepPc_pc (env : Env σ) (w : World σ) (c : ConnID) (r : Role) (fate : Fate) (p : Pc) :
    (stepPc env w c r fate p).1.pc = w.pc ∨
      ∃ t, p.startsLoop = some t ∧ (stepPc env w c r fate p).2 = .serving t ∧
        (stepPc env w c r fate p).1.pc = (w.setPc c .beat (.waiting t)).pc := by
  cases p with
  | register a =>
    simp only [stepPc, stepHandshake]
    split
    · refine .inr ⟨a.tunnelID, rfl, rfl, ?_⟩
      split <;> simp [World.setPc, World.updateGateway, World.note]
    · refine .inl ?_
      split <;> simp [World.note]
  | reply t token =>
    simp only [stepPc, stepResume]
    split
    · exact .inr ⟨t, rfl, rfl, rfl⟩
    · exact .inl rfl
  | routeLabels a leaseID rest => cases rest <;> exact .inl rfl
  | suspend t =>
    refine .inl ?_
    rcases suspend_cases env w c r fate t with h | h | ⟨_, _, _, h⟩ | ⟨_, _, h⟩ <;> rw [h] <;> rfl
  | _ =>
    refine .inl ?_
    simp only [stepPc, stepHandshake, stepResume, stepStream, stepRemoval, stepBeat]
    repeat' split
    all_goals simp [World.send, World.note, World.updateGateway]

theorem ran_goroutines (env : Env σ) (w : World σ) (c : ConnID) (r : Role) (fate : Fate) (c' : ConnID) (r' : Role) :
    (w.ran env c r fate).pc c' r' = w.pc c' r' ∨
      (c' = c ∧ r' = r ∧ (w.ran env c r fate).pc c' r' = (stepPc env w c r fate (w.pc c r)).2) ∨
      (c' = c ∧ r' = .beat ∧ ∃ t, (w.pc c r).startsLoop = some t ∧ (w.ran env c r fate).pc c r = .serving t ∧
        (w.ran env c r fate).pc c' r' = .waiting t) := by
  simp only [World.ran, World.setPc_pc]
  split
  · rename_i he
    exact .inr (.inl ⟨he.1, he.2, rfl⟩)
  · rcases stepPc_pc env w c r fate (w.pc c r) with h | ⟨t, ht, hnext, h⟩
    · exact .inl (by rw [h])
    · rw [h, World.setPc_pc]
      split
      · rename_i he
        exact .inr (.inr ⟨he.1, he.2, t, ht, by simpa using hnext, rfl⟩)
      · exact .inl rfl

theorem starts_main (hb : Base env w) (h : (w.pc c r).startsLoop = some t) : r = .main := by
  have hf := hb.fits c r
  cases hpc : w.pc c r <;> rw [hpc] at h hf <;> first | cases h; done | (cases r <;> first | rfl | cases hf)

/-! ## The tunnel of a goroutine -/

def Pc.tunnel : Pc → Option String
  | .quota a | .routeDefault a | .acquire a | .unrouteDefault a | .routeLabels a _ _ | .drawToken a _
  | .respond a _ _ | .unroute a _ | .install a _ _ | .storeToken a _ | .register a => some a.tunnelID
  | .cancelTimer t _ | .drawNew t _ | .attach t _ _ | .storeNew t _ | .reply t _ | .serving t | .pulse t
  | .suspend t | .storeResume t _ | .arm t | .record t | .cancelPending t | .take t _ | .dropRoutes t _ _
  | .release t _ _ | .deregister t _ | .waiting t | .beat t | .peek t | .renew t _ | .ticked t _ => some t
  | .idle | .unlease _ | .lookup _ _ | .refuse _ _ | .done | .failed _ => none

theorem startsLoop_tunnel (h : p.startsLoop = some t) : p.tunnel = some t := by
  cases p <;> first | exact h | cases h

/-- The frames that the agent's stream still has for the handshake. -/
def Pc.unread : Pc → List Frame
  | .lookup _ rest | .refuse _ rest | .cancelTimer _ rest | .drawNew _ rest | .attach _ _ rest => rest
  | _ => []

def Frame.tunnel (cfg : Config) : Frame → Option String
  | .auth token | .authV2 token _ => (cfg.authenticate token).map newTunnelID
  | _ => none

/-- A goroutine that is about `t`, or may come to it by reading on. -/
def Pc.concerns (cfg : Config) (t : String) (p : Pc) : Bool :=
  p.tunnel = some t || p.unread.any fun f => f.tunnel cfg = some t

/-- No frame asks for the tunnel. -/
def unasked (cfg : Config) (t : String) (frames : List Frame) : Bool := frames.all fun f => f.tunnel cfg ≠ some t

theorem concerns_iff {cfg : Config} : p.concerns cfg t = false ↔ p.tunnel ≠ some t ∧ unasked cfg t p.unread = true := by
  simp [Pc.concerns, unasked]

theorem fullAuth_concerns {cfg : Config} {first : Bool} {frames : List Frame} (h : unasked cfg t frames = true) :
    (fullAuth cfg first frames).1.concerns cfg t = false := by
  unfold fullAuth rejected
  split
  all_goals try split
  all_goals simp_all [Pc.concerns, Pc.tunnel, Pc.unread, unasked, Frame.tunnel, Auth.tunnelID]

theorem handleAgentConnection_concerns {cfg : Config} {frames : List Frame} (h : unasked cfg t frames = true) :
    (handleAgentConnection cfg frames).1.concerns cfg t = false := by
  have hd : ∀ fs, unasked cfg t fs = true → (dispatch cfg fs).1.concerns cfg t = false := by
    intro fs hfs
    unfold dispatch
    split
    · simp only [unasked, List.all_cons, Bool.and_eq_true] at hfs
      split <;> exact concerns_iff.2 ⟨by simp [Pc.tunnel], hfs.2⟩
    · rfl
    · exact fullAuth_concerns hfs
  unfold handleAgentConnection
  split
  · split
    · rfl
    · simp only [unasked, List.all_cons, Bool.and_eq_true] at h
      exact hd _ h.2
  · rfl
  · exact hd _ h

@[simp] theorem routeNext_tunnel (cfg : Config) (a : Auth) (leaseID : String) (rest : List TunnelRoute) :
    (routeNext cfg a leaseID rest).tunnel = some a.tunnelID := by
  unfold routeNext
  split
  · split <;> rfl
  · rfl

@[simp] theorem routeNext_unread (cfg : Config) (a : Auth) (leaseID : String) (rest : List TunnelRoute) :
    (routeNext cfg a leaseID rest).unread = [] := by
  unfold routeNext
  split
  · split <;> rfl
  · rfl

/-- A goroutine that a tunnel does not concern comes to it through a resume token only. -/
theorem stepPc_concerns (h : p.concerns (env.config (w.home c)) t = false)
    (hlook : ∀ token rest sess, p = .lookup token rest →
      env.repo.getResumable w.server.store w.now token = .ok sess → sess.tunnelID ≠ t) :
    (stepPc env w c r fate p).2.concerns (env.config (w.home c)) t = false := by
  obtain ⟨ht, hun⟩ := concerns_iff.1 h
  obtain ⟨q, hgoes, hq | ⟨he, hq⟩ | ⟨-, rfl⟩⟩ := stepPc_goes env w c r fate p <;> rw [hgoes]
  · cases hq with
    | found token rest sess hs =>
      exact concerns_iff.2 ⟨by simpa [Pc.tunnel] using hlook token rest sess rfl hs, hun⟩
    | unknown token rest => exact concerns_iff.2 ⟨by simp [Pc.tunnel], hun⟩
    | fullAuth status rest => exact fullAuth_concerns hun
    | leased a | routedLabel a =>
      have ha : a.tunnelID ≠ t := by simpa [Pc.tunnel] using ht
      simp [Pc.concerns, ha]
    | failed | unrouted => rfl
    | _ => first | exact h | simp_all [Pc.concerns, Pc.tunnel, Pc.unread]
  · cases hq with
    | early _ _ hp => cases he.symm.trans hp
    | installStore | installRegister | attachStore | attachReply => cases he
    | done | failed => rfl
    | _ => exact h
  · exact h

end TunnelEdge.Gateway
