import TunnelEdge.Gateway.Machine
/-!
# What a step can change

One lemma for each part of the state: what a goroutine's step does to the
program counters, to the tunnel map, to the timers. The invariants of later
modules are case analyses over these and do not unfold the step functions.
-/

namespace TunnelEdge.Gateway

open GoLib Store Registry

variable {σ : Type} {env : Env σ} {w w' : World σ} {c : ConnID} {r : Role} {fate : Fate} {p : Pc}

/-! ## Small updates -/

namespace World

@[simp] theorem updateGateway_self (w : World σ) (g : String) (f : Gateway → Gateway) :
    (w.updateGateway g f).gateway g = f (w.gateway g) := by simp [updateGateway]

theorem setPc_pc (w : World σ) (c c' : ConnID) (r r' : Role) (p : Pc) :
    (w.setPc c r p).pc c' r' = if c' = c ∧ r' = r then p else w.pc c' r' := by
  by_cases hc : c' = c
  · subst hc
    by_cases hr : r' = r
    · subst hr; simp [setPc]
    · simp [setPc, hr]
  · simp [setPc, hc]

@[simp] theorem setPc_self (w : World σ) (c : ConnID) (r : Role) (p : Pc) : (w.setPc c r p).pc c r = p := by
  simp [setPc]

end World

/-! ## Requests leave the gateways alone -/

section Request

variable {ε α : Type} (w : World σ) (fate : Fate) (f : Server σ → Server σ × Except ε α)

theorem request_eq : ∃ s, (w.request fate f).1 = { w with server := s } := by
  cases fate
  · exact ⟨_, rfl⟩
  · exact ⟨w.server, rfl⟩
  · exact ⟨_, rfl⟩

@[simp] theorem request_gateway : (w.request fate f).1.gateway = w.gateway := by cases fate <;> rfl
@[simp] theorem request_timer : (w.request fate f).1.timer = w.timer := by cases fate <;> rfl
@[simp] theorem request_log : (w.request fate f).1.log = w.log := by cases fate <;> rfl
@[simp] theorem request_drawn : (w.request fate f).1.drawn = w.drawn := by cases fate <;> rfl

end Request

section Token

variable (env : Env σ) (w : World σ) (fate : Fate)

@[simp] theorem token_gateway : (w.generateResumeToken env fate).1.gateway = w.gateway := by cases fate <;> rfl
@[simp] theorem token_timer : (w.generateResumeToken env fate).1.timer = w.timer := by cases fate <;> rfl
@[simp] theorem token_log : (w.generateResumeToken env fate).1.log = w.log := by cases fate <;> rfl
@[simp] theorem token_now : (w.generateResumeToken env fate).1.now = w.now := by cases fate <;> rfl
@[simp] theorem token_server : (w.generateResumeToken env fate).1.server = w.server := by cases fate <;> rfl

theorem token_drawn : w.drawn ≤ (w.generateResumeToken env fate).1.drawn := by
  cases fate <;> simp [World.generateResumeToken]

end Token

section Send

variable (w : World σ) (c : ConnID) (m : Option Message)

@[simp] theorem sendOption_gateway : (w.sendOption c m).gateway = w.gateway := by cases m <;> rfl
@[simp] theorem sendOption_timer : (w.sendOption c m).timer = w.timer := by cases m <;> rfl
@[simp] theorem sendOption_log : (w.sendOption c m).log = w.log := by cases m <;> rfl
@[simp] theorem sendOption_home : (w.sendOption c m).home = w.home := by cases m <;> rfl
@[simp] theorem sendOption_pc : (w.sendOption c m).pc = w.pc := by cases m <;> rfl
@[simp] theorem sendOption_conns : (w.sendOption c m).conns = w.conns := by cases m <;> rfl
@[simp] theorem sendOption_now : (w.sendOption c m).now = w.now := by cases m <;> rfl
@[simp] theorem sendOption_server : (w.sendOption c m).server = w.server := by cases m <;> rfl
@[simp] theorem sendOption_drawn : (w.sendOption c m).drawn = w.drawn := by cases m <;> rfl

end Send

@[simp] theorem stopTimer_tunnels (w : World σ) (g g' t : String) :
    ((w.stopTimer g t).gateway g').tunnels = (w.gateway g').tunnels := by
  unfold World.stopTimer
  split
  · rfl
  · by_cases h : g' = g
    · subst h; simp [World.updateGateway]
    · simp [World.updateGateway, h]

section Sent

variable (w : World σ) (fate : Fate)

@[simp] theorem request_sent {ε α : Type} (f : Server σ → Server σ × Except ε α) :
    (w.request fate f).1.sent = w.sent := by cases fate <;> rfl

@[simp] theorem token_sent (env : Env σ) : (w.generateResumeToken env fate).1.sent = w.sent := by cases fate <;> rfl

@[simp] theorem heartbeat_sent (env : Env σ) (t : String) : (w.heartbeat env fate t).1.sent = w.sent :=
  request_sent ..

@[simp] theorem setResumable_sent (env : Env σ) (g t token : String) :
    (w.setResumable env g fate t token).1.sent = w.sent := request_sent ..

@[simp] theorem stopTimer_sent (g t : String) : (w.stopTimer g t).sent = w.sent := by
  unfold World.stopTimer
  split <;> rfl

@[simp] theorem stopTimer_crashed (g g' t : String) :
    ((w.stopTimer g t).gateway g').crashed = (w.gateway g').crashed := by
  unfold World.stopTimer
  split
  · rfl
  · by_cases h : g' = g
    · subst h; simp [World.updateGateway]
    · simp [World.updateGateway, h]

end Sent

/-- What a step of `c` keeps: the clock, the connections, and everything of the other gateways. Another program
counter moves only where the handshake starts `heartbeatLoop`. -/
structure Keeps (w w' : World σ) (c : ConnID) : Prop where
  now : w'.now = w.now
  conns : w'.conns = w.conns
  home : w'.home = w.home
  others : ∀ g, g ≠ w.home c → w'.gateway g = w.gateway g
  pc : ∀ c' r, w'.pc c' r = w.pc c' r ∨ (c' = c ∧ r = .beat ∧ ∃ t, w'.pc c' r = .waiting t)

@[simp] theorem Keeps.refl (w : World σ) (c : ConnID) : Keeps w w c :=
  ⟨rfl, rfl, rfl, fun _ _ => rfl, fun _ _ => .inl rfl⟩

section Updates

variable (w w' : World σ) (c : ConnID)

theorem keeps_congr {w₁ w₂ : World σ} (hn : w₂.now = w₁.now) (hc : w₂.conns = w₁.conns) (hh : w₂.home = w₁.home)
    (hg : ∀ g, g ≠ w.home c → w₂.gateway g = w₁.gateway g) (hp : w₂.pc = w₁.pc) : Keeps w w₂ c ↔ Keeps w w₁ c := by
  constructor
  · intro h
    exact ⟨hn ▸ h.now, hc ▸ h.conns, hh ▸ h.home, fun g hne => (hg g hne).symm.trans (h.others g hne), hp ▸ h.pc⟩
  · intro h
    exact ⟨hn.trans h.now, hc.trans h.conns, hh.trans h.home, fun g hne => (hg g hne).trans (h.others g hne),
      hp ▸ h.pc⟩

@[simp] theorem keeps_drawn (n : Nat) : Keeps w { w' with drawn := n } c ↔ Keeps w w' c :=
  keeps_congr w c rfl rfl rfl (fun _ _ => rfl) rfl

@[simp] theorem keeps_timer (f : ConnID → Timer) : Keeps w { w' with timer := f } c ↔ Keeps w w' c :=
  keeps_congr w c rfl rfl rfl (fun _ _ => rfl) rfl

@[simp] theorem keeps_request {ε α : Type} (fate : Fate) (f : Server σ → Server σ × Except ε α) :
    Keeps w (w'.request fate f).1 c ↔ Keeps w w' c := by
  obtain ⟨s, hs⟩ := request_eq w' fate f
  rw [hs]
  exact keeps_congr w c rfl rfl rfl (fun _ _ => rfl) rfl

@[simp] theorem keeps_updateGateway (f : Gateway → Gateway) :
    Keeps w (w'.updateGateway (w.home c) f) c ↔ Keeps w w' c :=
  keeps_congr w c rfl rfl rfl (fun g hg => by simp [World.updateGateway, hg]) rfl

@[simp] theorem keeps_send (m : Message) : Keeps w (w'.send c m) c ↔ Keeps w w' c :=
  keeps_congr w c rfl rfl rfl (fun _ _ => rfl) rfl

@[simp] theorem keeps_sendOption (m : Option Message) : Keeps w (w'.sendOption c m) c ↔ Keeps w w' c := by
  cases m with
  | none => exact Iff.rfl
  | some m => exact keeps_send w w' c m

@[simp] theorem keeps_note (e : Event) : Keeps w (w'.note e) c ↔ Keeps w w' c :=
  keeps_congr w c rfl rfl rfl (fun _ _ => rfl) rfl

@[simp] theorem keeps_token (env : Env σ) (fate : Fate) :
    Keeps w (w'.generateResumeToken env fate).1 c ↔ Keeps w w' c := by
  cases fate <;> exact keeps_congr w c rfl rfl rfl (fun _ _ => rfl) rfl

@[simp] theorem keeps_stopTimer (t : String) : Keeps w (w'.stopTimer (w.home c) t) c ↔ Keeps w w' c := by
  unfold World.stopTimer
  split
  · exact Iff.rfl
  · exact keeps_congr w c rfl rfl rfl (fun g hg => by simp [World.updateGateway, hg]) rfl

@[simp] theorem keeps_beat (t : String) (h : Keeps w w' c) : Keeps w (w'.setPc c .beat (.waiting t)) c := by
  refine ⟨h.now, h.conns, h.home, h.others, fun c' r => ?_⟩
  rw [World.setPc_pc]
  split
  · rename_i hc
    exact .inr ⟨hc.1, hc.2, t, rfl⟩
  · exact h.pc c' r

end Updates

/-- A suspension finds no tunnel, gets no token, finds no connection to close, or suspends the tunnel. -/
theorem suspend_cases (env : Env σ) (w : World σ) (c : ConnID) (r : Role) (fate : Fate) (t : String) :
    stepPc env w c r fate (.suspend t) = (w, .done) ∨
    stepPc env w c r fate (.suspend t) = (w, .take t .agentDisconnect) ∨
    (∃ at_, (w.gateway (w.home c)).tunnels.lookup t = some at_ ∧ at_.conn = none ∧
      stepPc env w c r fate (.suspend t) =
        (({ w with drawn := w.drawn + 1 } : World σ).updateGateway (w.home c) fun gw => { gw with crashed := true },
          .done)) ∨
    ∃ at_, (w.gateway (w.home c)).tunnels.lookup t = some at_ ∧
      stepPc env w c r fate (.suspend t) =
        ((({ w with drawn := w.drawn + 1 } : World σ).updateGateway (w.home c) fun gw => { gw with
            tunnels := gw.tunnels.insert t { at_ with conn := none, suspended := true } }).note
              (.suspended (w.home c) t c),
          .storeResume t (env.token w.drawn)) := by
  cases hl : (w.gateway (w.home c)).tunnels.lookup t with
  | none => exact .inl (by simp [stepPc, stepStream, hl])
  | some at_ =>
    cases fate with
    | ok =>
      cases hc : at_.conn with
      | none => exact .inr (.inr (.inl ⟨at_, rfl, hc, by simp [stepPc, stepStream, hl, hc, World.generateResumeToken]⟩))
      | some c₀ => exact .inr (.inr (.inr ⟨at_, rfl, by simp [stepPc, stepStream, hl, hc, World.generateResumeToken]⟩))
    | _ => exact .inr (.inl (by simp [stepPc, stepStream, hl, World.generateResumeToken]))

theorem stepPc_keeps (env : Env σ) (w : World σ) (c : ConnID) (r : Role) (fate : Fate) (p : Pc) :
    Keeps w (stepPc env w c r fate p).1 c := by
  cases p with
  | routeLabels a leaseID rest => cases rest <;> simp [stepPc, stepHandshake]
  | suspend t =>
    rcases suspend_cases env w c r fate t with h | h | ⟨_, _, _, h⟩ | ⟨_, _, h⟩ <;> simp [h]
  | _ =>
    simp only [stepPc, stepHandshake, stepResume, stepStream, stepRemoval, stepBeat, World.heartbeat,
      World.setResumable]
    repeat' split
    all_goals simp

/-! ## The tunnel map -/

inductive TunnelMove (w : World σ) (c : ConnID) (p : Pc) (w' : World σ) : Prop
  | same (h : (w'.gateway (w.home c)).tunnels = (w.gateway (w.home c)).tunnels)
  | install (a : Auth) (leaseID token : String) (hp : p = .install a leaseID token)
      (h : (w'.gateway (w.home c)).tunnels = (addTunnel (w.gateway (w.home c)) a c leaseID).tunnels)
  | attach (t token : String) (rest : List Frame) (at_ : ActiveTunnel) (hp : p = .attach t token rest)
      (hl : (w.gateway (w.home c)).tunnels.lookup t = some at_)
      (h : (w'.gateway (w.home c)).tunnels =
        (w.gateway (w.home c)).tunnels.insert t { at_ with conn := some c, suspended := false })
  | suspend (t : String) (at_ : ActiveTunnel) (hp : p = .suspend t)
      (hl : (w.gateway (w.home c)).tunnels.lookup t = some at_)
      (h : (w'.gateway (w.home c)).tunnels =
        (w.gateway (w.home c)).tunnels.insert t { at_ with conn := none, suspended := true })
  | take (t : String) (reason : Reason) (hp : p = .take t reason)
      (h : (w'.gateway (w.home c)).tunnels = (w.gateway (w.home c)).tunnels.erase t)

theorem stepPc_tunnels (env : Env σ) (w : World σ) (c : ConnID) (r : Role) (fate : Fate) (p : Pc) :
    TunnelMove w c p (stepPc env w c r fate p).1 := by
  cases p with
  | install a leaseID token =>
    exact .install a leaseID token rfl (by simp [stepPc, stepHandshake, World.note])
  | attach t token rest =>
    cases hl : (w.gateway (w.home c)).tunnels.lookup t with
    | none => exact .same (by simp [stepPc, stepResume, hl])
    | some at_ => exact .attach t token rest at_ rfl hl (by simp [stepPc, stepResume, hl, World.note])
  | suspend t =>
    rcases suspend_cases env w c r fate t with h | h | ⟨_, _, _, h⟩ | ⟨at_, hl, h⟩ <;> rw [h]
    · exact .same rfl
    · exact .same rfl
    · exact .same (by simp)
    · exact .suspend t at_ rfl hl (by simp [World.note])
  | take t reason =>
    cases hl : (w.gateway (w.home c)).tunnels.lookup t with
    | none => exact .same (by simp [stepPc, stepRemoval, hl])
    | some at_ => exact .take t reason rfl (by simp [stepPc, stepRemoval, hl])
  | routeLabels a leaseID rest => cases rest <;> exact .same (by simp [stepPc, stepHandshake])
  | _ =>
    refine .same ?_
    simp only [stepPc, stepHandshake, stepResume, stepStream, stepRemoval, stepBeat, World.heartbeat,
      World.setResumable]
    repeat' split
    all_goals simp [World.note, World.send, World.setPc]

/-! ## Program counters -/

/-- Program counters of a handshake or a resume that has not touched the tunnel map. -/
def Pc.early : Pc → Bool
  | .quota _ | .routeDefault _ | .acquire _ | .unrouteDefault _ | .routeLabels .. | .drawToken .. | .respond ..
  | .unroute .. | .unlease _ | .install .. => true
  | .lookup .. | .refuse .. | .cancelTimer .. | .drawNew .. | .attach .. => true
  | _ => false

inductive Pc.Next (r : Role) : Pc → Pc → Prop
  | done (p : Pc) : Next r p .done
  | failed (p : Pc) (f : Failure) : Next r p (.failed f)
  | installStore (a : Auth) (leaseID token : String) : Next r (.install a leaseID token) (.storeToken a token)
  | installRegister (a : Auth) (leaseID token : String) : Next r (.install a leaseID token) (.register a)
  | storeToken (a : Auth) (token : String) : Next r (.storeToken a token) (.register a)
  | registered (a : Auth) : Next r (.register a) (.serving a.tunnelID)
  | unregistered (a : Auth) : Next r (.register a) (.take a.tunnelID .registryError)
  | attachStore (t token : String) (rest : List Frame) : Next r (.attach t token rest) (.storeNew t token)
  | attachReply (t token : String) (rest : List Frame) : Next r (.attach t token rest) (.reply t "")
  | storeNew (t token token' : String) : Next r (.storeNew t token) (.reply t token')
  | reply (t token : String) : Next r (.reply t token) (.serving t)
  | pulseAlive (t : String) : Next r (.pulse t) (.serving t)
  | pulseExpired (t : String) : Next r (.pulse t) (.take t .sessionExpired)
  | suspendStore (t token : String) : Next r (.suspend t) (.storeResume t token)
  | suspendTake (t : String) : Next r (.suspend t) (.take t .agentDisconnect)
  | stored (t token : String) : Next r (.storeResume t token) (.arm t)
  | unstored (t token : String) : Next r (.storeResume t token) (.take t .agentDisconnect)
  | arm (t : String) : Next r (.arm t) (.record t)
  | cancelPending (t : String) : Next r (.cancelPending t) (.take t .resumeTimeout)
  | taken (t leaseID : String) (reason : Reason) : Next r (.take t reason) (.dropRoutes t leaseID reason)
  | missing (t : String) (reason : Reason) (hr : r = .beat) : Next r (.take t reason) (.ticked t .removed)
  | dropLeased (t leaseID : String) (reason : Reason) :
      Next r (.dropRoutes t leaseID reason) (.release t leaseID reason)
  | dropUnleased (t leaseID : String) (reason : Reason) : Next r (.dropRoutes t leaseID reason) (.deregister t reason)
  | release (t leaseID : String) (reason : Reason) : Next r (.release t leaseID reason) (.deregister t reason)
  | deregister (t : String) (reason : Reason) (hr : r = .beat) : Next r (.deregister t reason) (.ticked t .removed)
  | beatFailed (t : String) : Next r (.beat t) (.ticked t .failed)
  | beatAlive (t : String) : Next r (.beat t) (.peek t)
  | beatExpired (t : String) : Next r (.beat t) (.take t .sessionExpired)
  | peekGone (t : String) : Next r (.peek t) (.ticked t .gone)
  | peekLeased (t leaseID : String) : Next r (.peek t) (.renew t leaseID)
  | peekUnleased (t : String) : Next r (.peek t) (.ticked t .unleased)
  | renewed (t leaseID : String) : Next r (.renew t leaseID) (.ticked t .renewed)
  | unrenewed (t leaseID : String) : Next r (.renew t leaseID) (.take t .leaseLost)
  | ticked (t : String) (how : TickEnd) : Next r (.ticked t how) (.waiting t)
  | early (p q : Pc) (hp : p.early = true) (h : q.early = true) : Next r p q

/-- Where reading the first frames can lead. -/
def Pc.opening : Pc → Bool
  | .quota _ | .routeDefault _ | .lookup .. | .refuse .. | .failed _ => true
  | _ => false

theorem fullAuth_opening (cfg : Config) (first : Bool) (frames : List Frame) :
    (fullAuth cfg first frames).1.opening = true := by
  unfold fullAuth rejected
  split
  all_goals try split
  all_goals rfl

theorem early_of_opening {q : Pc} (h : q.opening = true) : q.early = true ∨ ∃ f, q = .failed f := by
  cases q with
  | failed f => exact .inr ⟨f, rfl⟩
  | quota | routeDefault | lookup | refuse => exact .inl rfl
  | _ => cases h

theorem next_of_opening {p q : Pc} (hp : p.early = true) (h : q.opening = true) : Pc.Next r p q := by
  rcases early_of_opening h with hq | ⟨f, rfl⟩
  · exact .early _ _ hp hq
  · exact .failed p f

theorem routeNext_early (cfg : Config) (a : Auth) (leaseID : String) (rest : List TunnelRoute) :
    (routeNext cfg a leaseID rest).early = true := by
  unfold routeNext
  split
  · split <;> rfl
  · rfl

theorem next_removed {t : String} {reason : Reason} (h : r = .beat → Pc.Next r p (.ticked t .removed)) :
    Pc.Next r p (removed r t reason) := by
  unfold removed
  split
  · exact h rfl
  · exact .failed _ _
  · exact .done _

theorem stepPc_next (env : Env σ) (w : World σ) (c : ConnID) (r : Role) (fate : Fate) (p : Pc)
    (hp : p.runnable = true) : Pc.Next r p (stepPc env w c r fate p).2 := by
  cases p with
  | idle | serving _ | waiting _ | done | failed _ => cases hp
  | routeLabels a leaseID rest => cases rest <;> simpa [stepPc, stepHandshake] using .early _ _ rfl (routeNext_early ..)
  | refuse status rest =>
    simp only [stepPc, stepResume]
    split
    · exact next_of_opening rfl (fullAuth_opening _ _ rest)
    · exact .failed _ _
  | suspend t =>
    rcases suspend_cases env w c r fate t with h | h | ⟨_, _, _, h⟩ | ⟨_, _, h⟩ <;> rw [h] <;>
      constructor
  | take t reason =>
    simp only [stepPc, stepRemoval]
    split
    · exact next_removed fun hr => .missing t reason hr
    · exact .taken t _ reason
  | deregister t reason => exact next_removed fun hr => .deregister t reason hr
  | _ =>
    simp only [stepPc, stepHandshake, stepResume, stepStream, stepRemoval, stepBeat]
    repeat' split
    all_goals first
      | exact .early _ _ rfl rfl
      | exact .early _ _ rfl (routeNext_early ..)
      | constructor

def World.acquisition (env : Env σ) (w : World σ) (c : ConnID) (fate : Fate) (a : Auth) : Option Lease :=
  (World.request { w with drawn := w.drawn + 1 } fate (·.acquireLease w.now (env.uuid w.drawn)
    ⟨a.tunnelID, w.home c, (env.config (w.home c)).leaseTTL⟩)).2

/-- Where a handshake or a resume goes before it has touched the tunnel map, and what it was told on the way. -/
inductive Pc.Early (env : Env σ) (w : World σ) (c : ConnID) (fate : Fate) : Pc → Pc → Prop
  | failed (p : Pc) (f : Failure) : Early env w c fate p (.failed f)
  | admitted (a : Auth) : Early env w c fate (.quota a) (.acquire a)
  | routed (a : Auth) : Early env w c fate (.routeDefault a) (.acquire a)
  | leased (a : Auth) (l : Lease) (h : w.acquisition env c fate a = some l) (hv : a.v2 = true) :
      Early env w c fate (.acquire a) (routeNext (env.config (w.home c)) a l.leaseID a.routes)
  | leasedDefault (a : Auth) (l : Lease) (h : w.acquisition env c fate a = some l) (hv : a.v2 = false) :
      Early env w c fate (.acquire a) (.respond a l.leaseID "")
  | unleased (a : Auth) (hv : a.v2 = false) : Early env w c fate (.acquire a) (.unrouteDefault a)
  | routedLabel (a : Auth) (leaseID : String) (routes : List TunnelRoute) :
      Early env w c fate (.routeLabels a leaseID routes) (routeNext (env.config (w.home c)) a leaseID routes.tail)
  | drawToken (a : Auth) (leaseID token : String) : Early env w c fate (.drawToken a leaseID) (.respond a leaseID token)
  | responded (a : Auth) (leaseID token : String) :
      Early env w c fate (.respond a leaseID token) (.install a leaseID token)
  | unanswered (a : Auth) (leaseID token : String) : Early env w c fate (.respond a leaseID token) (.unroute a leaseID)
  | unrouted (a : Auth) (leaseID : String) : Early env w c fate (.unroute a leaseID) (.unlease leaseID)
  | installStore (a : Auth) (leaseID token : String) (h : token ≠ "") :
      Early env w c fate (.install a leaseID token) (.storeToken a token)
  | installRegister (a : Auth) (leaseID token : String) : Early env w c fate (.install a leaseID token) (.register a)
  | found (token : String) (rest : List Frame) (sess : Session)
      (h : env.repo.getResumable w.server.store w.now token = .ok sess) :
      Early env w c fate (.lookup token rest) (.cancelTimer sess.tunnelID rest)
  | unknown (token : String) (rest : List Frame) : Early env w c fate (.lookup token rest) (.refuse .expired rest)
  | fullAuth (status : ResumeStatus) (rest : List Frame) :
      Early env w c fate (.refuse status rest) (fullAuth (env.config (w.home c)) false rest).1
  | cancelTimer (t : String) (rest : List Frame) : Early env w c fate (.cancelTimer t rest) (.drawNew t rest)
  | drawNew (t token : String) (rest : List Frame) (h : fate = .ok → token ≠ "") :
      Early env w c fate (.drawNew t rest) (.attach t token rest)
  | gone (t token : String) (rest : List Frame) : Early env w c fate (.attach t token rest) (.refuse .notFound rest)
  | attachStore (t token : String) (rest : List Frame) : Early env w c fate (.attach t token rest) (.storeNew t token)
  | attachReply (t : String) (rest : List Frame) : Early env w c fate (.attach t "" rest) (.reply t "")

theorem stepPc_early (env : Env σ) (w : World σ) (c : ConnID) (r : Role) (fate : Fate) {p : Pc} (hp : p.early = true) :
    Pc.Early env w c fate p (stepPc env w c r fate p).2 := by
  cases p with
  | quota a =>
    simp only [stepPc, stepHandshake]
    split
    · exact .failed _ _
    · split
      · exact .admitted a
      · exact .failed _ _
  | routeDefault a => exact .routed a
  | acquire a =>
    simp only [stepPc, stepHandshake]
    split
    · rename_i l hl
      split
      · exact .leased a l hl ‹_›
      · exact .leasedDefault a l hl (Bool.eq_false_iff.2 ‹_›)
    · split
      · exact .failed _ _
      · exact .unleased a (Bool.eq_false_iff.2 ‹_›)
  | unrouteDefault a => exact .failed _ _
  | routeLabels a leaseID routes => cases routes <;> exact .routedLabel a leaseID _
  | drawToken a leaseID => exact .drawToken a leaseID _
  | respond a leaseID token =>
    simp only [stepPc, stepHandshake]
    split
    · exact .responded a leaseID token
    · exact .unanswered a leaseID token
  | unroute a leaseID => exact .unrouted a leaseID
  | unlease leaseID => exact .failed _ _
  | install a leaseID token =>
    simp only [stepPc, stepHandshake]
    split
    · exact .installStore a leaseID token ‹_›
    · exact .installRegister a leaseID token
  | lookup token rest =>
    simp only [stepPc, stepResume]
    split
    · exact .found token rest _ ‹_›
    · exact .unknown token rest
  | refuse status rest =>
    simp only [stepPc, stepResume]
    split
    · exact .fullAuth status rest
    · exact .failed _ _
  | cancelTimer t rest => exact .cancelTimer t rest
  | drawNew t rest =>
    refine .drawNew t _ rest ?_
    rintro rfl
    exact env.token_ne _
  | attach t token rest =>
    simp only [stepPc, stepResume]
    split
    · exact .gone t token rest
    · split
      · exact .attachStore t token rest
      · rename_i htoken
        rw [not_not.1 htoken]
        exact .attachReply t rest
  | _ => cases hp

theorem stepPc_goes (env : Env σ) (w : World σ) (c : ConnID) (r : Role) (fate : Fate) (p : Pc) :
    ∃ q, (stepPc env w c r fate p).2 = q ∧
      (Pc.Early env w c fate p q ∨ (p.early = false ∧ Pc.Next r p q) ∨ (p.runnable = false ∧ q = p)) := by
  refine ⟨_, rfl, ?_⟩
  cases hr : p.runnable with
  | false => exact .inr (.inr ⟨rfl, by cases p <;> first | rfl | cases hr⟩)
  | true =>
    cases he : p.early with
    | true => exact .inl (stepPc_early env w c r fate he)
    | false => exact .inr (.inl ⟨rfl, stepPc_next env w c r fate p hr⟩)

/-! ## The registry -/

theorem request_some {ε α : Type} {fate : Fate} {f : Server σ → Server σ × Except ε α} {x : α}
    (h : (w.request fate f).2 = some x) : fate = .ok ∧ (f w.server).2 = .ok x := by
  cases fate with
  | ok =>
    refine ⟨rfl, ?_⟩
    simp only [World.request] at h
    cases hr : (f w.server).2 with
    | ok y => rw [hr] at h; cases h; rfl
    | error e => rw [hr] at h; cases h
  | lost => cases h
  | replyLost => cases h

def World.registration (env : Env σ) (w : World σ) (c : ConnID) (a : Auth) (s : Server σ) :
    Server σ × Except Status Unit :=
  let addrs := sessionAddrs (env.config (w.home c)) a
  s.registerTunnel env.repo w.now a.tunnelID a.agentID addrs.1 addrs.2

theorem register_server (env : Env σ) (w : World σ) (c : ConnID) (r : Role) {fate : Fate} (a : Auth)
    (h : fate ≠ .lost) :
    (stepPc env w c r fate (.register a)).1.server = (w.registration env c a w.server).1 := by
  cases fate with
  | lost => exact absurd rfl h
  | ok | replyLost =>
    simp only [stepPc, stepHandshake, World.request]
    repeat' split
    all_goals rfl

theorem register_log (env : Env σ) (w : World σ) (c : ConnID) (r : Role) {fate : Fate} (a : Auth)
    (h : fate ≠ .lost) (hok : (w.registration env c a w.server).2.toBool = true) :
    (stepPc env w c r fate (.register a)).1.log = .registered (w.home c) a.tunnelID :: w.log := by
  simp only [World.registration] at hok
  simp only [stepPc, stepHandshake]
  split <;> simp [h, hok, World.note, World.setPc, World.updateGateway]

inductive CoordMove (env : Env σ) (w : World σ) (c : ConnID) (p : Pc) (w' : World σ) : Prop
  | same (h : w'.server.coord = w.server.coord) (hd : w.drawn ≤ w'.drawn)
  | acquire (a : Auth) (hp : p = .acquire a) (hd : w.drawn + 1 = w'.drawn)
      (h : w'.server.coord = (w.server.acquireLease w.now (env.uuid w.drawn)
        ⟨a.tunnelID, w.home c, (env.config (w.home c)).leaseTTL⟩).1.coord)
  | renew (t leaseID : String) (hp : p = .renew t leaseID) (hd : w.drawn = w'.drawn)
      (h : w'.server.coord = (w.server.renewLease w.now leaseID (env.config (w.home c)).leaseTTL).1.coord)
  | release (leaseID : String) (hp : p = .unlease leaseID ∨ ∃ t reason, p = .release t leaseID reason)
      (hd : w.drawn = w'.drawn) (h : w'.server.coord = (w.server.coord.releaseLease leaseID).1)
  | current (a : Auth) (hp : p = .register a) (hd : w.drawn = w'.drawn)
      (h : w'.server.coord = (w.server.coord.currentLease w.now a.tunnelID).1)

@[simp] theorem heartbeat_coord (env : Env σ) (w : World σ) (fate : Fate) (t : String) :
    (w.heartbeat env fate t).1.server.coord = w.server.coord := by
  cases fate <;> simp only [World.heartbeat, World.request, Server.heartbeat] <;> split <;> rfl

@[simp] theorem setResumable_coord (env : Env σ) (w : World σ) (g : String) (fate : Fate) (t token : String) :
    (w.setResumable env g fate t token).1.server.coord = w.server.coord := by
  cases fate <;> rfl

@[simp] theorem heartbeat_drawn (env : Env σ) (w : World σ) (fate : Fate) (t : String) :
    (w.heartbeat env fate t).1.drawn = w.drawn := request_drawn ..

@[simp] theorem setResumable_drawn (env : Env σ) (w : World σ) (g : String) (fate : Fate) (t token : String) :
    (w.setResumable env g fate t token).1.drawn = w.drawn := request_drawn ..

@[simp] theorem stopTimer_server (w : World σ) (g t : String) : (w.stopTimer g t).server = w.server := by
  unfold World.stopTimer
  split <;> rfl

@[simp] theorem stopTimer_drawn (w : World σ) (g t : String) : (w.stopTimer g t).drawn = w.drawn := by
  unfold World.stopTimer
  split <;> rfl

theorem deregisterTunnel_coord (repo : SessionRepository σ) (s : Server σ) (now : Time) (t : String) :
    (s.deregisterTunnel repo now t).1.coord = s.coord := by
  unfold Server.deregisterTunnel
  split <;> rfl

theorem registerTunnel_coord (repo : SessionRepository σ) (s : Server σ) (now : Time) (t a pub loc : String) :
    (s.registerTunnel repo now t a pub loc).1.coord = (s.coord.currentLease now t).1 := by
  unfold Server.registerTunnel
  simp only
  split <;> rfl

theorem stepPc_coord (env : Env σ) (w : World σ) (c : ConnID) (r : Role) (fate : Fate) (p : Pc) :
    CoordMove env w c p (stepPc env w c r fate p).1 := by
  cases p with
  | acquire a =>
    cases fate with
    | lost =>
      refine .same ?_ ?_ <;> simp only [stepPc, stepHandshake, World.request] <;> split <;> simp [World.send]
    | ok =>
      refine .acquire a rfl ?_ ?_ <;> simp only [stepPc, stepHandshake, World.request] <;> repeat' split
      all_goals rfl
    | replyLost =>
      refine .acquire a rfl ?_ ?_ <;> simp only [stepPc, stepHandshake, World.request] <;> repeat' split
      all_goals rfl
  | renew t leaseID =>
    cases fate with
    | lost => exact .same rfl le_rfl
    | ok =>
      refine .renew t leaseID rfl ?_ ?_ <;> simp only [stepPc, stepBeat, World.request] <;> repeat' split
      all_goals rfl
    | replyLost => exact .renew t leaseID rfl rfl rfl
  | unlease leaseID =>
    cases fate with
    | lost => exact .same rfl le_rfl
    | ok => exact .release leaseID (.inl rfl) rfl rfl
    | replyLost => exact .release leaseID (.inl rfl) rfl rfl
  | release t leaseID reason =>
    cases fate with
    | lost => exact .same rfl le_rfl
    | ok => exact .release leaseID (.inr ⟨t, reason, rfl⟩) rfl rfl
    | replyLost => exact .release leaseID (.inr ⟨t, reason, rfl⟩) rfl rfl
  | deregister t reason =>
    refine .same ?_ (by simp [stepPc, stepRemoval])
    cases fate with
    | lost => rfl
    | ok => exact deregisterTunnel_coord ..
    | replyLost => exact deregisterTunnel_coord ..
  | register a =>
    by_cases hf : fate = .lost
    · subst hf
      exact .same rfl le_rfl
    · refine .current a rfl ?_ ?_
      · simp only [stepPc, stepHandshake]
        repeat' split
        all_goals simp [World.note, World.setPc, World.updateGateway]
      · rw [register_server env w c r a hf]
        exact registerTunnel_coord ..
  | routeLabels a leaseID rest => cases rest <;> exact .same rfl le_rfl
  | suspend t =>
    refine .same ?_ ?_ <;> rcases suspend_cases env w c r fate t with h | h | ⟨_, _, _, h⟩ | ⟨_, _, h⟩ <;>
      simp [h, World.updateGateway, World.note]
  | _ =>
    refine .same ?_ ?_ <;> simp only [stepPc, stepHandshake, stepResume, stepStream, stepBeat, stepRemoval] <;>
      repeat' split
    all_goals simp [World.send, World.note, World.updateGateway, World.setPc, token_drawn]

/-- The registry's leases are in order, with ids drawn in this run. -/
def World.Leases (env : Env σ) (w : World σ) : Prop := Server.Leases env.uuid w.drawn w.server.coord

theorem stepPc_leases (h : w.Leases env) (c : ConnID) (r : Role) (fate : Fate) (p : Pc) :
    (stepPc env w c r fate p).1.Leases env := by
  unfold World.Leases at h ⊢
  cases stepPc_coord env w c r fate p with
  | same hs hd => rw [hs]; exact h.mono hd
  | acquire a _ hd hs => rw [hs, ← hd]; exact h.acquireLease env.uuid_inj env.uuid_ne _ _
  | renew t leaseID _ hd hs => rw [hs, ← hd]; exact h.renewLease _ _ _
  | release leaseID _ hd hs => rw [hs, ← hd]; exact h.releaseLease _
  | current a _ hd hs => rw [hs, ← hd]; exact h.currentLease _ _

/-! ## The log -/

inductive LogMove (w : World σ) (c : ConnID) (p : Pc) (w' : World σ) : Prop
  | same (h : w'.log = w.log)
  | granted (t : String) (e : Time) (hp : (∃ a, p = .acquire a ∧ a.tunnelID = t) ∨ ∃ leaseID, p = .renew t leaseID)
      (he : w.now < e) (h : w'.log = .granted (w.home c) t e :: w.log)
  | registered (a : Auth) (hp : p = .register a) (h : w'.log = .registered (w.home c) a.tunnelID :: w.log)
  | installed (a : Auth) (leaseID token : String) (hp : p = .install a leaseID token)
      (h : w'.log = .attached (w.home c) a.tunnelID c :: w.log)
  | attached (t token : String) (rest : List Frame) (hp : p = .attach t token rest)
      (hl : (w.gateway (w.home c)).tunnels.lookup t ≠ none) (h : w'.log = .attached (w.home c) t c :: w.log)
  | suspended (t : String) (hp : p = .suspend t) (h : w'.log = .suspended (w.home c) t c :: w.log)

@[simp] theorem stopTimer_log (w : World σ) (g t : String) : (w.stopTimer g t).log = w.log := by
  unfold World.stopTimer
  split <;> rfl

@[simp] theorem heartbeat_log (env : Env σ) (w : World σ) (fate : Fate) (t : String) :
    (w.heartbeat env fate t).1.log = w.log := request_log ..

@[simp] theorem setResumable_log (env : Env σ) (w : World σ) (g : String) (fate : Fate) (t token : String) :
    (w.setResumable env g fate t token).1.log = w.log := request_log ..

theorem stepPc_log (h : w.Leases env) (c : ConnID) (r : Role) (fate : Fate) (p : Pc) :
    LogMove w c p (stepPc env w c r fate p).1 := by
  cases p with
  | acquire a =>
    cases hr : (World.request { w with drawn := w.drawn + 1 } fate (·.acquireLease w.now (env.uuid w.drawn)
        ⟨a.tunnelID, w.home c, (env.config (w.home c)).leaseTTL⟩)).2 with
    | none =>
      refine .same ?_
      simp only [stepPc, stepHandshake, hr]
      split <;> simp [World.send]
    | some l =>
      obtain ⟨-, hok⟩ := request_some hr
      have hlive := (Server.acquireLease_ok h.inv (env.uuid_ne _) hok).2
      refine .granted a.tunnelID l.expiresAt (.inl ⟨a, rfl, rfl⟩) hlive ?_
      simp [stepPc, stepHandshake, hr, World.note]
  | renew t leaseID =>
    cases hr : (w.request fate (·.renewLease w.now leaseID (env.config (w.home c)).leaseTTL)).2 with
    | none => exact .same (by simp [stepPc, stepBeat, hr])
    | some l =>
      obtain ⟨-, hok⟩ := request_some hr
      refine .granted t l.expiresAt (.inr ⟨leaseID, rfl⟩) (Server.renewLease_ok h.inv hok) ?_
      simp [stepPc, stepBeat, hr, World.note]
  | register a =>
    by_cases hn : fate ≠ .lost ∧ (w.registration env c a w.server).2.toBool = true
    · exact .registered a rfl (register_log env w c r a hn.1 hn.2)
    · refine .same ?_
      have hn' : ¬ (decide (fate ≠ .lost) && (w.registration env c a w.server).2.toBool) = true := by
        simpa using hn
      simp only [World.registration] at hn'
      simp only [stepPc, stepHandshake, if_neg hn']
      split <;> simp [World.setPc, World.updateGateway]
  | install a leaseID token =>
    refine .installed a leaseID token rfl ?_
    simp [stepPc, stepHandshake, World.note, World.updateGateway]
  | attach t token rest =>
    cases hl : (w.gateway (w.home c)).tunnels.lookup t with
    | none => exact .same (by simp [stepPc, stepResume, hl])
    | some at_ =>
      refine .attached t token rest rfl (by simp [hl]) ?_
      simp [stepPc, stepResume, hl, World.note, World.updateGateway]
  | suspend t =>
    rcases suspend_cases env w c r fate t with h | h | ⟨_, _, _, h⟩ | ⟨_, _, h⟩ <;> rw [h]
    · exact .same rfl
    · exact .same rfl
    · exact .same rfl
    · exact .suspended t rfl rfl
  | routeLabels a leaseID rest => cases rest <;> exact .same rfl
  | _ =>
    refine .same ?_
    simp only [stepPc, stepHandshake, stepResume, stepStream, stepRemoval, stepBeat]
    repeat' split
    all_goals simp [World.send, World.setPc, World.updateGateway]

/-! ## Timers -/

@[simp] theorem heartbeat_timer (env : Env σ) (w : World σ) (fate : Fate) (t : String) :
    (w.heartbeat env fate t).1.timer = w.timer := request_timer ..

@[simp] theorem setResumable_timer (env : Env σ) (w : World σ) (g : String) (fate : Fate) (t token : String) :
    (w.setResumable env g fate t token).1.timer = w.timer := request_timer ..

theorem stopTimer_timer (w : World σ) (g t : String) (c : ConnID) :
    (w.stopTimer g t).timer c = w.timer c ∨ (w.timer c ≠ .none ∧ (w.stopTimer g t).timer c = .stopped) := by
  unfold World.stopTimer
  split
  · exact .inl rfl
  · rename_i c₀ _
    by_cases hc : c = c₀
    · subst hc
      cases w.timer c <;> simp
    · exact .inl (by simp [hc])

theorem stepPc_timer (env : Env σ) (w : World σ) (c : ConnID) (r : Role) (fate : Fate) (p : Pc) (c' : ConnID) :
    (stepPc env w c r fate p).1.timer c' = w.timer c' ∨
      (w.timer c' ≠ .none ∧ (stepPc env w c r fate p).1.timer c' = .stopped) ∨
      (c' = c ∧ ∃ t due, p = .arm t ∧ (stepPc env w c r fate p).1.timer c' = .armed t due) := by
  cases p with
  | arm t =>
    by_cases hc : c' = c
    · exact .inr (.inr ⟨hc, t, _, rfl, by simp [stepPc, stepStream, hc]; rfl⟩)
    · exact .inl (by simp [stepPc, stepStream, hc])
  | cancelTimer t rest =>
    rcases stopTimer_timer w (w.home c) t c' with h | h
    · exact .inl h
    · exact .inr (.inl h)
  | cancelPending t =>
    rcases stopTimer_timer w (w.home c) t c' with h | h
    · exact .inl h
    · exact .inr (.inl h)
  | suspend t =>
    refine .inl ?_
    rcases suspend_cases env w c r fate t with h | h | ⟨_, _, _, h⟩ | ⟨_, _, h⟩ <;> rw [h] <;> rfl
  | routeLabels a leaseID rest => cases rest <;> exact .inl rfl
  | _ =>
    refine .inl ?_
    simp only [stepPc, stepHandshake, stepResume, stepStream, stepRemoval, stepBeat]
    repeat' split
    all_goals simp [World.send, World.setPc, World.note, World.updateGateway]

/-! ## The session store -/

inductive StoreMove (env : Env σ) (w : World σ) (c : ConnID) (p : Pc) (w' : World σ) : Prop
  | same (h : w'.server.store = w.server.store)
  | resumable (t token : String) (deadline : Time)
      (hp : p = .storeResume t token ∨ p = .storeNew t token ∨ ∃ a, p = .storeToken a token ∧ a.tunnelID = t)
      (h : w'.server.store = (env.repo.setResumable w.server.store w.now t token deadline).1)
  | register (a : Auth) (hp : p = .register a) (sess : Session)
      (ht : sess.tunnelID = a.tunnelID ∧ sess.resumeToken = "")
      (h : w'.server.store = (env.repo.register w.server.store w.now sess).1)
      (hlog : ∀ s, (env.repo.register w.server.store w.now sess).2 = .ok s →
        w'.log = .registered (w.home c) a.tunnelID :: w.log)
  | deregister (t : String) (reason : Reason) (hp : p = .deregister t reason)
      (h : w'.server.store = (env.repo.deregister w.server.store w.now t).1)
  | heartbeat (t : String) (h : w'.server.store = (env.repo.heartbeat w.server.store w.now t).1)

theorem registerTunnel_store (repo : SessionRepository σ) (s : Server σ) (now : Time) (t a pub loc : String) :
    ∃ sess : Session, (sess.tunnelID = t ∧ sess.resumeToken = "") ∧
      (s.registerTunnel repo now t a pub loc).1.store = (repo.register s.store now sess).1 ∧
      ((s.registerTunnel repo now t a pub loc).2.toBool = true ↔ (repo.register s.store now sess).2.toBool = true) := by
  let lease := (s.coord.currentLease now t).2
  let sess : Session := {
    tunnelID := t, agentID := a, localAddr := loc, publicAddr := pub
    ownerRelayID := (lease.map Lease.relayID).getD ""
    leaseID := (lease.map Lease.leaseID).getD "" }
  refine ⟨sess, ⟨rfl, rfl⟩, ?_⟩
  rcases hr : repo.register s.store now sess with ⟨store, r⟩
  cases r with
  | ok s' =>
    have hr' := hr
    simp only [sess, lease] at hr'
    simp [Server.registerTunnel, hr', Except.toBool]
  | error e =>
    have hr' := hr
    simp only [sess, lease] at hr'
    simp [Server.registerTunnel, hr', Except.toBool]

theorem deregisterTunnel_store (repo : SessionRepository σ) (s : Server σ) (now : Time) (t : String) :
    (s.deregisterTunnel repo now t).1.store = (repo.deregister s.store now t).1 := by
  unfold Server.deregisterTunnel
  split <;> simp_all

theorem heartbeat_store (env : Env σ) (w : World σ) (fate : Fate) (t : String) :
    (w.heartbeat env fate t).1.server.store = w.server.store ∨
      (w.heartbeat env fate t).1.server.store = (env.repo.heartbeat w.server.store w.now t).1 := by
  have h : (w.server.heartbeat env.repo w.now t).1.store = (env.repo.heartbeat w.server.store w.now t).1 := by
    unfold Server.heartbeat
    split <;> simp_all
  cases fate with
  | lost => exact .inl rfl
  | ok => exact .inr h
  | replyLost => exact .inr h

theorem setResumable_store (env : Env σ) (w : World σ) (g : String) (fate : Fate) (t token : String) :
    (w.setResumable env g fate t token).1.server.store = w.server.store ∨
      (w.setResumable env g fate t token).1.server.store =
        (env.repo.setResumable w.server.store w.now t token (w.now + (env.config g).sessionResumeTTL)).1 := by
  cases fate with
  | lost => exact .inl rfl
  | ok => exact .inr rfl
  | replyLost => exact .inr rfl

section StoreKept

variable (w : World σ) (fate : Fate)

@[simp] theorem acquire_store (now : Time) (fresh : String) (req : LeaseRequest) :
    (w.request fate (·.acquireLease now fresh req)).1.server.store = w.server.store := by cases fate <;> rfl

@[simp] theorem renew_store (now : Time) (leaseID : String) (ttl : Duration) :
    (w.request fate (·.renewLease now leaseID ttl)).1.server.store = w.server.store := by cases fate <;> rfl

@[simp] theorem release_store (leaseID : String) :
    (w.request fate (·.releaseLease leaseID)).1.server.store = w.server.store := by cases fate <;> rfl

end StoreKept

theorem stepPc_store (env : Env σ) (w : World σ) (c : ConnID) (r : Role) (fate : Fate) (p : Pc) :
    StoreMove env w c p (stepPc env w c r fate p).1 := by
  have hb : ∀ t, StoreMove env w c p (w.heartbeat env fate t).1 := by
    intro t
    rcases heartbeat_store env w fate t with h | h
    · exact .same h
    · exact .heartbeat t h
  have hres : ∀ t token, (p = .storeResume t token ∨ p = .storeNew t token ∨
      ∃ a, p = .storeToken a token ∧ a.tunnelID = t) →
      StoreMove env w c p (w.setResumable env (w.home c) fate t token).1 := by
    intro t token hp
    rcases setResumable_store env w (w.home c) fate t token with h | h
    · exact .same h
    · exact .resumable t token _ hp h
  cases p with
  | pulse t => exact hb t
  | beat t => exact hb t
  | storeToken a token => exact hres a.tunnelID token (.inr (.inr ⟨a, rfl, rfl⟩))
  | storeNew t token => exact hres t token (.inr (.inl rfl))
  | storeResume t token => exact hres t token (.inl rfl)
  | deregister t reason =>
    cases fate with
    | lost => exact .same rfl
    | ok => exact .deregister t reason rfl (deregisterTunnel_store ..)
    | replyLost => exact .deregister t reason rfl (deregisterTunnel_store ..)
  | register a =>
    obtain ⟨sess, ht, hs, hok⟩ := registerTunnel_store env.repo w.server w.now a.tunnelID a.agentID
      (sessionAddrs (env.config (w.home c)) a).1 (sessionAddrs (env.config (w.home c)) a).2
    by_cases hf : fate = .lost
    · subst hf
      exact .same rfl
    · refine .register a rfl sess ht ?_ fun s hr => ?_
      · rw [register_server env w c r a hf]
        exact hs
      · exact register_log env w c r a hf (hok.2 (by rw [hr]; rfl))
  | routeLabels a leaseID rest => cases rest <;> exact .same rfl
  | suspend t =>
    refine .same ?_
    rcases suspend_cases env w c r fate t with h | h | ⟨_, _, _, h⟩ | ⟨_, _, h⟩ <;> rw [h] <;> rfl
  | _ =>
    refine .same ?_
    simp only [stepPc, stepHandshake, stepResume, stepStream, stepRemoval, stepBeat]
    repeat' split
    all_goals simp [World.send, World.setPc, World.note, World.updateGateway]

end TunnelEdge.Gateway
