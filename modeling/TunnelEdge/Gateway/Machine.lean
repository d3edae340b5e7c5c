import TunnelEdge.Lib.Runs
import TunnelEdge.Gateway.State
/-!
# Steps of the gateways

One step of a goroutine, grouped by the function of the source it belongs to,
and `World.step`, which lets any goroutine move: handshakes, streams, heartbeats,
timers, the clock and the registry's cleanup, in every order.

A step has a `Fate`: what the network, the random source or the control stream
does to the one thing it tries. A lost request never reaches the registry, a
request whose reply is lost has been carried out; both are errors to the caller.
-/

namespace TunnelEdge.Gateway

open GoLib Store Registry

inductive Fate
  | ok | lost | replyLost
deriving DecidableEq, Repr

variable {σ : Type}

/-! ## Requests -/

def World.request {ε α : Type} (w : World σ) (fate : Fate) (f : Server σ → Server σ × Except ε α) :
    World σ × Option α :=
  match fate with
  | .lost => (w, none)
  | .replyLost => ({ w with server := (f w.server).1 }, none)
  | .ok => ({ w with server := (f w.server).1 }, (f w.server).2.toOption)

/-- `Heartbeat`: whether the session is alive. -/
def World.heartbeat (env : Env σ) (w : World σ) (fate : Fate) (t : String) : World σ × Option Bool :=
  w.request fate fun s =>
    let (s, alive) := s.heartbeat env.repo w.now t
    (s, (.ok alive : Except Status Bool))

/-- `sessionRepo.SetResumable`, with the deadline `time.Now().Add(g.sessionResumeTTL)`: whether it succeeded. -/
def World.setResumable (env : Env σ) (w : World σ) (g : String) (fate : Fate) (t token : String) : World σ × Bool :=
  let r := w.request fate fun s =>
    let (store, r) := env.repo.setResumable s.store w.now t token (w.now + (env.config g).sessionResumeTTL)
    ({ s with store }, r)
  (r.1, r.2.isSome)

def World.generateResumeToken (env : Env σ) (w : World σ) (fate : Fate) : World σ × Option String :=
  match fate with
  | .ok => ({ w with drawn := w.drawn + 1 }, some (env.token w.drawn))
  | _ => (w, none)

/-- Stop the timer recorded for `t` and forget it; a timer that has fired goes on. -/
def World.stopTimer (w : World σ) (g t : String) : World σ :=
  match (w.gateway g).pendingResumeTimers.lookup t with
  | none => w
  | some c =>
    { w.updateGateway g fun gw => { gw with pendingResumeTimers := gw.pendingResumeTimers.erase t } with
      timer := Function.update w.timer c (match w.timer c with
        | .armed _ _ => .stopped
        | x => x) }

/-! ## Reading the first frames -/

/-- A failure with the error response that the gateway tries to write. -/
def rejected (f : Failure) (status : AuthStatus) : Pc × Option Message := (.failed f, some (.authResponse status "" ""))

/-- The authentication frame, in its first place or after a refused resume. -/
def fullAuth (cfg : Config) (first : Bool) : List Frame → Pc × Option Message
  | .authV2 token tunnels :: _ =>
    match cfg.authenticate token with
    | some agentID => (.quota ⟨agentID, tunnels, true⟩, none)
    | none => rejected .unauthorized .error
  | .auth token :: _ =>
    match cfg.authenticate token with
    | some agentID => (.routeDefault ⟨agentID, [{ label := "default" }], false⟩, none)
    | none => rejected .unauthorized .error
  | .malformed .auth :: _ | .malformed .authV2 :: _ => rejected .decode .error
  | [] => (.failed .read, none)
  | _ :: _ => if first then rejected .unknownType .error else (.failed .unknownType, none)

def dispatch (cfg : Config) : List Frame → Pc × Option Message
  | .resume token :: rest => (if cfg.sessionRepo then .lookup token rest else .refuse .notFound rest, none)
  | .malformed .resume :: _ => (.failed .badResume, none)
  | frames => fullAuth cfg true frames

/-- `handleAgentConnection` up to its first access to shared state. A first frame that is not a Hello is taken
as the authentication frame. -/
def handleAgentConnection (cfg : Config) : List Frame → Pc × Option Message
  | .hello version :: rest =>
    if version ≠ protocolVersion then rejected .version .versionError else dispatch cfg rest
  | .malformed .hello :: _ => (.failed .badHello, none)
  | frames => dispatch cfg frames

/-! ## The handshake -/

def publicURL (cfg : Config) (host : String) : String := host ++ ":" ++ cfg.publicPort

def hostEntries (cfg : Config) (a : Auth) : List (String × String) :=
  a.routes.map fun r => (r.label, publicURL cfg (TunnelRouter.hostnameForLabel cfg.baseDomain a.tunnelID r.label))

def defaultURL (cfg : Config) (a : Auth) : String :=
  publicURL cfg (TunnelRouter.hostnameForTunnel cfg.baseDomain a.tunnelID)

def authOK (cfg : Config) (a : Auth) (token : String) : Message :=
  if a.v2 then .authV2Response .ok a.tunnelID (hostEntries cfg a) token cfg.region
  else .authResponse .ok a.tunnelID (defaultURL cfg a)

/-- The `publicAddr` and `localAddr` that the registry gets. -/
def sessionAddrs (cfg : Config) (a : Auth) : String × String :=
  if a.v2 then
    (String.intercalate "," ((hostEntries cfg a).map fun e => e.1 ++ "=" ++ e.2),
      String.intercalate "," ((a.routes.filter fun r => r.localAddr ≠ "").map fun r => r.label ++ "=" ++ r.localAddr))
  else (defaultURL cfg a, "")

/-- After a V2 lease: the routes still to register, then the resume token, then the response. -/
def routeNext (cfg : Config) (a : Auth) (leaseID : String) : List TunnelRoute → Pc
  | [] => if cfg.sessionResumeEnabled && cfg.sessionRepo then .drawToken a leaseID else .respond a leaseID ""
  | rest => .routeLabels a leaseID rest

def countTunnelsByAgent (gw : Gateway) (agentID : String) : Nat :=
  GoMap.count (fun _ at_ => at_.agentID = agentID) gw.tunnels

def labelsValid (routes : List TunnelRoute) : Bool := routes.all fun r => (validateLabel r.label).toBool

def addTunnel (gw : Gateway) (a : Auth) (c : ConnID) (leaseID : String) : Gateway :=
  let entry : ActiveTunnel :=
    { agentID := a.agentID, routes := a.routes, conn := some c, routeMap := routeMap a.routes, leaseID }
  { gw with tunnels := gw.tunnels.insert a.tunnelID entry }

def stepHandshake (env : Env σ) (w : World σ) (c : ConnID) (fate : Fate) : Pc → World σ × Pc
  | .quota a =>
    let g := w.home c
    let cfg := env.config g
    if 0 < cfg.maxTunnelsPerAgent && cfg.maxTunnelsPerAgent ≤ countTunnelsByAgent (w.gateway g) a.agentID then
      (w.send c (.authV2Response .error "" [] "" ""), .failed .quota)
    else if labelsValid a.routes then (w, .acquire a)
    else (w.send c (.authV2Response .error "" [] "" ""), .failed .label)
  | .routeDefault a =>
    (w.updateGateway (w.home c) fun gw => { gw with router := (gw.router.register a.tunnelID).1 }, .acquire a)
  | .acquire a =>
    let g := w.home c
    let cfg := env.config g
    let (w', r) := World.request { w with drawn := w.drawn + 1 } fate
      (·.acquireLease w.now (env.uuid w.drawn) ⟨a.tunnelID, g, cfg.leaseTTL⟩)
    match r with
    | some l =>
      (w'.note (.granted g a.tunnelID l.expiresAt),
        if a.v2 then routeNext cfg a l.leaseID a.routes else .respond a l.leaseID "")
    | none =>
      if a.v2 then (w'.send c (.authV2Response .error "" [] "" ""), .failed .lease)
      else (w'.send c (.authResponse .error "" ""), .unrouteDefault a)
  | .unrouteDefault a =>
    (w.updateGateway (w.home c) fun gw => { gw with router := gw.router.deregister a.tunnelID }, .failed .lease)
  | .routeLabels a leaseID [] => (w, routeNext (env.config (w.home c)) a leaseID [])
  | .routeLabels a leaseID (r :: rest) =>
    (w.updateGateway (w.home c) fun gw => { gw with router := (gw.router.registerLabel a.tunnelID r.label).1 },
      routeNext (env.config (w.home c)) a leaseID rest)
  | .drawToken a leaseID =>
    let (w, token) := w.generateResumeToken env fate
    (w, .respond a leaseID (token.getD ""))
  | .respond a leaseID token =>
    if fate = .ok then (w.send c (authOK (env.config (w.home c)) a token), .install a leaseID token)
    else (w, .unroute a leaseID)
  | .unroute a leaseID =>
    (w.updateGateway (w.home c) fun gw => { gw with
      router := if a.v2 then gw.router.deregisterAll a.tunnelID else gw.router.deregister a.tunnelID },
      .unlease leaseID)
  | .unlease leaseID => ((w.request fate (·.releaseLease leaseID)).1, .failed .write)
  | .install a leaseID token =>
    -- whatever entry is there is overwritten, and no resume timer is stopped
    ((w.updateGateway (w.home c) fun gw => addTunnel gw a c leaseID).note (.attached (w.home c) a.tunnelID c),
      if token ≠ "" then .storeToken a token else .register a)
  -- an error is logged only; the session is registered after this request
  | .storeToken a token => ((w.setResumable env (w.home c) fate a.tunnelID token).1, .register a)
  | .register a =>
    let g := w.home c
    let addrs := sessionAddrs (env.config g) a
    let register := fun s => Server.registerTunnel env.repo s w.now a.tunnelID a.agentID addrs.1 addrs.2
    let (w', r) := w.request fate register
    -- the session is stored even where the reply is lost
    let w' := if fate ≠ .lost && (register w.server).2.toBool then w'.note (.registered g a.tunnelID) else w'
    match r with
    | some () =>
      ((w'.updateGateway g fun gw => { gw with activeTunnels := gw.activeTunnels + 1 }).setPc c .beat
        (.waiting a.tunnelID), .serving a.tunnelID)
    | none => (w', .take a.tunnelID .registryError)
  | p => (w, p)

/-! ## handleSessionResume -/

def stepResume (env : Env σ) (w : World σ) (c : ConnID) (fate : Fate) : Pc → World σ × Pc
  | .lookup token rest =>
    match fate, env.repo.getResumable w.server.store w.now token with
    | .ok, .ok sess => (w, .cancelTimer sess.tunnelID rest)
    | _, _ => (w, .refuse .expired rest)
  | .refuse status rest =>
    if fate = .ok then
      let next := fullAuth (env.config (w.home c)) false rest
      ((w.send c (.resumeResp status "" "")).sendOption c next.2, next.1)
    else (w, .failed .resumeReply)
  | .cancelTimer t rest => (w.stopTimer (w.home c) t, .drawNew t rest)
  | .drawNew t rest =>
    let (w, token) := w.generateResumeToken env fate
    (w, .attach t (token.getD "") rest)
  | .attach t token rest =>
    match (w.gateway (w.home c)).tunnels.lookup t with
    | none => (w, .refuse .notFound rest)
    | some at_ =>
      ((w.updateGateway (w.home c) fun gw => { gw with
          tunnels := gw.tunnels.insert t { at_ with conn := some c, suspended := false } }).note
        (.attached (w.home c) t c),
        if token ≠ "" then .storeNew t token else .reply t "")
  | .storeNew t token =>
    let (w, stored) := w.setResumable env (w.home c) fate t token
    (w, .reply t (if stored then token else ""))
  | .reply t token =>
    if fate = .ok then
      ((w.send c (.resumeResp .resumed t token)).setPc c .beat (.waiting t), .serving t)
    else (w, .failed .resumeReply)
  | p => (w, p)

/-! ## agentStreamLoop and suspendTunnel -/

def stepStream (env : Env σ) (w : World σ) (c : ConnID) (fate : Fate) : Pc → World σ × Pc
  | .pulse t =>
    let (w, r) := w.heartbeat env fate t
    (w, if r = some false then .take t .sessionExpired else .serving t)
  | .suspend t =>
    let g := w.home c
    match (w.gateway g).tunnels.lookup t with
    | none => (w, .done)
    | some at_ =>
      match w.generateResumeToken env fate with
      | (w, none) => (w, .take t .agentDisconnect)
      | (w, some token) =>
        match at_.conn with
        -- `at.conn.CloseWithError` on a tunnel that is suspended already
        | none => (w.updateGateway g fun gw => { gw with crashed := true }, .done)
        | some _ =>
          ((w.updateGateway g fun gw => { gw with
              tunnels := gw.tunnels.insert t { at_ with conn := none, suspended := true } }).note (.suspended g t c),
            .storeResume t token)
  | .storeResume t token =>
    let (w, stored) := w.setResumable env (w.home c) fate t token
    (w, if stored then .arm t else .take t .agentDisconnect)
  | .arm t =>
    ({ w with timer := Function.update w.timer c (.armed t (w.now + (env.config (w.home c)).sessionResumeTTL)) },
      .record t)
  | .record t =>
    (w.updateGateway (w.home c) fun gw => { gw with pendingResumeTimers := gw.pendingResumeTimers.insert t c }, .done)
  | p => (w, p)

/-! ## removeTunnel and finalizeTunnelRemoval -/

/-- Where a goroutine goes on after a removal. -/
def removed (r : Role) (t : String) (reason : Reason) : Pc :=
  match r, reason with
  | .beat, _ => .ticked t .removed
  | .main, .registryError => .failed .register
  | _, _ => .done

def stepRemoval (env : Env σ) (w : World σ) (c : ConnID) (r : Role) (fate : Fate) : Pc → World σ × Pc
  | .cancelPending t => (w.stopTimer (w.home c) t, .take t .resumeTimeout)
  | .take t reason =>
    -- the entry goes by its tunnel id, whichever connection it holds
    match (w.gateway (w.home c)).tunnels.lookup t with
    | none => (w, removed r t reason)
    | some at_ =>
      (w.updateGateway (w.home c) fun gw => { gw with tunnels := gw.tunnels.erase t }, .dropRoutes t at_.leaseID reason)
  | .dropRoutes t leaseID reason =>
    (w.updateGateway (w.home c) fun gw => { gw with
      router := gw.router.deregisterAll t, activeTunnels := gw.activeTunnels - 1 },
      if leaseID ≠ "" then .release t leaseID reason else .deregister t reason)
  | .release t leaseID reason => ((w.request fate (·.releaseLease leaseID)).1, .deregister t reason)
  | .deregister t reason =>
    ((w.request fate fun s => s.deregisterTunnel env.repo w.now t).1, removed r t reason)
  | p => (w, p)

/-! ## heartbeatLoop -/

def stepBeat (env : Env σ) (w : World σ) (c : ConnID) (fate : Fate) : Pc → World σ × Pc
  | .beat t =>
    let (w, r) := w.heartbeat env fate t
    (w, match r with
      -- `continue`
      | none => .ticked t .failed
      | some true => .peek t
      | some false => .take t .sessionExpired)
  | .peek t =>
    match (w.gateway (w.home c)).tunnels.lookup t with
    | none => (w, .ticked t .gone)
    | some at_ => (w, if at_.leaseID ≠ "" then .renew t at_.leaseID else .ticked t .unleased)
  | .renew t leaseID =>
    let (w', r) := w.request fate (·.renewLease w.now leaseID (env.config (w.home c)).leaseTTL)
    match r with
    | some l => (w'.note (.granted (w.home c) t l.expiresAt), .ticked t .renewed)
    | none => (w', .take t .leaseLost)
  | .ticked t how => (w, if how = .removed then .done else .waiting t)
  | p => (w, p)

/-! ## Any order of steps -/

def World.stream (w : World σ) (c : ConnID) (f : String → Pc) : Option (World σ) :=
  match w.pc c .main with
  | .serving t => if (w.gateway (w.home c)).crashed then none else some (w.setPc c .main (f t))
  | _ => none

def World.ticker (w : World σ) (c : ConnID) (f : String → Pc) : Option (World σ) :=
  match w.pc c .beat with
  | .waiting t => if (w.gateway (w.home c)).crashed then none else some (w.setPc c .beat (f t))
  | _ => none

inductive Label
  | clock (d : Nat)
  /-- Gateway `g` accepts connection `c`, which sends these frames. -/
  | accept (c : ConnID) (g : String) (frames : List Frame)
  | run (c : ConnID) (r : Role) (fate : Fate)
  /-- `AcceptStream` fails: the agent's connection is gone. -/
  | lost (c : ConnID)
  /-- The gateway shuts down. -/
  | cancelled (c : ConnID)
  /-- The agent sends a heartbeat. -/
  | pulse (c : ConnID)
  /-- The ticker of `heartbeatLoop` fires. -/
  | tick (c : ConnID)
  /-- `heartbeatLoop` sees its context done. -/
  | quit (c : ConnID)
  /-- The timer armed by `c` fires. -/
  | fire (c : ConnID)
  | sweepLeases
  | sweepSessions

def Pc.runnable : Pc → Bool
  | .idle | .serving _ | .waiting _ | .done | .failed _ => false
  | _ => true

def stepPc (env : Env σ) (w : World σ) (c : ConnID) (r : Role) (fate : Fate) : Pc → World σ × Pc
  | p@(.lookup ..) | p@(.refuse ..) | p@(.cancelTimer ..) | p@(.drawNew ..) | p@(.attach ..) | p@(.storeNew ..)
  | p@(.reply ..) => stepResume env w c fate p
  | p@(.pulse _) | p@(.suspend _) | p@(.storeResume ..) | p@(.arm _) | p@(.record _) => stepStream env w c fate p
  | p@(.cancelPending _) | p@(.take ..) | p@(.dropRoutes ..) | p@(.release ..) | p@(.deregister ..) =>
    stepRemoval env w c r fate p
  | p@(.beat _) | p@(.peek _) | p@(.renew ..) | p@(.ticked ..) => stepBeat env w c fate p
  | p => stepHandshake env w c fate p

def World.step (env : Env σ) (w : World σ) : Label → Option (World σ)
  | .clock d => some { w with now := w.now + d }
  | .accept c g frames =>
    if c ∉ w.conns ∧ ¬ (w.gateway g).crashed then
      let start := handleAgentConnection (env.config g) frames
      some (({ w with conns := c :: w.conns, home := Function.update w.home c g }.sendOption c start.2).setPc c .main
        start.1)
    else none
  | .run c r fate =>
    if (w.pc c r).runnable ∧ ¬ (w.gateway (w.home c)).crashed then
      let o := stepPc env w c r fate (w.pc c r)
      some (o.1.setPc c r o.2)
    else none
  | .lost c => w.stream c fun t =>
      let cfg := env.config (w.home c)
      if cfg.sessionResumeEnabled && cfg.sessionRepo then .suspend t else .take t .streamError
  | .cancelled c => w.stream c fun t => .take t .contextCanceled
  | .pulse c => w.stream c fun t => .pulse t
  | .tick c => w.ticker c fun t => .beat t
  | .quit c => w.ticker c fun _ => .done
  | .fire c =>
    match w.timer c with
    | .armed t due =>
      if due ≤ w.now ∧ ¬ (w.gateway (w.home c)).crashed then
        some ({ w with timer := Function.update w.timer c .fired }.setPc c .timer (.cancelPending t))
      else none
    | _ => none
  | .sweepLeases => some { w with server := w.server.releaseExpiredLeases w.now }
  | .sweepSessions => some { w with server := w.server.cleanupExpired env.repo w.now env.sessionTTL }

end TunnelEdge.Gateway
