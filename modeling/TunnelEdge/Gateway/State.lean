import Mathlib.Logic.Function.Basic
import TunnelEdge.Gateway.Router
import TunnelEdge.Registry.Server
/-!
# Gateways, connections and their goroutines

The state of any number of gateways (`internal/gateway`) with one registry. A
gateway is known by its relay id. An agent's QUIC connection is served by up to
three goroutines: the one of `handleAgentConnection`, which runs the handshake and
then `agentStreamLoop`; the one of `heartbeatLoop`; and the one that a resume
timer starts when it fires. Each is a program counter, and a program counter is
the next thing a goroutine does to shared state: one locked section, one request
to the registry or the session store, one write on the control stream.

What the goroutines share is modelled as the source has it. The stream manager,
the distributed router, the rate limiter and the public side are left out.
-/

set_option linter.dupNamespace false

namespace TunnelEdge.Gateway

open GoLib Store Registry

abbrev ConnID := Nat

/-- The options of a gateway that the handshake and the tunnel life cycle read. -/
structure Config where
  leaseTTL : Duration := 45 * second
  maxTunnelsPerAgent : Nat := 0
  sessionResumeEnabled : Bool := false
  /-- `SessionRepo != nil` -/
  sessionRepo : Bool := false
  sessionResumeTTL : Duration := 30 * second
  baseDomain : String := ""
  publicPort : String := ""
  region : String := ""
  /-- `Authenticator.Authenticate`: the agent id of a token. -/
  authenticate : String → Option String := fun _ => none

/-- `activeTunnel` with the parts of its `domain.ActiveTunnel` that are read. -/
structure ActiveTunnel where
  agentID : String
  routes : List TunnelRoute
  conn : Option ConnID
  routeMap : GoMap String String
  leaseID : String
  suspended : Bool := false

/-- `Gateway`: the maps its goroutines share. A resume timer is known by the
connection whose suspension armed it. -/
structure Gateway where
  tunnels : GoMap String ActiveTunnel := ∅
  router : TunnelRouter
  pendingResumeTimers : GoMap String ConnID := ∅
  /-- The `ActiveTunnels` gauge. -/
  activeTunnels : Int := 0
  /-- A goroutine dereferenced a nil connection, which ends the process. -/
  crashed : Bool := false

/-! ## The control stream -/

inductive FrameKind
  | hello | resume | auth | authV2
deriving DecidableEq, Repr

/-- What the gateway reads from an agent's first stream. -/
inductive Frame
  | hello (version : Nat)
  | resume (token : String)
  | auth (token : String)
  | authV2 (token : String) (tunnels : List TunnelRoute)
  /-- The type byte is read, the body does not decode. -/
  | malformed (kind : FrameKind)
  | unknown
deriving DecidableEq, Repr

def protocolVersion : Nat := 3

inductive AuthStatus
  | ok | error | versionError
deriving DecidableEq, Repr

inductive ResumeStatus
  | resumed | expired | notFound
deriving DecidableEq, Repr

inductive Message
  | authResponse (status : AuthStatus) (tunnelID publicURL : String)
  | authV2Response (status : AuthStatus) (tunnelID : String) (tunnels : List (String × String))
      (resumeToken region : String)
  | resumeResp (status : ResumeStatus) (tunnelID newToken : String)
deriving DecidableEq, Repr

/-! ## Goroutines -/

inductive Failure
  | read | badHello | version | badResume | resumeReply | unknownType | decode | unauthorized
  | quota | label | lease | write | register
deriving DecidableEq, Repr

inductive Reason
  | contextCanceled | streamError | agentDisconnect | sessionExpired | leaseLost | registryError | resumeTimeout
deriving DecidableEq, Repr

/-- How a round of `heartbeatLoop` ended: the heartbeat failed, there was no
tunnel (or none with a lease), the lease was renewed, the tunnel was removed. -/
inductive TickEnd
  | failed | gone | unleased | renewed | removed
deriving DecidableEq, Repr

structure Auth where
  agentID : String
  routes : List TunnelRoute
  v2 : Bool
deriving DecidableEq, Repr

def Auth.tunnelID (a : Auth) : String := newTunnelID a.agentID

inductive Pc
  | idle
  -- handleV1Auth, handleV2Auth, handleAgentConnection
  | quota (a : Auth)
  | routeDefault (a : Auth)
  | acquire (a : Auth)
  | unrouteDefault (a : Auth)
  | routeLabels (a : Auth) (leaseID : String) (rest : List TunnelRoute)
  | drawToken (a : Auth) (leaseID : String)
  | respond (a : Auth) (leaseID token : String)
  | unroute (a : Auth) (leaseID : String)
  | unlease (leaseID : String)
  | install (a : Auth) (leaseID token : String)
  | storeToken (a : Auth) (token : String)
  | register (a : Auth)
  -- handleSessionResume
  | lookup (token : String) (rest : List Frame)
  | refuse (status : ResumeStatus) (rest : List Frame)
  | cancelTimer (t : String) (rest : List Frame)
  | drawNew (t : String) (rest : List Frame)
  | attach (t token : String) (rest : List Frame)
  | storeNew (t token : String)
  | reply (t token : String)
  -- agentStreamLoop
  | serving (t : String)
  | pulse (t : String)
  -- suspendTunnel
  | suspend (t : String)
  | storeResume (t token : String)
  | arm (t : String)
  | record (t : String)
  -- finalizeTunnelRemoval starts here, removeTunnel at the next
  | cancelPending (t : String)
  | take (t : String) (reason : Reason)
  | dropRoutes (t leaseID : String) (reason : Reason)
  | release (t leaseID : String) (reason : Reason)
  | deregister (t : String) (reason : Reason)
  -- heartbeatLoop
  | waiting (t : String)
  | beat (t : String)
  | peek (t : String)
  | renew (t leaseID : String)
  | ticked (t : String) (how : TickEnd)
  | done
  | failed (f : Failure)
deriving DecidableEq, Repr

/-- The goroutines of a connection. -/
inductive Role
  | main | beat | timer
deriving DecidableEq, Repr

/-- The timer a suspension arms: `AfterFunc` for tunnel `t`, due at a time. -/
inductive Timer
  | none
  | armed (t : String) (due : Time)
  | stopped
  | fired
deriving DecidableEq, Repr

/-- What later statements need to remember of a run, newest first. -/
inductive Event
  /-- Gateway `g` received a lease for tunnel `t` with this `ExpiresAt`. -/
  | granted (g t : String) (expiresAt : Time)
  /-- The session of `t` was stored for a `RegisterTunnel` of `g`. -/
  | registered (g t : String)
  /-- `c` became the connection of `t`, by `addTunnel` or by a resume. -/
  | attached (g t : String) (c : ConnID)
  /-- The end of `c` marked `t` as suspended. -/
  | suspended (g t : String) (c : ConnID)
deriving DecidableEq, Repr

/-- Gateways by relay id, connections, and one registry. -/
structure World (σ : Type) where
  now : Time := 0
  server : Server σ
  gateway : String → Gateway
  /-- The connections accepted so far. -/
  conns : List ConnID := []
  home : ConnID → String := fun _ => ""
  pc : ConnID → Role → Pc := fun _ _ => .idle
  timer : ConnID → Timer := fun _ => .none
  sent : ConnID → List Message := fun _ => []
  /-- How many lease ids and tokens have been drawn. -/
  drawn : Nat := 0
  log : List Event := []

/-- What a run takes from outside: the gateways' options, the session store, the
session TTL of the registry, and the sources of ids and tokens. -/
structure Env (σ : Type) where
  config : String → Config
  repo : SessionRepository σ
  sessionTTL : Duration
  uuid : Nat → String
  token : Nat → String
  uuid_inj : Function.Injective uuid
  uuid_ne : ∀ n, uuid n ≠ ""
  token_inj : Function.Injective token
  token_ne : ∀ n, token n ≠ ""

namespace World

variable {σ : Type}

def init (env : Env σ) (start : Time) (store : σ) : World σ where
  now := start
  server := { store }
  gateway g := { router := { domain := (env.config g).baseDomain } }

def updateGateway (w : World σ) (g : String) (f : Gateway → Gateway) : World σ :=
  { w with gateway := Function.update w.gateway g (f (w.gateway g)) }

def setPc (w : World σ) (c : ConnID) (r : Role) (p : Pc) : World σ :=
  { w with pc := Function.update w.pc c (Function.update (w.pc c) r p) }

def send (w : World σ) (c : ConnID) (m : Message) : World σ :=
  { w with sent := Function.update w.sent c (w.sent c ++ [m]) }

def sendOption (w : World σ) (c : ConnID) : Option Message → World σ
  | none => w
  | some m => w.send c m

def note (w : World σ) (e : Event) : World σ := { w with log := e :: w.log }

end World

end TunnelEdge.Gateway
