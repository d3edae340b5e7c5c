import TunnelEdge.Lib.GoMap
/-!
# Domain types

The records of `internal/domain` that the registry and the gateway pass
around, the tunnel id of an agent, and the label check of a V2 handshake.
Times are nanoseconds since Go's zero `time.Time`, so `IsZero` is `= 0` and
`Before` is `<`.
-/

namespace TunnelEdge

open GoLib

/-- `time.Time` -/
abbrev Time := Int

/-- `time.Duration` -/
abbrev Duration := Int

/-- `time.Second` -/
def second : Duration := 1000000000

/-! ## gRPC status -/

/-- The gRPC codes the coordinators answer with. -/
inductive Code
  | invalidArgument | alreadyExists | notFound | unavailable | internal
deriving DecidableEq, Repr

/-- `status.Error(code, msg)` -/
structure Status where
  code : Code
  msg : String
deriving DecidableEq, Repr

/-! ## Leases and relays -/

structure Lease where
  leaseID : String
  tunnelID : String
  relayID : String
  expiresAt : Time
  version : Int
deriving DecidableEq, Repr

structure LeaseRequest where
  tunnelID : String
  relayID : String
  ttl : Duration
deriving DecidableEq, Repr

structure RelayInfo where
  relayID : String
  advertiseAddr : String
  state : String
  activeTunnels : Int
  activeStreams : Int
  lastSeen : Time
  region : String
deriving DecidableEq, Repr

/-! ## Sessions and tunnels -/

structure Session where
  tunnelID : String
  agentID : String
  ownerRelayID : String := ""
  leaseID : String := ""
  publicAddr : String := ""
  localAddr : String := ""
  remoteAddr : String := ""
  createdAt : Time := 0
  lastHeartbeat : Time := 0
  resumeToken : String := ""
  resumeDeadline : Option Time := none
deriving DecidableEq, Repr

structure TunnelRoute where
  label : String
  localAddr : String := ""
  tunnelType : String := ""
deriving DecidableEq, Repr

/-- `NewTunnelID`: `"t-" + agentID`. -/
def newTunnelID (agentID : String) : String := "t-" ++ agentID

theorem newTunnelID_inj {a b : String} (h : newTunnelID a = newTunnelID b) : a = b := by
  have h := congrArg String.toList h
  simp only [newTunnelID, String.toList_append, List.append_cancel_left_eq] at h
  exact String.toList_inj.1 h

/-- `ActiveTunnel.RouteMap`: of two routes with one label the later one wins. -/
def routeMap (routes : List TunnelRoute) : GoMap String String :=
  routes.foldl (fun m r => m.insert r.label r.localAddr) ∅

/-! ## Labels -/

/-- `[a-z0-9]` -/
def isLabelAlnum (c : Char) : Bool := ('a' ≤ c && c ≤ 'z') || ('0' ≤ c && c ≤ '9')

/-- `labelRegexp`: `^[a-z0-9]([a-z0-9-]{0,62}[a-z0-9])?$` -/
def labelRegexp : List Char → Bool
  | [] => false
  | c :: rest =>
    isLabelAlnum c && (rest.isEmpty || (rest.dropLast.all (fun d => isLabelAlnum d || d == '-') &&
      rest.dropLast.length ≤ 62 && rest.getLast?.any isLabelAlnum))

/-- What `ValidateLabel` reports, all with code `INVALID_ARGUMENT`. -/
inductive LabelError
  | empty
  | tooLong (len : Nat)
  | notDNSSafe (label : String)
deriving DecidableEq, Repr

def validateLabel (label : String) : Except LabelError Unit :=
  if label = "" then .error .empty
  else if label.utf8ByteSize > 64 then .error (.tooLong label.utf8ByteSize)
  else if labelRegexp label.toList then .ok ()
  else .error (.notDNSSafe label)

end TunnelEdge
