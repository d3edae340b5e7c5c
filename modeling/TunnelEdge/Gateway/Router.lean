import TunnelEdge.Domain
/-!
# The tunnel router

`TunnelRouter` (`internal/gateway/router.go`): the public hostnames a gateway
serves, each with the tunnel and the label behind it. An agent's default host is
`<agent>.<domain>`, a labelled one `<label>-<agent>.<domain>`; both live in one
map. Every method holds the router's lock throughout.
-/

namespace TunnelEdge.Gateway

open GoLib

structure RouteKey where
  tunnelID : String
  label : String
deriving DecidableEq, Repr

structure TunnelRouter where
  hostMap : GoMap String RouteKey := ∅
  domain : String

namespace TunnelRouter

/-- `strings.TrimPrefix(tunnelID, "t-")` -/
def trimTunnelPrefix (tunnelID : String) : String :=
  if ['t', '-'].isPrefixOf tunnelID.toList then String.ofList (tunnelID.toList.drop 2) else tunnelID

def hostnameForTunnel (domain tunnelID : String) : String := trimTunnelPrefix tunnelID ++ "." ++ domain

def hostnameForLabel (domain tunnelID label : String) : String :=
  label ++ "-" ++ trimTunnelPrefix tunnelID ++ "." ++ domain

/-- `Register`: the default host, under the label `default`. -/
def register (r : TunnelRouter) (tunnelID : String) : TunnelRouter × String :=
  let hostname := hostnameForTunnel r.domain tunnelID
  ({ r with hostMap := r.hostMap.insert hostname ⟨tunnelID, "default"⟩ }, hostname)

def registerLabel (r : TunnelRouter) (tunnelID label : String) : TunnelRouter × String :=
  let hostname := hostnameForLabel r.domain tunnelID label
  ({ r with hostMap := r.hostMap.insert hostname ⟨tunnelID, label⟩ }, hostname)

/-- `Deregister` deletes the default host, whoever has it. -/
def deregister (r : TunnelRouter) (tunnelID : String) : TunnelRouter :=
  { r with hostMap := r.hostMap.erase (hostnameForTunnel r.domain tunnelID) }

def deregisterLabel (r : TunnelRouter) (tunnelID label : String) : TunnelRouter :=
  { r with hostMap := r.hostMap.erase (hostnameForLabel r.domain tunnelID label) }

/-- `DeregisterAll` goes by the tunnel id stored with the host. -/
def deregisterAll (r : TunnelRouter) (tunnelID : String) : TunnelRouter :=
  { r with hostMap := GoMap.filter (fun _ key => key.tunnelID != tunnelID) r.hostMap }

def lookupWithLabel (r : TunnelRouter) (hostname : String) : Option (String × String) :=
  (r.hostMap.lookup hostname).map fun key => (key.tunnelID, key.label)

theorem trimTunnelPrefix_newTunnelID (agentID : String) : trimTunnelPrefix (newTunnelID agentID) = agentID := by
  have h : (newTunnelID agentID).toList = 't' :: '-' :: agentID.toList := by
    simp [newTunnelID, String.toList_append]
  simp [trimTunnelPrefix, h]

@[simp] theorem register_hostMap (r : TunnelRouter) (t h : String) : (r.register t).1.hostMap.lookup h =
    if h = hostnameForTunnel r.domain t then some ⟨t, "default"⟩ else r.hostMap.lookup h := by
  simp [register]

@[simp] theorem registerLabel_hostMap (r : TunnelRouter) (t l h : String) : (r.registerLabel t l).1.hostMap.lookup h =
    if h = hostnameForLabel r.domain t l then some ⟨t, l⟩ else r.hostMap.lookup h := by
  simp [registerLabel]

@[simp] theorem deregister_hostMap (r : TunnelRouter) (t h : String) : (r.deregister t).hostMap.lookup h =
    if h = hostnameForTunnel r.domain t then none else r.hostMap.lookup h := by
  simp [deregister]

@[simp] theorem deregisterLabel_hostMap (r : TunnelRouter) (t l h : String) :
    (r.deregisterLabel t l).hostMap.lookup h =
      if h = hostnameForLabel r.domain t l then none else r.hostMap.lookup h := by
  simp [deregisterLabel]

@[simp] theorem deregisterAll_hostMap (r : TunnelRouter) (t h : String) :
    (r.deregisterAll t).hostMap.lookup h = (r.hostMap.lookup h).filter fun key => key.tunnelID != t := by
  simp [deregisterAll]

end TunnelRouter

end TunnelEdge.Gateway
