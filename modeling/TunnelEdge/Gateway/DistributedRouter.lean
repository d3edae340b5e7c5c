import TunnelEdge.Lib.Runs
import TunnelEdge.Gateway.Router
import TunnelEdge.Registry.Delivery
import TunnelEdge.Registry.Wire
/-!
# The distributed router

`DistributedRouter` (`internal/gateway/distributed_router.go`): a gateway's copy
of which peer owns which tunnel, kept by `handleEvent` from the registry's watch
events. Every method holds the router's lock while it works on the tables, so a
gateway's router is a fold of `handleEvent` over the events it has consumed.

Two exact results: the copy follows the owner of a tunnel, and the addresses in
the routes follow the relays, each exactly as long as every event meets a
condition in the tables it finds. They are about the events as a registry sends them;
the wire leaves what `handleEvent` reads, so they hold of what a gateway receives too.
-/

namespace TunnelEdge.Gateway

open GoLib TunnelRouter Registry

structure RemoteRoute where
  tunnelID : String
  label : String
  ownerRelayID : String
  ownerAddr : String
deriving DecidableEq, Repr

/-- Of the local `TunnelRouter` it only uses `HostnameForTunnel`, so the domain stands for it. -/
structure DistributedRouter where
  routes : GoMap String RemoteRoute := ∅
  relays : GoMap String String := ∅
  selfRelayID : String
  domain : String

namespace DistributedRouter

/-- Nothing for an unknown hostname, nor for one that this gateway owns. -/
def lookup (d : DistributedRouter) (hostname : String) : Option RemoteRoute :=
  (d.routes.lookup hostname).filter fun r => r.ownerRelayID != d.selfRelayID

/-- `d.relays[relayID]`, empty for an unknown relay. -/
def addr (d : DistributedRouter) (relayID : String) : String := (d.relays.lookup relayID).getD ""

def upsertTunnelRoutes (d : DistributedRouter) (tunnelID ownerRelayID : String) : DistributedRouter :=
  let ownerAddr := d.addr ownerRelayID
  let defaultHost := hostnameForTunnel d.domain tunnelID
  { d with routes := d.routes.insert defaultHost ⟨tunnelID, "default", ownerRelayID, ownerAddr⟩ }

def removeTunnelRoutes (d : DistributedRouter) (tunnelID : String) : DistributedRouter :=
  { d with routes := GoMap.filter (fun _ route => route.tunnelID != tunnelID) d.routes }

end DistributedRouter

/-- The owner that a `tunnel_upserted` carries: the session's, or that of the lease. -/
def upsertedOwner (sess : Session) (lease : Option Lease) : String :=
  if sess.ownerRelayID = "" then (lease.map Lease.relayID).getD "" else sess.ownerRelayID

namespace DistributedRouter

def handleEvent (d : DistributedRouter) (event : RegistryEvent) : DistributedRouter :=
  match event.type with
  | .relayUpserted | .relayHealthUpdated =>
    match event.relay with
    | none => d
    | some relay =>
      if relay.advertiseAddr ≠ "" then { d with relays := d.relays.insert relay.relayID relay.advertiseAddr } else d
  | .tunnelUpserted =>
    match event.tunnel with
    | none => d
    | some sess =>
      let ownerRelayID := upsertedOwner sess event.lease
      if ownerRelayID = "" ∨ ownerRelayID = d.selfRelayID then d
      else d.upsertTunnelRoutes sess.tunnelID ownerRelayID
  | .leaseAcquired =>
    match event.lease with
    | none => d
    | some lease =>
      if lease.relayID = "" ∨ lease.relayID = d.selfRelayID then d
      else d.upsertTunnelRoutes lease.tunnelID lease.relayID
  | .leaseReleased =>
    match event.lease with
    | none => d
    | some lease => d.removeTunnelRoutes lease.tunnelID
  | .tunnelDeleted =>
    match event.tunnel with
    | none => d
    | some sess => d.removeTunnelRoutes sess.tunnelID

/-- `UpdateRelayAddr` also refreshes the routes of the relay. -/
def updateRelayAddr (d : DistributedRouter) (relayID addr : String) : DistributedRouter :=
  if relayID = "" ∨ addr = "" then d
  else
    { d with
      relays := d.relays.insert relayID addr
      routes := GoMap.mapValues
        (fun route => if route.ownerRelayID = relayID then { route with ownerAddr := addr } else route) d.routes }

end DistributedRouter

/-! ## What an event says -/

inductive OwnerChange
  | assigned (tunnelID relayID : String)
  | gone (tunnelID : String)
deriving DecidableEq, Repr

namespace OwnerChange

def tunnelID : OwnerChange → String
  | .assigned t _ | .gone t => t

def owner : OwnerChange → Option String
  | .assigned _ relayID => some relayID
  | .gone _ => none

end OwnerChange

/-- Only a `tunnel_upserted` with an owner and a `lease_acquired` with a relay assign a tunnel. -/
def ownerChange (event : RegistryEvent) : Option OwnerChange :=
  match event.type with
  | .relayUpserted | .relayHealthUpdated => none
  | .tunnelUpserted => event.tunnel.bind fun sess =>
    let ownerRelayID := upsertedOwner sess event.lease
    if ownerRelayID = "" then none else some (.assigned sess.tunnelID ownerRelayID)
  | .leaseAcquired => event.lease.bind fun lease =>
    if lease.relayID = "" then none else some (.assigned lease.tunnelID lease.relayID)
  | .leaseReleased => event.lease.map fun lease => .gone lease.tunnelID
  | .tunnelDeleted => event.tunnel.map fun sess => .gone sess.tunnelID

@[simp] theorem ownerChange_acquired (lease : Lease) : ownerChange (.acquired lease) =
    if lease.relayID = "" then none else some (.assigned lease.tunnelID lease.relayID) := rfl

@[simp] theorem ownerChange_upserted (sess : Session) : ownerChange (.upserted sess) =
    if sess.ownerRelayID = "" then none else some (.assigned sess.tunnelID sess.ownerRelayID) := by
  have howner : upsertedOwner sess none = sess.ownerRelayID := by
    unfold upsertedOwner
    split
    · exact ‹sess.ownerRelayID = ""›.symm
    · rfl
  have h : ownerChange (.upserted sess) = if upsertedOwner sess none = "" then none
      else some (.assigned sess.tunnelID (upsertedOwner sess none)) := rfl
  rw [h, howner]

/-- The advertise address that an event brings, and whose it is. -/
def relayAddr (event : RegistryEvent) : Option (String × String) :=
  match event.type with
  | .relayUpserted | .relayHealthUpdated => event.relay.bind fun relay =>
    if relay.advertiseAddr = "" then none else some (relay.relayID, relay.advertiseAddr)
  | _ => none

theorem ownerChange_eq_none {event : RegistryEvent} {x : String × String} (h : relayAddr event = some x) :
    ownerChange event = none := by
  obtain ⟨type, tunnel, lease, relay, health⟩ := event
  cases type <;> first | rfl | cases h

namespace DistributedRouter

variable (d : DistributedRouter) (event : RegistryEvent)

theorem handleEvent_eq : d.handleEvent event =
    match ownerChange event, relayAddr event with
    | some (.assigned t relayID), _ => if relayID = d.selfRelayID then d else d.upsertTunnelRoutes t relayID
    | some (.gone t), _ => d.removeTunnelRoutes t
    | none, some (relayID, addr) => { d with relays := d.relays.insert relayID addr }
    | none, none => d := by
  obtain ⟨type, tunnel, lease, relay, health⟩ := event
  cases type with
  | tunnelUpserted =>
    cases tunnel with
    | none => rfl
    | some sess => by_cases h : upsertedOwner sess lease = "" <;> simp [handleEvent, ownerChange, relayAddr, h]
  | leaseAcquired =>
    cases lease with
    | none => rfl
    | some lease => by_cases h : lease.relayID = "" <;> simp [handleEvent, ownerChange, relayAddr, h]
  | tunnelDeleted => cases tunnel <;> rfl
  | leaseReleased => cases lease <;> rfl
  | relayUpserted | relayHealthUpdated =>
    cases relay with
    | none => rfl
    | some relay => by_cases h : relay.advertiseAddr = "" <;> simp [handleEvent, ownerChange, relayAddr, h]

@[simp] theorem handleEvent_selfRelayID : (d.handleEvent event).selfRelayID = d.selfRelayID := by
  rw [handleEvent_eq]
  split
  · split <;> rfl
  all_goals rfl

@[simp] theorem handleEvent_domain : (d.handleEvent event).domain = d.domain := by
  rw [handleEvent_eq]
  split
  · split <;> rfl
  all_goals rfl

theorem handleEvent_relays : (d.handleEvent event).relays =
    match relayAddr event with
    | none => d.relays
    | some (relayID, addr) => d.relays.insert relayID addr := by
  rw [handleEvent_eq]
  cases hr : relayAddr event with
  | some x => rw [ownerChange_eq_none hr]
  | none =>
    split
    · split <;> rfl
    · rfl
    · cases ‹none = some _›
    · rfl

theorem handleEvent_routes (host : String) : (d.handleEvent event).routes.lookup host =
    match ownerChange event with
    | some (.assigned t relayID) =>
      if relayID ≠ d.selfRelayID ∧ host = hostnameForTunnel d.domain t then
        some ⟨t, "default", relayID, d.addr relayID⟩
      else d.routes.lookup host
    | some (.gone t) => (d.routes.lookup host).filter fun route => route.tunnelID != t
    | none => d.routes.lookup host := by
  rw [handleEvent_eq]
  cases ownerChange event with
  | none => cases relayAddr event <;> rfl
  | some change =>
    cases change with
    | gone t => simp [removeTunnelRoutes]
    | assigned t relayID => by_cases h : relayID = d.selfRelayID <;> simp [upsertTunnelRoutes, h]

end DistributedRouter

/-! ## The owner of a tunnel -/

def lastOwner (tunnelID : String) (events : List RegistryEvent) : Option String :=
  events.foldl (fun owner event =>
    match ownerChange event with
    | none => owner
    | some change => if change.tunnelID = tunnelID then change.owner else owner) none

theorem lastOwner_snoc (tunnelID : String) (events : List RegistryEvent) (event : RegistryEvent) :
    lastOwner tunnelID (events ++ [event]) =
      match ownerChange event with
      | none => lastOwner tunnelID events
      | some change => if change.tunnelID = tunnelID then change.owner else lastOwner tunnelID events := by
  simp [lastOwner]

namespace DistributedRouter

/-- The event leaves the right route under the hostname of `tunnelID`, judged in
the table it finds: nothing is there when the tunnel comes to this gateway, what
a removal means to delete is under the tunnel's own id, and an event about
another id with the same hostname does not change the owner. -/
def Settles (tunnelID : String) (d : DistributedRouter) (event : RegistryEvent) : Prop :=
  let route := d.routes.lookup (hostnameForTunnel d.domain tunnelID)
  match ownerChange event with
  | none => True
  | some (.assigned t relayID) =>
    if t = tunnelID then relayID = d.selfRelayID → route = none
    else hostnameForTunnel d.domain t = hostnameForTunnel d.domain tunnelID → relayID ≠ d.selfRelayID →
      route.map RemoteRoute.ownerRelayID = some relayID
  | some (.gone t) =>
    if t = tunnelID then ∀ r, route = some r → r.tunnelID = tunnelID else ∀ r, route = some r → r.tunnelID ≠ t

/-- Routes lead to peers, each under the default hostname of its tunnel. -/
structure Peers (d : DistributedRouter) : Prop where
  hosts : ∀ host r, d.routes.lookup host = some r → host = hostnameForTunnel d.domain r.tunnelID
  owners : ∀ host r, d.routes.lookup host = some r → r.ownerRelayID ≠ d.selfRelayID

theorem Peers.handleEvent {d : DistributedRouter} (hd : d.Peers) (event : RegistryEvent) :
    (d.handleEvent event).Peers := by
  -- a route is new, or it was there before
  have hold : ∀ host r, (d.handleEvent event).routes.lookup host = some r →
      (host = hostnameForTunnel d.domain r.tunnelID ∧ r.ownerRelayID ≠ d.selfRelayID) := by
    intro host r hr
    have hbefore : d.routes.lookup host = some r →
        (host = hostnameForTunnel d.domain r.tunnelID ∧ r.ownerRelayID ≠ d.selfRelayID) :=
      fun h => ⟨hd.hosts host r h, hd.owners host r h⟩
    rw [handleEvent_routes] at hr
    split at hr
    · split at hr
      · rename_i hnew
        cases hr
        exact ⟨hnew.2, hnew.1⟩
      · exact hbefore hr
    · exact hbefore (Option.filter_eq_some_iff.1 hr).1
    · exact hbefore hr
  exact ⟨fun host r hr => by simpa using (hold host r hr).1, fun host r hr => by simpa using (hold host r hr).2⟩

theorem Peers.lookup {d : DistributedRouter} (hd : d.Peers) (host : String) : d.lookup host = d.routes.lookup host := by
  rw [DistributedRouter.lookup]
  cases h : d.routes.lookup host with
  | none => rfl
  | some r => exact Option.filter_some_pos (by simpa using hd.owners host r h)

def consume (d : DistributedRouter) (events : List RegistryEvent) : DistributedRouter :=
  events.foldl handleEvent d

/-- The owner that `Lookup` reports for the default hostname of the tunnel. -/
def ownerOf (d : DistributedRouter) (tunnelID : String) : Option String :=
  (d.lookup (hostnameForTunnel d.domain tunnelID)).map RemoteRoute.ownerRelayID

/-- One event: the reported owner is right after it exactly when the event settles. -/
theorem ownerOf_handleEvent {d : DistributedRouter} (hd : d.Peers) {t : String} {owner : Option String}
    (ho : d.ownerOf t = owner.filter (· != d.selfRelayID)) (event : RegistryEvent) :
    (d.handleEvent event).ownerOf t =
        Option.filter (· != d.selfRelayID) (match ownerChange event with
          | none => owner
          | some change => if change.tunnelID = t then change.owner else owner) ↔
      d.Settles t event := by
  simp only [ownerOf, (hd.handleEvent event).lookup, handleEvent_domain, handleEvent_routes, Settles]
  simp only [ownerOf, hd.lookup] at ho
  cases ownerChange event with
  | none => simpa using ho
  | some change =>
    cases change with
    | gone t' =>
      cases hr : d.routes.lookup (hostnameForTunnel d.domain t) with
      | none =>
        rw [hr] at ho
        by_cases ht : t' = t
        · simp [OwnerChange.tunnelID, OwnerChange.owner, ht]
        · simpa [OwnerChange.tunnelID, ht] using ho
      | some r =>
        rw [hr] at ho
        by_cases ht : t' = t
        · subst ht
          simp [OwnerChange.tunnelID, OwnerChange.owner, Option.filter_some]
        · -- the owner stays, so the route must stay
          by_cases hrt : r.tunnelID = t'
          · simp [OwnerChange.tunnelID, ht, hrt, ← ho]
          · simpa [OwnerChange.tunnelID, ht, hrt, Option.filter_some] using ho
    | assigned t' relayID =>
      by_cases ht : t' = t
      · subst ht
        by_cases hself : relayID = d.selfRelayID
        · simp [OwnerChange.tunnelID, OwnerChange.owner, hself, Option.filter_some]
        · simp [OwnerChange.tunnelID, OwnerChange.owner, hself, Option.filter_some]
      · by_cases hnew : relayID ≠ d.selfRelayID ∧ hostnameForTunnel d.domain t = hostnameForTunnel d.domain t'
        · simp [OwnerChange.tunnelID, ht, hnew, ← ho, eq_comm]
        · have hvac : ¬ (hostnameForTunnel d.domain t' = hostnameForTunnel d.domain t ∧ relayID ≠ d.selfRelayID) :=
            fun h => hnew ⟨h.2, h.1.symm⟩
          simp only [OwnerChange.tunnelID, hnew, ht, if_false, ho, true_iff]
          exact fun hh hs => absurd ⟨hh, hs⟩ hvac

theorem mirrors_iff (selfRelayID domain t : String) (events : List RegistryEvent) :
    (∀ seen, seen <+: events → (DistributedRouter.consume { selfRelayID, domain } seen).ownerOf t =
      (lastOwner t seen).filter (· != selfRelayID)) ↔
      Along handleEvent (Settles t) { selfRelayID, domain } events := by
  let Right (seen : List RegistryEvent) (d : DistributedRouter) : Prop :=
    d.ownerOf t = (lastOwner t seen).filter (· != selfRelayID)
  have hstep : ∀ seen d event, (d.Peers ∧ d.selfRelayID = selfRelayID ∧ Right seen d) →
      (Right (seen ++ [event]) (d.handleEvent event) ↔ d.Settles t event) := by
    rintro seen d event ⟨hd, rfl, hr⟩
    have h := ownerOf_handleEvent hd hr event
    rwa [← lastOwner_snoc] at h
  refine prefixes_iff_along Right (fun seen d => d.Peers ∧ d.selfRelayID = selfRelayID ∧ Right seen d)
    (fun _ _ h => h.2.2) hstep (fun seen d event h hq => ?_) ⟨⟨?_, ?_⟩, rfl, rfl⟩ events
  · exact ⟨h.1.handleEvent event, (handleEvent_selfRelayID d event).trans h.2.1, (hstep seen d event h).2 hq⟩
  all_goals intro host r hr; cases hr

/-- After every event, `Lookup` reports the peer that the last event about the
tunnel assigns it to, and nothing where that event assigns it to this gateway or
takes it away, exactly when every event settles. -/
theorem ownerOf_mirrors_iff (selfRelayID domain agentID : String) (events : List RegistryEvent) :
    (∀ seen, seen <+: events →
      (DistributedRouter.consume { selfRelayID, domain } seen).ownerOf (newTunnelID agentID) =
        (lastOwner (newTunnelID agentID) seen).filter (· != selfRelayID)) ↔
      Along handleEvent (Settles (newTunnelID agentID)) { selfRelayID, domain } events :=
  mirrors_iff selfRelayID domain (newTunnelID agentID) events

/-- A tunnel that moves from the peer `g` to this gateway `b` keeps its route to the peer. -/
theorem own_tunnel_keeps_peer_route :
    (DistributedRouter.consume { selfRelayID := "b", domain := "example.com" }
        [.acquired ⟨"l1", "t-a", "g", 10, 1⟩, .acquired ⟨"l2", "t-a", "b", 20, 2⟩]).ownerOf "t-a" = some "g" ∧
      (lastOwner "t-a" [.acquired ⟨"l1", "t-a", "g", 10, 1⟩, .acquired ⟨"l2", "t-a", "b", 20, 2⟩]).filter (· != "b") =
        none := by
  decide +kernel

end DistributedRouter

/-! ## The address of the owner -/

inductive RouterInput
  | event (event : RegistryEvent)
  | updateRelayAddr (relayID addr : String)

def RouterInput.relayAddr : RouterInput → Option (String × String)
  | .event ev => Gateway.relayAddr ev
  | .updateRelayAddr relayID addr => if relayID = "" ∨ addr = "" then none else some (relayID, addr)

/-- The call that a gateway makes of it if the event comes over the wire. -/
def RouterInput.received : RouterInput → Option RouterInput
  | .event ev => (Registry.received ev).map .event
  | input => some input

def lastAddr (relayID : String) (inputs : List RouterInput) : String :=
  inputs.foldl (fun addr input =>
    match input.relayAddr with
    | none => addr
    | some (r, addr') => if r = relayID then addr' else addr) ""

theorem lastAddr_snoc (relayID : String) (inputs : List RouterInput) (input : RouterInput) :
    lastAddr relayID (inputs ++ [input]) =
      match input.relayAddr with
      | none => lastAddr relayID inputs
      | some (r, addr) => if r = relayID then addr else lastAddr relayID inputs := by
  simp [lastAddr]

namespace DistributedRouter

def apply (d : DistributedRouter) : RouterInput → DistributedRouter
  | .event event => d.handleEvent event
  | .updateRelayAddr relayID addr => d.updateRelayAddr relayID addr

def Current (d : DistributedRouter) : Prop :=
  ∀ host r, d.routes.lookup host = some r → r.ownerAddr = d.addr r.ownerRelayID

/-- An event with an address brings nothing new, or finds no route of that relay. -/
def Timely (d : DistributedRouter) : RouterInput → Prop
  | .event event => ∀ relayID addr, relayAddr event = some (relayID, addr) →
      d.addr relayID = addr ∨ ∀ host r, d.routes.lookup host = some r → r.ownerRelayID ≠ relayID
  | .updateRelayAddr .. => True

variable (d : DistributedRouter)

theorem apply_addr (input : RouterInput) (relayID : String) : (d.apply input).addr relayID =
    match input.relayAddr with
    | none => d.addr relayID
    | some (r, addr) => if r = relayID then addr else d.addr relayID := by
  have hinsert : ∀ r a, ((d.relays.insert r a).lookup relayID).getD "" =
      if r = relayID then a else (d.relays.lookup relayID).getD "" := by
    intro r a
    rw [GoMap.lookup_insert_ite]
    by_cases h : r = relayID
    · rw [if_pos h.symm, if_pos h]
      rfl
    · rw [if_neg fun hr => h hr.symm, if_neg h]
  cases input with
  | updateRelayAddr r a =>
    simp only [apply, updateRelayAddr, RouterInput.relayAddr]
    split
    · rfl
    · exact hinsert r a
  | event ev =>
    simp only [apply, RouterInput.relayAddr, addr, handleEvent_relays]
    cases Gateway.relayAddr ev with
    | none => rfl
    | some x => exact hinsert x.1 x.2

variable {d}

theorem Current.updateRelayAddr (hd : d.Current) (relayID addr : String) :
    (d.updateRelayAddr relayID addr).Current := by
  intro host r hr
  have haddr := apply_addr d (.updateRelayAddr relayID addr) r.ownerRelayID
  simp only [apply, RouterInput.relayAddr] at haddr
  rw [haddr]
  unfold DistributedRouter.updateRelayAddr at hr
  split at hr
  · rw [if_pos ‹_›]
    exact hd host r hr
  · rw [if_neg ‹_›]
    simp only [GoMap.lookup_mapValues, Option.map_eq_some_iff] at hr
    obtain ⟨r₀, hr₀, rfl⟩ := hr
    -- the routes of this relay get the address, the others keep theirs
    by_cases ho : r₀.ownerRelayID = relayID
    · simp [ho]
    · have hne : relayID ≠ r₀.ownerRelayID := fun h => ho h.symm
      simpa [ho, hne] using hd host r₀ hr₀

/-- One call: the addresses are current after it exactly when the call is timely. -/
theorem Current.apply_iff (hd : d.Current) (input : RouterInput) : (d.apply input).Current ↔ d.Timely input := by
  cases input with
  | updateRelayAddr relayID addr => exact iff_of_true (hd.updateRelayAddr relayID addr) trivial
  | event ev =>
    have haddr := apply_addr d (.event ev)
    simp only [RouterInput.relayAddr] at haddr
    cases hr : Gateway.relayAddr ev with
    | none =>
      simp only [hr] at haddr
      refine iff_of_true (fun host r h => ?_) fun _ _ h => absurd (hr.symm.trans h) (by simp)
      rw [haddr]
      simp only [apply, handleEvent_routes] at h
      split at h
      · split at h
        · cases h
          rfl
        · exact hd host r h
      · exact hd host r (Option.filter_eq_some_iff.1 h).1
      · exact hd host r h
    | some x =>
      obtain ⟨relayID, addr⟩ := x
      have hroutes : ∀ host, (d.apply (.event ev)).routes.lookup host = d.routes.lookup host := by
        intro host
        simp only [apply, handleEvent_routes, ownerChange_eq_none hr]
      simp only [hr] at haddr
      constructor
      · intro hnew relayID' addr' he
        cases hr.symm.trans he
        by_cases hsome : ∃ host r, d.routes.lookup host = some r ∧ r.ownerRelayID = relayID
        · obtain ⟨host, r, hl, rfl⟩ := hsome
          have h := hnew host r ((hroutes host).trans hl)
          rw [haddr, if_pos rfl, hd host r hl] at h
          exact .inl h
        · exact .inr fun host r hl ho => hsome ⟨host, r, hl, ho⟩
      · intro ht host r hl
        rw [hroutes] at hl
        rw [haddr, hd host r hl]
        rcases ht relayID addr hr with he | hno
        · split
          · rw [← he, ‹relayID = r.ownerRelayID›]
          · rfl
        · rw [if_neg fun h => hno host r hl h.symm]

theorem addr_foldl (selfRelayID domain relayID : String) (inputs : List RouterInput) :
    (inputs.foldl apply { selfRelayID, domain }).addr relayID = lastAddr relayID inputs := by
  induction inputs using List.reverseRecOn with
  | nil => rfl
  | append_singleton inputs input ih => rw [List.foldl_concat, apply_addr, lastAddr_snoc, ih]

theorem current_iff (selfRelayID domain : String) (inputs : List RouterInput) :
    (∀ seen, seen <+: inputs → (seen.foldl apply { selfRelayID, domain }).Current) ↔
      Along apply Timely { selfRelayID, domain } inputs := by
  refine prefixes_iff_along (fun _ => Current) (fun _ => Current) (fun _ _ h => h)
    (fun _ _ input hc => hc.apply_iff input) (fun _ _ input hc ht => (hc.apply_iff input).2 ht) ?_ inputs
  intro host r hr
  cases hr

/-- After every call, each route has the last address received for its owner,
exactly when every event that brings a new one finds no route of that relay. -/
theorem ownerAddr_current_iff (selfRelayID domain : String) (inputs : List RouterInput) :
    (∀ seen, seen <+: inputs → ∀ host r,
      (seen.foldl apply { selfRelayID, domain }).routes.lookup host = some r →
        r.ownerAddr = (seen.foldl apply { selfRelayID, domain }).addr r.ownerRelayID ∧
          r.ownerAddr = lastAddr r.ownerRelayID seen) ↔
      Along apply Timely { selfRelayID, domain } inputs := by
  rw [← current_iff]
  refine forall₂_congr fun seen _ => forall₃_congr fun host r _ => ?_
  rw [← addr_foldl selfRelayID domain, and_self]

/-- The snapshot of a registry with one tunnel of `g`: the route is made before the address arrives. -/
theorem snapshot_leaves_ownerAddr_empty :
    ∃ n, Run (Node.step Store.Memory.repo second .sample) (fun _ _ => True) (.new ∅)
        [.coord (.acquireLease 0 ⟨"t-a", "g", second⟩), .tunnel (.registerTunnel 1 "t-a" "a" "" ""),
          .coord (.reportRelayHealth 2 "g" "10.0.0.1:443" {})] n ∧
      let d := ((n.server.sendSnapshot Store.Memory.repo n.relayHealth 3 "" "").2.map RouterInput.event).foldl apply
        { selfRelayID := "b", domain := "example.com" }
      d.routes.lookup "a.example.com" = some ⟨"t-a", "default", "g", ""⟩ ∧ d.addr "g" = "10.0.0.1:443" :=
  run_any (by decide +kernel)

/-! ## Over the wire -/

theorem handleEvent_crossed (d : DistributedRouter) {event : RegistryEvent} (h : event.Ordinary) :
    d.handleEvent (crossed event) = d.handleEvent event := by
  unfold handleEvent crossed
  cases htype : event.type with
  | relayUpserted | relayHealthUpdated => cases event.relay <;> rfl
  | leaseAcquired | leaseReleased => cases event.lease <;> rfl
  | tunnelUpserted =>
    rw [h.2 htype]
    cases event.tunnel <;> rfl
  | tunnelDeleted =>
    cases ht : event.tunnel with
    | none => exact absurd ht (h.1 htype)
    | some sess => rfl

section Wire

variable {σ : Type} {repo : Store.SessionRepository σ} {sessionTTL : Duration} {ids : UUIDs} {store : σ}
  {ls : List NodeLabel} {n : Node σ} {w : Watch}
  (h : Run (Node.step repo sessionTTL ids) (fun _ _ => True) (.new store) ls n) (hw : w ∈ n.hub.watches)

include h hw

/-- What a watch of a registry has sent changes the tables as if there were no wire. -/
theorem consume_received (d : DistributedRouter) {seen : List RegistryEvent} (hseen : seen <+: w.sent) :
    d.consume (seen.filterMap received) = d.consume seen := by
  unfold consume
  rw [List.foldl_filterMap]
  refine List.foldl_ext _ _ d fun d event hev => ?_
  rw [received_eq]
  exact d.handleEvent_crossed (Node.sent_ordinary h hw (hseen.subset hev))

theorem apply_received (d : DistributedRouter) {inputs : List RouterInput}
    (hsent : ∀ event, .event event ∈ inputs → event ∈ w.sent) :
    (inputs.filterMap RouterInput.received).foldl apply d = inputs.foldl apply d := by
  rw [List.foldl_filterMap]
  refine List.foldl_ext _ _ d fun d input hin => ?_
  cases input with
  | event event =>
    rw [RouterInput.received, received_eq]
    exact d.handleEvent_crossed (Node.sent_ordinary h hw (hsent event hin))
  | updateRelayAddr => rfl

/-- So a gateway that follows the watch reports the right owner of a tunnel exactly while the events settle. -/
theorem received_mirrors_iff (selfRelayID domain t : String) :
    (∀ seen, seen <+: w.sent →
      (DistributedRouter.consume { selfRelayID, domain } (seen.filterMap received)).ownerOf t =
        (lastOwner t seen).filter (· != selfRelayID)) ↔
      Along handleEvent (Settles t) { selfRelayID, domain } w.sent := by
  rw [← mirrors_iff]
  refine forall₂_congr fun seen hseen => ?_
  rw [consume_received h hw _ hseen]

/-- And its routes have the addresses of their owners exactly while the calls are timely. -/
theorem received_current_iff (selfRelayID domain : String) {inputs : List RouterInput}
    (hsent : ∀ event, .event event ∈ inputs → event ∈ w.sent) :
    (∀ seen, seen <+: inputs → ((seen.filterMap RouterInput.received).foldl apply { selfRelayID, domain }).Current) ↔
      Along apply Timely { selfRelayID, domain } inputs := by
  rw [← current_iff]
  refine forall₂_congr fun seen hseen => ?_
  rw [apply_received h hw _ fun event hev => hsent event (hseen.subset hev)]

end Wire

end DistributedRouter

end TunnelEdge.Gateway
