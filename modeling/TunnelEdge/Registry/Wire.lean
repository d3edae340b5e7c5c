import TunnelEdge.Registry.Node
/-!
# Events and health reports on the wire

The messages of `registry.proto` that carry events and health reports, the
conversions of `internal/registry/server.go` and `client.go`, and the way of a
report: `GRPCRegistryClient.ReportRelayHealth`, the handler of the server, the
coordinator that publishes it, and the client of a watching gateway.

A message without a sub-message is one whose pointer is nil. Of the two
coordinators only what they publish matters here.
-/

namespace TunnelEdge.Registry

open GoLib

/-! ## Messages -/

namespace Pb

structure GetTunnelResponse where
  tunnelId : String
  agentId : String
  publicAddr : String
  localAddr : String
  createdAt : Int
  lastHeartbeat : Int
  ownerRelayId : String
  leaseId : String
deriving DecidableEq, Repr

structure LeaseInfo where
  leaseId : String
  tunnelId : String
  relayId : String
  expiresAtUnix : Int
  version : Int
deriving DecidableEq, Repr

structure RelayInfo where
  relayId : String
  advertiseAddr : String
  state : String
  activeTunnels : Int
  activeStreams : Int
  lastSeenUnix : Int
deriving DecidableEq, Repr

structure RelayHealth where
  rttMillis : Int
  heartbeatLatencyMillis : Int
  activeTunnels : Int
  activeStreams : Int
  bytesPerSecond : Int
  packetLossPct : UInt64
  cpuUtilizationPct : UInt64
  memoryUtilizationPct : UInt64
  recordedAtUnix : Int
deriving DecidableEq, Repr

inductive WatchEventType
  | unspecified
  | tunnelUpserted | tunnelDeleted | leaseAcquired | leaseReleased | relayUpserted | relayHealthUpdated
deriving DecidableEq, Repr

structure WatchResponse where
  eventType : WatchEventType := .unspecified
  tunnel : Option GetTunnelResponse := none
  lease : Option LeaseInfo := none
  relay : Option RelayInfo := none
  health : Option RelayHealth := none
deriving DecidableEq, Repr

structure ReportRelayHealthRequest where
  relayId : String := ""
  health : Option RelayHealth := none
  advertiseAddr : String := ""
deriving DecidableEq, Repr

end Pb

/-! ## Times -/

/-- Seconds from Go's zero time to 1970. -/
def unixEpoch : Int := 62135596800

/-- `t.Unix()` -/
def unix (t : Time) : Int := t / second - unixEpoch

/-- `time.Unix(sec, 0)` -/
def timeUnix (sec : Int) : Time := (sec + unixEpoch) * second

def wholeSeconds (t : Time) : Time := t / second * second

@[simp] theorem timeUnix_unix (t : Time) : timeUnix (unix t) = wholeSeconds t := by
  unfold timeUnix unix wholeSeconds
  rw [Int.sub_add_cancel]

/-! ## Conversions of the server -/

def sessionToProto (sess : Session) : Pb.GetTunnelResponse :=
  { tunnelId := sess.tunnelID, agentId := sess.agentID, publicAddr := sess.publicAddr, localAddr := sess.localAddr,
    createdAt := unix sess.createdAt, lastHeartbeat := unix sess.lastHeartbeat, ownerRelayId := sess.ownerRelayID,
    leaseId := sess.leaseID }

def leaseToProto (lease : Lease) : Pb.LeaseInfo :=
  { leaseId := lease.leaseID, tunnelId := lease.tunnelID, relayId := lease.relayID,
    expiresAtUnix := unix lease.expiresAt, version := lease.version }

def relayToProto (relay : RelayInfo) : Pb.RelayInfo :=
  { relayId := relay.relayID, advertiseAddr := relay.advertiseAddr, state := relay.state,
    activeTunnels := relay.activeTunnels, activeStreams := relay.activeStreams, lastSeenUnix := unix relay.lastSeen }

/-- Server and client write a health report the same way. -/
def relayHealthToProto (health : RelayHealth) : Pb.RelayHealth :=
  { rttMillis := health.rttMillis, heartbeatLatencyMillis := health.heartbeatLatencyMillis,
    activeTunnels := health.activeTunnels, activeStreams := health.activeStreams,
    bytesPerSecond := health.bytesPerSecond, packetLossPct := health.packetLossPct,
    cpuUtilizationPct := health.cpuUtilizationPct, memoryUtilizationPct := health.memoryUtilizationPct,
    recordedAtUnix := unix health.recordedAt }

def domainEventToProto (event : RegistryEvent) : Pb.WatchResponse :=
  match event.type with
  | .tunnelUpserted => { eventType := .tunnelUpserted, tunnel := event.tunnel.map sessionToProto }
  | .tunnelDeleted =>
    let tunnelId := (event.tunnel.map Session.tunnelID).getD ""
    { eventType := .tunnelDeleted, tunnel := some ⟨tunnelId, "", "", "", 0, 0, "", ""⟩ }
  | .leaseAcquired => { eventType := .leaseAcquired, lease := event.lease.map leaseToProto }
  | .leaseReleased => { eventType := .leaseReleased, lease := event.lease.map leaseToProto }
  | .relayUpserted => { eventType := .relayUpserted, relay := event.relay.map relayToProto }
  | .relayHealthUpdated =>
    { eventType := .relayHealthUpdated, relay := event.relay.map relayToProto,
      health := event.health.map relayHealthToProto }

/-! ## Conversions of the client -/

def registryEventTypeFromProto : Pb.WatchEventType → Option RegistryEventType
  | .tunnelUpserted => some .tunnelUpserted
  | .tunnelDeleted => some .tunnelDeleted
  | .leaseAcquired => some .leaseAcquired
  | .leaseReleased => some .leaseReleased
  | .relayUpserted => some .relayUpserted
  | .relayHealthUpdated => some .relayHealthUpdated
  | .unspecified => none

def sessionFromProto (resp : Pb.GetTunnelResponse) : Session :=
  { tunnelID := resp.tunnelId, agentID := resp.agentId, ownerRelayID := resp.ownerRelayId, leaseID := resp.leaseId,
    publicAddr := resp.publicAddr, localAddr := resp.localAddr, createdAt := timeUnix resp.createdAt,
    lastHeartbeat := timeUnix resp.lastHeartbeat }

def leaseFromProto (lease : Pb.LeaseInfo) : Lease :=
  { leaseID := lease.leaseId, tunnelID := lease.tunnelId, relayID := lease.relayId,
    expiresAt := timeUnix lease.expiresAtUnix, version := lease.version }

def relayInfoFromProto (relay : Pb.RelayInfo) : RelayInfo :=
  { relayID := relay.relayId, advertiseAddr := relay.advertiseAddr, state := relay.state,
    activeTunnels := relay.activeTunnels, activeStreams := relay.activeStreams,
    lastSeen := timeUnix relay.lastSeenUnix, region := "" }

def relayHealthFromProto (health : Pb.RelayHealth) : RelayHealth :=
  { rttMillis := health.rttMillis, heartbeatLatencyMillis := health.heartbeatLatencyMillis,
    activeTunnels := health.activeTunnels, activeStreams := health.activeStreams,
    bytesPerSecond := health.bytesPerSecond, packetLossPct := health.packetLossPct,
    cpuUtilizationPct := health.cpuUtilizationPct, memoryUtilizationPct := health.memoryUtilizationPct,
    recordedAt := timeUnix health.recordedAtUnix }

/-- Nothing stands for an event of unknown type, which no consumer looks at. -/
def registryEventFromProto (resp : Pb.WatchResponse) : Option RegistryEvent :=
  (registryEventTypeFromProto resp.eventType).map fun type =>
    { type
      tunnel := resp.tunnel.map sessionFromProto
      lease := resp.lease.map leaseFromProto
      relay := resp.relay.map relayInfoFromProto
      health := resp.health.map relayHealthFromProto }

/-- An event as a `Watch` of the client hands it on. -/
def received (event : RegistryEvent) : Option RegistryEvent := registryEventFromProto (domainEventToProto event)

/-! ## The round trip -/

def crossedSession (sess : Session) : Session :=
  { sess with
    remoteAddr := ""
    createdAt := wholeSeconds sess.createdAt
    lastHeartbeat := wholeSeconds sess.lastHeartbeat
    resumeToken := ""
    resumeDeadline := none }

def crossedRelay (relay : RelayInfo) : RelayInfo :=
  { relay with lastSeen := wholeSeconds relay.lastSeen, region := "" }

def crossedHealth (health : RelayHealth) : RelayHealth :=
  { health with advertiseAddr := "", recordedAt := wholeSeconds health.recordedAt, region := "" }

theorem sessionFromProto_toProto (sess : Session) : sessionFromProto (sessionToProto sess) = crossedSession sess := by
  simp [sessionFromProto, sessionToProto, crossedSession]

theorem leaseFromProto_toProto (lease : Lease) : leaseFromProto (leaseToProto lease) = Server.leaseFromProto lease := by
  simp [leaseFromProto, leaseToProto, Server.leaseFromProto, wholeSeconds]

theorem relayInfoFromProto_toProto (relay : RelayInfo) :
    relayInfoFromProto (relayToProto relay) = crossedRelay relay := by
  simp [relayInfoFromProto, relayToProto, crossedRelay]

theorem relayHealthFromProto_toProto (health : RelayHealth) :
    relayHealthFromProto (relayHealthToProto health) = crossedHealth health := by
  simp [relayHealthFromProto, relayHealthToProto, crossedHealth]

/-- What becomes of an event: each type keeps the payloads of its own. -/
def crossed (event : RegistryEvent) : RegistryEvent :=
  match event.type with
  | .tunnelUpserted => { type := .tunnelUpserted, tunnel := event.tunnel.map crossedSession }
  | .tunnelDeleted =>
    { type := .tunnelDeleted
      tunnel := some
        { tunnelID := (event.tunnel.map Session.tunnelID).getD "", agentID := "", createdAt := timeUnix 0,
          lastHeartbeat := timeUnix 0 } }
  | .leaseAcquired => { type := .leaseAcquired, lease := event.lease.map Server.leaseFromProto }
  | .leaseReleased => { type := .leaseReleased, lease := event.lease.map Server.leaseFromProto }
  | .relayUpserted => { type := .relayUpserted, relay := event.relay.map crossedRelay }
  | .relayHealthUpdated =>
    { type := .relayHealthUpdated, relay := event.relay.map crossedRelay, health := event.health.map crossedHealth }

theorem received_eq (event : RegistryEvent) : received event = some (crossed event) := by
  have hs : sessionFromProto ∘ sessionToProto = crossedSession := funext sessionFromProto_toProto
  have hl : leaseFromProto ∘ leaseToProto = Server.leaseFromProto := funext leaseFromProto_toProto
  have hr : relayInfoFromProto ∘ relayToProto = crossedRelay := funext relayInfoFromProto_toProto
  have hh : relayHealthFromProto ∘ relayHealthToProto = crossedHealth := funext relayHealthFromProto_toProto
  unfold received registryEventFromProto domainEventToProto crossed
  cases event.type <;> simp only [registryEventTypeFromProto, Option.map_some, Option.map_none, Option.map_map, hs, hl,
    hr, hh]
  rfl

/-! ## What the consumers read -/

/-- The fields that `DistributedRouter.handleEvent` and `RelayScorer.Update` read. -/
structure ReadFields where
  tunnel : Option (String × String) := none
  lease : Option (String × String) := none
  relay : Option (String × String × String) := none
  health : Option RelayHealth := none
deriving DecidableEq, Repr

/-- A report without the time at which it was made, which nobody reads. -/
def metrics (health : RelayHealth) : RelayHealth := { health with recordedAt := 0 }

def readTunnel (sess : Session) : String × String := (sess.tunnelID, sess.ownerRelayID)

def readLease (lease : Lease) : String × String := (lease.tunnelID, lease.relayID)

def readRelay (relay : RelayInfo) : String × String × String := (relay.relayID, relay.advertiseAddr, relay.region)

/-- A `tunnel_upserted` without owner is attributed to the relay of its lease. -/
def readFields (event : RegistryEvent) : ReadFields :=
  match event.type with
  | .tunnelUpserted => { tunnel := event.tunnel.map readTunnel, lease := event.lease.map readLease }
  | .tunnelDeleted => { tunnel := event.tunnel.map readTunnel }
  | .leaseAcquired | .leaseReleased => { lease := event.lease.map readLease }
  | .relayUpserted => { relay := event.relay.map readRelay }
  | .relayHealthUpdated => { relay := event.relay.map readRelay, health := event.health.map metrics }

/-- Nothing in the event is lost on the wire: it names no region, its health no
address, and a `tunnel_upserted` comes without a lease. -/
def Portable (event : RegistryEvent) : Prop :=
  match event.type with
  | .tunnelUpserted => event.lease = none
  | .relayUpserted => ∀ relay ∈ event.relay, relay.region = ""
  | .relayHealthUpdated =>
    (∀ relay ∈ event.relay, relay.region = "") ∧
      ∀ health ∈ event.health, health.advertiseAddr = "" ∧ health.region = ""
  | _ => True

theorem metrics_crossed_iff (health : RelayHealth) :
    metrics (crossedHealth health) = metrics health ↔ health.advertiseAddr = "" ∧ health.region = "" := by
  simp [metrics, crossedHealth, @eq_comm _ ""]

theorem readRelay_crossed_iff (relay : RelayInfo) :
    readRelay (crossedRelay relay) = readRelay relay ↔ relay.region = "" := by
  simp [readRelay, crossedRelay, @eq_comm _ ""]

theorem map_relay_iff (relay : Option RelayInfo) :
    (relay.map crossedRelay).map readRelay = relay.map readRelay ↔ ∀ r ∈ relay, r.region = "" := by
  cases relay with
  | none => simp
  | some r => simp [readRelay_crossed_iff]

theorem map_health_iff (health : Option RelayHealth) :
    (health.map crossedHealth).map metrics = health.map metrics ↔
      ∀ h ∈ health, h.advertiseAddr = "" ∧ h.region = "" := by
  cases health with
  | none => simp
  | some h => simp [metrics_crossed_iff]

theorem readFields_crossed_iff {event : RegistryEvent} (h : event.type ≠ .tunnelDeleted) :
    readFields (crossed event) = readFields event ↔ Portable event := by
  have ht : readTunnel ∘ crossedSession = readTunnel := rfl
  have hl : readLease ∘ Server.leaseFromProto = readLease := rfl
  unfold Portable
  cases htype : event.type with
  | tunnelDeleted => exact absurd htype h
  | tunnelUpserted => simp [readFields, crossed, htype, ht, @eq_comm _ none]
  | leaseAcquired | leaseReleased => simp [readFields, crossed, htype, hl]
  | relayUpserted => simpa [readFields, crossed, htype] using map_relay_iff event.relay
  | relayHealthUpdated =>
    simpa [readFields, crossed, htype] using and_congr (map_relay_iff event.relay) (map_health_iff event.health)

/-! ## A report on its way -/

/-- `GRPCRegistryClient.ReportRelayHealth` -/
def reportRequest (relayID : String) (health : RelayHealth) : Pb.ReportRelayHealthRequest :=
  { relayId := relayID, health := some (relayHealthToProto health), advertiseAddr := health.advertiseAddr }

/-- The server takes a report without a time as made now. -/
def Server.relayHealthFromProto (now : Time) (health : Pb.RelayHealth) : RelayHealth :=
  let recordedAt := if health.recordedAtUnix = 0 then now else timeUnix health.recordedAtUnix
  { Registry.relayHealthFromProto health with recordedAt }

/-- The relay that the etcd coordinator stores and publishes; `existing` is what `getRelayInfo` finds. -/
def Etcd.reported (existing : Option RelayInfo) (relayID advertiseAddr : String) (health : RelayHealth) : RelayInfo :=
  { relayID
    advertiseAddr := if advertiseAddr = "" then (existing.map RelayInfo.advertiseAddr).getD "" else advertiseAddr
    state := "active"
    activeTunnels := health.activeTunnels
    activeStreams := health.activeStreams
    lastSeen := health.recordedAt
    region := "" }

/-- The coordinator behind the server as `ReportRelayHealth` finds it: a memory
coordinator keeps a relay under its own id. -/
inductive Backend
  | mem (coord : MemCoordinator) (relayHealth : GoMap String RelayHealth) (table : coord.RelayTable relayHealth)
  | etcd (getRelayInfo : String → Option RelayInfo)

def Backend.reported (b : Backend) (now : Time) (relayID advertiseAddr : String) (health : RelayHealth) : RelayInfo :=
  match b with
  | .mem coord _ _ => coord.reported now relayID advertiseAddr health
  | .etcd getRelayInfo => Etcd.reported (getRelayInfo relayID) relayID advertiseAddr health

/-- `ReportRelayHealth` of both coordinators: the relay and the health that are published. -/
def Backend.reportRelayHealth (b : Backend) (now : Time) (relayID advertiseAddr : String) (health : RelayHealth) :
    Except Status (RelayInfo × RelayHealth) :=
  if relayID = "" then .error ⟨.invalidArgument, "relay_id is required"⟩
  else .ok (b.reported now relayID advertiseAddr health, health)

def Server.reportRelayHealth (b : Backend) (now : Time) (req : Pb.ReportRelayHealthRequest) :
    Except Status (RelayInfo × RelayHealth) :=
  if req.relayId = "" then .error ⟨.invalidArgument, "relay_id is required"⟩
  else
    match req.health with
    | none => .error ⟨.invalidArgument, "health is required"⟩
    | some health => b.reportRelayHealth now req.relayId req.advertiseAddr (Server.relayHealthFromProto now health)

/-- The process over the memory coordinator publishes the same event. -/
theorem coordOp_report {σ : Type} (ids : UUIDs) (n : Node σ) (ht : n.server.coord.RelayTable n.relayHealth) (now : Time)
    (relayID advertiseAddr : String) (health : RelayHealth) :
    (n.coordOp ids (.reportRelayHealth now relayID advertiseAddr health)).2 =
      (((Backend.mem _ _ ht).reportRelayHealth now relayID advertiseAddr health).toOption.map
        fun r => RegistryEvent.healthUpdated (some r.1) r.2).toList := by
  unfold Backend.reportRelayHealth
  by_cases hr : relayID = ""
  · simp [Node.coordOp, hr, Except.toOption]
  · simp [Node.coordOp, hr, Except.toOption, Backend.reported]

theorem Backend.reported_relayID (b : Backend) (now : Time) (relayID advertiseAddr : String) (health : RelayHealth) :
    (b.reported now relayID advertiseAddr health).relayID = relayID := by
  cases b with
  | etcd getRelayInfo => rfl
  | mem coord relayHealth table =>
    show (coord.ensureRelay now relayID).relayID = relayID
    unfold MemCoordinator.ensureRelay
    cases hl : coord.relays.lookup relayID with
    | none => rfl
    | some info => exact table.own relayID info hl

theorem Backend.reported_advertiseAddr (b : Backend) (now : Time) (relayID : String) {advertiseAddr : String}
    (h : advertiseAddr ≠ "") (health : RelayHealth) :
    (b.reported now relayID advertiseAddr health).advertiseAddr = advertiseAddr := by
  cases b with
  | etcd getRelayInfo => simp [Backend.reported, Etcd.reported, h]
  | mem coord relayHealth table => simp [Backend.reported, MemCoordinator.reported, h]

/-- What the server makes of a report, as the client sends it, differs in the time only. -/
theorem metrics_relayHealthFromProto (now : Time) (health : RelayHealth) :
    metrics (crossedHealth (Server.relayHealthFromProto now (relayHealthToProto health))) =
      metrics (crossedHealth health) := rfl

/-- Of the fields that the router and the scorer read, the wire keeps all exactly
when the event is portable; and a report comes out at the watchers as it went in
exactly when it has neither address nor region. -/
theorem fields_survive_wire_iff {event : RegistryEvent} (hev : event.type ≠ .tunnelDeleted) (b : Backend) (now : Time)
    {relayID : String} (hr : relayID ≠ "") (health : RelayHealth) :
    ((received event).map readFields = some (readFields event) ↔ Portable event) ∧
    ∃ relay published, Server.reportRelayHealth b now (reportRequest relayID health) = .ok (relay, published) ∧
      ((∃ ev, received (.healthUpdated (some relay) published) = some ev ∧
          ev.relay.map RelayInfo.relayID = some relayID ∧
          (health.advertiseAddr ≠ "" → ev.relay.map RelayInfo.advertiseAddr = some health.advertiseAddr) ∧
          ev.health.map metrics = some (metrics health)) ↔
        health.advertiseAddr = "" ∧ health.region = "") ∧
      (metrics (relayHealthFromProto (relayHealthToProto published)) = metrics health ↔
        health.advertiseAddr = "" ∧ health.region = "") := by
  refine ⟨?_, b.reported now relayID health.advertiseAddr (Server.relayHealthFromProto now (relayHealthToProto health)),
    Server.relayHealthFromProto now (relayHealthToProto health), ?_, ?_, ?_⟩
  · rw [received_eq, Option.map_some, Option.some_inj]
    exact readFields_crossed_iff hev
  · simp [Server.reportRelayHealth, reportRequest, Backend.reportRelayHealth, hr]
  · rw [← metrics_crossed_iff]
    constructor
    · rintro ⟨ev, hev, -, -, hm⟩
      rw [received_eq] at hev
      cases hev
      exact (metrics_relayHealthFromProto now health).symm.trans (Option.some.inj hm)
    · intro hm
      refine ⟨_, received_eq _, ?_, fun ha => ?_, congrArg some ((metrics_relayHealthFromProto now health).trans hm)⟩
      · exact congrArg some (b.reported_relayID now relayID _ _)
      · exact congrArg some (b.reported_advertiseAddr now relayID ha _)
  · rw [relayHealthFromProto_toProto, metrics_relayHealthFromProto, metrics_crossed_iff]

def frankfurt : RelayInfo := ⟨"relay-1", "10.0.0.1:443", "active", 0, 0, 0, "eu-central-1"⟩

def frankfurtReport : RelayHealth := { advertiseAddr := "10.0.0.1:443", rttMillis := 12, region := "eu-central-1" }

def quietReport : RelayHealth := { rttMillis := 12, activeTunnels := 1 }

def ownedTunnel : RegistryEvent := .upserted { tunnelID := "t-web", agentID := "web", ownerRelayID := "relay-1" }

theorem fields_survive_wire_quietReport :
    Portable ownedTunnel ∧ (received ownedTunnel).map readFields = some (readFields ownedTunnel) ∧
    ∃ relay published,
      Server.reportRelayHealth (.etcd fun _ => none) 0 (reportRequest "relay-1" quietReport) = .ok (relay, published) ∧
      metrics (relayHealthFromProto (relayHealthToProto published)) = metrics quietReport := by
  have hp : Portable ownedTunnel := rfl
  have hev : ownedTunnel.type ≠ .tunnelDeleted := by decide
  have hr : "relay-1" ≠ "" := by decide
  obtain ⟨hevent, relay, published, hreport, -, hm⟩ :=
    fields_survive_wire_iff hev (.etcd fun _ => none) 0 hr quietReport
  exact ⟨hp, hevent.2 hp, relay, published, hreport, hm.2 ⟨rfl, rfl⟩⟩

/-- The region of a relay does not arrive, nor the address and the region of a report. -/
theorem region_lost_on_wire :
    (received (.relayUpserted frankfurt)).map readFields ≠ some (readFields (.relayUpserted frankfurt)) ∧
    ∃ relay published,
      Server.reportRelayHealth (.etcd fun _ => none) 0 (reportRequest "relay-1" frankfurtReport) =
        .ok (relay, published) ∧
      ((received (.healthUpdated (some relay) published)).bind RegistryEvent.health).map metrics ≠
        some (metrics frankfurtReport) :=
  ⟨by decide +kernel, _, _, rfl, by decide +kernel⟩

end TunnelEdge.Registry
