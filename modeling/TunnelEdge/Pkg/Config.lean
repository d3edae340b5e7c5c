import TunnelEdge.Domain
/-!
# Configuration files

`pkg/config`: the sections of a configuration that `Config.Validate` reads, and
`Validate` itself. It looks at each field on its own; only the registry's two
intervals are compared with each other.
-/

namespace TunnelEdge.Pkg

structure AgentConfig where
  gatewayAddr : String := ""
  gatewayAddrs : List String := []
  token : String := ""
  reconnectDelay : Duration := 0
  heartbeatInterval : Duration := 0
  streamIdleTimeout : Duration := 0
  maxReconnect : Int := 0

structure GatewayConfig where
  quicListenAddr : String := ""
  publicListenAddr : String := ""
  baseDomain : String := ""
  registryAddr : String := ""
  relayID : String := ""
  leaseTTL : Duration := 0
  healthReportInterval : Duration := 0
  shutdownTimeout : Duration := 0
  streamIdleTimeout : Duration := 0
  maxStreams : Int := 0
  maxTunnelsPerAgent : Int := 0
  region : String := ""
  sessionResumeEnabled : Bool := false
  sessionResumeTTL : Duration := 0

structure RegistryConfig where
  grpcListenAddr : String := ""
  sessionTTL : Duration := 0
  cleanupInterval : Duration := 0

structure DashboardConfig where
  httpListenAddr : String := ""
  jwtSecret : String := ""
  jwtTTL : Duration := 0
  baseURL : String := ""

structure ObservabilityConfig where
  metricsEnabled : Bool := false
  metricsAddr : String := ""
  tracingEnabled : Bool := false
  tracingEndpoint : String := ""

structure DBConfig where
  driver : String := ""
  dsn : String := ""

structure Config where
  observability : ObservabilityConfig := {}
  agent : AgentConfig := {}
  gateway : GatewayConfig := {}
  registry : RegistryConfig := {}
  dashboard : DashboardConfig := {}
  db : DBConfig := {}

inductive ServiceType
  | agent | gateway | registry | dashboard
deriving DecidableEq, Repr

/-! ## Gateway addresses of an agent -/

/-- `unicode.IsSpace` -/
def isSpace (c : Char) : Bool :=
  (0x09 ≤ c.toNat && c.toNat ≤ 0x0D) || (0x2000 ≤ c.toNat && c.toNat ≤ 0x200A) ||
    [0x20, 0x85, 0xA0, 0x1680, 0x2028, 0x2029, 0x202F, 0x205F, 0x3000].contains c.toNat

/-- `strings.TrimSpace` -/
def trimSpace (s : String) : String :=
  String.ofList ((s.toList.dropWhile isSpace).reverse.dropWhile isSpace).reverse

/-- `appendTarget`: a trimmed address that is neither empty nor there already. -/
def appendTarget (targets : List String) (addr : String) : List String :=
  let addr := trimSpace addr
  if addr = "" || targets.contains addr then targets else targets ++ [addr]

def AgentConfig.gatewayTargets (c : AgentConfig) : List String :=
  (c.gatewayAddr :: c.gatewayAddrs).foldl appendTarget []

/-! ## Validate -/

def required (field value : String) : Except String Unit :=
  if value = "" then .error (field ++ " is required") else .ok ()

def greaterThanZero (field : String) (value : Int) : Except String Unit :=
  if value ≤ 0 then .error (field ++ " must be greater than zero") else .ok ()

@[simp] theorem required_bind {α : Type} {field value : String} {k : Unit → Except String α} {a : α} :
    (required field value >>= k) = .ok a ↔ value ≠ "" ∧ k () = .ok a := by
  unfold required
  split
  · simp [bind, Except.bind, *]
  · simp [bind, Except.bind, *]

@[simp] theorem greaterThanZero_bind {α : Type} {field : String} {value : Int} {k : Unit → Except String α} {a : α} :
    (greaterThanZero field value >>= k) = .ok a ↔ 0 < value ∧ k () = .ok a := by
  unfold greaterThanZero
  split
  · simp [bind, Except.bind]; omega
  · simp [bind, Except.bind]; omega

def requiredWhen (on : Bool) (field value condition : String) : Except String Unit :=
  if on && value = "" then .error (field ++ " is required when " ++ condition) else .ok ()

def AgentConfig.validate (c : AgentConfig) : Except String Unit := do
  if c.gatewayTargets = [] then throw "agent.gateway_addr or agent.gateway_addrs is required"
  required "agent.token" c.token
  greaterThanZero "agent.reconnect_delay" c.reconnectDelay
  greaterThanZero "agent.heartbeat_interval" c.heartbeatInterval
  greaterThanZero "agent.stream_idle_timeout" c.streamIdleTimeout
  if c.maxReconnect < 0 then throw "agent.max_reconnect cannot be negative"

theorem AgentConfig.reconnectDelay_pos {c : AgentConfig} (h : c.validate = .ok ()) : 0 < c.reconnectDelay := by
  unfold validate at h
  by_cases hg : c.gatewayTargets = []
  · simp [hg, throw, throwThe, MonadExceptOf.throw, bind, Except.bind] at h
  · simp only [hg, if_false, required_bind, greaterThanZero_bind] at h
    exact h.2.1

def GatewayConfig.validate (c : GatewayConfig) : Except String Unit := do
  required "gateway.quic_listen_addr" c.quicListenAddr
  required "gateway.public_listen_addr" c.publicListenAddr
  required "gateway.base_domain" c.baseDomain
  required "gateway.registry_addr" c.registryAddr
  required "gateway.relay_id" c.relayID
  greaterThanZero "gateway.lease_ttl" c.leaseTTL
  greaterThanZero "gateway.health_report_interval" c.healthReportInterval
  greaterThanZero "gateway.shutdown_timeout" c.shutdownTimeout
  greaterThanZero "gateway.stream_idle_timeout" c.streamIdleTimeout
  greaterThanZero "gateway.max_streams" c.maxStreams

def RegistryConfig.validate (c : RegistryConfig) : Except String Unit := do
  required "registry.grpc_listen_addr" c.grpcListenAddr
  greaterThanZero "registry.session_ttl" c.sessionTTL
  greaterThanZero "registry.cleanup_interval" c.cleanupInterval
  if c.cleanupInterval ≥ c.sessionTTL then throw "registry.cleanup_interval must be less than registry.session_ttl"

def DashboardConfig.validate (c : DashboardConfig) : Except String Unit := do
  required "dashboard.http_listen_addr" c.httpListenAddr
  required "dashboard.jwt_secret" c.jwtSecret
  greaterThanZero "dashboard.jwt_ttl" c.jwtTTL
  required "dashboard.base_url" c.baseURL

def Config.validate (c : Config) (svc : ServiceType) : Except String Unit := do
  requiredWhen c.observability.metricsEnabled "observability.metrics_addr" c.observability.metricsAddr
    "metrics are enabled"
  requiredWhen c.observability.tracingEnabled "observability.tracing_endpoint" c.observability.tracingEndpoint
    "tracing is enabled"
  requiredWhen (c.db.driver = "postgres") "db.dsn" c.db.dsn "db.driver=postgres"
  match svc with
  | .agent => c.agent.validate
  | .gateway => c.gateway.validate
  | .registry => c.registry.validate
  | .dashboard => c.dashboard.validate

theorem Config.agent_of_validate {c : Config} (h : c.validate .agent = .ok ()) : c.agent.validate = .ok () := by
  unfold Config.validate at h
  simp only [bind, Except.bind] at h
  repeat' split at h
  all_goals first | exact h | cases h

end TunnelEdge.Pkg
