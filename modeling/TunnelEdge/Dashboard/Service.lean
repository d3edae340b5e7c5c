import TunnelEdge.Store.Profiles
/-!
# The dashboard's services

`AgentService` and `TunnelService` of `internal/dashboard/service.go`,
`StatusHandler.DeleteSession` and the writing half of `ACLHandler`, over the
repositories. There are no transactions: what a request wrote before one of its
calls failed stays written.

A request comes from an authenticated user. The ids in its path are numbers
here, as they are once they are parsed; the path of a session is kept, since its
handler takes the agent from it.
-/

namespace TunnelEdge.Dashboard

open GoLib Store

/-! ## Errors -/

inductive ErrCode
  | invalidArg | unauthorized | forbidden | notFound | alreadyExists | unknown
deriving DecidableEq, Repr

inductive ServiceError
  /-- From `ValidateLabel`. -/
  | label (err : LabelError)
  /-- `errs.New` and `errs.Wrap` -/
  | new (code : ErrCode) (msg : String)
  /-- `fmt.Errorf("...: %w", err)` around an error of a repository -/
  | wrapped (msg err : String)
  /-- An error of a repository, passed on. -/
  | raw (err : String)
deriving DecidableEq, Repr

def ServiceError.code : ServiceError → ErrCode
  | label _ => .invalidArg
  | new code _ => code
  | wrapped _ _ => .unknown
  | raw _ => .unknown

/-- The status that `writeServiceError` answers with. -/
def ErrCode.status : ErrCode → Nat
  | invalidArg => 400
  | unauthorized => 401
  | forbidden => 403
  | notFound => 404
  | alreadyExists => 409
  | unknown => 500

/-- The calls of one request that can fail by themselves. No request makes one twice. -/
inductive Call
  | generateToken
  | agentsGet | agentsCreate | agentsUpdate | agentsDelete
  | tokensCreate | tokensDelete
  | tunnelsGet | tunnelsCreate | tunnelsUpdate | tunnelsDelete
  | sessionsDeregister
  | aclsCreate | aclsDelete
deriving DecidableEq, Repr

/-- Which calls fail, and with what text. A call that fails leaves its repository as it was. -/
abbrev Faults := Call → Option String

def Faults.none : Faults := fun _ => Option.none

def Faults.guard {α : Type} (fails : Faults) (c : Call) (result : Except String α) : Except String α :=
  match fails c with
  | some err => .error err
  | Option.none => result

theorem Faults.guard_eq_ok {α : Type} {fails : Faults} {c : Call} {result : Except String α} {x : α}
    (h : fails.guard c result = .ok x) : result = .ok x := by
  unfold guard at h
  split at h
  · cases h
  · exact h

structure Repositories (τ σ : Type) where
  agents : Agents := {}
  tunnels : TunnelConfigs := {}
  acls : TunnelACLs := {}
  tokens : τ
  sessions : σ

variable {τ σ : Type}

/-! ## AgentService -/

namespace AgentService

def get (d : Repositories τ σ) (fails : Faults) (userID agentID : Nat) : Except ServiceError AgentProfile :=
  match fails.guard .agentsGet (d.agents.getByID agentID) with
  | .error _ => .error (.new .notFound "agent not found")
  | .ok agent => if agent.userID ≠ userID then .error (.new .forbidden "access denied") else .ok agent

/-- `tokenHash` is the bcrypt hash of the token that is drawn. -/
def create (tr : TokenRepository τ) (d : Repositories τ σ) (fails : Faults) (now : Time) (userID : Nat)
    (name agentID tokenHash : String) : Repositories τ σ × Except ServiceError AgentProfile :=
  match validateLabel agentID with
  | .error err => (d, .error (.label err))
  | .ok _ =>
    match fails .generateToken with
    | some err => (d, .error (.wrapped "failed to generate token" err))
    | none =>
      match fails.guard .agentsCreate (d.agents.create now { userID, name, agentID, tokenHash }) with
      | .error _ => (d, .error (.new .alreadyExists "agent_id already exists"))
      | .ok (agents, agent) =>
        match fails.guard .tokensCreate (tr.create d.tokens agentID tokenHash) with
        | .error err => ({ d with agents }, .error (.wrapped "failed to store token" err))
        | .ok tokens => ({ d with agents, tokens }, .ok agent)

def update (d : Repositories τ σ) (fails : Faults) (now : Time) (userID agentID : Nat) (name : String) :
    Repositories τ σ × Except ServiceError AgentProfile :=
  match get d fails userID agentID with
  | .error err => (d, .error err)
  | .ok agent =>
    let agent := { agent with name }
    match fails.guard .agentsUpdate (d.agents.update now agent) with
    | .error err => (d, .error (.wrapped "failed to update agent" err))
    | .ok agents => ({ d with agents }, .ok agent)

/-- The tokens and the tunnels of the agent stay. -/
def delete (d : Repositories τ σ) (fails : Faults) (now : Time) (userID agentID : Nat) :
    Repositories τ σ × Except ServiceError Unit :=
  match get d fails userID agentID with
  | .error err => (d, .error err)
  | .ok _ =>
    match fails.guard .agentsDelete (d.agents.delete now agentID) with
    | .error err => (d, .error (.raw err))
    | .ok agents => ({ d with agents }, .ok ())

/-- `_ = s.tokens.Delete(...)` -/
def dropToken (tr : TokenRepository τ) (fails : Faults) (tokens : τ) (agentID : String) : τ :=
  match fails.guard .tokensDelete (tr.delete tokens agentID) with
  | .error _ => tokens
  | .ok tokens => tokens

def rotateToken (tr : TokenRepository τ) (d : Repositories τ σ) (fails : Faults) (now : Time) (userID agentID : Nat)
    (tokenHash : String) : Repositories τ σ × Except ServiceError AgentProfile :=
  match get d fails userID agentID with
  | .error err => (d, .error err)
  | .ok agent =>
    match fails .generateToken with
    | some err => (d, .error (.wrapped "failed to generate token" err))
    | none =>
      let agent := { agent with tokenHash }
      match fails.guard .agentsUpdate (d.agents.update now agent) with
      | .error err => (d, .error (.wrapped "failed to update agent token" err))
      | .ok agents =>
        let dropped := dropToken tr fails d.tokens agent.agentID
        match fails.guard .tokensCreate (tr.create dropped agent.agentID tokenHash) with
        | .error err => ({ d with agents, tokens := dropped }, .error (.wrapped "failed to store rotated token" err))
        | .ok tokens => ({ d with agents, tokens }, .ok agent)

end AgentService

/-! ## TunnelService -/

def validateLocalAddr (addr : String) : Except ServiceError Unit :=
  if addr = "" then .error (.new .invalidArg "local_addr cannot be empty")
  else if addr.utf8ByteSize > 256 then .error (.new .invalidArg "local_addr too long")
  else .ok ()

namespace TunnelService

/-- The ownership check that every operation starts with; it is the one of `AgentService.Get`, written out again. -/
def owns (d : Repositories τ σ) (fails : Faults) (userID agentID : Nat) : Except ServiceError AgentProfile :=
  AgentService.get d fails userID agentID

def create (d : Repositories τ σ) (fails : Faults) (now : Time) (userID agentID : Nat)
    (label localAddr tunnelType : String) : Repositories τ σ × Except ServiceError TunnelConfig :=
  match owns d fails userID agentID with
  | .error err => (d, .error err)
  | .ok _ =>
    match validateLabel label with
    | .error err => (d, .error (.label err))
    | .ok _ =>
      match validateLocalAddr localAddr with
      | .error err => (d, .error err)
      | .ok _ =>
        let tunnelType := if tunnelType = "" then "tcp" else tunnelType
        let t : TunnelConfig := { agentProfileID := agentID, label, localAddr, tunnelType }
        match fails.guard .tunnelsCreate (.ok (TunnelConfigs.create d.tunnels now t)) with
        | .error err => (d, .error (.wrapped "failed to create tunnel" err))
        | .ok (tunnels, t) => ({ d with tunnels }, .ok t)

def get (d : Repositories τ σ) (fails : Faults) (userID agentID tunnelID : Nat) : Except ServiceError TunnelConfig :=
  match owns d fails userID agentID with
  | .error err => .error err
  | .ok _ =>
    match fails.guard .tunnelsGet (TunnelConfigs.getByID d.tunnels tunnelID) with
    | .error _ => .error (.new .notFound "tunnel not found")
    | .ok t => if t.agentProfileID ≠ agentID then .error (.new .forbidden "access denied") else .ok t

/-- The new fields of a tunnel: an empty one keeps the old value. -/
def edited (t : TunnelConfig) (label localAddr tunnelType : String) : Except ServiceError TunnelConfig :=
  match if label ≠ "" then validateLabel label else .ok () with
  | .error err => .error (.label err)
  | .ok _ =>
    match if localAddr ≠ "" then validateLocalAddr localAddr else .ok () with
    | .error err => .error err
    | .ok _ =>
      .ok { t with
        label := if label ≠ "" then label else t.label
        localAddr := if localAddr ≠ "" then localAddr else t.localAddr
        tunnelType := if tunnelType ≠ "" then tunnelType else t.tunnelType }

def update (d : Repositories τ σ) (fails : Faults) (now : Time) (userID agentID tunnelID : Nat)
    (label localAddr tunnelType : String) : Repositories τ σ × Except ServiceError TunnelConfig :=
  match get d fails userID agentID tunnelID with
  | .error err => (d, .error err)
  | .ok t =>
    match edited t label localAddr tunnelType with
    | .error err => (d, .error err)
    | .ok t =>
      match fails.guard .tunnelsUpdate (TunnelConfigs.update d.tunnels now t) with
      | .error err => (d, .error (.wrapped "failed to update tunnel" err))
      | .ok tunnels => ({ d with tunnels }, .ok t)

def delete (d : Repositories τ σ) (fails : Faults) (now : Time) (userID agentID tunnelID : Nat) :
    Repositories τ σ × Except ServiceError Unit :=
  match get d fails userID agentID tunnelID with
  | .error err => (d, .error err)
  | .ok _ =>
    match fails.guard .tunnelsDelete (TunnelConfigs.delete d.tunnels now tunnelID) with
    | .error err => (d, .error (.raw err))
    | .ok tunnels => ({ d with tunnels }, .ok ())

end TunnelService

/-! ## Handlers -/

/-- What a handler answers: its status and the error text, if any. -/
structure Response where
  status : Nat
  error : String := ""
deriving DecidableEq, Repr

/-- `strings.TrimPrefix` -/
def trimStart (s start : String) : String :=
  if start.toList.isPrefixOf s.toList then String.ofList (s.toList.drop start.toList.length) else s

/-- `strings.TrimSuffix` -/
def trimEnd (s ending : String) : String :=
  if ending.toList.isSuffixOf s.toList then String.ofList (s.toList.take (s.toList.length - ending.toList.length))
  else s

/-- The agent id in a tunnel id of the form `t-{agentID}`; anything else is taken whole. -/
def sessionAgentID (tunnelID : String) : String :=
  match tunnelID.toList with
  | 't' :: '-' :: c :: rest => String.ofList (c :: rest)
  | _ => tunnelID

theorem sessionAgentID_newTunnelID {agentID : String} (h : agentID ≠ "") :
    sessionAgentID (newTunnelID agentID) = agentID := by
  have hl : (newTunnelID agentID).toList = 't' :: '-' :: agentID.toList := String.toList_append ..
  cases ha : agentID.toList with
  | nil => exact absurd (String.toList_inj.1 (ha.trans String.toList_empty.symm)) h
  | cons c rest =>
    unfold sessionAgentID
    rw [hl, ha]
    exact (String.ofList_toList ▸ congrArg String.ofList ha).symm

def deleteSession (repo : SessionRepository σ) (d : Repositories τ σ) (fails : Faults) (now : Time) (userID : Nat)
    (path : String) : Repositories τ σ × Response :=
  let tunnelID := trimEnd (trimStart path "/api/v1/sessions/") "/"
  if tunnelID = "" then (d, ⟨400, "tunnel_id required"⟩)
  else
    match fails.guard .agentsGet (d.agents.getByAgentID (sessionAgentID tunnelID)) with
    | .error _ => (d, ⟨404, "session not found"⟩)
    | .ok agent =>
      if agent.userID ≠ userID then (d, ⟨403, "access denied"⟩)
      else
        match fails .sessionsDeregister with
        | some _ => (d, ⟨404, "session not found or already closed"⟩)
        | none =>
          match repo.deregister d.sessions now tunnelID with
          | (sessions, .error _) => ({ d with sessions }, ⟨404, "session not found or already closed"⟩)
          | (sessions, .ok _) => ({ d with sessions }, ⟨204, ""⟩)

namespace ACLHandler

def create (d : Repositories τ σ) (fails : Faults) (now : Time) (userID agentDBID : Nat) (cidr aclType : String) :
    Repositories τ σ × Response :=
  match AgentService.get d fails userID agentDBID with
  | .error err => (d, ⟨err.code.status, ""⟩)
  | .ok agent =>
    if cidr = "" ∨ aclType = "" then (d, ⟨400, "cidr and acl_type are required"⟩)
    else if aclType ≠ "allow" ∧ aclType ≠ "deny" then (d, ⟨400, "acl_type must be 'allow' or 'deny'"⟩)
    else
      let acl : TunnelACL := { tunnelID := newTunnelID agent.agentID, aclType, cidr }
      match fails.guard .aclsCreate (.ok (TunnelACLs.create d.acls now acl)) with
      | .error _ => (d, ⟨500, "failed to create ACL rule"⟩)
      | .ok (acls, _) => ({ d with acls }, ⟨201, ""⟩)

/-- The rule is deleted by its own id, whichever agent the path names. -/
def delete (d : Repositories τ σ) (fails : Faults) (now : Time) (userID agentDBID aclID : Nat) :
    Repositories τ σ × Response :=
  match AgentService.get d fails userID agentDBID with
  | .error err => (d, ⟨err.code.status, ""⟩)
  | .ok _ =>
    match fails.guard .aclsDelete (TunnelACLs.delete d.acls now aclID) with
    | .error _ => (d, ⟨404, "ACL rule not found"⟩)
    | .ok acls => ({ d with acls }, ⟨204, ""⟩)

end ACLHandler

/-! ## Requests -/

inductive Action
  | createAgent (name agentID tokenHash : String)
  | updateAgent (agentID : Nat) (name : String)
  | deleteAgent (agentID : Nat)
  | rotateToken (agentID : Nat) (tokenHash : String)
  | createTunnel (agentID : Nat) (label localAddr tunnelType : String)
  | updateTunnel (agentID tunnelID : Nat) (label localAddr tunnelType : String)
  | deleteTunnel (agentID tunnelID : Nat)
  | deleteSession (path : String)
  | createACL (agentDBID : Nat) (cidr aclType : String)
  | deleteACL (agentDBID aclID : Nat)
deriving DecidableEq, Repr

structure Request where
  user : Nat
  now : Time := 0
  fails : Faults := Faults.none
  action : Action

/-- The token and session repositories behind the dashboard. -/
structure Env (τ σ : Type) where
  tokens : TokenRepository τ
  sessions : SessionRepository σ

def serve (env : Env τ σ) (d : Repositories τ σ) (r : Request) : Repositories τ σ :=
  match r.action with
  | .createAgent name agentID tokenHash =>
    (AgentService.create env.tokens d r.fails r.now r.user name agentID tokenHash).1
  | .updateAgent agentID name => (AgentService.update d r.fails r.now r.user agentID name).1
  | .deleteAgent agentID => (AgentService.delete d r.fails r.now r.user agentID).1
  | .rotateToken agentID tokenHash => (AgentService.rotateToken env.tokens d r.fails r.now r.user agentID tokenHash).1
  | .createTunnel agentID label localAddr tunnelType =>
    (TunnelService.create d r.fails r.now r.user agentID label localAddr tunnelType).1
  | .updateTunnel agentID tunnelID label localAddr tunnelType =>
    (TunnelService.update d r.fails r.now r.user agentID tunnelID label localAddr tunnelType).1
  | .deleteTunnel agentID tunnelID => (TunnelService.delete d r.fails r.now r.user agentID tunnelID).1
  | .deleteSession path => (deleteSession env.sessions d r.fails r.now r.user path).1
  | .createACL agentDBID cidr aclType => (ACLHandler.create d r.fails r.now r.user agentDBID cidr aclType).1
  | .deleteACL agentDBID aclID => (ACLHandler.delete d r.fails r.now r.user agentDBID aclID).1

end TunnelEdge.Dashboard
