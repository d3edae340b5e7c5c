import TunnelEdge.Dashboard.Isolation
import TunnelEdge.Gateway.AccessControl
/-!
# Deny rules between the dashboard and the gateway

`ACLHandler.Create` takes any CIDR that is not empty; the gateway skips a rule
that `netip.ParsePrefix` refuses. `stored_rules` says what a gateway reads after
the owner of an agent has created rules: the rules in the order of the requests,
word for word. What the gateway then makes of them is
`TunnelEdge.Gateway.admits_iff`.
-/

namespace TunnelEdge.Dashboard

open GoLib Store Gateway

variable {τ σ : Type}

structure RuleRequest where
  cidr : String
  aclType : String
  now : Time := 0
  fails : Faults := Faults.none

def RuleRequest.request (user agentDBID : Nat) (q : RuleRequest) : Request where
  user
  now := q.now
  fails := q.fails
  action := .createACL agentDBID q.cidr q.aclType

def RuleRequest.row (tunnelID : String) (q : RuleRequest) : TunnelACLModel :=
  { tunnelID, aclType := q.aclType, cidr := q.cidr }

def Created (d : Repositories τ σ) (r : Request) : Prop :=
  match r.action with
  | .createACL agentDBID cidr aclType =>
    (ACLHandler.create d r.fails r.now r.user agentDBID cidr aclType).2.status = 201
  | _ => False

instance Created.decidable (d : Repositories τ σ) (r : Request) : Decidable (Created d r) := by
  obtain ⟨user, now, fails, action⟩ := r
  cases action with
  | createACL agentDBID cidr aclType => exact instDecidableEqNat _ _
  | _ => exact instDecidableFalse

/-! ## What is stored -/

/-- The type and the CIDR of a rule, which is what the gateway reads. -/
def ruleText (acl : TunnelACL) : String × String := (acl.aclType, acl.cidr)

section Stored

variable (env : Env τ σ) {d : Repositories τ σ} {user : Nat} {a : Row AgentProfileModel}

theorem created_serve (ho : Owns d user a) {q : RuleRequest} (h : Created d (q.request user a.id)) :
    serve env d (q.request user a.id) =
        { d with acls := SerialTable.create d.acls q.now (q.row (newTunnelID a.data.agentID)) } ∧
      (q.aclType = "allow" ∨ q.aclType = "deny") := by
  simp only [Created, serve, RuleRequest.request, ACLHandler.create] at h ⊢
  cases hg : AgentService.get d q.fails user a.id with
  | error err =>
    simp only [hg] at h
    cases hc : err.code <;> rw [hc] at h <;> cases h
  | ok agent =>
    obtain ⟨r, hr, hid, rfl⟩ := get_eq_ok hg
    obtain rfl := SerialTable.eq_of_id hr.1 ho.1 hid
    simp only [hg] at h ⊢
    split at h
    · cases h
    · rename_i hne
      split at h
      · cases h
      · rename_i ht
        rw [if_neg hne, if_neg ht]
        refine ⟨?_, by tauto⟩
        cases hf : q.fails .aclsCreate with
        | some err =>
          simp only [Faults.guard, hf] at h
          cases h
        | none => simp only [Faults.guard, hf, TunnelACLs.create, modelToAgentProfile, RuleRequest.row]

theorem list_create (acls : TunnelACLs) (q : RuleRequest) (t : String) :
    (TunnelACLs.list (SerialTable.create acls q.now (q.row t)) t).map ruleText =
      (TunnelACLs.list acls t).map ruleText ++ [(q.aclType, q.cidr)] := by
  simp [TunnelACLs.list, SerialTable.live_create, SerialTable.fresh, RuleRequest.row, ruleText, modelToTunnelACL]

theorem stored_rules (ho : Owns d user a) (qs : List RuleRequest)
    (h : Along (serve env) Created d (qs.map fun q => q.request user a.id)) :
    (TunnelACLs.list ((qs.map fun q => q.request user a.id).foldl (serve env) d).acls
        (newTunnelID a.data.agentID)).map ruleText =
      (TunnelACLs.list d.acls (newTunnelID a.data.agentID)).map ruleText ++ qs.map fun q => (q.aclType, q.cidr) := by
  induction qs generalizing d with
  | nil => simp
  | cons q qs ih =>
    obtain ⟨hs, -⟩ := created_serve env ho h.1
    have hrest := h.2
    simp only [List.map_cons, List.foldl_cons, hs] at hrest ⊢
    have ho' : Owns { d with acls := SerialTable.create d.acls q.now (q.row (newTunnelID a.data.agentID)) } user a := ho
    rw [ih ho' hrest, list_create, List.append_assoc, List.singleton_append]

theorem created_types (ho : Owns d user a) {qs : List RuleRequest}
    (h : Along (serve env) Created d (qs.map fun q => q.request user a.id)) :
    ∀ q ∈ qs, q.aclType = "allow" ∨ q.aclType = "deny" := by
  induction qs generalizing d with
  | nil => simp
  | cons q qs ih =>
    obtain ⟨hs, ht⟩ := created_serve env ho h.1
    have hrest := h.2
    simp only [hs] at hrest
    have ho' : Owns { d with acls := SerialTable.create d.acls q.now (q.row (newTunnelID a.data.agentID)) } user a := ho
    intro q' hq'
    rcases List.mem_cons.1 hq' with rfl | hq'
    · exact ht
    · exact ih ho' hrest q' hq'

end Stored

/-! ## What the gateway refuses -/

/-- The CIDR of a rule names an address: it is a prefix that contains it, or the address itself. -/
def Names (net : NetIP) (addr : net.Addr) (cidr : String) : Prop :=
  covers net addr cidr = true ∨ net.parseAddr cidr = some addr

/-- Some rule with this type and a CIDR with this property was asked for. -/
def Asked (qs : List RuleRequest) (aclType : String) (P : String → Prop) : Prop :=
  ∃ q ∈ qs, q.aclType = aclType ∧ P q.cidr

section Asked

variable {acls : List TunnelACL} {qs : List RuleRequest} (h : acls.map ruleText = qs.map fun q => (q.aclType, q.cidr))
include h

theorem exists_rule_iff (Q : String → String → Prop) :
    (∃ acl ∈ acls, Q acl.cidr acl.aclType) ↔ ∃ q ∈ qs, Q q.cidr q.aclType := by
  have hmap : (∃ rule ∈ acls.map ruleText, Q rule.2 rule.1) ↔
      ∃ rule ∈ qs.map fun q => (q.aclType, q.cidr), Q rule.2 rule.1 := by rw [h]
  simpa [ruleText] using hmap

theorem deny_iff (P : String → Prop) :
    (∃ acl ∈ acls, P acl.cidr ∧ acl.aclType = "deny") ↔ Asked qs "deny" P := by
  rw [exists_rule_iff h fun cidr aclType => P cidr ∧ aclType = "deny"]
  simp only [Asked, and_comm]

theorem not_deny_iff (P : String → Prop) (ht : ∀ q ∈ qs, q.aclType = "allow" ∨ q.aclType = "deny") :
    (∃ acl ∈ acls, P acl.cidr ∧ acl.aclType ≠ "deny") ↔ Asked qs "allow" P := by
  rw [exists_rule_iff h fun cidr aclType => P cidr ∧ aclType ≠ "deny"]
  have hallow : ∀ q ∈ qs, q.aclType ≠ "deny" ↔ q.aclType = "allow" := by
    intro q hq
    rcases ht q hq with h | h <;> simp [h]
  constructor
  · rintro ⟨q, hq, hp, hd⟩
    exact ⟨q, hq, (hallow q hq).1 hd, hp⟩
  · rintro ⟨q, hq, ha, hp⟩
    exact ⟨q, hq, hp, (hallow q hq).2 ha⟩

end Asked

/-- A deny rule that names a client keeps it out exactly when the gateway reads
the rules and one of the deny rules is a prefix around the address, or no allow rule is. -/
theorem deny_enforced_iff (net : NetIP) (env : Env τ σ) {d : Repositories τ σ} {user : Nat} {a : Row AgentProfileModel}
    (ho : Owns d user a) (hnone : TunnelACLs.list d.acls (newTunnelID a.data.agentID) = []) {qs : List RuleRequest}
    (hc : Along (serve env) Created d (qs.map fun q => q.request user a.id)) (source : ACLSource) {client : String}
    {addr : net.Addr} (hparse : net.parseAddr client = some addr) :
    (Asked qs "deny" (Names net addr) →
      aclCheck net (source.list ((qs.map fun q => q.request user a.id).foldl (serve env) d).acls
        (newTunnelID a.data.agentID)) client = false) ↔
    (Asked qs "deny" (Names net addr) →
      source = .working ∧
        (Asked qs "deny" (covers net addr · = true) ∨ ¬ Asked qs "allow" (covers net addr · = true))) := by
  have hrules := stored_rules env ho qs hc
  rw [hnone, List.map_nil, List.nil_append] at hrules
  have htypes := created_types env ho hc
  generalize ((qs.map fun q => q.request user a.id).foldl (serve env) d).acls = stored at hrules
  refine imp_congr_right fun hasked => ?_
  cases source with
  | unset => simp [ACLSource.list, aclCheck]
  | failing err => simp [ACLSource.list, aclCheck, hparse]
  | working =>
    rw [ACLSource.list, aclCheck_of_listed hparse, ← Bool.not_eq_true, admits_iff]
    have hne : TunnelACLs.list stored (newTunnelID a.data.agentID) ≠ [] := by
      intro hnil
      rw [hnil, List.map_nil, eq_comm, List.map_eq_nil_iff] at hrules
      obtain ⟨q, hq, -⟩ := hasked
      rw [hrules] at hq
      cases hq
    rw [deny_iff hrules (covers net addr · = true), not_deny_iff hrules (covers net addr · = true) htypes]
    tauto

def oneAgent : Repositories TokenMap Table :=
  serve pgstore blank { user := 1, action := .createAgent "Web" "web" "hash-1" }

def webProfile : Row AgentProfileModel where
  id := 1
  createdAt := 0
  updatedAt := 0
  data := { userID := 1, name := "Web", agentID := "web", tokenHash := "hash-1" }

/-- Everyone may connect but the clients of one network. -/
def denyNetwork : List RuleRequest :=
  [{ cidr := "203.0.113.0/24", aclType := "deny" }, { cidr := "0.0.0.0/0", aclType := "allow" }]

theorem deny_enforced_network :
    Along (serve pgstore) Created oneAgent (denyNetwork.map fun q => q.request 1 webProfile.id) ∧
      Asked denyNetwork "deny" (Names .v4 (3405803783 : Nat)) ∧
      aclCheck .v4 (ACLSource.working.list
        ((denyNetwork.map fun q => q.request 1 webProfile.id).foldl (serve pgstore) oneAgent).acls
        (newTunnelID webProfile.data.agentID)) "203.0.113.7" = false :=
  have hc : Along (serve pgstore) Created oneAgent (denyNetwork.map fun q => q.request 1 webProfile.id) := by
    decide +kernel
  have hcovers : covers .v4 (3405803783 : Nat) "203.0.113.0/24" = true := by decide +kernel
  have hasked : Asked denyNetwork "deny" (covers .v4 (3405803783 : Nat) · = true) :=
    ⟨_, List.mem_cons_self, rfl, hcovers⟩
  have hnamed : Asked denyNetwork "deny" (Names .v4 (3405803783 : Nat)) := ⟨_, List.mem_cons_self, rfl, .inl hcovers⟩
  have ho : Owns oneAgent 1 webProfile := ⟨by decide +kernel, rfl⟩
  have hparse : NetIP.v4.parseAddr "203.0.113.7" = some (3405803783 : Nat) := by decide +kernel
  ⟨hc, hnamed, (deny_enforced_iff .v4 pgstore ho (by decide +kernel) hc .working hparse).2
    (fun _ => ⟨rfl, .inl hasked⟩) hnamed⟩

/-- Everyone may connect but one client, whose address is the rule. -/
def denyAddress : List RuleRequest :=
  [{ cidr := "203.0.113.7", aclType := "deny" }, { cidr := "0.0.0.0/0", aclType := "allow" }]

/-- Both rules are created, and the client gets through. -/
theorem denied_address_admitted :
    Along (serve pgstore) Created oneAgent (denyAddress.map fun q => q.request 1 1) ∧
      (TunnelACLs.list ((denyAddress.map fun q => q.request 1 1).foldl (serve pgstore) oneAgent).acls "t-web").map
        ruleText = [("deny", "203.0.113.7"), ("allow", "0.0.0.0/0")] ∧
      (NetIP.v4.parseAddr "203.0.113.7").isSome = true ∧
      aclCheck .v4 (ACLSource.working.list
        ((denyAddress.map fun q => q.request 1 1).foldl (serve pgstore) oneAgent).acls "t-web")
        "203.0.113.7" = true := by
  decide +kernel

end TunnelEdge.Dashboard
