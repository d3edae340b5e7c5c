import Mathlib.Logic.Relation
import TunnelEdge.Dashboard.Service
import TunnelEdge.Lib.Runs
/-!
# Users do not write to each other

`Write` lists what a request of one user writes, one write at a time, and what
each write rests on: a live profile of that user. `serve_writes` is the case
analysis over the requests; it leaves out the deletion of an access rule, which
rests on nothing about the rule. The theorems about what a user owns are case
analyses over `Write`.

Only two facts about the state are used. Agent ids are unique, which the
repository sees to, and no agent id is empty, which `ValidateLabel` sees to: the
path of a session is taken apart at `t-`, and the session of an agent with an
empty id would pass for the one of an agent `t-`.
-/

namespace TunnelEdge.Dashboard

open GoLib Store

variable {τ σ ρ : Type} {env : Env τ σ}

def Owns (d : Repositories τ σ) (user : Nat) (r : Row AgentProfileModel) : Prop :=
  r ∈ d.agents.table.live ∧ r.data.userID = user

/-! ## What a request writes -/

inductive Write (env : Env τ σ) (user : Nat) (d : Repositories τ σ) : Repositories τ σ → Prop
  | createAgent {now : Time} {m : AgentProfileModel} {agents : Agents} (hu : m.userID = user)
      (hlabel : m.agentID ≠ "") (hnew : m.agentID ∉ d.agents.table.rows.map fun r => r.data.agentID)
      (ht : agents.table = d.agents.table.create now m) : Write env user d { d with agents }
  | changeAgent {r : Row AgentProfileModel} {f : Row AgentProfileModel → Row AgentProfileModel}
      {hf : ∀ r, (f r).id = r.id} {agents : Agents} (ho : Owns d user r)
      (hkeep : (f r).data.userID = user ∧ (f r).data.agentID = r.data.agentID)
      (ht : agents.table = d.agents.table.change r.id f hf) : Write env user d { d with agents }
  | createTunnel {r : Row AgentProfileModel} {now : Time} {m : TunnelDefinitionModel} (ho : Owns d user r)
      (hm : m.agentProfileID = r.id) : Write env user d { d with tunnels := SerialTable.create d.tunnels now m }
  | changeTunnel {r : Row AgentProfileModel} {m : Row TunnelDefinitionModel}
      {f : Row TunnelDefinitionModel → Row TunnelDefinitionModel} {hf : ∀ r, (f r).id = r.id} (ho : Owns d user r)
      (hm : m ∈ d.tunnels.live) (hkeep : m.data.agentProfileID = r.id ∧ (f m).data.agentProfileID = r.id) :
      Write env user d { d with tunnels := d.tunnels.change m.id f hf }
  | createToken {r : Row AgentProfileModel} {hash : String} {tokens : τ} (ho : Owns d user r)
      (h : env.tokens.create d.tokens r.data.agentID hash = .ok tokens) : Write env user d { d with tokens }
  | deleteToken {r : Row AgentProfileModel} {tokens : τ} (ho : Owns d user r)
      (h : env.tokens.delete d.tokens r.data.agentID = .ok tokens) : Write env user d { d with tokens }
  | deregister {r : Row AgentProfileModel} {now : Time} {t : String} (ho : Owns d user r)
      (ht : sessionAgentID t = r.data.agentID) :
      Write env user d { d with sessions := (env.sessions.deregister d.sessions now t).1 }
  | createACL {r : Row AgentProfileModel} {now : Time} {m : TunnelACLModel} (ho : Owns d user r)
      (hm : m.tunnelID = newTunnelID r.data.agentID) :
      Write env user d { d with acls := SerialTable.create d.acls now m }

abbrev Writes (env : Env τ σ) (user : Nat) : Repositories τ σ → Repositories τ σ → Prop :=
  Relation.ReflTransGen (Write env user)

section Requests

variable {d : Repositories τ σ} {fails : Faults} {now : Time} {user id : Nat}

theorem get_eq_ok {agent : AgentProfile} (h : AgentService.get d fails user id = .ok agent) :
    ∃ r, Owns d user r ∧ r.id = id ∧ agent = modelToAgentProfile r := by
  unfold AgentService.get at h
  split at h
  · cases h
  · rename_i agent' hg
    obtain ⟨r, hr, hid, rfl⟩ := Agents.getByID_eq_ok (Faults.guard_eq_ok hg)
    split at h
    · cases h
    · rename_i hu
      cases h
      exact ⟨r, ⟨hr, by simpa [modelToAgentProfile] using hu⟩, hid, rfl⟩

theorem createAgent_writes (name agentID hash : String) :
    Writes env user d (AgentService.create env.tokens d fails now user name agentID hash).1 := by
  unfold AgentService.create
  split
  · exact .refl
  · rename_i hlabel
    have hne : agentID ≠ "" := by
      rintro rfl
      simp [validateLabel] at hlabel
    split
    · exact .refl
    · split
      · exact .refl
      · rename_i agents agent hc
        obtain ⟨hnew, m, hu, rfl, ht⟩ := Agents.create_eq_ok (Faults.guard_eq_ok hc)
        have hw : Write env user d { d with agents } := .createAgent hu hne hnew ht
        split
        · exact .single hw
        · rename_i tokens htok
          have ho : Owns { d with agents } user (d.agents.table.fresh now m) := by
            refine ⟨?_, hu⟩
            rw [ht]
            exact SerialTable.mem_live_create.2 (.inr rfl)
          exact .tail (.single hw) (.createToken ho (Faults.guard_eq_ok htok))

theorem update_write (env : Env τ σ) {r : Row AgentProfileModel} {agent : AgentProfile} {agents : Agents}
    (ho : Owns d user r) (hid : agent.id = r.id) (ha : agent.agentID = r.data.agentID)
    (h : d.agents.update now agent = .ok agents) :
    Write env user d { d with agents } ∧
      ∃ r', Owns { d with agents } user r' ∧ r'.data.agentID = r.data.agentID := by
  obtain ⟨f, ht, hf⟩ := Agents.update_eq_ok h
  rw [hid] at ht
  have hkeep : (f r.data).userID = user ∧ (f r.data).agentID = r.data.agentID :=
    ⟨(hf r.data).1.trans ho.2, (hf r.data).2.trans ha⟩
  refine ⟨.changeAgent ho hkeep ht, r.rewrite now f, ⟨?_, hkeep.1⟩, hkeep.2⟩
  rw [ht]
  exact SerialTable.mem_live_update.2 (.inr ⟨r, ho.1, rfl, rfl⟩)

theorem updateAgent_writes (name : String) :
    Writes env user d (AgentService.update d fails now user id name).1 := by
  unfold AgentService.update
  split
  · exact .refl
  · rename_i agent hg
    obtain ⟨r, ho, -, rfl⟩ := get_eq_ok hg
    dsimp only
    split
    · exact .refl
    · rename_i agents hupd
      exact .single (update_write env ho rfl rfl (Faults.guard_eq_ok hupd)).1

theorem deleteAgent_writes : Writes env user d (AgentService.delete d fails now user id).1 := by
  unfold AgentService.delete
  split
  · exact .refl
  · rename_i agent hg
    obtain ⟨r, ho, rfl, -⟩ := get_eq_ok hg
    split
    · exact .refl
    · rename_i agents hdel
      exact .single (.changeAgent ho ⟨ho.2, rfl⟩ (Agents.delete_eq_ok (Faults.guard_eq_ok hdel)))

theorem dropToken_writes (fails : Faults) {r : Row AgentProfileModel} (ho : Owns d user r) :
    Writes env user d { d with tokens := AgentService.dropToken env.tokens fails d.tokens r.data.agentID } := by
  unfold AgentService.dropToken
  split
  · exact .refl
  · rename_i tokens htok
    exact .single (.deleteToken ho (Faults.guard_eq_ok htok))

theorem rotateToken_writes (hash : String) :
    Writes env user d (AgentService.rotateToken env.tokens d fails now user id hash).1 := by
  unfold AgentService.rotateToken
  split
  · exact .refl
  · rename_i agent hg
    obtain ⟨r, ho, -, rfl⟩ := get_eq_ok hg
    split
    · exact .refl
    · dsimp only
      split
      · exact .refl
      · rename_i agents hupd
        obtain ⟨hw, r', ho', ha⟩ := update_write env ho rfl rfl (Faults.guard_eq_ok hupd)
        rw [show (modelToAgentProfile r).agentID = r'.data.agentID from ha.symm]
        have hdrop := Relation.ReflTransGen.head hw (dropToken_writes fails ho')
        split
        · exact hdrop
        · rename_i tokens htok
          exact hdrop.tail (.createToken ho' (Faults.guard_eq_ok htok))

theorem createTunnel_writes (label localAddr tunnelType : String) :
    Writes env user d (TunnelService.create d fails now user id label localAddr tunnelType).1 := by
  unfold TunnelService.create TunnelService.owns
  split
  · exact .refl
  · rename_i agent hg
    obtain ⟨r, ho, rfl, -⟩ := get_eq_ok hg
    split
    · exact .refl
    · split
      · exact .refl
      · dsimp only
        split
        · exact .refl
        · rename_i hc
          have hc := Faults.guard_eq_ok hc
          cases hc
          exact .single (.createTunnel ho rfl)

theorem getTunnel_eq_ok {tunnelID : Nat} {t : TunnelConfig} (h : TunnelService.get d fails user id tunnelID = .ok t) :
    ∃ r, Owns d user r ∧ ∃ m ∈ d.tunnels.live, m.id = tunnelID ∧ m.data.agentProfileID = r.id ∧
      t = modelToTunnelDef m := by
  unfold TunnelService.get TunnelService.owns at h
  split at h
  · cases h
  · rename_i agent hg
    obtain ⟨r, ho, rfl, -⟩ := get_eq_ok hg
    split at h
    · cases h
    · rename_i t' ht
      obtain ⟨m, hm, hid, rfl⟩ := TunnelConfigs.getByID_eq_ok (Faults.guard_eq_ok ht)
      split at h
      · cases h
      · rename_i ha
        cases h
        exact ⟨r, ho, m, hm, hid, by simpa [modelToTunnelDef] using ha, rfl⟩

theorem edited_id {t t' : TunnelConfig} {label localAddr tunnelType : String}
    (h : TunnelService.edited t label localAddr tunnelType = .ok t') : t'.id = t.id := by
  unfold TunnelService.edited at h
  split at h
  · cases h
  · split at h
    · cases h
    · cases h
      rfl

theorem updateTunnel_writes (tunnelID : Nat) (label localAddr tunnelType : String) :
    Writes env user d (TunnelService.update d fails now user id tunnelID label localAddr tunnelType).1 := by
  unfold TunnelService.update
  split
  · exact .refl
  · rename_i t hg
    obtain ⟨r, ho, m, hm, -, ha, rfl⟩ := getTunnel_eq_ok hg
    split
    · exact .refl
    · rename_i t' hedit
      split
      · exact .refl
      · rename_i tunnels hupd
        obtain ⟨f, rfl, hf⟩ := TunnelConfigs.update_eq_ok (Faults.guard_eq_ok hupd)
        rw [edited_id hedit]
        exact .single (.changeTunnel ho hm ⟨ha, (hf m.data).trans ha⟩)

theorem deleteTunnel_writes (tunnelID : Nat) :
    Writes env user d (TunnelService.delete d fails now user id tunnelID).1 := by
  unfold TunnelService.delete
  split
  · exact .refl
  · rename_i t hg
    obtain ⟨r, ho, m, hm, rfl, ha, -⟩ := getTunnel_eq_ok hg
    split
    · exact .refl
    · rename_i tunnels hdel
      obtain rfl := TunnelConfigs.delete_eq_ok (Faults.guard_eq_ok hdel)
      exact .single (.changeTunnel ho hm ⟨ha, ha⟩)

theorem deleteSession_writes (path : String) :
    Writes env user d (deleteSession env.sessions d fails now user path).1 := by
  unfold deleteSession
  dsimp only
  generalize trimEnd (trimStart path "/api/v1/sessions/") "/" = t
  split
  · exact .refl
  · split
    · exact .refl
    · rename_i agent hg
      obtain ⟨r, hr, ha, rfl⟩ := Agents.getByAgentID_eq_ok (Faults.guard_eq_ok hg)
      split
      · exact .refl
      · rename_i hu
        have ho : Owns d user r := ⟨hr, by simpa [modelToAgentProfile] using hu⟩
        have hw : Write env user d { d with sessions := (env.sessions.deregister d.sessions now t).1 } :=
          .deregister ho ha.symm
        split
        · exact .refl
        · split <;> rename_i hd <;> rw [hd] at hw <;> exact .single hw

theorem createACL_writes (cidr aclType : String) :
    Writes env user d (ACLHandler.create d fails now user id cidr aclType).1 := by
  unfold ACLHandler.create
  split
  · exact .refl
  · rename_i agent hg
    obtain ⟨r, ho, -, rfl⟩ := get_eq_ok hg
    split
    · exact .refl
    · split
      · exact .refl
      · dsimp only
        split
        · exact .refl
        · rename_i hc
          have hc := Faults.guard_eq_ok hc
          cases hc
          exact .single (.createACL ho rfl)

/-- The rule goes if the agent in the path is the user's own, whatever the rule is for. -/
theorem deleteACL_cases (aclID : Nat) :
    (ACLHandler.delete d fails now user id aclID).1 = d ∨
      ∃ r, Owns d user r ∧ r.id = id ∧
        (ACLHandler.delete d fails now user id aclID).1 = { d with acls := SerialTable.delete d.acls now aclID } := by
  unfold ACLHandler.delete
  split
  · exact .inl rfl
  · rename_i agent hg
    obtain ⟨r, ho, hid, -⟩ := get_eq_ok hg
    split
    · exact .inl rfl
    · rename_i acls hdel
      obtain rfl := TunnelACLs.delete_eq_ok (Faults.guard_eq_ok hdel)
      exact .inr ⟨r, ho, hid, rfl⟩

end Requests

theorem serve_writes (env : Env τ σ) (d : Repositories τ σ) {r : Request}
    (h : ∀ agentDBID aclID, r.action ≠ .deleteACL agentDBID aclID) : Writes env r.user d (serve env d r) := by
  unfold serve
  cases ha : r.action with
  | createAgent name agentID hash => exact createAgent_writes ..
  | updateAgent id name => exact updateAgent_writes ..
  | deleteAgent id => exact deleteAgent_writes
  | rotateToken id hash => exact rotateToken_writes ..
  | createTunnel id label localAddr tunnelType => exact createTunnel_writes ..
  | updateTunnel id tid label localAddr tunnelType => exact updateTunnel_writes ..
  | deleteTunnel id tid => exact deleteTunnel_writes ..
  | deleteSession path => exact deleteSession_writes ..
  | createACL id cidr aclType => exact createACL_writes ..
  | deleteACL id aclID => exact absurd ha (h id aclID)

/-! ## What a user has -/

section Holdings

variable {d d' : Repositories τ σ} {user u : Nat}

def profilesOf (d : Repositories τ σ) (u : Nat) : List (Row AgentProfileModel) :=
  d.agents.table.live.filter fun r => r.data.userID = u

def definitionsOf (d : Repositories τ σ) (u : Nat) : List (Row TunnelDefinitionModel) :=
  d.tunnels.live.filter fun m => m.data.agentProfileID ∈ (profilesOf d u).map Row.id

def rulesOf (d : Repositories τ σ) (u : Nat) : List (Row TunnelACLModel) :=
  d.acls.live.filter fun m => m.data.tunnelID ∈ (profilesOf d u).map fun r => newTunnelID r.data.agentID

/-- What the dashboard keeps for a user: the profiles, the definitions under
them, the token of each profile and the sessions of its tunnel. -/
structure Holdings (ρ : Type) where
  profiles : List (Row AgentProfileModel)
  definitions : List (Row TunnelDefinitionModel)
  tokens : List (Except String String)
  sessions : List ρ

def holdings (env : Env τ σ) (records : env.sessions.Records ρ) (d : Repositories τ σ) (u : Nat) : Holdings ρ where
  profiles := profilesOf d u
  definitions := definitionsOf d u
  tokens := (profilesOf d u).map fun r => env.tokens.getByAgentID d.tokens r.data.agentID
  sessions := (profilesOf d u).map fun r => records.of d.sessions (newTunnelID r.data.agentID)

theorem mem_profilesOf {r : Row AgentProfileModel} : r ∈ profilesOf d u ↔ Owns d u r := by
  simp [profilesOf, Owns]

theorem Owns.id_ne {r r' : Row AgentProfileModel} (ho : Owns d user r) (ho' : Owns d u r') (hne : user ≠ u) :
    r'.id ≠ r.id := fun h =>
  hne (ho.2.symm.trans (SerialTable.eq_of_id ho'.1 ho.1 h ▸ ho'.2))

theorem Owns.agentID_ne {r r' : Row AgentProfileModel} (ho : Owns d user r) (ho' : Owns d u r') (hne : user ≠ u) :
    r'.data.agentID ≠ r.data.agentID := fun h =>
  hne (ho.2.symm.trans (Agents.eq_of_agentID ho'.1 ho.1 h ▸ ho'.2))

def Labelled (d : Repositories τ σ) : Prop := ∀ r ∈ d.agents.table.live, r.data.agentID ≠ ""

theorem Write.labelled (h : Write env user d d') (hl : Labelled d) : Labelled d' := by
  cases h with
  | createAgent hu hlabel hnew ht =>
    intro r hr
    rw [ht] at hr
    rcases SerialTable.mem_live_create.1 hr with hr | rfl
    · exact hl r hr
    · exact hlabel
  | changeAgent ho hkeep ht =>
    intro r' hr'
    rw [ht] at hr'
    rcases SerialTable.mem_live_change.1 hr' with ⟨hr', -⟩ | ⟨r₀, hr₀, hid, -, rfl⟩
    · exact hl r' hr'
    · rw [SerialTable.eq_of_id hr₀ ho.1 hid, hkeep.2]
      exact hl _ ho.1
  | _ => exact hl

theorem Write.profiles (h : Write env user d d') (hne : user ≠ u) : profilesOf d' u = profilesOf d u := by
  unfold profilesOf
  cases h with
  | createAgent hu hlabel hnew ht =>
    rw [ht]
    exact SerialTable.filter_create (by simpa [SerialTable.fresh, hu] using hne)
  | @changeAgent r f hf agents ho hkeep ht =>
    rw [ht]
    refine SerialTable.filter_change hf fun r' hr' hid => ?_
    rw [SerialTable.eq_of_id hr' ho.1 hid, hkeep.1, ho.2]
    simp [hne]
  | _ => rfl

theorem Write.definitions (h : Write env user d d') (hne : user ≠ u) : definitionsOf d' u = definitionsOf d u := by
  have hout : ∀ {r}, Owns d user r → r.id ∉ (profilesOf d u).map Row.id := by
    intro r ho hm
    obtain ⟨r', hr', he⟩ := List.mem_map.1 hm
    exact ho.id_ne (mem_profilesOf.1 hr') hne he
  unfold definitionsOf
  rw [h.profiles hne]
  cases h with
  | createTunnel ho hm =>
    refine SerialTable.filter_create ?_
    simpa [SerialTable.fresh, hm] using hout ho
  | @changeTunnel r m f hf ho hm hkeep =>
    refine SerialTable.filter_change hf fun m' hm' hid => ?_
    rw [SerialTable.eq_of_id hm' hm hid, hkeep.1, hkeep.2]
    have hdec := decide_eq_false (hout ho)
    exact ⟨hdec, fun _ => hdec⟩
  | _ => rfl

theorem Write.holdings (records : env.sessions.Records ρ) (h : Write env user d d') (hl : Labelled d)
    (hne : user ≠ u) : holdings env records d' u = holdings env records d u := by
  unfold Dashboard.holdings
  rw [h.profiles hne, h.definitions hne]
  congr 1
  · refine List.map_congr_left fun r' hr' => ?_
    have ho' := mem_profilesOf.1 hr'
    cases h with
    | createToken ho h => exact env.tokens.create_other h (ho.agentID_ne ho' hne)
    | deleteToken ho h => exact env.tokens.delete_other h (ho.agentID_ne ho' hne)
    | _ => rfl
  · refine List.map_congr_left fun r' hr' => ?_
    have ho' := mem_profilesOf.1 hr'
    cases h with
    | deregister ho ht =>
      refine records.deregister_other fun he => ho.agentID_ne ho' hne ?_
      rw [← ht, ← he, sessionAgentID_newTunnelID (hl r' ho'.1)]
    | _ => rfl

theorem Write.rules (h : Write env user d d') (hne : user ≠ u) : rulesOf d' u = rulesOf d u := by
  unfold rulesOf
  rw [h.profiles hne]
  cases h with
  | createACL ho hm =>
    refine SerialTable.filter_create ?_
    simp only [SerialTable.fresh, hm, List.mem_map, decide_eq_false_iff_not, not_exists, not_and]
    exact fun r' hr' he => ho.agentID_ne (mem_profilesOf.1 hr') hne (newTunnelID_inj he)
  | _ => rfl

end Holdings

/-! ## Whole histories -/

/-- A request to the dashboard, or anything that the rest of the system does to the sessions. -/
inductive Event (σ : Type)
  | request (r : Request)
  | sessions (s : σ)

def Event.run (env : Env τ σ) (d : Repositories τ σ) : Event σ → Repositories τ σ
  | request r => serve env d r
  | sessions s => { d with sessions := s }

section Runs

variable {d d' : Repositories τ σ} {user u : Nat}

theorem Writes.labelled (h : Writes env user d d') (hl : Labelled d) : Labelled d' := by
  induction h with
  | refl => exact hl
  | tail _ hw ih => exact hw.labelled ih

theorem Writes.holdings (records : env.sessions.Records ρ) (h : Writes env user d d') (hl : Labelled d)
    (hne : user ≠ u) : holdings env records d' u = holdings env records d u := by
  induction h with
  | refl => rfl
  | tail hws hw ih => exact (hw.holdings records (Writes.labelled hws hl) hne).trans ih

theorem Writes.rules (h : Writes env user d d') (hne : user ≠ u) : rulesOf d' u = rulesOf d u := by
  induction h with
  | refl => rfl
  | tail _ hw ih => exact (hw.rules hne).trans ih

theorem serve_deleteACL {r : Request} {agentDBID aclID : Nat} (h : r.action = .deleteACL agentDBID aclID) :
    serve env d r = d ∨ ∃ a, Owns d r.user a ∧ a.id = agentDBID ∧
      serve env d r = { d with acls := SerialTable.delete d.acls r.now aclID } := by
  simp only [serve, h]
  exact deleteACL_cases aclID

theorem serve_labelled (r : Request) (hl : Labelled d) : Labelled (serve env d r) := by
  by_cases h : ∃ agentDBID aclID, r.action = .deleteACL agentDBID aclID
  · obtain ⟨agentDBID, aclID, h⟩ := h
    rcases serve_deleteACL h with he | ⟨a, -, -, he⟩ <;> rw [he] <;> exact hl
  · exact Writes.labelled (serve_writes env d fun i j hij => h ⟨i, j, hij⟩) hl

theorem serve_holdings (records : env.sessions.Records ρ) {r : Request} (hl : Labelled d) (hne : r.user ≠ u) :
    holdings env records (serve env d r) u = holdings env records d u := by
  by_cases h : ∃ agentDBID aclID, r.action = .deleteACL agentDBID aclID
  · obtain ⟨agentDBID, aclID, h⟩ := h
    rcases serve_deleteACL h with he | ⟨a, -, -, he⟩
    · rw [he]
    · rw [he]
      rfl
  · exact Writes.holdings records (serve_writes env d fun i j hij => h ⟨i, j, hij⟩) hl hne

theorem run_labelled (es : List (Event σ)) (hl : Labelled d) : Labelled (es.foldl (Event.run env) d) := by
  induction es generalizing d with
  | nil => exact hl
  | cons e es ih =>
    refine ih ?_
    cases e with
    | request r => exact serve_labelled r hl
    | sessions s => exact hl

end Runs

/-- Whatever other users ask for, in any state the dashboard can be in, what a user has stays as it is. -/
theorem others_keep_holdings (env : Env τ σ) (records : env.sessions.Records ρ) (tokens : τ) (sessions : σ)
    (before : List (Event σ)) (after : List Request) (u : Nat) (h : ∀ r ∈ after, r.user ≠ u) :
    holdings env records (after.foldl (serve env) (before.foldl (Event.run env) { tokens, sessions })) u =
      holdings env records (before.foldl (Event.run env) { tokens, sessions }) u := by
  have hl : Labelled (before.foldl (Event.run env) { tokens, sessions }) :=
    run_labelled before fun r hr => by cases hr
  generalize before.foldl (Event.run env) { tokens, sessions } = d at hl
  induction after generalizing d with
  | nil => rfl
  | cons r after ih =>
    have hstep := serve_holdings records hl (h r List.mem_cons_self)
    exact (ih (fun r' hr' => h r' (List.mem_cons_of_mem r hr')) _ (serve_labelled r hl)).trans hstep

/-- The dashboard as `cmd/dashboard` sets it up. -/
def pgstore : Env TokenMap Table := ⟨TokenMap.table, Table.repo⟩

def blank : Repositories TokenMap Table := { tokens := ∅, sessions := [] }

/-- User 1 has an agent with a tunnel, a session and an access rule, user 2 another agent. -/
def twoUsers : List (Event Table) :=
  [.request { user := 1, action := .createAgent "Web" "web" "hash-1" },
    .request { user := 1, action := .createTunnel 1 "site" "127.0.0.1:80" "" },
    .request { user := 1, action := .createACL 1 "203.0.113.7/32" "deny" },
    .request { user := 2, action := .createAgent "Other" "other" "hash-2" },
    .sessions [⟨{ tunnelID := "t-web", agentID := "web" }, .active⟩]]

/-- What user 2 may try on them. -/
def meddling : List Request :=
  [{ user := 2, action := .createAgent "Mine" "web" "hash-3" }, { user := 2, action := .updateAgent 1 "Mine" },
    { user := 2, action := .rotateToken 1 "hash-3" }, { user := 2, action := .deleteTunnel 2 1 },
    { user := 2, action := .deleteSession "/api/v1/sessions/t-web" }, { user := 2, action := .deleteAgent 1 }]

theorem others_keep_holdings_twoUsers :
    (∀ r ∈ meddling, r.user ≠ 1) ∧ (profilesOf (twoUsers.foldl (Event.run pgstore) blank) 1).length = 1 ∧
      holdings pgstore Table.records (meddling.foldl (serve pgstore) (twoUsers.foldl (Event.run pgstore) blank)) 1 =
        holdings pgstore Table.records (twoUsers.foldl (Event.run pgstore) blank) 1 :=
  ⟨by decide, by decide +kernel, others_keep_holdings pgstore Table.records ∅ [] twoUsers meddling 1 (by decide)⟩

/-! ## Access rules -/

/-- The rule that a `Delete` names is one for the tunnel of the agent in its path. -/
def RuleOfAgent (d : Repositories τ σ) (r : Request) : Prop :=
  match r.action with
  | .deleteACL agentDBID aclID =>
    ∀ a ∈ d.agents.table.live, a.id = agentDBID → ∀ m ∈ d.acls.live, m.id = aclID →
      m.data.tunnelID = newTunnelID a.data.agentID
  | _ => True

instance RuleOfAgent.decidable (d : Repositories τ σ) (r : Request) : Decidable (RuleOfAgent d r) := by
  unfold RuleOfAgent
  split <;> infer_instance

theorem serve_rules (env : Env τ σ) {d : Repositories τ σ} {u : Nat} {r : Request} (hne : r.user ≠ u)
    (hc : RuleOfAgent d r) :
    rulesOf (serve env d r) u = rulesOf d u := by
  by_cases h : ∃ agentDBID aclID, r.action = .deleteACL agentDBID aclID
  · obtain ⟨agentDBID, aclID, h⟩ := h
    simp only [RuleOfAgent, h] at hc
    rcases serve_deleteACL h with he | ⟨a, ho, hid, he⟩
    · rw [he]
    · rw [he]
      -- the row that goes is one of the requesting user's rules
      refine SerialTable.filter_change (Row.mark_id r.now) fun m hm hmid => ?_
      have hout : m.data.tunnelID ∉ (profilesOf d u).map fun r => newTunnelID r.data.agentID := by
        rw [hc a ho.1 hid m hm hmid, List.mem_map]
        rintro ⟨a', ha', he'⟩
        exact ho.agentID_ne (mem_profilesOf.1 ha') hne (newTunnelID_inj he')
      exact ⟨decide_eq_false hout, fun hlive => by cases hlive⟩
  · exact Writes.rules (serve_writes env d fun i j hij => h ⟨i, j, hij⟩) hne

/-- Other users change none of the rules for a user's tunnels as long as they
delete only rules of the agents they name. -/
theorem others_keep_rules (env : Env τ σ) (d : Repositories τ σ) (after : List Request) (u : Nat)
    (h : ∀ r ∈ after, r.user ≠ u) (hc : Along (serve env) RuleOfAgent d after) :
    rulesOf (after.foldl (serve env) d) u = rulesOf d u := by
  induction after generalizing d with
  | nil => rfl
  | cons r after ih =>
    have hstep := serve_rules env (h r List.mem_cons_self) hc.1
    exact (ih (serve env d r) (fun r' hr' => h r' (List.mem_cons_of_mem r hr')) hc.2).trans hstep

/-- User 2 adds a rule to their own agent and takes it away again. -/
def ownRules : List Request :=
  [{ user := 2, action := .createACL 2 "0.0.0.0/0" "allow" }, { user := 2, action := .deleteACL 2 2 }]

theorem others_keep_rules_twoUsers :
    (∀ r ∈ ownRules, r.user ≠ 1) ∧
      Along (serve pgstore) RuleOfAgent (twoUsers.foldl (Event.run pgstore) blank) ownRules ∧
      rulesOf (ownRules.foldl (serve pgstore) (twoUsers.foldl (Event.run pgstore) blank)) 1 =
        rulesOf (twoUsers.foldl (Event.run pgstore) blank) 1 :=
  have h : ∀ r ∈ ownRules, r.user ≠ 1 := by decide
  have hc : Along (serve pgstore) RuleOfAgent (twoUsers.foldl (Event.run pgstore) blank) ownRules := by decide +kernel
  ⟨h, hc, others_keep_rules pgstore _ ownRules 1 h hc⟩

/-- User 2 names an agent of their own, and beside it the rule of user 1. -/
theorem rule_deleted_by_other :
    (∀ r ∈ [{ user := 2, action := .deleteACL 2 1 : Request }], r.user ≠ 1) ∧
      (rulesOf (twoUsers.foldl (Event.run pgstore) blank) 1).map (fun m => m.data.cidr) = ["203.0.113.7/32"] ∧
      rulesOf ([{ user := 2, action := .deleteACL 2 1 }].foldl (serve pgstore)
        (twoUsers.foldl (Event.run pgstore) blank)) 1 = [] := by
  decide +kernel

end TunnelEdge.Dashboard
