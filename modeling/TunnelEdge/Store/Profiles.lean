import TunnelEdge.Lib.SerialTable
import TunnelEdge.Store.Sessions
/-!
# What the dashboard stores

The repositories of agent profiles, tunnel definitions and access rules of
`internal/store/pgstore`, and the two token repositories. All tables embed
`gorm.Model`: a deleted row stays and keeps its agent id taken, since the unique
index covers it too. Only the tokens are deleted for good, with `Unscoped`.

A call that fails for a reason of the database itself (a lost connection, a
value too long for its column) is left to the caller of these functions.
-/

namespace TunnelEdge.Store

open GoLib

/-! ## PGAgentProfileRepository -/

/-- The columns that the dashboard reads or writes. -/
structure AgentProfileModel where
  userID : Nat
  name : String
  agentID : String
  tokenHash : String
  scopes : String := ""
  tokenExpiresAt : Option Time := none
deriving DecidableEq, Repr

structure AgentProfile where
  id : Nat := 0
  userID : Nat
  name : String
  agentID : String
  tokenHash : String
  scopes : List String := []
  tokenExpiresAt : Option Time := none
  createdAt : Time := 0
  updatedAt : Time := 0
deriving DecidableEq, Repr

def scopesToString (scopes : List String) : String := ",".intercalate scopes

def stringToScopes (s : String) : List String := ((s.toList.splitOn ',').map String.ofList).filter (· ≠ "")

def modelToAgentProfile (m : Row AgentProfileModel) : AgentProfile where
  id := m.id
  userID := m.data.userID
  name := m.data.name
  agentID := m.data.agentID
  tokenHash := m.data.tokenHash
  scopes := stringToScopes m.data.scopes
  tokenExpiresAt := m.data.tokenExpiresAt
  createdAt := m.createdAt
  updatedAt := m.updatedAt

/-- `agent_profiles` with its unique index. -/
structure Agents where
  table : SerialTable AgentProfileModel := {}
  unique : (table.rows.map fun r => r.data.agentID).Nodup := by simp

namespace Agents

def create (a : Agents) (now : Time) (agent : AgentProfile) : Except String (Agents × AgentProfile) :=
  let m : AgentProfileModel :=
    { userID := agent.userID, name := agent.name, agentID := agent.agentID, tokenHash := agent.tokenHash
      scopes := scopesToString agent.scopes }
  if h : agent.agentID ∈ a.table.rows.map fun r => r.data.agentID then
    .error "failed to create agent profile: duplicate key value violates unique constraint"
  else
    .ok ({ table := a.table.create now m, unique := SerialTable.nodup_create a.unique h },
      { agent with id := a.table.nextID, createdAt := now, updatedAt := now })

def getByID (a : Agents) (id : Nat) : Except String AgentProfile :=
  match a.table.first id with
  | some m => .ok (modelToAgentProfile m)
  | none => .error ("agent profile " ++ toString id ++ " not found: record not found")

def getByAgentID (a : Agents) (agentID : String) : Except String AgentProfile :=
  match a.table.live.find? fun m => m.data.agentID = agentID with
  | some m => .ok (modelToAgentProfile m)
  | none => .error ("agent profile " ++ agentID ++ " not found: record not found")

/-- Another row may have the agent id already, deleted or not; then too no row is affected. -/
def update (a : Agents) (now : Time) (agent : AgentProfile) : Except String Agents :=
  match a.table.first agent.id with
  | none => .error ("agent profile " ++ toString agent.id ++ " not found")
  | some _ =>
    if h : ∀ m ∈ a.table.rows, m.data.agentID = agent.agentID → m.id = agent.id then
      .ok {
        table := a.table.update now agent.id fun m => { m with
          name := agent.name, agentID := agent.agentID, tokenHash := agent.tokenHash
          scopes := scopesToString agent.scopes, tokenExpiresAt := agent.tokenExpiresAt }
        unique := SerialTable.nodup_change a.unique fun _ _ _ m hm he => h m hm he }
    else .error ("agent profile " ++ toString agent.id ++ " not found")

theorem unique_delete (a : Agents) (now : Time) (id : Nat) :
    ((a.table.delete now id).rows.map fun r => r.data.agentID).Nodup := by
  rw [SerialTable.map_delete (k := fun r : Row AgentProfileModel => r.data.agentID) fun _ => rfl]
  exact a.unique

def delete (a : Agents) (now : Time) (id : Nat) : Except String Agents :=
  match a.table.first id with
  | none => .error ("agent profile " ++ toString id ++ " not found")
  | some _ => .ok { table := a.table.delete now id, unique := a.unique_delete now id }

section Results

variable {a a' : Agents} {now : Time} {agent : AgentProfile}

theorem create_eq_ok {agent' : AgentProfile} (h : a.create now agent = .ok (a', agent')) :
    (agent.agentID ∉ a.table.rows.map fun r => r.data.agentID) ∧
      ∃ m : AgentProfileModel, m.userID = agent.userID ∧ m.agentID = agent.agentID ∧
        a'.table = a.table.create now m := by
  unfold create at h
  dsimp only at h
  split at h
  · cases h
  · rename_i hnew
    cases h
    exact ⟨hnew, _, rfl, rfl, rfl⟩

theorem getByID_eq_ok {id : Nat} (h : a.getByID id = .ok agent) :
    ∃ m ∈ a.table.live, m.id = id ∧ agent = modelToAgentProfile m := by
  unfold getByID at h
  split at h
  · rename_i m hm
    cases h
    exact ⟨m, (SerialTable.first_eq_some.1 hm).1, (SerialTable.first_eq_some.1 hm).2, rfl⟩
  · cases h

theorem getByAgentID_eq_ok {agentID : String} (h : a.getByAgentID agentID = .ok agent) :
    ∃ m ∈ a.table.live, m.data.agentID = agentID ∧ agent = modelToAgentProfile m := by
  unfold getByAgentID at h
  split at h
  · rename_i m hm
    cases h
    exact ⟨m, List.mem_of_find?_eq_some hm, by simpa using List.find?_some hm, rfl⟩
  · cases h

/-- The owner of a profile never changes. -/
theorem update_eq_ok (h : a.update now agent = .ok a') :
    ∃ f : AgentProfileModel → AgentProfileModel, a'.table = a.table.update now agent.id f ∧
      ∀ m, (f m).userID = m.userID ∧ (f m).agentID = agent.agentID := by
  unfold update at h
  split at h
  · cases h
  · split at h
    · cases h
      exact ⟨_, rfl, fun m => ⟨rfl, rfl⟩⟩
    · cases h

theorem delete_eq_ok {id : Nat} (h : a.delete now id = .ok a') : a'.table = a.table.delete now id := by
  unfold delete at h
  split at h <;> cases h
  rfl

theorem eq_of_agentID {m m' : Row AgentProfileModel} (hm : m ∈ a.table.live) (hm' : m' ∈ a.table.live)
    (h : m.data.agentID = m'.data.agentID) : m = m' :=
  List.inj_on_of_nodup_map a.unique (SerialTable.mem_live.1 hm).1 (SerialTable.mem_live.1 hm').1 h

/-! The hash of an agent, and how each write changes the hashes. -/

def hashOf (a : Agents) (agentID : String) : Option String :=
  (a.getByAgentID agentID).toOption.map AgentProfile.tokenHash

theorem hashOf_eq_some {agentID hash : String} :
    a.hashOf agentID = some hash ↔ ∃ m ∈ a.table.live, m.data.agentID = agentID ∧ m.data.tokenHash = hash := by
  unfold hashOf getByAgentID
  split
  · rename_i m hm
    have hlive := List.mem_of_find?_eq_some hm
    have hid : m.data.agentID = agentID := by simpa using List.find?_some hm
    constructor
    · intro h
      exact ⟨m, hlive, hid, by simpa [modelToAgentProfile, Except.toOption] using h⟩
    · rintro ⟨m', hm', hid', rfl⟩
      rw [eq_of_agentID hm' hlive (hid'.trans hid.symm)]
      rfl
  · rename_i hnone
    constructor
    · intro h
      cases h
    · rintro ⟨m, hm, hid, -⟩
      exact absurd (decide_eq_true hid) (List.find?_eq_none.1 hnone m hm)

theorem hashOf_congr {agentID : String}
    (h : ∀ hash, (∃ m ∈ a'.table.live, m.data.agentID = agentID ∧ m.data.tokenHash = hash) ↔
      ∃ m ∈ a.table.live, m.data.agentID = agentID ∧ m.data.tokenHash = hash) :
    a'.hashOf agentID = a.hashOf agentID := by
  refine Option.ext fun hash => ?_
  rw [hashOf_eq_some, hashOf_eq_some, h]

theorem hashOf_create {agent' : AgentProfile} (h : a.create now agent = .ok (a', agent')) (agentID : String) :
    a'.hashOf agentID = if agentID = agent.agentID then some agent.tokenHash else a.hashOf agentID := by
  unfold create at h
  dsimp only at h
  split at h
  · cases h
  · cases h
    split
    · rename_i he
      exact hashOf_eq_some.2 ⟨_, SerialTable.mem_live_create.2 (.inr rfl), he.symm, rfl⟩
    · rename_i hne
      refine hashOf_congr fun hash => ⟨?_, ?_⟩
      · rintro ⟨m, hm, hid, hh⟩
        rcases SerialTable.mem_live_create.1 hm with hm | rfl
        · exact ⟨m, hm, hid, hh⟩
        · exact absurd hid.symm hne
      · rintro ⟨m, hm, hid, hh⟩
        exact ⟨m, SerialTable.mem_live_create.2 (.inl hm), hid, hh⟩

theorem hashOf_update {r : Row AgentProfileModel} (hr : r ∈ a.table.live) (hid : agent.id = r.id)
    (hagent : agent.agentID = r.data.agentID) (h : a.update now agent = .ok a') (agentID : String) :
    a'.hashOf agentID = if agentID = agent.agentID then some agent.tokenHash else a.hashOf agentID := by
  unfold update at h
  split at h
  · cases h
  · split at h
    · cases h
      split
      · rename_i he
        exact hashOf_eq_some.2 ⟨_, SerialTable.mem_live_update.2 (.inr ⟨r, hr, hid.symm, rfl⟩), he.symm, rfl⟩
      · rename_i hne
        refine hashOf_congr fun hash => ⟨?_, ?_⟩
        · rintro ⟨m, hm, hmid, hh⟩
          rcases SerialTable.mem_live_update.1 hm with ⟨hm, -⟩ | ⟨r₀, -, -, rfl⟩
          · exact ⟨m, hm, hmid, hh⟩
          · exact absurd hmid.symm hne
        · rintro ⟨m, hm, hmid, hh⟩
          refine ⟨m, SerialTable.mem_live_update.2 (.inl ⟨hm, fun he => hne ?_⟩), hmid, hh⟩
          rw [← hmid, hagent, SerialTable.eq_of_id hm hr (he.trans hid)]
    · cases h

theorem hashOf_delete {r : Row AgentProfileModel} (hr : r ∈ a.table.live) (h : a.delete now r.id = .ok a')
    (agentID : String) : a'.hashOf agentID = if agentID = r.data.agentID then none else a.hashOf agentID := by
  have ht := delete_eq_ok h
  have hrest : ∀ m, m ∈ a'.table.live ↔ m ∈ a.table.live ∧ m.id ≠ r.id := by
    intro m
    rw [ht]
    exact SerialTable.mem_live_delete
  split
  · rename_i he
    refine Option.eq_none_iff_forall_ne_some.2 fun hash hh => ?_
    obtain ⟨m, hm, hmid, -⟩ := hashOf_eq_some.1 hh
    obtain ⟨hm, hne⟩ := (hrest m).1 hm
    exact hne (congrArg Row.id (eq_of_agentID hm hr (hmid.trans he)))
  · rename_i hne
    refine hashOf_congr fun hash => ⟨?_, ?_⟩
    · rintro ⟨m, hm, hmid, hh⟩
      exact ⟨m, ((hrest m).1 hm).1, hmid, hh⟩
    · rintro ⟨m, hm, hmid, hh⟩
      refine ⟨m, (hrest m).2 ⟨hm, fun he => hne ?_⟩, hmid, hh⟩
      rw [← hmid, SerialTable.eq_of_id hm hr he]

/-- The agent id of a row, deleted or not. -/
def Taken (a : Agents) (agentID : String) : Prop := ∃ m ∈ a.table.rows, m.data.agentID = agentID

theorem not_taken_of_create {agent' : AgentProfile} (h : a.create now agent = .ok (a', agent')) :
    ¬a.Taken agent.agentID := by
  rintro ⟨m, hm, hid⟩
  exact (create_eq_ok h).1 (List.mem_map.2 ⟨m, hm, hid⟩)

theorem Taken.create {agent' : AgentProfile} (h : a.create now agent = .ok (a', agent')) {agentID : String}
    (ht : a.Taken agentID) : a'.Taken agentID := by
  obtain ⟨-, m', -, -, htable⟩ := create_eq_ok h
  obtain ⟨m, hm, hid⟩ := ht
  refine ⟨m, ?_, hid⟩
  rw [htable]
  exact List.mem_append_left _ hm

theorem Taken.update {r : Row AgentProfileModel} (hr : r ∈ a.table.live) (hid : agent.id = r.id)
    (hagent : agent.agentID = r.data.agentID) (h : a.update now agent = .ok a') {agentID : String}
    (ht : a.Taken agentID) : a'.Taken agentID := by
  obtain ⟨f, htable, hf⟩ := update_eq_ok h
  obtain ⟨m, hm, rfl⟩ := ht
  unfold Taken
  rw [htable]
  refine ⟨_, List.mem_map.2 ⟨m, hm, rfl⟩, ?_⟩
  split
  · rename_i hc
    have hm : m = r := SerialTable.eq_of_id (SerialTable.mem_live.2 ⟨hm, hc.2⟩) hr (hc.1.trans hid)
    rw [Row.rewrite_data, (hf m.data).2, hagent, hm]
  · rfl

theorem Taken.delete {id : Nat} (h : a.delete now id = .ok a') {agentID : String} (ht : a.Taken agentID) :
    a'.Taken agentID := by
  have hmap : a'.table.rows.map (fun m => m.data.agentID) = a.table.rows.map fun m => m.data.agentID := by
    rw [delete_eq_ok h]
    exact SerialTable.map_delete fun _ => rfl
  exact List.mem_map.1 (hmap ▸ List.mem_map.2 ht)

end Results

end Agents

/-! ## PGTunnelConfigRepository -/

structure TunnelDefinitionModel where
  agentProfileID : Nat
  label : String
  localAddr : String
  tunnelType : String
deriving DecidableEq, Repr

structure TunnelConfig where
  id : Nat := 0
  agentProfileID : Nat
  label : String
  localAddr : String
  tunnelType : String
  createdAt : Time := 0
  updatedAt : Time := 0
deriving DecidableEq, Repr

def modelToTunnelDef (m : Row TunnelDefinitionModel) : TunnelConfig where
  id := m.id
  agentProfileID := m.data.agentProfileID
  label := m.data.label
  localAddr := m.data.localAddr
  tunnelType := m.data.tunnelType
  createdAt := m.createdAt
  updatedAt := m.updatedAt

/-- `tunnel_definitions` -/
abbrev TunnelConfigs := SerialTable TunnelDefinitionModel

namespace TunnelConfigs

def create (s : TunnelConfigs) (now : Time) (tunnel : TunnelConfig) : TunnelConfigs × TunnelConfig :=
  let tunnelType := if tunnel.tunnelType = "" then "tcp" else tunnel.tunnelType
  let m : TunnelDefinitionModel :=
    { agentProfileID := tunnel.agentProfileID, label := tunnel.label, localAddr := tunnel.localAddr, tunnelType }
  (SerialTable.create s now m, { tunnel with id := s.nextID, createdAt := now, updatedAt := now })

def getByID (s : TunnelConfigs) (id : Nat) : Except String TunnelConfig :=
  match s.first id with
  | some m => .ok (modelToTunnelDef m)
  | none => .error ("tunnel definition " ++ toString id ++ " not found: record not found")

def update (s : TunnelConfigs) (now : Time) (tunnel : TunnelConfig) : Except String TunnelConfigs :=
  match s.first tunnel.id with
  | none => .error ("tunnel definition " ++ toString tunnel.id ++ " not found")
  | some _ =>
    .ok (SerialTable.update s now tunnel.id fun m => { m with
      label := tunnel.label, localAddr := tunnel.localAddr, tunnelType := tunnel.tunnelType })

def delete (s : TunnelConfigs) (now : Time) (id : Nat) : Except String TunnelConfigs :=
  match s.first id with
  | none => .error ("tunnel definition " ++ toString id ++ " not found")
  | some _ => .ok (SerialTable.delete s now id)

section Results

variable {s s' : TunnelConfigs} {now : Time} {tunnel : TunnelConfig}

theorem getByID_eq_ok {id : Nat} (h : getByID s id = .ok tunnel) :
    ∃ m ∈ s.live, m.id = id ∧ tunnel = modelToTunnelDef m := by
  unfold getByID at h
  split at h
  · rename_i m hm
    cases h
    exact ⟨m, (SerialTable.first_eq_some.1 hm).1, (SerialTable.first_eq_some.1 hm).2, rfl⟩
  · cases h

/-- A tunnel stays with its agent. -/
theorem update_eq_ok (h : update s now tunnel = .ok s') :
    ∃ f : TunnelDefinitionModel → TunnelDefinitionModel, s' = SerialTable.update s now tunnel.id f ∧
      ∀ m, (f m).agentProfileID = m.agentProfileID := by
  unfold update at h
  split at h <;> cases h
  exact ⟨_, rfl, fun m => rfl⟩

theorem delete_eq_ok {id : Nat} (h : delete s now id = .ok s') : s' = SerialTable.delete s now id := by
  unfold delete at h
  split at h <;> cases h
  rfl

end Results

end TunnelConfigs

/-! ## PGTunnelACLRepository -/

structure TunnelACLModel where
  tunnelID : String
  aclType : String
  cidr : String
deriving DecidableEq, Repr

structure TunnelACL where
  id : Nat := 0
  tunnelID : String
  aclType : String
  cidr : String
  createdAt : Time := 0
deriving DecidableEq, Repr

def modelToTunnelACL (m : Row TunnelACLModel) : TunnelACL where
  id := m.id
  tunnelID := m.data.tunnelID
  aclType := m.data.aclType
  cidr := m.data.cidr
  createdAt := m.createdAt

/-- `tunnel_acls` -/
abbrev TunnelACLs := SerialTable TunnelACLModel

namespace TunnelACLs

/-- In the order of the table; the query asks for none. -/
def list (s : TunnelACLs) (tunnelID : String) : List TunnelACL :=
  (s.live.filter fun m => m.data.tunnelID = tunnelID).map modelToTunnelACL

def create (s : TunnelACLs) (now : Time) (acl : TunnelACL) : TunnelACLs × TunnelACL :=
  (SerialTable.create s now { tunnelID := acl.tunnelID, aclType := acl.aclType, cidr := acl.cidr },
    { acl with id := s.nextID, createdAt := now })

def delete (s : TunnelACLs) (now : Time) (id : Nat) : Except String TunnelACLs :=
  match s.first id with
  | none => .error ("tunnel ACL " ++ toString id ++ " not found")
  | some _ => .ok (SerialTable.delete s now id)

theorem delete_eq_ok {s s' : TunnelACLs} {now : Time} {id : Nat} (h : delete s now id = .ok s') :
    s' = SerialTable.delete s now id := by
  unfold delete at h
  split at h <;> cases h
  rfl

end TunnelACLs

/-! ## Token repositories -/

/-- `domain.TokenRepository`: hashes by agent id. -/
structure TokenRepository (τ : Type) where
  create : τ → String → String → Except String τ
  getByAgentID : τ → String → Except String String
  delete : τ → String → Except String τ
  create_other : ∀ {s s' a b hash}, create s a hash = .ok s' → b ≠ a → getByAgentID s' b = getByAgentID s b
  delete_other : ∀ {s s' a b}, delete s a = .ok s' → b ≠ a → getByAgentID s' b = getByAgentID s b

/-- The map of `MemoryTokenRepository`, and `agent_tokens`, which has a unique index on the agent id. -/
abbrev TokenMap := GoMap String String

namespace TokenMap

def getByAgentID (s : TokenMap) (agentID : String) : Except String String :=
  match s.lookup agentID with
  | some hash => .ok hash
  | none => .error ("token not found for agent " ++ agentID)

theorem getByAgentID_insert {s : TokenMap} {a b hash : String} (h : b ≠ a) :
    getByAgentID (s.insert a hash) b = getByAgentID s b := by
  simp only [getByAgentID, GoMap.lookup_insert_ite, if_neg h]

theorem getByAgentID_erase {s : TokenMap} {a b : String} (h : b ≠ a) :
    getByAgentID (s.erase a) b = getByAgentID s b := by
  simp only [getByAgentID, GoMap.lookup_erase_ite, if_neg h]

def memory : TokenRepository TokenMap where
  create s agentID tokenHash := .ok (s.insert agentID tokenHash)
  getByAgentID := getByAgentID
  delete s agentID := .ok (s.erase agentID)
  create_other h hne := by
    cases h
    exact getByAgentID_insert hne
  delete_other h hne := by
    cases h
    exact getByAgentID_erase hne

def createRow (s : TokenMap) (agentID tokenHash : String) : Except String TokenMap :=
  match s.lookup agentID with
  | some _ => .error "failed to create token: duplicate key value violates unique constraint"
  | none => .ok (s.insert agentID tokenHash)

def deleteRow (s : TokenMap) (agentID : String) : Except String TokenMap :=
  match s.lookup agentID with
  | some _ => .ok (s.erase agentID)
  | none => .error ("token not found for agent " ++ agentID)

def table : TokenRepository TokenMap where
  create := createRow
  getByAgentID := getByAgentID
  delete := deleteRow
  create_other h hne := by
    unfold createRow at h
    split at h
    · cases h
    · cases h
      exact getByAgentID_insert hne
  delete_other h hne := by
    unfold deleteRow at h
    split at h
    · cases h
      exact getByAgentID_erase hne
    · cases h

end TokenMap

/-- The repository gives back the hash that was stored last. -/
def TokenRepository.Stores {τ : Type} (tr : TokenRepository τ) : Prop :=
  ∀ {s s' a hash}, tr.create s a hash = .ok s' → tr.getByAgentID s' a = .ok hash

theorem TokenMap.table_stores : TokenMap.table.Stores := by
  intro s s' a hash h
  simp only [TokenMap.table, TokenMap.createRow] at h
  split at h
  · cases h
  · cases h
    simp [TokenMap.table, TokenMap.getByAgentID]

/-! ## Sessions -/

/-- All that a session store keeps for a tunnel, and that `Deregister` writes to no other tunnel. -/
structure SessionRepository.Records {σ : Type} (repo : SessionRepository σ) (ρ : Type) where
  of : σ → String → ρ
  deregister_other : ∀ {s now t t'}, t ≠ t' → of (repo.deregister s now t').1 t = of s t

/-- Rows of every status. -/
def Table.records : Table.repo.Records (List TunnelSessionModel) where
  of s t := s.filter fun row => row.session.tunnelID = t
  deregister_other {s now t t'} hne := by
    have hrows : (Table.deregister s t').1 = (Table.update s (Table.activeOf t') ({ · with status := .closed })).1 := by
      unfold Table.deregister
      split <;> simp only [*]
    simp only [Table.repo, hrows, Table.update]
    clear hrows
    induction s with
    | nil => rfl
    | cons row s ih =>
      simp only [List.map_cons, List.filter_cons]
      by_cases ht : row.session.tunnelID = t'
      · have hne' : row.session.tunnelID ≠ t := fun he => hne (he.symm.trans ht)
        have hdec : decide (row.session.tunnelID = t) = false := decide_eq_false hne'
        split <;> simp only [hdec, Bool.false_eq_true, if_false, ih]
      · have hact : ¬ Table.activeOf t' row = true := by simp [Table.activeOf, ht]
        rw [if_neg hact, ih]

end TunnelEdge.Store
