import TunnelEdge.Auth.TokenAuthenticator
import TunnelEdge.Store.Profiles
/-!
# Tokens in the database

`DBTokenAuthenticator` (`internal/auth/db_authenticator.go`) on the agent profiles. Every
authentication reads all hashes into a map and goes through it in whatever order Go
ranges over it, up to the first hash that fits. Then it looks at the profile: a locked
one is refused, and so is one whose token has expired.

The columns for that are written by nobody but the authenticator itself, and it only
ever clears the lock. `recordAuthFailure` does nothing.
-/

namespace TunnelEdge.Auth

open GoLib Store

/-- The columns of a profile that `UpdateSecurityFields` writes. -/
structure SecurityFields where
  failedAuthCount : Int := 0
  lastUsedAt : Option Time := none
  lockedUntil : Option Time := none
deriving DecidableEq, Repr

/-- `agent_profiles` with these columns, by the id of the row. -/
structure ProfileStore where
  agents : Agents := {}
  security : Nat → SecurityFields := fun _ => {}

/-- The body of the loop in `ListTokenHashes`. -/
def addHash (m : GoMap String String) (r : Row AgentProfileModel) : GoMap String String :=
  if r.data.tokenHash ≠ "" then m.insert r.data.tokenHash r.data.agentID else m

def listTokenHashes (agents : Agents) : GoMap String String := agents.table.live.foldl addHash ∅

/-- An update of other columns also sets `updated_at`. -/
def touch (agents : Agents) (now : Time) (id : Nat) : Agents where
  table := agents.table.update now id fun m => m
  unique := by
    rw [SerialTable.map_update (k := fun r : Row AgentProfileModel => r.data.agentID) fun _ => rfl]
    exact agents.unique

/-- `PGAgentProfileRepository.UpdateSecurityFields`; no row is affected when there is none. -/
def ProfileStore.updateSecurityFields (s : ProfileStore) (now : Time) (id : Nat) (fields : SecurityFields) :
    ProfileStore :=
  if (s.agents.table.first id).isSome then
    { agents := touch s.agents now id, security := Function.update s.security id fields }
  else s

/-- The errors of `Authenticate`; all but `loadTokens` have the code `UNAUTHORIZED`. -/
inductive DBAuthError
  | emptyToken
  | loadTokens (err : String)
  | invalidToken
  | locked
  | expired
deriving DecidableEq, Repr

structure DBAuthFaults where
  listTokenHashes : Option String := none
  getByAgentID : Bool := false
  updateSecurityFields : Bool := false

/-- A hash has fit: the security checks. -/
def checkProfile (s : ProfileStore) (now : Time) (fails : DBAuthFaults) (agentID : String) :
    ProfileStore × Except DBAuthError String :=
  match s.agents.getByAgentID agentID, fails.getByAgentID with
  | .ok profile, false =>
    let fields := s.security profile.id
    if fields.lockedUntil.any fun t => now < t then (s, .error .locked)
    else if profile.tokenExpiresAt.any fun t => t < now then (s, .error .expired)
    else
      let fields : SecurityFields := { failedAuthCount := 0, lastUsedAt := some now, lockedUntil := none }
      (if fails.updateSecurityFields then s else s.updateSecurityFields now profile.id fields, .ok agentID)
  | _, _ => (s, .error .invalidToken)

/-- `Authenticate`, for the pairs of the map in the order in which they are ranged over. -/
def dbAuthenticate (c : Crypto) (s : ProfileStore) (now : Time) (fails : DBAuthFaults) (pairs : List (String × String))
    (token : String) : ProfileStore × Except DBAuthError String :=
  if token = "" then (s, .error .emptyToken)
  else
    match fails.listTokenHashes with
    | some err => (s, .error (.loadTokens err))
    | none =>
      match pairs.find? fun p => c.compare p.1 token with
      | some (_, agentID) => checkProfile s now fails agentID
      | none => (s, .error .invalidToken)

/-- An order in which the hashes can be ranged over. -/
def Ranged (agents : Agents) (pairs : List (String × String)) : Prop :=
  pairs.Perm ((listTokenHashes agents).entries.map fun e => (e.1, e.2))

/-! ## The hashes in the map -/

variable {agents : Agents} {pairs : List (String × String)} {hash agentID token : String}

theorem lookup_addHash (m : GoMap String String) (r : Row AgentProfileModel) :
    (addHash m r).lookup hash =
      if hash = r.data.tokenHash ∧ hash ≠ "" then some r.data.agentID else m.lookup hash := by
  unfold addHash
  by_cases he : hash = r.data.tokenHash
  · subst he
    split <;> simp_all
  · split <;> simp [he]

theorem of_lookup_foldl_addHash {rows : List (Row AgentProfileModel)} {m : GoMap String String}
    (h : (rows.foldl addHash m).lookup hash = some agentID) :
    m.lookup hash = some agentID ∨ ∃ r ∈ rows, r.data.tokenHash = hash ∧ hash ≠ "" ∧ r.data.agentID = agentID := by
  induction rows generalizing m with
  | nil => exact .inl h
  | cons r rows ih =>
    rcases ih h with h | ⟨r', hr', h⟩
    · rw [lookup_addHash] at h
      split at h
      · rename_i he
        cases h
        exact .inr ⟨r, List.mem_cons_self, he.1.symm, he.2, rfl⟩
      · exact .inl h
    · exact .inr ⟨r', List.mem_cons_of_mem _ hr', h⟩

theorem lookup_foldl_addHash {rows : List (Row AgentProfileModel)} {m : GoMap String String} (hne : hash ≠ "")
    (h : (m.lookup hash).isSome ∨ ∃ r ∈ rows, r.data.tokenHash = hash) :
    ((rows.foldl addHash m).lookup hash).isSome := by
  induction rows generalizing m with
  | nil =>
    rcases h with h | ⟨r, hr, -⟩
    · exact h
    · cases hr
  | cons r rows ih =>
    apply ih
    rw [lookup_addHash]
    by_cases he : hash = r.data.tokenHash
    · exact .inl (by simp [← he, hne])
    · rcases h with h | ⟨r', hr', hr'e⟩
      · exact .inl (by simpa [he] using h)
      · rcases List.mem_cons.1 hr' with rfl | hr'
        · exact absurd hr'e.symm he
        · exact .inr ⟨r', hr', hr'e⟩

theorem Ranged.hashOf (hp : Ranged agents pairs) (h : (hash, agentID) ∈ pairs) :
    agents.hashOf agentID = some hash ∧ hash ≠ "" := by
  have hl : (listTokenHashes agents).lookup hash = some agentID := by
    rw [hp.mem_iff] at h
    rw [← GoMap.mem_entries_iff]
    simpa using h
  rcases of_lookup_foldl_addHash hl with h | ⟨r, hr, he, hne, ha⟩
  · cases h
  · exact ⟨Agents.hashOf_eq_some.2 ⟨r, hr, ha, he⟩, hne⟩

theorem Ranged.mem (hp : Ranged agents pairs) (h : agents.hashOf agentID = some hash) (hne : hash ≠ "") :
    ∃ agentID', (hash, agentID') ∈ pairs := by
  obtain ⟨r, hr, -, he⟩ := Agents.hashOf_eq_some.1 h
  have hsome := lookup_foldl_addHash (m := ∅) hne (.inr ⟨r, hr, he⟩)
  obtain ⟨agentID', hl⟩ := Option.isSome_iff_exists.1 hsome
  refine ⟨agentID', ?_⟩
  rw [hp.mem_iff]
  have hm := (GoMap.mem_entries_iff (listTokenHashes agents) hash agentID').2 hl
  exact List.mem_map.2 ⟨_, hm, rfl⟩

/-! ## What is accepted -/

variable {c : Crypto} {s : ProfileStore} {now : Time}

/-- No profile is locked, and no token expires. -/
structure ProfileStore.Unlocked (s : ProfileStore) : Prop where
  locked : ∀ id, (s.security id).lockedUntil = none
  expires : ∀ r ∈ s.agents.table.rows, r.data.tokenExpiresAt = none

theorem checkProfile_unlocked (hu : s.Unlocked) {fails : DBAuthFaults} (hf : fails.getByAgentID = false)
    (agentID : String) : (checkProfile s now fails agentID).2 =
      if (s.agents.hashOf agentID).isSome then .ok agentID else .error .invalidToken := by
  unfold Agents.hashOf
  cases hg : s.agents.getByAgentID agentID with
  | ok profile =>
    obtain ⟨r, hr, -, rfl⟩ := Agents.getByAgentID_eq_ok hg
    have hexp : (modelToAgentProfile r).tokenExpiresAt = none := hu.expires r (SerialTable.mem_live.1 hr).1
    simp only [checkProfile, hg, hf, hu.locked, hexp]
    rfl
  | error err =>
    simp only [checkProfile, hg]
    rfl

/-- The ids and the columns of the model. -/
def contents (agents : Agents) : List (Nat × AgentProfileModel) := agents.table.rows.map fun r => (r.id, r.data)

theorem contents_touch (agents : Agents) (now : Time) (id : Nat) : contents (touch agents now id) = contents agents :=
  SerialTable.map_update fun _ => rfl

theorem mem_of_contents {agents' : Agents} (h : contents agents' = contents agents) {r' : Row AgentProfileModel}
    (hr' : r' ∈ agents'.table.rows) : ∃ r ∈ agents.table.rows, r.id = r'.id ∧ r.data = r'.data := by
  have hm : (r'.id, r'.data) ∈ contents agents := h ▸ List.mem_map.2 ⟨r', hr', rfl⟩
  obtain ⟨r, hr, he⟩ := List.mem_map.1 hm
  exact ⟨r, hr, Prod.mk.inj he⟩

theorem checkProfile_keeps (hu : s.Unlocked) (fails : DBAuthFaults) (agentID : String) :
    contents (checkProfile s now fails agentID).1.agents = contents s.agents ∧
      (checkProfile s now fails agentID).1.Unlocked := by
  unfold checkProfile
  split
  · dsimp only
    split
    · exact ⟨rfl, hu⟩
    · split
      · exact ⟨rfl, hu⟩
      · split
        · exact ⟨rfl, hu⟩
        · unfold ProfileStore.updateSecurityFields
          split
          · refine ⟨contents_touch .., fun id => ?_, fun r hr => ?_⟩
            · simp only [Function.update_apply]
              split
              · rfl
              · exact hu.locked id
            · obtain ⟨r₀, hr₀, -, he⟩ := mem_of_contents (contents_touch ..) hr
              rw [← he]
              exact hu.expires r₀ hr₀
          · exact ⟨rfl, hu⟩
  · exact ⟨rfl, hu⟩

theorem dbAuthenticate_keeps (c : Crypto) (now : Time) (hu : s.Unlocked) (fails : DBAuthFaults)
    (pairs : List (String × String)) (token : String) :
    contents (dbAuthenticate c s now fails pairs token).1.agents = contents s.agents ∧
      (dbAuthenticate c s now fails pairs token).1.Unlocked := by
  unfold dbAuthenticate
  split
  · exact ⟨rfl, hu⟩
  · split
    · exact ⟨rfl, hu⟩
    · split
      · exact checkProfile_keeps hu fails _
      · exact ⟨rfl, hu⟩

/-- Without locks and expiry, a token that fits a listed hash is accepted as the agent it was listed for, if the agent
is still there; its hash is not looked at again. -/
theorem dbAuthenticate_unlocked (hu : s.Unlocked) (hp : Ranged agents pairs) {fails : DBAuthFaults}
    (hlist : fails.listTokenHashes = none) (hget : fails.getByAgentID = false) (htoken : token ≠ "") :
    (∃ agentID hash, agents.hashOf agentID = some hash ∧ hash ≠ "" ∧ c.compare hash token = true ∧
      (dbAuthenticate c s now fails pairs token).2 =
        if (s.agents.hashOf agentID).isSome then .ok agentID else .error .invalidToken) ∨
    ((∀ agentID hash, agents.hashOf agentID = some hash → hash ≠ "" → c.compare hash token = false) ∧
      (dbAuthenticate c s now fails pairs token).2 = .error .invalidToken) := by
  unfold dbAuthenticate
  rw [if_neg htoken, hlist]
  dsimp only
  split
  · rename_i hash agentID hfind
    obtain ⟨hhash, hne⟩ := hp.hashOf (List.mem_of_find?_eq_some hfind)
    have hcompare : c.compare hash token = true := by simpa using List.find?_some hfind
    exact .inl ⟨agentID, hash, hhash, hne, hcompare, checkProfile_unlocked hu hget agentID⟩
  · rename_i hnone
    refine .inr ⟨fun agentID hash hhash hne => ?_, rfl⟩
    obtain ⟨agentID', hm⟩ := hp.mem hhash hne
    simpa using List.find?_eq_none.1 hnone _ hm

end TunnelEdge.Auth
