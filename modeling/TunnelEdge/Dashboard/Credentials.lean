import TunnelEdge.Auth.DBAuthenticator
import TunnelEdge.Dashboard.Atomicity
import TunnelEdge.Lib.Runs
/-!
# The credentials of agents

`AgentService` (`internal/dashboard/service.go`) writes the profiles that
`DBTokenAuthenticator` reads, in another process. Here its calls are sequences of
statements, so that they run side by side with each other and with authentications. An
authentication lists the hashes at one time and looks at the profile at a later one; that
it reads the profile and then writes its columns is one step here.

A rename reads the whole profile and writes it back, its hash included. A rotation that
comes in between is undone by it: the new token is refused, and the old one is good again.
-/

namespace TunnelEdge.Dashboard

open GoLib Store Auth AgentService

variable {τ σ : Type}

/-! ## Calls -/

/-- A call of `AgentService` at its next statement. The hashes are those of the tokens that it draws. -/
inductive AgentPc
  | create (userID : Nat) (name agentID tokenHash : String)
  | createToken (agentID tokenHash : String)
  | update (userID agentID : Nat) (name : String)
  | updateWrite (agent : AgentProfile)
  | rotate (userID agentID : Nat) (tokenHash : String)
  | rotateWrite (agent : AgentProfile)
  | rotateDrop (agentID tokenHash : String)
  | rotateStore (agentID tokenHash : String)
  | delete (userID agentID : Nat)
  | deleteWrite (agentID : Nat)
  | done
deriving DecidableEq, Repr

def AgentPc.starts : AgentPc → Bool
  | .create .. | .update .. | .rotate .. | .delete .. => true
  | _ => false

def AgentPc.write : AgentPc → Option AgentProfile
  | .updateWrite agent | .rotateWrite agent => some agent
  | _ => none

theorem AgentPc.write_of_starts {pc : AgentPc} (h : pc.starts = true) : pc.write = none := by
  cases pc with
  | create | update | rotate | delete => rfl
  | _ => cases h

def AgentPc.issues (hash : String) : AgentPc → Bool
  | .create _ _ _ tokenHash | .rotate _ _ tokenHash => tokenHash = hash
  | .rotateWrite agent => agent.tokenHash = hash
  | _ => false

def AgentPc.step (tr : TokenRepository τ) (d : Repositories τ σ) (now : Time) (fails : Faults) :
    AgentPc → Repositories τ σ × AgentPc
  | .create userID name agentID tokenHash =>
    match createProfile d fails now userID name agentID tokenHash with
    | .error _ => (d, .done)
    | .ok (agents, _) => ({ d with agents }, .createToken agentID tokenHash)
  | .createToken agentID tokenHash | .rotateStore agentID tokenHash =>
    match storeToken tr fails d.tokens agentID tokenHash with
    | .error _ => (d, .done)
    | .ok tokens => ({ d with tokens }, .done)
  | .update userID agentID name =>
    match AgentService.get d fails userID agentID with
    | .error _ => (d, .done)
    | .ok agent => (d, .updateWrite { agent with name })
  | .updateWrite agent =>
    match fails.guard .agentsUpdate (d.agents.update now agent) with
    | .error _ => (d, .done)
    | .ok agents => ({ d with agents }, .done)
  | .rotate userID agentID tokenHash =>
    match AgentService.get d fails userID agentID, fails .generateToken with
    | .ok agent, none => (d, .rotateWrite { agent with tokenHash })
    | _, _ => (d, .done)
  | .rotateWrite agent =>
    match fails.guard .agentsUpdate (d.agents.update now agent) with
    | .error _ => (d, .done)
    | .ok agents => ({ d with agents }, .rotateDrop agent.agentID agent.tokenHash)
  | .rotateDrop agentID tokenHash =>
    ({ d with tokens := dropToken tr fails d.tokens agentID }, .rotateStore agentID tokenHash)
  | .delete userID agentID =>
    match AgentService.get d fails userID agentID with
    | .error _ => (d, .done)
    | .ok _ => (d, .deleteWrite agentID)
  | .deleteWrite agentID =>
    match fails.guard .agentsDelete (d.agents.delete now agentID) with
    | .error _ => (d, .done)
    | .ok agents => ({ d with agents }, .done)
  | .done => (d, .done)

/-- The repositories of the dashboard, the columns of the authenticator, and the calls under way. -/
structure Credentials (τ σ : Type) where
  d : Repositories τ σ
  security : Nat → SecurityFields := fun _ => {}
  calls : List AgentPc := []

def Credentials.store (w : Credentials τ σ) : ProfileStore := { agents := w.d.agents, security := w.security }

inductive CredentialLabel
  | call (pc : AgentPc)
  | statement (i : Nat) (now : Time) (fails : Faults)
  /-- The profile of an authentication is looked at; the pairs were listed some time before. -/
  | authenticate (now : Time) (fails : DBAuthFaults) (pairs : List (String × String)) (token : String)

def CredentialLabel.issues (hash : String) : CredentialLabel → Bool
  | .call pc => pc.issues hash
  | _ => false

def Credentials.step (tr : TokenRepository τ) (c : Crypto) (w : Credentials τ σ) :
    CredentialLabel → Option (Credentials τ σ)
  | .call pc => if pc.starts then some { w with calls := w.calls ++ [pc] } else none
  | .statement i now fails =>
    w.calls[i]?.map fun pc =>
      let (d, pc') := pc.step tr w.d now fails
      { w with d, calls := w.calls.set i pc' }
  | .authenticate now fails pairs token =>
    let s := (dbAuthenticate c w.store now fails pairs token).1
    some { w with d := { w.d with agents := s.agents }, security := s.security }

/-! ## What a statement does to the profiles -/

/-- All that a statement can do to the profiles, and where its call goes on. -/
inductive AgentPc.Does (agents : Agents) : AgentPc → Agents → AgentPc → Prop
  | quiet {pc pc' : AgentPc} (hw : pc'.write = none) (hi : ∀ hash, pc'.issues hash = false) : Does agents pc agents pc'
  | readName {userID agentID : Nat} {name : String} {r : Row AgentProfileModel} (hr : r ∈ agents.table.live) :
      Does agents (.update userID agentID name) agents (.updateWrite { modelToAgentProfile r with name })
  | readHash {userID agentID : Nat} {tokenHash : String} {r : Row AgentProfileModel} (hr : r ∈ agents.table.live) :
      Does agents (.rotate userID agentID tokenHash) agents (.rotateWrite { modelToAgentProfile r with tokenHash })
  | created {pc pc' : AgentPc} {r : Row AgentProfileModel} {agents' : Agents}
      (hrows : agents'.table.rows = agents.table.rows ++ [r]) (hid : r.id = agents.table.nextID)
      (hexp : r.data.tokenExpiresAt = none) (hw : pc'.write = none) (hi : ∀ hash, pc'.issues hash = false) :
      Does agents pc agents' pc'
  | wrote {pc pc' : AgentPc} {now : Time} {agent : AgentProfile} {agents' : Agents} (hpc : pc.write = some agent)
      (h : agents.update now agent = .ok agents') (hw : pc'.write = none) (hi : ∀ hash, pc'.issues hash = false) :
      Does agents pc agents' pc'
  | marked {pc pc' : AgentPc} {agents' : Agents} (h : contents agents' = contents agents) (hw : pc'.write = none)
      (hi : ∀ hash, pc'.issues hash = false) : Does agents pc agents' pc'

variable {tr : TokenRepository τ} {c : Crypto} {d : Repositories τ σ} {now : Time} {fails : Faults}
variable {agents agents' : Agents}

theorem create_rows {agent agent' : AgentProfile} (h : agents.create now agent = .ok (agents', agent')) :
    ∃ r : Row AgentProfileModel, agents'.table.rows = agents.table.rows ++ [r] ∧ r.id = agents.table.nextID ∧
      r.data.tokenExpiresAt = none := by
  unfold Agents.create at h
  dsimp only at h
  split at h
  · cases h
  · cases h
    exact ⟨_, rfl, rfl, rfl⟩

theorem contents_delete {id : Nat} (h : agents.delete now id = .ok agents') : contents agents' = contents agents := by
  rw [contents, Agents.delete_eq_ok h]
  exact SerialTable.map_delete fun _ => rfl

theorem AgentPc.does (tr : TokenRepository τ) (d : Repositories τ σ) (now : Time) (fails : Faults) (pc : AgentPc) :
    AgentPc.Does d.agents pc (pc.step tr d now fails).1.agents (pc.step tr d now fails).2 := by
  cases pc with
  | create userID name agentID tokenHash =>
    simp only [AgentPc.step]
    split
    · exact .quiet rfl fun _ => rfl
    · obtain ⟨r, hrows, hid, hexp⟩ := create_rows (createProfile_eq_ok ‹_›)
      exact .created hrows hid hexp rfl fun _ => rfl
  | createToken agentID tokenHash | rotateStore agentID tokenHash =>
    simp only [AgentPc.step]
    split <;> exact .quiet rfl fun _ => rfl
  | update userID agentID name =>
    simp only [AgentPc.step]
    split
    · exact .quiet rfl fun _ => rfl
    · obtain ⟨r, ho, -, rfl⟩ := get_eq_ok ‹_›
      exact .readName ho.1
  | updateWrite agent =>
    simp only [AgentPc.step]
    split
    · exact .quiet rfl fun _ => rfl
    · exact .wrote rfl (Faults.guard_eq_ok ‹_›) rfl fun _ => rfl
  | rotate userID agentID tokenHash =>
    simp only [AgentPc.step]
    split
    · rename_i agent hg _
      obtain ⟨r, ho, -, rfl⟩ := get_eq_ok hg
      exact .readHash ho.1
    · exact .quiet rfl fun _ => rfl
  | rotateWrite agent =>
    simp only [AgentPc.step]
    split
    · exact .quiet rfl fun _ => rfl
    · exact .wrote rfl (Faults.guard_eq_ok ‹_›) rfl fun _ => rfl
  | rotateDrop agentID tokenHash => exact .quiet rfl fun _ => rfl
  | delete userID agentID =>
    simp only [AgentPc.step]
    split <;> exact .quiet rfl fun _ => rfl
  | deleteWrite agentID =>
    simp only [AgentPc.step]
    split
    · exact .quiet rfl fun _ => rfl
    · exact .marked (contents_delete (Faults.guard_eq_ok ‹_›)) rfl fun _ => rfl
  | done => exact .quiet rfl fun _ => rfl

/-! ## Rows -/

def HasAgent (agents : Agents) (id : Nat) (agentID : String) : Prop :=
  agents.table.Has AgentProfileModel.agentID id agentID

theorem update_table {agent : AgentProfile} (h : agents.update now agent = .ok agents') :
    ∃ f : AgentProfileModel → AgentProfileModel, agents'.table = agents.table.update now agent.id f ∧
      ∀ m, (f m).agentID = agent.agentID ∧ (f m).tokenHash = agent.tokenHash ∧
        (f m).tokenExpiresAt = agent.tokenExpiresAt := by
  unfold Agents.update at h
  split at h
  · cases h
  split at h
  · cases h
    exact ⟨_, rfl, fun m => ⟨rfl, rfl, rfl⟩⟩
  · cases h

theorem update_rows {agent : AgentProfile} (h : agents.update now agent = .ok agents') {r' : Row AgentProfileModel}
    (hr' : r' ∈ agents'.table.rows) : r' ∈ agents.table.rows ∨
      r'.id = agent.id ∧ r'.data.tokenHash = agent.tokenHash ∧ r'.data.tokenExpiresAt = agent.tokenExpiresAt := by
  obtain ⟨f, htable, hf⟩ := update_table h
  rw [htable] at hr'
  rcases SerialTable.of_mem_update hr' with hr' | ⟨r, -, hid, rfl⟩
  · exact .inl hr'
  · exact .inr ⟨hid, (hf r.data).2⟩

/-! ## No profile is ever locked -/

/-- A write that is to come is one of a profile that exists, and sets no expiry. -/
def Pending (agents : Agents) (pc : AgentPc) : Prop :=
  ∀ agent, pc.write = some agent → agent.tokenExpiresAt = none ∧ HasAgent agents agent.id agent.agentID

structure Credentials.Inv (w : Credentials τ σ) : Prop where
  unlocked : w.store.Unlocked
  pending : ∀ pc ∈ w.calls, Pending w.d.agents pc

section Statement

variable {pc pc' : AgentPc}

theorem AgentPc.Does.hasAgent (h : AgentPc.Does agents pc agents' pc') (hp : Pending agents pc) {id : Nat}
    {agentID : String} (ha : HasAgent agents id agentID) : HasAgent agents' id agentID := by
  cases h with
  | quiet | readName | readHash => exact ha
  | created hrows =>
    obtain ⟨r, hr, h⟩ := ha
    exact ⟨r, by rw [hrows]; exact List.mem_append_left _ hr, h⟩
  | wrote hpc hu =>
    obtain ⟨f, htable, hf⟩ := update_table hu
    rw [HasAgent, htable]
    -- the profile that is written keeps its agent id
    exact ha.change fun r hr hid => (hf r.data).1.trans ((hp _ hpc).2.eq hr hid).symm
  | marked hsame =>
    obtain ⟨r, hr, hid, he⟩ := ha
    obtain ⟨r', hr', hid', he'⟩ := mem_of_contents hsame.symm hr
    exact ⟨r', hr', hid'.trans hid, by rw [he']; exact he⟩

theorem AgentPc.Does.expires (h : AgentPc.Does agents pc agents' pc') (hp : Pending agents pc)
    (hexp : ∀ r ∈ agents.table.rows, r.data.tokenExpiresAt = none) :
    ∀ r ∈ agents'.table.rows, r.data.tokenExpiresAt = none := by
  intro r' hr'
  cases h with
  | quiet | readName | readHash => exact hexp r' hr'
  | created hrows hid he =>
    rw [hrows] at hr'
    rcases List.mem_append.1 hr' with hr' | hr'
    · exact hexp r' hr'
    · rw [List.mem_singleton.1 hr']
      exact he
  | wrote hpc hu =>
    rcases update_rows hu hr' with hr' | ⟨-, -, he⟩
    · exact hexp r' hr'
    · rw [he]
      exact (hp _ hpc).1
  | marked hsame =>
    obtain ⟨r, hr, -, he⟩ := mem_of_contents hsame hr'
    rw [← he]
    exact hexp r hr

theorem AgentPc.Does.pending (h : AgentPc.Does agents pc agents' pc')
    (hexp : ∀ r ∈ agents.table.rows, r.data.tokenExpiresAt = none) : Pending agents' pc' := by
  intro agent hw
  cases h with
  | readName hr | readHash hr =>
    cases hw
    have hmem := (SerialTable.mem_live.1 hr).1
    exact ⟨hexp _ hmem, _, hmem, rfl, rfl⟩
  | quiet hno | created _ _ _ hno | wrote _ _ hno | marked _ hno =>
    rw [hno] at hw
    cases hw

end Statement

namespace Credentials

variable {w w' : Credentials τ σ} {l : CredentialLabel}

theorem Inv.authenticate (hi : w.Inv) (c : Crypto) (now : Time) (fails : DBAuthFaults) (pairs : List (String × String))
    (token : String) : AgentPc.Does w.d.agents .done (dbAuthenticate c w.store now fails pairs token).1.agents .done :=
  .marked (dbAuthenticate_keeps c now hi.unlocked fails pairs token).1 rfl fun _ => rfl

theorem Inv.step (hi : w.Inv) (h : w.step tr c l = some w') : w'.Inv := by
  cases l with
  | call pc =>
    simp only [Credentials.step] at h
    split at h
    · rename_i hstart
      cases h
      refine ⟨hi.unlocked, List.forall_mem_append.2 ⟨hi.pending, List.forall_mem_singleton.2 fun agent hw => ?_⟩⟩
      rw [AgentPc.write_of_starts hstart] at hw
      cases hw
    · cases h
  | statement i now fails =>
    obtain ⟨pc, hpc, rfl⟩ := Option.map_eq_some_iff.1 h
    have hdoes := AgentPc.does tr w.d now fails pc
    have hp := hi.pending pc (List.mem_of_getElem? hpc)
    refine ⟨⟨hi.unlocked.locked, hdoes.expires hp hi.unlocked.expires⟩,
      forall_set (fun pc' hpc' agent hw => ?_) (hdoes.pending hi.unlocked.expires) i⟩
    obtain ⟨hexp, ha⟩ := hi.pending pc' hpc' agent hw
    exact ⟨hexp, hdoes.hasAgent hp ha⟩
  | authenticate now fails pairs token =>
    cases h
    refine ⟨(dbAuthenticate_keeps c now hi.unlocked fails pairs token).2, fun pc hpc agent hw => ?_⟩
    obtain ⟨hexp, ha⟩ := hi.pending pc hpc agent hw
    exact ⟨hexp, (hi.authenticate c now fails pairs token).hasAgent (fun _ h => by cases h) ha⟩

theorem inv_of_run {d₀ : Repositories τ σ} (hd : d₀.agents = {}) {ls : List CredentialLabel}
    (h : Run (Credentials.step tr c) (fun _ _ => True) { d := d₀ } ls w) : w.Inv := by
  refine h.inv Inv ⟨⟨fun _ => rfl, fun r hr => ?_⟩, fun pc hpc => by cases hpc⟩ fun _ _ _ hi _ hst => hi.step hst
  rw [store, hd] at hr
  cases hr

/-- Whatever the dashboard does before an authentication and in its course, and however often it was tried before: if
a listed hash fits, the token is accepted as an agent with such a hash, unless this agent was deleted since. Nobody is
locked out, no token expires, and a rotation since the hashes were listed is not noticed. -/
theorem authenticate_by_hash (tr : TokenRepository τ) (c : Crypto) {d₀ : Repositories τ σ} (hd : d₀.agents = {})
    {ls ls' : List CredentialLabel} {w w' : Credentials τ σ}
    (h : Run (Credentials.step tr c) (fun _ _ => True) { d := d₀ } ls w)
    (h' : Run (Credentials.step tr c) (fun _ _ => True) w ls' w') {pairs : List (String × String)}
    (hp : Ranged w.d.agents pairs) {token : String} (htoken : token ≠ "") (now : Time) :
    (∃ agentID hash, w.d.agents.hashOf agentID = some hash ∧ hash ≠ "" ∧ c.compare hash token = true ∧
      (dbAuthenticate c w'.store now {} pairs token).2 =
        if (w'.d.agents.hashOf agentID).isSome then .ok agentID else .error .invalidToken) ∨
    ((∀ agentID hash, w.d.agents.hashOf agentID = some hash → hash ≠ "" → c.compare hash token = false) ∧
      (dbAuthenticate c w'.store now {} pairs token).2 = .error .invalidToken) :=
  dbAuthenticate_unlocked (inv_of_run hd (h.append h')).unlocked hp rfl rfl htoken

def oneAgent : List CredentialLabel :=
  .call (.create 1 "laptop" "a1" "#old") :: List.replicate 2 (.statement 0 0 Faults.none)

/-- While the agent is renamed, its token is rotated. -/
def rotatedMeanwhile : List CredentialLabel :=
  [.call (.update 1 1 "desktop"), .statement 1 1 Faults.none, .call (.rotate 1 1 "#new")] ++
    List.replicate 4 (.statement 2 2 Faults.none)

theorem authenticate_by_hash_rotatedMeanwhile :
    ∃ w w', Run (Credentials.step TokenMap.table plain) (fun _ _ => True) { d := blank } oneAgent w ∧
      Run (Credentials.step TokenMap.table plain) (fun _ _ => True) w rotatedMeanwhile w' ∧
      w'.d.agents.hashOf "a1" = some "#new" ∧
      ((∃ agentID hash, w.d.agents.hashOf agentID = some hash ∧ hash ≠ "" ∧ plain.compare hash "old" = true ∧
          (dbAuthenticate plain w'.store 3 {} [("#old", "a1")] "old").2 =
            if (w'.d.agents.hashOf agentID).isSome then .ok agentID else .error .invalidToken) ∨
        ((∀ agentID hash, w.d.agents.hashOf agentID = some hash → hash ≠ "" → plain.compare hash "old" = false) ∧
          (dbAuthenticate plain w'.store 3 {} [("#old", "a1")] "old").2 = .error .invalidToken)) := by
  have hrun : ∃ w w', Run (Credentials.step TokenMap.table plain) (fun _ _ => True) { d := blank } oneAgent w ∧
      ((listTokenHashes w.d.agents).entries.map fun e => (e.1, e.2)) = [("#old", "a1")] ∧
      Run (Credentials.step TokenMap.table plain) (fun _ _ => True) w rotatedMeanwhile w' ∧
      w'.d.agents.hashOf "a1" = some "#new" := run_any_then (by decide +kernel)
  obtain ⟨w, w', hr, hl, hr', hh⟩ := hrun
  refine ⟨w, w', hr, hr', hh, authenticate_by_hash TokenMap.table plain rfl hr hr' ?_ (by decide) 3⟩
  rw [Ranged, hl]

/-! ## A hash that was replaced -/

variable {id : Nat} {hash : String}

/-- The profile does not have the hash, and no call is about to give it one. -/
structure Revoked (id : Nat) (hash : String) (w : Credentials τ σ) : Prop where
  profile : ∃ agentID, HasAgent w.d.agents id agentID
  row : ∀ r ∈ w.d.agents.table.rows, r.id = id → r.data.tokenHash ≠ hash
  pending : ∀ pc ∈ w.calls, ∀ agent, pc.write = some agent → agent.id = id → agent.tokenHash ≠ hash
  fresh : ∀ pc ∈ w.calls, pc.issues hash = false

theorem row_step {pc pc' : AgentPc} (h : AgentPc.Does agents pc agents' pc')
    (hid : ∃ agentID, HasAgent agents id agentID)
    (hrow : ∀ r ∈ agents.table.rows, r.id = id → r.data.tokenHash ≠ hash)
    (hpc : ∀ agent, pc.write = some agent → agent.id = id → agent.tokenHash ≠ hash) :
    ∀ r ∈ agents'.table.rows, r.id = id → r.data.tokenHash ≠ hash := by
  intro r' hr' hr'id
  cases h with
  | quiet | readName | readHash => exact hrow r' hr' hr'id
  | created hrows hnew =>
    rw [hrows] at hr'
    rcases List.mem_append.1 hr' with hr' | hr'
    · exact hrow r' hr' hr'id
    · -- a new profile has a new id
      obtain ⟨agentID, r, hr, hrid, -⟩ := hid
      have hlt := agents.table.id_lt r hr
      rw [List.mem_singleton.1 hr', hnew] at hr'id
      omega
  | wrote hw hu =>
    rcases update_rows hu hr' with hr' | ⟨hagent, hhash, -⟩
    · exact hrow r' hr' hr'id
    · rw [hhash]
      exact hpc _ hw (hagent.symm.trans hr'id)
  | marked hsame =>
    obtain ⟨r, hr, hrid, he⟩ := mem_of_contents hsame hr'
    rw [← he]
    exact hrow r hr (hrid.trans hr'id)

/-- What a call has read is what it writes later. -/
theorem pending_step {pc pc' : AgentPc} (h : AgentPc.Does agents pc agents' pc')
    (hrow : ∀ r ∈ agents.table.rows, r.id = id → r.data.tokenHash ≠ hash) (hfresh : pc.issues hash = false)
    {agent : AgentProfile} (hw : pc'.write = some agent) (hid : agent.id = id) : agent.tokenHash ≠ hash := by
  cases h with
  | readName hr =>
    cases hw
    exact hrow _ (SerialTable.mem_live.1 hr).1 hid
  | readHash hr =>
    cases hw
    exact of_decide_eq_false hfresh
  | quiet hno | created _ _ _ hno | wrote _ _ hno | marked _ hno =>
    rw [hno] at hw
    cases hw

theorem fresh_step {pc pc' : AgentPc} (h : AgentPc.Does agents pc agents' pc') (hfresh : pc.issues hash = false) :
    pc'.issues hash = false := by
  cases h with
  | readName => rfl
  | readHash => exact hfresh
  | quiet _ hi | created _ _ _ _ hi | wrote _ _ _ hi | marked _ _ hi => exact hi hash

theorem Revoked.step (hr : w.Revoked id hash) (hi : w.Inv) (hl : l.issues hash = false)
    (h : w.step tr c l = some w') : w'.Revoked id hash := by
  cases l with
  | call pc =>
    simp only [Credentials.step] at h
    split at h
    · rename_i hstart
      cases h
      refine ⟨hr.profile, hr.row, List.forall_mem_append.2 ⟨hr.pending, List.forall_mem_singleton.2 fun agent hw => ?_⟩,
        List.forall_mem_append.2 ⟨hr.fresh, List.forall_mem_singleton.2 hl⟩⟩
      rw [AgentPc.write_of_starts hstart] at hw
      cases hw
    · cases h
  | statement i now fails =>
    obtain ⟨pc, hpc, rfl⟩ := Option.map_eq_some_iff.1 h
    have hmem := List.mem_of_getElem? hpc
    have hdoes := AgentPc.does tr w.d now fails pc
    obtain ⟨agentID, hid⟩ := hr.profile
    refine ⟨⟨agentID, hdoes.hasAgent (hi.pending pc hmem) hid⟩,
      row_step hdoes hr.profile hr.row (hr.pending pc hmem),
      forall_set hr.pending (fun agent hw hid => pending_step hdoes hr.row (hr.fresh pc hmem) hw hid) i,
      forall_set hr.fresh (fresh_step hdoes (hr.fresh pc hmem)) i⟩
  | authenticate now fails pairs token =>
    cases h
    have hdoes := hi.authenticate c now fails pairs token
    obtain ⟨agentID, hid⟩ := hr.profile
    exact ⟨⟨agentID, hdoes.hasAgent (fun _ h => by cases h) hid⟩,
      row_step hdoes hr.profile hr.row (fun _ h => by cases h), hr.pending, hr.fresh⟩

theorem write_now (hi : w.Inv) {agent : AgentProfile} {i : Nat} (hpc : w.calls[i]? = some (.updateWrite agent))
    {r : Row AgentProfileModel} (hr : r ∈ w.d.agents.table.live) (hid : r.id = agent.id) (now : Time) :
    ∃ w', w.step tr c (.statement i now Faults.none) = some w' ∧
      ∃ r' ∈ w'.d.agents.table.live, r'.id = r.id ∧ r'.data.tokenHash = agent.tokenHash := by
  obtain ⟨-, r₀, hr₀, hid₀, ha₀⟩ := hi.pending _ (List.mem_of_getElem? hpc) agent rfl
  have hfirst : w.d.agents.table.first agent.id = some r := SerialTable.first_eq_some.2 ⟨hr, hid⟩
  have hunique : ∀ m ∈ w.d.agents.table.rows, m.data.agentID = agent.agentID → m.id = agent.id := by
    intro m hm he
    rw [List.inj_on_of_nodup_map w.d.agents.unique hm hr₀ (he.trans ha₀.symm)]
    exact hid₀
  have hupdate : ∃ agents', w.d.agents.update now agent = .ok agents' ∧
      ∃ r' ∈ agents'.table.live, r'.id = r.id ∧ r'.data.tokenHash = agent.tokenHash := by
    unfold Agents.update
    simp only [hfirst]
    rw [dif_pos hunique]
    exact ⟨_, rfl, _, SerialTable.mem_live_update.2 (.inr ⟨r, hr, hid, rfl⟩), rfl, rfl⟩
  obtain ⟨agents', hupdate, hr'⟩ := hupdate
  refine ⟨{ w with d := { w.d with agents := agents' }, calls := w.calls.set i .done }, ?_, hr'⟩
  simp only [Credentials.step, hpc, Option.map_some, AgentPc.step, Faults.guard, Faults.none, hupdate]

/-- A hash that a profile does not have any more, and that nobody issues again, can come back to it if and only if a
rename of this agent has read the profile with it and has yet to write. -/
theorem revoked_returns_iff (tr : TokenRepository τ) (c : Crypto) {d₀ : Repositories τ σ} (hd : d₀.agents = {})
    {ls : List CredentialLabel} {w : Credentials τ σ}
    (h : Run (Credentials.step tr c) (fun _ _ => True) { d := d₀ } ls w) {r : Row AgentProfileModel}
    (hr : r ∈ w.d.agents.table.live) {hash : String} (hne : r.data.tokenHash ≠ hash)
    (hfresh : ∀ pc ∈ w.calls, pc.issues hash = false) :
    (∃ ls' w', Run (Credentials.step tr c) (fun _ l => l.issues hash = false) w ls' w' ∧
      ∃ r' ∈ w'.d.agents.table.live, r'.id = r.id ∧ r'.data.tokenHash = hash) ↔
      ∃ agent, .updateWrite agent ∈ w.calls ∧ agent.id = r.id ∧ agent.tokenHash = hash := by
  have hi := inv_of_run hd h
  constructor
  · rintro ⟨ls', w', hrun, r', hr', hid, hhash⟩
    by_contra hno
    have hrevoked : w.Revoked r.id hash := by
      have hmem := (SerialTable.mem_live.1 hr).1
      refine ⟨⟨_, r, hmem, rfl, rfl⟩, fun r₁ hr₁ hid₁ => ?_, fun pc hpc agent hw hid he => ?_, hfresh⟩
      · rwa [List.inj_on_of_nodup_map w.d.agents.table.nodup hr₁ hmem hid₁]
      · cases pc with
        | updateWrite agent' =>
          cases hw
          exact hno ⟨agent, hpc, hid, he⟩
        | rotateWrite agent' =>
          cases hw
          exact absurd he (of_decide_eq_false (hfresh _ hpc))
        | _ => cases hw
    have hinv := hrun.inv (fun w => w.Inv ∧ w.Revoked r.id hash) ⟨hi, hrevoked⟩ fun _ _ _ ⟨hi, hr⟩ hl hst =>
      ⟨hi.step hst, hr.step hi hl hst⟩
    exact hinv.2.row r' (SerialTable.mem_live.1 hr').1 hid hhash
  · rintro ⟨agent, hmem, hid, rfl⟩
    obtain ⟨i, hpc⟩ := List.mem_iff_getElem?.1 hmem
    obtain ⟨w', hst, hr'⟩ := write_now hi hpc hr hid.symm 0
    exact ⟨[.statement i 0 Faults.none], w', .snoc .nil rfl hst, hr'⟩

/-- After the rotation the old token is good again as soon as the rename is written. -/
theorem revoked_returns_iff_rotatedMeanwhile :
    ∃ w, Run (Credentials.step TokenMap.table plain) (fun _ _ => True) { d := blank } (oneAgent ++ rotatedMeanwhile) w ∧
      ∃ r ∈ w.d.agents.table.live, r.data.tokenHash = "#new" ∧
      ∃ ls' w', Run (Credentials.step TokenMap.table plain) (fun _ l => l.issues "#old" = false) w ls' w' ∧
        ∃ r' ∈ w'.d.agents.table.live, r'.id = r.id ∧ r'.data.tokenHash = "#old" := by
  have hrun : ∃ w, Run (Credentials.step TokenMap.table plain) (fun _ _ => True) { d := blank }
      (oneAgent ++ rotatedMeanwhile) w ∧
      (∃ r ∈ w.d.agents.table.live, r.id = 1 ∧ r.data.tokenHash = "#new") ∧
      (∀ pc ∈ w.calls, pc.issues "#old" = false) ∧
      ∃ pc ∈ w.calls, pc = .updateWrite ⟨1, 1, "desktop", "a1", "#old", [], none, 0, 0⟩ := run_any (by decide +kernel)
  obtain ⟨w, hr, ⟨r, hlive, hid, hnew⟩, hfresh, _, hpc, rfl⟩ := hrun
  have hne : r.data.tokenHash ≠ "#old" := by
    rw [hnew]
    decide
  exact ⟨w, hr, r, hlive, hnew,
    (revoked_returns_iff TokenMap.table plain rfl hr hlive hne hfresh).2 ⟨_, hpc, hid.symm, rfl⟩⟩

end Credentials

end TunnelEdge.Dashboard
