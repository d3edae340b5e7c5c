import TunnelEdge.Dashboard.Atomicity
/-!
# Tokens and profiles

The hash of an agent is in its profile and in the token repository. `Create` and
`RotateToken` write both. `Delete` forgets the token, and what it leaves behind stays:
the deleted row keeps the agent id taken, so no agent can be created under it again.

`Settled` says what a request does whose calls all succeed; the results about whole
sequences of requests are case analyses over it.
-/

namespace TunnelEdge.Dashboard

open GoLib Store AgentService

variable {τ σ : Type} {env : Env τ σ} {d d' : Repositories τ σ}

/-- The tokens are the hashes of the profiles, and nothing else. -/
def InStep (tr : TokenRepository τ) (d : Repositories τ σ) : Prop :=
  ∀ agentID, (tr.getByAgentID d.tokens agentID).toOption = d.agents.hashOf agentID

/-- A request to `AgentService` none of whose writes fails. Where the agent is not found, it makes none. -/
def CallsSucceed (tr : TokenRepository τ) (d : Repositories τ σ) (r : Request) : Prop :=
  match r.action with
  | .createAgent name agentID tokenHash =>
    validateLabel agentID = .ok () → r.fails .generateToken = none →
      (∃ w, r.fails.guard .agentsCreate (d.agents.create r.now { userID := r.user, name, agentID, tokenHash }) =
        .ok w) ∧ ∃ tokens, storeToken tr r.fails d.tokens agentID tokenHash = .ok tokens
  | .updateAgent id name =>
    ∀ agent, AgentService.get d r.fails r.user id = .ok agent →
      ∃ agents, r.fails.guard .agentsUpdate (d.agents.update r.now { agent with name }) = .ok agents
  | .deleteAgent id =>
    ∀ agent, AgentService.get d r.fails r.user id = .ok agent →
      ∃ agents, r.fails.guard .agentsDelete (d.agents.delete r.now id) = .ok agents
  | .rotateToken id tokenHash =>
    ∀ agent, AgentService.get d r.fails r.user id = .ok agent → r.fails .generateToken = none →
      (∃ agents, r.fails.guard .agentsUpdate (d.agents.update r.now { agent with tokenHash }) = .ok agents) ∧
      ∃ dropped tokens, r.fails.guard .tokensDelete (tr.delete d.tokens agent.agentID) = .ok dropped ∧
        storeToken tr r.fails dropped agent.agentID tokenHash = .ok tokens
  | _ => False

def deletesAgent (d : Repositories τ σ) (r : Request) : Bool :=
  match r.action with
  | .deleteAgent id => (AgentService.delete d r.fails r.now r.user id).2.isOk
  | _ => false

/-! ## What a request does -/

inductive Settled (tr : TokenRepository τ) (d : Repositories τ σ) : Repositories τ σ → Bool → Prop
  | nothing : Settled tr d d false
  | created {agents : Agents} {tokens : τ} {agentID hash : String} (hnew : ¬d.agents.Taken agentID)
      (htaken : ∀ {x}, d.agents.Taken x → agents.Taken x)
      (hagents : ∀ x, agents.hashOf x = if x = agentID then some hash else d.agents.hashOf x)
      (htok : tr.create d.tokens agentID hash = .ok tokens) : Settled tr d { d with agents, tokens } false
  | updated {agents : Agents} (htaken : ∀ {x}, d.agents.Taken x → agents.Taken x)
      (hagents : ∀ x, agents.hashOf x = d.agents.hashOf x) : Settled tr d { d with agents } false
  | rotated {agents : Agents} {dropped tokens : τ} {agentID old hash : String}
      (hlive : d.agents.hashOf agentID = some old) (htaken : ∀ {x}, d.agents.Taken x → agents.Taken x)
      (hagents : ∀ x, agents.hashOf x = if x = agentID then some hash else d.agents.hashOf x)
      (hdel : tr.delete d.tokens agentID = .ok dropped) (htok : tr.create dropped agentID hash = .ok tokens) :
      Settled tr d { d with agents, tokens } false
  | deleted {agents : Agents} {agentID old : String} (hlive : d.agents.hashOf agentID = some old)
      (hrow : agents.Taken agentID) (htaken : ∀ {x}, d.agents.Taken x → agents.Taken x)
      (hagents : ∀ x, agents.hashOf x = if x = agentID then none else d.agents.hashOf x) :
      Settled tr d { d with agents } true

section Requests

variable {tr : TokenRepository τ} {fails : Faults} {now : Time} {user id : Nat}

theorem createAgent_settled {name agentID tokenHash : String}
    (h : validateLabel agentID = .ok () → fails .generateToken = none →
      (∃ w, fails.guard .agentsCreate (d.agents.create now { userID := user, name, agentID, tokenHash }) = .ok w) ∧
        ∃ tokens, storeToken tr fails d.tokens agentID tokenHash = .ok tokens) :
    Settled tr d (AgentService.create tr d fails now user name agentID tokenHash).1 false := by
  unfold AgentService.create
  cases hv : validateLabel agentID with
  | error err => exact .nothing
  | ok _ =>
    cases ht : fails .generateToken with
    | some err => exact .nothing
    | none =>
      obtain ⟨⟨⟨agents, agent⟩, hc⟩, tokens, htok⟩ := h hv ht
      unfold storeToken at htok
      simp only [hc, htok]
      have hcreate := Faults.guard_eq_ok hc
      exact .created (Agents.not_taken_of_create hcreate) (Agents.Taken.create hcreate)
        (Agents.hashOf_create hcreate) (Faults.guard_eq_ok htok)

theorem updateAgent_settled {name : String}
    (h : ∀ agent, AgentService.get d fails user id = .ok agent →
      ∃ agents, fails.guard .agentsUpdate (d.agents.update now { agent with name }) = .ok agents) :
    Settled tr d (AgentService.update d fails now user id name).1 false := by
  unfold AgentService.update
  cases hg : AgentService.get d fails user id with
  | error err => exact .nothing
  | ok agent =>
    obtain ⟨r, ⟨hr, -⟩, -, rfl⟩ := get_eq_ok hg
    obtain ⟨agents, hupd⟩ := h _ hg
    simp only [hupd]
    have hupdate := Faults.guard_eq_ok hupd
    refine .updated (Agents.Taken.update hr rfl rfl hupdate) fun x => ?_
    rw [Agents.hashOf_update hr rfl rfl hupdate]
    split
    · rename_i hx
      exact (Agents.hashOf_eq_some.2 ⟨r, hr, hx.symm, rfl⟩).symm
    · rfl

theorem deleteAgent_settled
    (h : ∀ agent, AgentService.get d fails user id = .ok agent →
      ∃ agents, fails.guard .agentsDelete (d.agents.delete now id) = .ok agents) :
    Settled tr d (AgentService.delete d fails now user id).1 (AgentService.delete d fails now user id).2.isOk := by
  unfold AgentService.delete
  cases hg : AgentService.get d fails user id with
  | error err => exact .nothing
  | ok agent =>
    obtain ⟨r, ⟨hr, -⟩, rfl, rfl⟩ := get_eq_ok hg
    obtain ⟨agents, hdel⟩ := h _ hg
    simp only [hdel]
    have hdelete := Faults.guard_eq_ok hdel
    have hrow : d.agents.Taken r.data.agentID := ⟨r, (SerialTable.mem_live.1 hr).1, rfl⟩
    exact .deleted (Agents.hashOf_eq_some.2 ⟨r, hr, rfl, rfl⟩) (hrow.delete hdelete) (Agents.Taken.delete hdelete)
      (Agents.hashOf_delete hr hdelete)

theorem rotateToken_settled {tokenHash : String}
    (h : ∀ agent, AgentService.get d fails user id = .ok agent → fails .generateToken = none →
      (∃ agents, fails.guard .agentsUpdate (d.agents.update now { agent with tokenHash }) = .ok agents) ∧
      ∃ dropped tokens, fails.guard .tokensDelete (tr.delete d.tokens agent.agentID) = .ok dropped ∧
        storeToken tr fails dropped agent.agentID tokenHash = .ok tokens) :
    Settled tr d (AgentService.rotateToken tr d fails now user id tokenHash).1 false := by
  unfold AgentService.rotateToken
  cases hg : AgentService.get d fails user id with
  | error err => exact .nothing
  | ok agent =>
    obtain ⟨r, ⟨hr, -⟩, -, rfl⟩ := get_eq_ok hg
    cases ht : fails .generateToken with
    | some err => exact .nothing
    | none =>
      obtain ⟨⟨agents, hupd⟩, dropped, tokens, hdel, htok⟩ := h _ hg ht
      unfold storeToken at htok
      simp only [hupd, dropToken, hdel, htok]
      have hupdate := Faults.guard_eq_ok hupd
      exact .rotated (Agents.hashOf_eq_some.2 ⟨r, hr, rfl, rfl⟩) (Agents.Taken.update hr rfl rfl hupdate)
        (Agents.hashOf_update hr rfl rfl hupdate) (Faults.guard_eq_ok hdel) (Faults.guard_eq_ok htok)

end Requests

theorem serve_settled {r : Request} (h : CallsSucceed env.tokens d r) :
    Settled env.tokens d (serve env d r) (deletesAgent d r) := by
  unfold CallsSucceed at h
  unfold serve deletesAgent
  cases ha : r.action with
  | createAgent name agentID tokenHash =>
    rw [ha] at h
    exact createAgent_settled h
  | updateAgent id name =>
    rw [ha] at h
    exact updateAgent_settled h
  | deleteAgent id =>
    rw [ha] at h
    exact deleteAgent_settled h
  | rotateToken id tokenHash =>
    rw [ha] at h
    exact rotateToken_settled h
  | _ =>
    rw [ha] at h
    exact h.elim

/-! ## What it keeps -/

/-- A token for an agent id that is taken by a deleted profile. -/
def Stale (tr : TokenRepository τ) (d : Repositories τ σ) : Prop :=
  ∃ agentID hash, d.agents.Taken agentID ∧ d.agents.hashOf agentID = none ∧
    tr.getByAgentID d.tokens agentID = .ok hash

section Steps

variable {tr : TokenRepository τ} {deleted : Bool}

theorem Stale.not_inStep (h : Stale tr d) : ¬InStep tr d := by
  obtain ⟨agentID, hash, -, hnone, htok⟩ := h
  intro hi
  have := hi agentID
  rw [hnone, htok] at this
  cases this

theorem getByAgentID_stored (hs : tr.Stores) {s s₁ s' : τ} {agentID hash : String}
    (hother : ∀ x, x ≠ agentID → tr.getByAgentID s₁ x = tr.getByAgentID s x)
    (h : tr.create s₁ agentID hash = .ok s') (x : String) :
    (tr.getByAgentID s' x).toOption = if x = agentID then some hash else (tr.getByAgentID s x).toOption := by
  split
  · rename_i hx
    rw [hx, hs h]
    rfl
  · rename_i hx
    rw [tr.create_other h hx, hother x hx]

theorem Settled.inStep (hs : tr.Stores) (h : Settled tr d d' false) (hi : InStep tr d) : InStep tr d' := by
  cases h with
  | nothing => exact hi
  | created hnew htaken hagents htok =>
    intro x
    rw [hagents, getByAgentID_stored hs (fun _ _ => rfl) htok, hi x]
  | updated htaken hagents =>
    intro x
    rw [hagents]
    exact hi x
  | rotated hlive htaken hagents hdel htok =>
    intro x
    rw [hagents, getByAgentID_stored hs (fun _ hx => tr.delete_other hdel hx) htok, hi x]

/-- The token of a deleted agent is left over. -/
theorem Settled.stale_of_deleted (h : Settled tr d d' true) (hi : InStep tr d) : Stale tr d' := by
  cases h with
  | @deleted agents agentID old hlive hrow htaken hagents =>
    have htok := hi agentID
    rw [hlive] at htok
    cases hget : tr.getByAgentID d.tokens agentID with
    | error err =>
      rw [hget] at htok
      cases htok
    | ok hash => exact ⟨agentID, hash, hrow, by rw [hagents, if_pos rfl], hget⟩

/-- And no request removes it. -/
theorem Settled.stale (h : Settled tr d d' deleted) (hst : Stale tr d) : Stale tr d' := by
  obtain ⟨x, hash, hx, hnone, htok⟩ := hst
  cases h with
  | nothing => exact ⟨x, hash, hx, hnone, htok⟩
  | @created agents tokens agentID hash' hnew htaken hagents hcreate =>
    -- an id that is taken is not given out again
    have hne : x ≠ agentID := by
      rintro rfl
      exact hnew hx
    exact ⟨x, hash, htaken hx, by rw [hagents, if_neg hne, hnone], by rw [tr.create_other hcreate hne, htok]⟩
  | updated htaken hagents => exact ⟨x, hash, htaken hx, by rw [hagents, hnone], htok⟩
  | @rotated agents dropped tokens agentID old hash' hlive htaken hagents hdel hcreate =>
    -- only an agent that exists can be given a new token
    have hne : x ≠ agentID := by
      rintro rfl
      rw [hlive] at hnone
      cases hnone
    exact ⟨x, hash, htaken hx, by rw [hagents, if_neg hne, hnone],
      by rw [tr.create_other hcreate hne, tr.delete_other hdel hne, htok]⟩
  | deleted hlive hrow htaken hagents =>
    refine ⟨x, hash, htaken hx, ?_, htok⟩
    rw [hagents]
    split
    · rfl
    · exact hnone

end Steps

/-! ## Sequences of requests -/

/-- No write fails in any of the requests. -/
def Undisturbed (env : Env τ σ) : Repositories τ σ → List Request → Prop :=
  Along (serve env) (CallsSucceed env.tokens)

def NoneDeleted (env : Env τ σ) : Repositories τ σ → List Request → Prop :=
  Along (serve env) fun d r => deletesAgent d r = false

theorem Stale.run {rs : List Request} (h : Stale env.tokens d) (hu : Undisturbed env d rs) :
    Stale env.tokens (rs.foldl (serve env) d) := by
  induction rs generalizing d with
  | nil => exact h
  | cons r rs ih => exact ih ((serve_settled hu.1).stale h) hu.2

/-- When no write fails, tokens and profiles stay in step exactly as long as no agent is deleted. -/
theorem in_step_iff_none_deleted (env : Env τ σ) (hs : env.tokens.Stores) (d : Repositories τ σ)
    (hi : InStep env.tokens d) (rs : List Request) (hu : Undisturbed env d rs) :
    InStep env.tokens (rs.foldl (serve env) d) ↔ NoneDeleted env d rs := by
  induction rs generalizing d with
  | nil => exact iff_of_true hi trivial
  | cons r rs ih =>
    have hstep := serve_settled hu.1
    show _ ↔ deletesAgent d r = false ∧ NoneDeleted env (serve env d r) rs
    cases hdel : deletesAgent d r with
    | false =>
      rw [hdel] at hstep
      simpa using ih _ (hstep.inStep hs hi) hu.2
    | true =>
      rw [hdel] at hstep
      have hstale := (hstep.stale_of_deleted hi).run hu.2
      simpa using hstale.not_inStep

theorem inStep_blank : InStep TokenMap.table blank := fun _ => rfl

theorem in_step_rotated :
    InStep TokenMap.table ([{ user := 1, action := .createAgent "laptop" "a1" "h1" },
      { user := 1, action := .rotateToken 1 "h2" }].foldl (serve pgstore) blank) :=
  (in_step_iff_none_deleted pgstore TokenMap.table_stores blank inStep_blank
    [{ user := 1, action := .createAgent "laptop" "a1" "h1" }, { user := 1, action := .rotateToken 1 "h2" }]
    ⟨fun _ _ => ⟨⟨_, rfl⟩, _, rfl⟩, fun agent hg _ => (by cases hg; exact ⟨⟨_, rfl⟩, _, _, rfl, rfl⟩), trivial⟩).2
    ⟨rfl, rfl, trivial⟩

/-- A user creates an agent and deletes it. Its token is still stored. -/
theorem token_outlives_agent :
    Undisturbed pgstore blank [{ user := 1, action := .createAgent "laptop" "a1" "h1" },
        { user := 1, action := .deleteAgent 1 }] ∧
      (([{ user := 1, action := .createAgent "laptop" "a1" "h1" }, { user := 1, action := .deleteAgent 1 }].foldl
        (serve pgstore) blank).agents.hashOf "a1" = none ∧
      TokenMap.table.getByAgentID ([{ user := 1, action := .createAgent "laptop" "a1" "h1" },
        { user := 1, action := .deleteAgent 1 }].foldl (serve pgstore) blank).tokens "a1" = .ok "h1") :=
  ⟨⟨fun _ _ => ⟨⟨_, rfl⟩, _, rfl⟩, fun _ _ => ⟨_, rfl⟩, trivial⟩, by decide +kernel⟩

end TunnelEdge.Dashboard
