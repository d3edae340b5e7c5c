import TunnelEdge.Dashboard.Isolation
import TunnelEdge.Dashboard.Register
/-!
# Requests that fail half-way

`Register`, `Create` and `RotateToken` write to two repositories each, without a
transaction. All three have the form of `twoWrites`: a failure before the first write
leaves everything as it was, and after it the first write stays. So each is atomic where
its second write cannot fail, and there only.
-/

namespace TunnelEdge.Dashboard

open GoLib Store

/-! ## Two writes without a transaction -/

section TwoWrites

variable {ε α ρ S : Type}

/-- The first write leads from `s` to `wrote a`; the second one gives the final state and
the result, and if it fails, it stays at `wrote a`. -/
def twoWrites (s : S) (first : Except ε α) (wrote : α → S) (second : α → Except ε (S × ρ)) : S × Except ε ρ :=
  match first with
  | .error err => (s, .error err)
  | .ok a =>
    match second a with
    | .error err => (wrote a, .error err)
    | .ok (s', r) => (s', .ok r)

/-- A request that fails has changed nothing. -/
def Atomic (s : S) (r : S × Except ε ρ) : Prop := (∃ err, r.2 = .error err) → r.1 = s

theorem twoWrites_atomic_iff {s : S} {first : Except ε α} {wrote : α → S} {second : α → Except ε (S × ρ)}
    (h : ∀ a, first = .ok a → wrote a ≠ s) :
    Atomic s (twoWrites s first wrote second) ↔ ∀ a, first = .ok a → ∃ r, second a = .ok r := by
  unfold Atomic twoWrites
  cases first with
  | error err => simp
  | ok a =>
    cases hs : second a with
    | error err => simp [hs, h a rfl]
    | ok r =>
      obtain ⟨s', r⟩ := r
      simp [hs]

end TwoWrites

variable {τ σ : Type}

/-! ## The first writes -/

namespace AgentService

/-- `Create` up to `agents.Create`. -/
def createProfile (d : Repositories τ σ) (fails : Faults) (now : Time) (userID : Nat)
    (name agentID tokenHash : String) : Except ServiceError (Agents × AgentProfile) :=
  match validateLabel agentID with
  | .error err => .error (.label err)
  | .ok _ =>
    match fails .generateToken with
    | some err => .error (.wrapped "failed to generate token" err)
    | none =>
      match fails.guard .agentsCreate (d.agents.create now { userID, name, agentID, tokenHash }) with
      | .error _ => .error (.new .alreadyExists "agent_id already exists")
      | .ok r => .ok r

/-- `RotateToken` up to `agents.Update`. -/
def updateHash (d : Repositories τ σ) (fails : Faults) (now : Time) (userID agentID : Nat) (tokenHash : String) :
    Except ServiceError (Agents × AgentProfile) :=
  match get d fails userID agentID with
  | .error err => .error err
  | .ok agent =>
    match fails .generateToken with
    | some err => .error (.wrapped "failed to generate token" err)
    | none =>
      let agent := { agent with tokenHash }
      match fails.guard .agentsUpdate (d.agents.update now agent) with
      | .error err => .error (.wrapped "failed to update agent token" err)
      | .ok agents => .ok (agents, agent)

def storeToken (tr : TokenRepository τ) (fails : Faults) (tokens : τ) (agentID tokenHash : String) : Except String τ :=
  fails.guard .tokensCreate (tr.create tokens agentID tokenHash)

variable {tr : TokenRepository τ} {d : Repositories τ σ} {fails : Faults} {now : Time}

theorem create_eq (userID : Nat) (name agentID tokenHash : String) :
    create tr d fails now userID name agentID tokenHash =
      twoWrites d (createProfile d fails now userID name agentID tokenHash) (fun w => { d with agents := w.1 })
        fun w =>
          match storeToken tr fails d.tokens agentID tokenHash with
          | .error err => .error (.wrapped "failed to store token" err)
          | .ok tokens => .ok ({ d with agents := w.1, tokens }, w.2) := by
  unfold create createProfile twoWrites storeToken
  cases validateLabel agentID with
  | error err => rfl
  | ok _ =>
    cases fails .generateToken with
    | some err => rfl
    | none =>
      dsimp only
      cases fails.guard .agentsCreate (d.agents.create now { userID, name, agentID, tokenHash }) with
      | error err => rfl
      | ok w =>
        dsimp only
        cases fails.guard .tokensCreate (tr.create d.tokens agentID tokenHash) <;> rfl

theorem rotateToken_eq (userID agentID : Nat) (tokenHash : String) :
    rotateToken tr d fails now userID agentID tokenHash =
      twoWrites d (updateHash d fails now userID agentID tokenHash)
        (fun w => { d with agents := w.1, tokens := dropToken tr fails d.tokens w.2.agentID })
        fun w =>
          match storeToken tr fails (dropToken tr fails d.tokens w.2.agentID) w.2.agentID tokenHash with
          | .error err => .error (.wrapped "failed to store rotated token" err)
          | .ok tokens => .ok ({ d with agents := w.1, tokens }, w.2) := by
  unfold rotateToken updateHash twoWrites storeToken
  cases get d fails userID agentID with
  | error err => rfl
  | ok agent =>
    cases fails .generateToken with
    | some err => rfl
    | none =>
      dsimp only
      cases fails.guard .agentsUpdate (d.agents.update now { agent with tokenHash }) with
      | error err => rfl
      | ok agents =>
        dsimp only
        cases fails.guard .tokensCreate
          (tr.create (dropToken tr fails d.tokens agent.agentID) agent.agentID tokenHash) <;> rfl

theorem createProfile_eq_ok {userID : Nat} {name agentID tokenHash : String} {w : Agents × AgentProfile}
    (h : createProfile d fails now userID name agentID tokenHash = .ok w) :
    d.agents.create now { userID, name, agentID, tokenHash } = .ok w := by
  unfold createProfile at h
  split at h
  · cases h
  · split at h
    · cases h
    · split at h
      · cases h
      · rename_i hc
        cases h
        exact Faults.guard_eq_ok hc

theorem updateHash_eq_ok {userID agentID : Nat} {tokenHash : String} {agents : Agents} {agent : AgentProfile}
    (h : updateHash d fails now userID agentID tokenHash = .ok (agents, agent)) :
    ∃ r, Owns d userID r ∧ get d fails userID agentID = .ok (modelToAgentProfile r) ∧
      agent = { modelToAgentProfile r with tokenHash } ∧ d.agents.update now agent = .ok agents := by
  unfold updateHash at h
  split at h
  · cases h
  · rename_i agent' hg
    obtain ⟨r, ho, -, rfl⟩ := get_eq_ok hg
    split at h
    · cases h
    · dsimp only at h
      split at h
      · cases h
      · rename_i hupd
        cases h
        exact ⟨r, ho, hg, rfl, Faults.guard_eq_ok hupd⟩

end AgentService

theorem register_eq {s : AuthRepositories} {fails : RegisterFaults} {now : Time} (input : RegisterInput)
    (passwordHash token : String) :
    AuthService.register s fails now input passwordHash token =
      twoWrites s (AuthService.createUser s fails now input passwordHash) (fun w => { s with users := w.1 }) fun w =>
        match AuthService.createVerification s fails now w.2 token with
        | .error err => .error err
        | .ok verifications =>
          .ok ({ users := w.1, verifications },
            "registration successful, please check your email to verify your account") := by
  unfold AuthService.register twoWrites
  cases AuthService.createUser s fails now input passwordHash with
  | error err => rfl
  | ok w =>
    dsimp only
    cases AuthService.createVerification s fails now w.2 token <;> rfl

/-! ## Each first write is a change -/

open AgentService

theorem createProfile_ne {d : Repositories τ σ} {fails : Faults} {now : Time} {userID : Nat}
    {name agentID tokenHash : String} {w : Agents × AgentProfile}
    (h : createProfile d fails now userID name agentID tokenHash = .ok w) : { d with agents := w.1 } ≠ d := by
  obtain ⟨hnew, m, -, hm, ht⟩ := Agents.create_eq_ok (createProfile_eq_ok h)
  intro he
  have hlen := congrArg (fun d : Repositories τ σ => d.agents.table.rows.length) he
  simp [ht, SerialTable.create] at hlen

theorem updateHash_ne {d : Repositories τ σ} {fails : Faults} {now : Time} {userID agentID : Nat} {tokenHash : String}
    (hfresh : ∀ agent, get d fails userID agentID = .ok agent → agent.tokenHash ≠ tokenHash)
    {w : Agents × AgentProfile} (h : updateHash d fails now userID agentID tokenHash = .ok w) : w.1 ≠ d.agents := by
  obtain ⟨r, ho, hg, hagent, hupd⟩ := updateHash_eq_ok h
  have hid : w.2.id = r.id := by rw [hagent]; rfl
  have hkeep : w.2.agentID = r.data.agentID := by rw [hagent]; rfl
  have hnew : w.1.hashOf r.data.agentID = some tokenHash := by
    rw [Agents.hashOf_update ho.1 hid hkeep hupd, if_pos hkeep.symm, hagent]
  have hold : d.agents.hashOf r.data.agentID = some r.data.tokenHash := Agents.hashOf_eq_some.2 ⟨r, ho.1, rfl, rfl⟩
  intro he
  rw [he, hold, Option.some.injEq] at hnew
  exact hfresh _ hg hnew

/-- `Register` is atomic exactly when it has not created a user without a verification,
`Create` when no profile without a token, and `RotateToken` when the new hash of a
profile has come to the tokens as well. -/
theorem services_atomic_iff (tr : TokenRepository τ) :
    (∀ (s : AuthRepositories) fails now input passwordHash token,
      Atomic s (AuthService.register s fails now input passwordHash token) ↔
        ∀ users userID, AuthService.createUser s fails now input passwordHash = .ok (users, userID) →
          ∃ verifications, AuthService.createVerification s fails now userID token = .ok verifications) ∧
    (∀ (d : Repositories τ σ) fails now userID name agentID tokenHash,
      Atomic d (create tr d fails now userID name agentID tokenHash) ↔
        ∀ agents agent, createProfile d fails now userID name agentID tokenHash = .ok (agents, agent) →
          ∃ tokens, storeToken tr fails d.tokens agentID tokenHash = .ok tokens) ∧
    ∀ (d : Repositories τ σ) fails now userID agentID tokenHash,
      (∀ agent, get d fails userID agentID = .ok agent → agent.tokenHash ≠ tokenHash) →
      (Atomic d (rotateToken tr d fails now userID agentID tokenHash) ↔
        ∀ agents agent, updateHash d fails now userID agentID tokenHash = .ok (agents, agent) →
          ∃ tokens, storeToken tr fails (dropToken tr fails d.tokens agent.agentID) agent.agentID tokenHash =
            .ok tokens) := by
  refine ⟨fun s fails now input passwordHash token => ?_, fun d fails now userID name agentID tokenHash => ?_,
    fun d fails now userID agentID tokenHash hfresh => ?_⟩
  · rw [register_eq, twoWrites_atomic_iff]
    · rw [Prod.forall]
      refine forall_congr' fun users => forall_congr' fun userID => imp_congr_right fun _ => ?_
      dsimp only
      cases AuthService.createVerification s fails now userID token <;> simp
    · exact fun w hw he => AuthService.createUser_ne hw (congrArg AuthRepositories.users he)
  · rw [create_eq, twoWrites_atomic_iff]
    · rw [Prod.forall]
      refine forall_congr' fun agents => forall_congr' fun agent => imp_congr_right fun _ => ?_
      dsimp only
      cases storeToken tr fails d.tokens agentID tokenHash <;> simp
    · exact fun w hw => createProfile_ne hw
  · rw [rotateToken_eq, twoWrites_atomic_iff]
    · rw [Prod.forall]
      refine forall_congr' fun agents => forall_congr' fun agent => imp_congr_right fun _ => ?_
      dsimp only
      cases storeToken tr fails (dropToken tr fails d.tokens agent.agentID) agent.agentID tokenHash <;> simp
    · exact fun w hw he => updateHash_ne hfresh hw (congrArg Repositories.agents he)

def soleAgent : Repositories TokenMap Table :=
  (create TokenMap.memory blank Faults.none 0 1 "laptop" "a1" "h1").1

theorem services_atomic_rotation :
    Atomic soleAgent (rotateToken TokenMap.memory soleAgent Faults.none 5 1 1 "h2") := by
  refine ((services_atomic_iff TokenMap.memory).2.2 soleAgent Faults.none 5 1 1 "h2" fun agent h => ?_).2
    fun agents agent _ => ⟨_, rfl⟩
  have hg : get soleAgent Faults.none 1 1 =
      .ok { id := 1, userID := 1, name := "laptop", agentID := "a1", tokenHash := "h1" } := by decide +kernel
  rw [hg] at h
  cases h
  decide

def Faults.only (c : Call) : Faults := fun c' => if c' = c then some "connection lost" else Option.none

/-- After each of these failures the first write is there: a user, a profile, and a new
hash, while the old token is gone. -/
theorem services_leave_first_write :
    ((AuthService.register {} { verificationsCreate := some "connection lost" } 0
        ⟨"a@example.org", "password", "A"⟩ "h" "t").2 =
          .error (.service (.wrapped "failed to create email verification" "connection lost")) ∧
      (AuthService.register {} { verificationsCreate := some "connection lost" } 0
        ⟨"a@example.org", "password", "A"⟩ "h" "t").1.users.table.rows.length = 1) ∧
    ((create TokenMap.memory soleAgent (.only .tokensCreate) 5 1 "desktop" "a2" "h2").2 =
        .error (.wrapped "failed to store token" "connection lost") ∧
      (create TokenMap.memory soleAgent (.only .tokensCreate) 5 1 "desktop" "a2" "h2").1.agents.hashOf "a2" =
        some "h2") ∧
    (rotateToken TokenMap.memory soleAgent (.only .tokensCreate) 5 1 1 "h2").2 =
        .error (.wrapped "failed to store rotated token" "connection lost") ∧
      (rotateToken TokenMap.memory soleAgent (.only .tokensCreate) 5 1 1 "h2").1.agents.hashOf "a1" = some "h2" ∧
      (rotateToken TokenMap.memory soleAgent (.only .tokensCreate) 5 1 1 "h2").1.tokens.lookup "a1" = none := by
  decide +kernel

end TunnelEdge.Dashboard
