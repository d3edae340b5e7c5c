import TunnelEdge.Dashboard.Logout
import TunnelEdge.Dashboard.Register
/-!
# Accounts

The calls of `AuthService` (`internal/dashboard/service.go`) but `Me`, each as the sequence of
the statements that it sends to the stores, so that calls run side by side: a call may
act on a row that another one has changed since it was read.

The service signs an access token in three places, in `Login`, in `VerifyEmail` and in
`RefreshAccessToken`. Behind each of them there is a mail: nobody gets a token for an
account without having shown the verification token of this account in time, and the
service sends that one only to the address with which the account was registered.

The log is what the service does for the outside.
-/

namespace TunnelEdge.Store

open GoLib

namespace Users

def getByEmail (users : Users) (email : String) : Option (Row UserModel) :=
  users.table.live.find? fun r => r.data.email = email

def getByID (users : Users) (id : Nat) : Option (Row UserModel) := users.table.first id

/-- `PGUserRepository.Update`: whatever goes wrong, no row was affected. -/
def update (users : Users) (now : Time) (id : Nat) (m : UserModel) : Except String Users :=
  if h : (users.getByID id).isSome ∧ ∀ r ∈ users.table.rows, r.data.email = m.email → r.id = id then
    .ok { table := users.table.update now id fun _ => m
          unique := SerialTable.nodup_change users.unique fun _ _ _ => h.2 }
  else .error ("user " ++ toString id ++ " not found")

end Users

namespace EmailVerifications

def getByToken (verifications : EmailVerifications) (token : String) : Option EmailVerificationModel :=
  (verifications.table.live.find? fun r => r.data.token = token).map Row.data

def deleteByUserID (verifications : EmailVerifications) (now : Time) (userID : Nat) : EmailVerifications where
  table := verifications.table.deleteWhere now fun v => v.userID = userID
  unique := by
    rw [SerialTable.map_deleteWhere]
    exact verifications.unique

end EmailVerifications

end TunnelEdge.Store

namespace TunnelEdge.Dashboard

open GoLib Store

/-! ## Calls -/

inductive AccountEvent
  /-- A verification token for a user is stored. -/
  | issued (userID : Nat) (token : String) (now : Time)
  | mailed (email token : String)
  /-- A verification token is shown. -/
  | presented (token : String) (now : Time)
  | granted (claims : Claims)
deriving DecidableEq

/-- A call of the service, at the statement that comes next. -/
inductive AccountPc
  | register (input : RegisterInput) (passwordHash : String)
  | newToken (userID : Nat) (email : String)
  | mail (email token : String)
  | verify (token : String)
  | verifyUser (userID : Nat)
  | verifyUpdate (userID : Nat) (user : UserModel)
  | verifyDelete (userID : Nat)
  | verifyGrant (userID : Nat)
  | resend (email : String)
  | resendDelete (userID : Nat) (email : String)
  | resendToken (userID : Nat) (email : String)
  | login (email password : String)
  | loginRefresh (claims : Claims)
  | refresh (refreshJTI : String)
  | logout (cookies : List Cookie)
  | revokeJTI (jti : String) (jtiExpiresAt : Time) (refreshJTI : String)
  | revokeRefresh (refreshJTI : String)
  | done

def AccountPc.starts : AccountPc → Bool
  | .register .. | .verify _ | .resend _ | .login .. | .refresh _ | .logout _ => true
  | _ => false

structure AccountFaults extends RegisterFaults, LoginFaults where
  query : Bool := false
  revoke : RevokeFaults := {}

structure Accounts extends AuthRepositories, AuthStore

def Accounts.config (cfg : AuthConfig) (s : Accounts) : AuthConfig :=
  { cfg with getByEmail := fun email =>
      (s.users.getByEmail email).map fun r => ⟨r.id, r.data.passwordHash, r.data.emailVerified⟩ }

def AccountPc.step (cfg : AuthConfig) (s : Accounts) (now : Time) (fails : AccountFaults) :
    AccountPc → Accounts × List AccountEvent × AccountPc
  | .register input passwordHash =>
    match AuthService.createUser s.toAuthRepositories fails.toRegisterFaults now input passwordHash with
    | .error _ => (s, [], .done)
    | .ok (users, userID) => ({ s with users }, [], .newToken userID input.email)
  | .newToken userID email =>
    let token := cfg.draw s.drawn
    match AuthService.createVerification s.toAuthRepositories fails.toRegisterFaults now userID token with
    | .error _ => ({ s with drawn := s.drawn + 1 }, [], .done)
    | .ok verifications =>
      ({ s with verifications, drawn := s.drawn + 1 }, [.issued userID token now], .mail email token)
  | .mail email token => (s, [.mailed email token], .done)
  | .verify token =>
    if token = "" then (s, [], .done)
    else
      match s.verifications.getByToken token, fails.query with
      | some v, false =>
        if v.expiresAt < now then (s, [.presented token now], .done)
        else (s, [.presented token now], .verifyUser v.userID)
      | _, _ => (s, [.presented token now], .done)
  | .verifyUser userID =>
    match s.users.getByID userID, fails.query with
    | some r, false => (s, [], .verifyUpdate userID { r.data with emailVerified := true })
    | _, _ => (s, [], .done)
  | .verifyUpdate userID user =>
    match s.users.update now userID user, fails.query with
    | .ok users, false => ({ s with users }, [], .verifyDelete userID)
    | _, _ => (s, [], .done)
  | .verifyDelete userID =>
    -- an error is ignored
    if fails.query then (s, [], .verifyGrant userID)
    else ({ s with verifications := s.verifications.deleteByUserID now userID }, [], .verifyGrant userID)
  | .verifyGrant userID =>
    match fails.jti with
    | some _ => (s, [], .done)
    | none => ({ s with drawn := s.drawn + 1 }, [.granted (generateJWT cfg now userID (cfg.draw s.drawn))], .done)
  | .resend email =>
    match s.users.getByEmail email, fails.query with
    | some r, false => if r.data.emailVerified then (s, [], .done) else (s, [], .resendDelete r.id r.data.email)
    | _, _ => (s, [], .done)
  | .resendDelete userID email =>
    if fails.query then (s, [], .resendToken userID email)
    else ({ s with verifications := s.verifications.deleteByUserID now userID }, [], .resendToken userID email)
  | .resendToken userID email =>
    match fails.token with
    | some _ => (s, [], .done)
    | none =>
      let token := cfg.draw s.drawn
      -- the mail goes out even if the token could not be stored
      match AuthService.createVerification s.toAuthRepositories fails.toRegisterFaults now userID token with
      | .error _ => ({ s with drawn := s.drawn + 1 }, [], .mail email token)
      | .ok verifications =>
        ({ s with verifications, drawn := s.drawn + 1 }, [.issued userID token now], .mail email token)
  | .login email password =>
    match signIn (s.config cfg) s.toAuthStore now email password fails.toLoginFaults with
    | .error _ => (s, [], .done)
    | .ok (store, claims) => ({ s with toAuthStore := store }, [], .loginRefresh claims)
  | .loginRefresh claims =>
    let (store, _) := issueRefresh cfg s.toAuthStore now claims.sub fails.toLoginFaults
    ({ s with toAuthStore := store }, [.granted claims], .done)
  | .refresh refreshJTI =>
    match refreshAccessToken cfg s.toAuthStore now refreshJTI, fails.jti with
    | .ok claims, none => ({ s with drawn := s.drawn + 1 }, [.granted claims], .done)
    | _, _ => (s, [], .done)
  | .logout cookies =>
    match jwtAuthMiddleware s.toAuthStore now cookies with
    | none => (s, [], .done)
    | some claims =>
      let jtiExpiry := if claims.jti ≠ "" then now + day else 0
      (s, [], .revokeJTI claims.jti jtiExpiry (refreshCookie cookies))
  -- the two halves of `RevokeSession`, each with nothing to revoke in the other
  | .revokeJTI jti jtiExpiresAt refreshJTI =>
    ({ s with toAuthStore := revokeSession cfg s.toAuthStore now jti jtiExpiresAt "" fails.revoke }, [],
      .revokeRefresh refreshJTI)
  | .revokeRefresh refreshJTI =>
    ({ s with toAuthStore := revokeSession cfg s.toAuthStore now "" 0 refreshJTI fails.revoke }, [], .done)
  | .done => (s, [], .done)

structure AccountService extends Accounts where
  calls : List AccountPc := []
  log : List AccountEvent := []

inductive AccountLabel
  | call (pc : AccountPc)
  | statement (i : Nat) (now : Time) (fails : AccountFaults)
  | cleanupRevoked (now : Time)
  | cleanupRefresh (now : Time)

def AccountService.step (cfg : AuthConfig) (w : AccountService) : AccountLabel → Option AccountService
  | .call pc => if pc.starts then some { w with calls := w.calls ++ [pc] } else none
  | .statement i now fails =>
    w.calls[i]?.map fun pc =>
      let (s, events, pc') := pc.step cfg w.toAccounts now fails
      { toAccounts := s, calls := w.calls.set i pc', log := w.log ++ events }
  | .cleanupRevoked now => some { w with toAuthStore := w.toAuthStore.cleanupRevoked now }
  | .cleanupRefresh now => some { w with toAuthStore := w.toAuthStore.cleanupRefresh now }

/-! ## What stands behind an account -/

variable {cfg : AuthConfig} {log events : List AccountEvent} {s s' : Accounts} {users users' : Users} {now : Time}
  {userID : Nat} {email : String}

/-- A verification token of the user was shown, after it had been issued and within a day. -/
def Proven (log : List AccountEvent) (userID : Nat) : Prop :=
  ∃ token issued shown a b c, log = a ++ .issued userID token issued :: b ++ .presented token shown :: c ∧
    shown ≤ issued + day

theorem Proven.append (h : Proven log userID) (events : List AccountEvent) : Proven (log ++ events) userID := by
  obtain ⟨token, issued, shown, a, b, c, rfl, hle⟩ := h
  exact ⟨token, issued, shown, a, b, c ++ events, by simp, hle⟩

theorem proven_of_presented {token : String} {issued : Time} (h : .issued userID token issued ∈ log)
    (hle : now ≤ issued + day) : Proven (log ++ [.presented token now]) userID := by
  obtain ⟨a, b, rfl⟩ := List.mem_iff_append.1 h
  exact ⟨token, issued, now, a, b, [], by simp, hle⟩

def HasEmail (users : Users) (userID : Nat) (email : String) : Prop := users.table.Has UserModel.email userID email

/-- A token goes to the address of its user. -/
structure Addressed (cfg : AuthConfig) (log : List AccountEvent) (s : Accounts) (email token : String) : Prop where
  drawn : ∃ n < s.drawn, token = cfg.draw n
  owner : ∀ userID t, .issued userID token t ∈ log → HasEmail s.users userID email

structure Backed (cfg : AuthConfig) (log : List AccountEvent) (s : Accounts) : Prop where
  tokens : ∀ r ∈ s.verifications.table.rows,
    ∃ t, .issued r.data.userID r.data.token t ∈ log ∧ r.data.expiresAt = t + day
  verified : ∀ r ∈ s.users.table.rows, r.data.emailVerified = true → Proven log r.id
  refresh : ∀ jti rt, s.refreshTokens.lookup jti = some rt → Proven log rt.userID
  issued : ∀ userID token t, .issued userID token t ∈ log → ∃ n < s.drawn, token = cfg.draw n
  mailed : ∀ email token, .mailed email token ∈ log → Addressed cfg log s email token

def AccountPc.Backed (cfg : AuthConfig) (log : List AccountEvent) (s : Accounts) : AccountPc → Prop
  | .newToken userID email | .resendDelete userID email | .resendToken userID email => HasEmail s.users userID email
  | .mail email token => Addressed cfg log s email token
  | .verifyUser userID | .verifyDelete userID | .verifyGrant userID => Proven log userID
  | .loginRefresh claims => Proven log claims.sub
  | .verifyUpdate userID user => Proven log userID ∧ HasEmail s.users userID user.email
  | _ => True

/-! ## What a statement does to the rows -/

theorem of_create {α : Type} {key : α → String} {what : String} {t t' : UniqueTable key} {m : α} {id : Nat}
    (h : t.create what now m = .ok (t', id)) :
    t'.table.rows = t.table.rows ++ [t.table.fresh now m] ∧ id = t.table.nextID := by
  unfold UniqueTable.create at h
  split at h
  · cases h
  · cases h
    exact ⟨rfl, rfl⟩

theorem of_createUser {fails : RegisterFaults} {input : RegisterInput} {passwordHash : String}
    (h : AuthService.createUser s.toAuthRepositories fails now input passwordHash = .ok (users, userID)) :
    ∃ r : Row UserModel, users.table.rows = s.users.table.rows ++ [r] ∧ r.id = userID ∧ r.data.email = input.email ∧
      r.data.emailVerified = false := by
  unfold AuthService.createUser at h
  split at h
  · cases h
  split at h
  · cases h
  split at h
  · cases h
  split at h
  · cases h
  split at h
  · rename_i hc
    cases h
    obtain ⟨hrows, hid⟩ := of_create hc
    exact ⟨_, hrows, hid.symm, rfl, rfl⟩
  · cases h

theorem of_createVerification {fails : RegisterFaults} {token : String} {verifications : EmailVerifications}
    (h : AuthService.createVerification s.toAuthRepositories fails now userID token = .ok verifications) :
    ∃ r : Row EmailVerificationModel, verifications.table.rows = s.verifications.table.rows ++ [r] ∧
      r.data = ⟨userID, token, now + day⟩ := by
  unfold AuthService.createVerification at h
  split at h
  · cases h
  split at h
  · cases h
  split at h
  · cases h
  · rename_i hc
    cases h
    exact ⟨_, (of_create hc).1, rfl⟩

theorem of_update {id : Nat} {m : UserModel} (h : users.update now id m = .ok users') :
    users'.table = users.table.update now id fun _ => m := by
  unfold Users.update at h
  split at h <;> cases h
  rfl

theorem deleteByUserID_rows {verifications : EmailVerifications} {r : Row EmailVerificationModel}
    (h : r ∈ (verifications.deleteByUserID now userID).table.rows) :
    ∃ r₀ ∈ verifications.table.rows, r₀.data = r.data := by
  obtain ⟨r₀, hr₀, rfl⟩ := List.mem_map.1 h
  refine ⟨r₀, hr₀, ?_⟩
  split <;> rfl

theorem getByToken_mem {verifications : EmailVerifications} {token : String} {v : EmailVerificationModel}
    (h : verifications.getByToken token = some v) : v.token = token ∧ ∃ r ∈ verifications.table.rows, r.data = v := by
  obtain ⟨r, hr, rfl⟩ := Option.map_eq_some_iff.1 h
  refine ⟨by simpa using List.find?_some hr, r, ?_, rfl⟩
  exact (SerialTable.mem_live.1 (List.mem_of_find?_eq_some hr)).1

theorem getByEmail_mem {r : Row UserModel} (h : users.getByEmail email = some r) :
    r ∈ users.table.rows ∧ r.data.email = email :=
  ⟨(SerialTable.mem_live.1 (List.mem_of_find?_eq_some h)).1, by simpa using List.find?_some h⟩

theorem getByID_mem {r : Row UserModel} (h : users.getByID userID = some r) : r ∈ users.table.rows ∧ r.id = userID := by
  obtain ⟨hl, hid⟩ := SerialTable.first_eq_some.1 h
  exact ⟨(SerialTable.mem_live.1 hl).1, hid⟩

/-! ## What a statement leaves for the other calls -/

/-- Nobody loses an address, and a token that is issued is a new one. -/
structure Extends (cfg : AuthConfig) (s s' : Accounts) (events : List AccountEvent) : Prop where
  email : ∀ {userID email}, HasEmail s.users userID email → HasEmail s'.users userID email
  drawn : s.drawn ≤ s'.drawn
  fresh : ∀ {userID token t}, .issued userID token t ∈ events → token = cfg.draw s.drawn ∧ s.drawn < s'.drawn

theorem Addressed.extend {token : String} (h : Addressed cfg log s email token) (hx : Extends cfg s s' events) :
    Addressed cfg (log ++ events) s' email token := by
  obtain ⟨⟨n, hn, hdraw⟩, howner⟩ := h
  refine ⟨⟨n, Nat.lt_of_lt_of_le hn hx.drawn, hdraw⟩, fun userID t hi => ?_⟩
  rcases List.mem_append.1 hi with hi | hi
  · exact hx.email (howner userID t hi)
  · -- it was drawn before
    have hsame := cfg.draw_inj (hdraw.symm.trans (hx.fresh hi).1)
    omega

theorem AccountPc.Backed.extend {pc : AccountPc} (h : pc.Backed cfg log s) (hx : Extends cfg s s' events) :
    pc.Backed cfg (log ++ events) s' := by
  cases pc with
  | newToken | resendDelete | resendToken => exact hx.email h
  | mail => exact Addressed.extend h hx
  | verifyUser | verifyDelete | verifyGrant | loginRefresh => exact Proven.append h _
  | verifyUpdate => exact ⟨h.1.append _, hx.email h.2⟩
  | _ => trivial

theorem Backed.extend (hb : Backed cfg log s) (hx : Extends cfg s s' events)
    (htokens : ∀ r ∈ s'.verifications.table.rows, (∃ r₀ ∈ s.verifications.table.rows, r₀.data = r.data) ∨
      ∃ t, .issued r.data.userID r.data.token t ∈ events ∧ r.data.expiresAt = t + day)
    (hverified : ∀ r ∈ s'.users.table.rows, r.data.emailVerified = true → r ∈ s.users.table.rows ∨ Proven log r.id)
    (hrefresh : ∀ jti rt, s'.refreshTokens.lookup jti = some rt → Proven log rt.userID)
    (hmailed : ∀ email token, .mailed email token ∈ events → Addressed cfg log s email token) :
    Backed cfg (log ++ events) s' := by
  refine ⟨fun r hr => ?_, fun r hr hv => ?_, fun jti rt h => (hrefresh jti rt h).append _, fun userID token t hi => ?_,
    fun email token hm => ?_⟩
  · rcases htokens r hr with ⟨r₀, hr₀, he⟩ | ⟨t, hi, he⟩
    · obtain ⟨t, hi, hexp⟩ := hb.tokens r₀ hr₀
      rw [he] at hi hexp
      exact ⟨t, List.mem_append_left _ hi, hexp⟩
    · exact ⟨t, List.mem_append_right _ hi, he⟩
  · rcases hverified r hr hv with hr | hp
    · exact (hb.verified r hr hv).append _
    · exact hp.append _
  · rcases List.mem_append.1 hi with hi | hi
    · obtain ⟨n, hn, hdraw⟩ := hb.issued userID token t hi
      exact ⟨n, Nat.lt_of_lt_of_le hn hx.drawn, hdraw⟩
    · exact ⟨s.drawn, (hx.fresh hi).2, (hx.fresh hi).1⟩
  · rcases List.mem_append.1 hm with hm | hm
    · exact (hb.mailed email token hm).extend hx
    · exact (hmailed email token hm).extend hx

/-! ## Whose refresh tokens they are -/

section Sessions

variable {st st' : AuthStore} {fails : LoginFaults} {jti : String} {rt : RefreshToken}

theorem issueRefresh_owner (h : (issueRefresh cfg st now userID fails).1.refreshTokens.lookup jti = some rt) :
    rt.userID = userID ∨ st.refreshTokens.lookup jti = some rt := by
  unfold issueRefresh at h
  split at h
  · dsimp only at h
    split at h
    · rw [GoMap.lookup_insert_ite] at h
      split at h
      · cases h
        exact .inl rfl
      · exact .inr h
    · exact .inr h
  · exact .inr h

theorem revokeRefresh_owner {r : String} (h : (st.revokeRefresh now r).refreshTokens.lookup jti = some rt) :
    ∃ rt₀, st.refreshTokens.lookup jti = some rt₀ ∧ rt₀.userID = rt.userID := by
  unfold AuthStore.revokeRefresh at h
  split at h
  · rename_i rt₀ hr
    rw [GoMap.lookup_insert_ite] at h
    split at h
    · rename_i he
      cases h
      exact ⟨rt₀, he ▸ hr, rfl⟩
    · exact ⟨rt, h, rfl⟩
  · exact ⟨rt, h, rfl⟩

theorem revokeSession_owner {j r : String} {t : Time} {fails : RevokeFaults}
    (h : (revokeSession cfg st now j t r fails).refreshTokens.lookup jti = some rt) :
    ∃ rt₀, st.refreshTokens.lookup jti = some rt₀ ∧ rt₀.userID = rt.userID := by
  unfold revokeSession at h
  dsimp only at h
  split at h
  · obtain ⟨rt₀, h, howner⟩ := revokeRefresh_owner h
    refine ⟨rt₀, ?_, howner⟩
    split at h
    · rwa [revokeJTI_refreshTokens] at h
    · exact h
  · refine ⟨rt, ?_, rfl⟩
    split at h
    · rwa [revokeJTI_refreshTokens] at h
    · exact h

theorem refresh_owner {r : String} {claims : Claims} (h : refreshAccessToken cfg st now r = .ok claims) :
    ∃ rt, st.refreshTokens.lookup r = some rt ∧ claims.sub = rt.userID := by
  unfold refreshAccessToken at h
  split at h
  · cases h
  split at h
  · cases h
  rename_i rt hr
  split at h
  · cases h
  split at h
  · cases h
  cases h
  exact ⟨rt, hr, rfl⟩

end Sessions

/-! ## Every statement keeps it so -/

structure Kept (cfg : AuthConfig) (log : List AccountEvent) (s : Accounts)
    (r : Accounts × List AccountEvent × AccountPc) : Prop where
  ext : Extends cfg s r.1 r.2.1
  backed : Backed cfg (log ++ r.2.1) r.1
  pc : r.2.2.Backed cfg (log ++ r.2.1) r.1
  granted : ∀ claims, .granted claims ∈ r.2.1 → Proven log claims.sub

variable {pc : AccountPc} {fails : AccountFaults}

def AccountEvent.Backed (cfg : AuthConfig) (log : List AccountEvent) (s : Accounts) : AccountEvent → Prop
  | .issued .. => False
  | .mailed email token => Addressed cfg log s email token
  | .presented .. => True
  | .granted claims => Proven log claims.sub

theorem kept_store {st : AuthStore} (hb : Backed cfg log s) (hdrawn : s.drawn ≤ st.drawn)
    (hrefresh : ∀ jti rt, st.refreshTokens.lookup jti = some rt → Proven log rt.userID)
    (hevents : ∀ e ∈ events, e.Backed cfg log s) (hpc : pc.Backed cfg (log ++ events) { s with toAuthStore := st }) :
    Kept cfg log s ({ s with toAuthStore := st }, events, pc) := by
  have hx : Extends cfg s { s with toAuthStore := st } events := ⟨id, hdrawn, fun h => (hevents _ h).elim⟩
  refine ⟨hx, ?_, hpc, fun _ h => hevents _ h⟩
  exact hb.extend hx (fun r hr => .inl ⟨r, hr, rfl⟩) (fun r hr _ => .inl hr) hrefresh fun _ _ h => hevents _ h

theorem kept_quiet {n : Nat} (hb : Backed cfg log s) (hn : s.drawn ≤ n) (hevents : ∀ e ∈ events, e.Backed cfg log s)
    (hpc : pc.Backed cfg (log ++ events) { s with drawn := n }) :
    Kept cfg log s ({ s with drawn := n }, events, pc) :=
  kept_store hb hn hb.refresh hevents hpc

theorem kept_same (hb : Backed cfg log s) (hpc : pc.Backed cfg log s) : Kept cfg log s (s, [], pc) :=
  kept_quiet hb (Nat.le_refl _) (List.forall_mem_nil _) (by rwa [List.append_nil])

theorem kept_register {input : RegisterInput} {passwordHash : String} (hb : Backed cfg log s) :
    Kept cfg log s (AccountPc.step cfg s now fails (.register input passwordHash)) := by
  simp only [AccountPc.step]
  split
  · exact kept_same hb trivial
  · rename_i users userID hc
    obtain ⟨r, hrows, hid, hemail, hnot⟩ := of_createUser hc
    have hx : Extends cfg s { s with users } [] := by
      refine ⟨fun ⟨r', hr', h⟩ => ⟨r', ?_, h⟩, Nat.le_refl _, fun h => by cases h⟩
      rw [hrows]
      exact List.mem_append_left _ hr'
    refine ⟨hx, hb.extend hx (fun r hr => .inl ⟨r, hr, rfl⟩) (fun r' hr' hv => ?_) hb.refresh (fun _ _ h => by cases h),
      ⟨r, ?_, hid, hemail⟩, fun _ h => by cases h⟩
    · rw [hrows] at hr'
      rcases List.mem_append.1 hr' with hr' | hr'
      · exact .inl hr'
      · rw [List.mem_singleton.1 hr', hnot] at hv
        cases hv
    · rw [hrows]
      exact List.mem_append_right _ List.mem_cons_self

theorem Backed.not_issued (hb : Backed cfg log s) (userID : Nat) (t : Time) :
    .issued userID (cfg.draw s.drawn) t ∉ log := by
  intro hi
  obtain ⟨n, hn, he⟩ := hb.issued userID _ t hi
  have hsame := cfg.draw_inj he
  omega

theorem kept_issue {regFails : RegisterFaults} {verifications : EmailVerifications} (hb : Backed cfg log s)
    (he : HasEmail s.users userID email)
    (hc : AuthService.createVerification s.toAuthRepositories regFails now userID (cfg.draw s.drawn) =
      .ok verifications) :
    Kept cfg log s ({ s with verifications, drawn := s.drawn + 1 }, [.issued userID (cfg.draw s.drawn) now],
      .mail email (cfg.draw s.drawn)) := by
  obtain ⟨r, hrows, hdata⟩ := of_createVerification hc
  have hx : Extends cfg s { s with verifications, drawn := s.drawn + 1 } [.issued userID (cfg.draw s.drawn) now] := by
    refine ⟨id, Nat.le_succ _, fun h => ?_⟩
    cases List.mem_singleton.1 h
    exact ⟨rfl, Nat.lt_succ_self _⟩
  refine ⟨hx, hb.extend hx (fun r' hr' => ?_) (fun r hr _ => .inl hr) hb.refresh (fun _ _ h => ?_),
    ⟨⟨s.drawn, Nat.lt_succ_self _, rfl⟩, fun userID' t h => ?_⟩, fun _ h => ?_⟩
  · rw [hrows] at hr'
    rcases List.mem_append.1 hr' with hr' | hr'
    · exact .inl ⟨r', hr', rfl⟩
    · rw [List.mem_singleton.1 hr', hdata]
      exact .inr ⟨now, List.mem_cons_self, rfl⟩
  · cases List.mem_singleton.1 h
  · rcases List.mem_append.1 h with h | h
    · exact absurd h (hb.not_issued userID' t)
    · cases List.mem_singleton.1 h
      exact he
  · cases List.mem_singleton.1 h

theorem kept_newToken (hb : Backed cfg log s) (he : HasEmail s.users userID email) :
    Kept cfg log s (AccountPc.step cfg s now fails (.newToken userID email)) := by
  simp only [AccountPc.step]
  split
  · exact kept_quiet hb (Nat.le_succ _) (List.forall_mem_nil _) trivial
  · exact kept_issue hb he ‹_›

theorem kept_resendToken (hb : Backed cfg log s) (he : HasEmail s.users userID email) :
    Kept cfg log s (AccountPc.step cfg s now fails (.resendToken userID email)) := by
  simp only [AccountPc.step]
  split
  · exact kept_same hb trivial
  · split
    · refine kept_quiet hb (Nat.le_succ _) (List.forall_mem_nil _)
        ⟨⟨s.drawn, Nat.lt_succ_self _, rfl⟩, fun userID' t h => ?_⟩
      rw [List.append_nil] at h
      exact absurd h (hb.not_issued userID' t)
    · exact kept_issue hb he ‹_›

theorem kept_presented {token : String} (hb : Backed cfg log s)
    (hpc : pc.Backed cfg (log ++ [.presented token now]) s) : Kept cfg log s (s, [.presented token now], pc) :=
  kept_quiet hb (Nat.le_refl _) (List.forall_mem_singleton.2 trivial) hpc

theorem kept_verify {token : String} (hb : Backed cfg log s) :
    Kept cfg log s (AccountPc.step cfg s now fails (.verify token)) := by
  simp only [AccountPc.step]
  split
  · exact kept_same hb trivial
  · split
    · rename_i v hv hq
      split
      · exact kept_presented hb trivial
      · rename_i hfresh
        obtain ⟨htoken, r, hr, rfl⟩ := getByToken_mem hv
        obtain ⟨t, hi, hexp⟩ := hb.tokens r hr
        rw [htoken] at hi
        refine kept_presented hb (proven_of_presented hi ?_)
        rw [← hexp]
        exact Int.not_lt.1 hfresh
    · exact kept_presented hb trivial

theorem kept_verifyUser (hb : Backed cfg log s) (hp : Proven log userID) :
    Kept cfg log s (AccountPc.step cfg s now fails (.verifyUser userID)) := by
  simp only [AccountPc.step]
  split
  · rename_i r hr hq
    obtain ⟨hmem, hid⟩ := getByID_mem hr
    exact kept_same hb ⟨hp, r, hmem, hid, rfl⟩
  · exact kept_same hb trivial

theorem kept_verifyUpdate {user : UserModel} (hb : Backed cfg log s) (hp : Proven log userID)
    (he : HasEmail s.users userID user.email) :
    Kept cfg log s (AccountPc.step cfg s now fails (.verifyUpdate userID user)) := by
  simp only [AccountPc.step]
  split
  · rename_i users hu hq
    have htable := of_update hu
    have hx : Extends cfg s { s with users } [] := by
      refine ⟨fun h => ?_, Nat.le_refl _, fun h => by cases h⟩
      rw [HasEmail, htable]
      -- the row of the user itself keeps its address
      exact h.change fun r hr hid => (he.eq hr hid).symm
    refine ⟨hx, hb.extend hx (fun r hr => .inl ⟨r, hr, rfl⟩) (fun r hr _ => ?_) hb.refresh (fun _ _ h => by cases h),
      hp.append _, fun _ h => by cases h⟩
    rw [htable] at hr
    rcases SerialTable.of_mem_update hr with hr | ⟨r₀, -, hid, rfl⟩
    · exact .inl hr
    · exact .inr (hid ▸ hp)
  · exact kept_same hb trivial

theorem kept_delete (hb : Backed cfg log s) (hpc : pc.Backed cfg log s) :
    Kept cfg log s ({ s with verifications := s.verifications.deleteByUserID now userID }, [], pc) := by
  have hx : Extends cfg s { s with verifications := s.verifications.deleteByUserID now userID } [] :=
    ⟨id, Nat.le_refl _, fun h => by cases h⟩
  exact ⟨hx, hb.extend hx (fun r hr => .inl (deleteByUserID_rows hr)) (fun r hr _ => .inl hr) hb.refresh
    (fun _ _ h => by cases h), hpc.extend hx, fun _ h => by cases h⟩

theorem kept_login {password : String} (hb : Backed cfg log s) :
    Kept cfg log s (AccountPc.step cfg s now fails (.login email password)) := by
  simp only [AccountPc.step]
  split
  · exact kept_same hb trivial
  · rename_i st claims hs
    obtain ⟨user, huser, hverified, rfl, rfl⟩ := signIn_ok hs
    obtain ⟨r, hr, rfl⟩ := Option.map_eq_some_iff.1 huser
    have hp : Proven log r.id := hb.verified r (getByEmail_mem hr).1 hverified
    exact kept_quiet hb (Nat.le_succ _) (List.forall_mem_nil _) (hp.append [])

theorem kept_loginRefresh {claims : Claims} (hb : Backed cfg log s) (hp : Proven log claims.sub) :
    Kept cfg log s (AccountPc.step cfg s now fails (.loginRefresh claims)) := by
  refine kept_store hb (issueRefresh_spec cfg s.toAuthStore now claims.sub fails.toLoginFaults).1 (fun jti rt h => ?_)
    (List.forall_mem_singleton.2 hp) trivial
  rcases issueRefresh_owner h with h | h
  · exact h ▸ hp
  · exact hb.refresh jti rt h

theorem kept_revoke {j r : String} {t : Time} {revFails : RevokeFaults} (hb : Backed cfg log s)
    (hpc : pc.Backed cfg log { s with toAuthStore := revokeSession cfg s.toAuthStore now j t r revFails }) :
    Kept cfg log s ({ s with toAuthStore := revokeSession cfg s.toAuthStore now j t r revFails }, [], pc) := by
  refine kept_store hb (by rw [revokeSession_drawn]) (fun jti rt h => ?_) (List.forall_mem_nil _)
    (by rwa [List.append_nil])
  obtain ⟨rt₀, h, howner⟩ := revokeSession_owner h
  exact howner ▸ hb.refresh jti rt₀ h

theorem statement_kept (pc : AccountPc) (hb : Backed cfg log s) (hpc : pc.Backed cfg log s) :
    Kept cfg log s (pc.step cfg s now fails) := by
  cases pc with
  | register input passwordHash => exact kept_register hb
  | newToken userID email => exact kept_newToken hb hpc
  | mail email token => exact kept_quiet hb (Nat.le_refl _) (List.forall_mem_singleton.2 hpc) trivial
  | verify token => exact kept_verify hb
  | verifyUser userID => exact kept_verifyUser hb hpc
  | verifyUpdate userID user => exact kept_verifyUpdate hb hpc.1 hpc.2
  | verifyDelete userID =>
    simp only [AccountPc.step]
    split
    · exact kept_same hb hpc
    · exact kept_delete hb hpc
  | verifyGrant userID =>
    simp only [AccountPc.step]
    split
    · exact kept_same hb trivial
    · exact kept_quiet hb (Nat.le_succ _) (List.forall_mem_singleton.2 hpc) trivial
  | resend email =>
    simp only [AccountPc.step]
    split
    · rename_i r hr hq
      split
      · exact kept_same hb trivial
      · exact kept_same hb ⟨r, (getByEmail_mem hr).1, rfl, rfl⟩
    · exact kept_same hb trivial
  | resendDelete userID email =>
    simp only [AccountPc.step]
    split
    · exact kept_same hb hpc
    · exact kept_delete hb hpc
  | resendToken userID email => exact kept_resendToken hb hpc
  | login email password => exact kept_login hb
  | loginRefresh claims => exact kept_loginRefresh hb hpc
  | refresh refreshJTI =>
    simp only [AccountPc.step]
    split
    · rename_i claims hr hq
      obtain ⟨rt, hrt, hsub⟩ := refresh_owner hr
      have hp : Proven log claims.sub := hsub ▸ hb.refresh _ rt hrt
      exact kept_quiet hb (Nat.le_succ _) (List.forall_mem_singleton.2 hp) trivial
    · exact kept_same hb trivial
  | logout cookies =>
    simp only [AccountPc.step]
    split <;> exact kept_same hb trivial
  | revokeJTI jti jtiExpiresAt refreshJTI => exact kept_revoke hb trivial
  | revokeRefresh refreshJTI => exact kept_revoke hb trivial
  | done => exact kept_same hb trivial

namespace AccountService

variable {w w' : AccountService} {l : AccountLabel}

structure Inv (cfg : AuthConfig) (w : AccountService) : Prop where
  backed : Backed cfg w.log w.toAccounts
  calls : ∀ pc ∈ w.calls, pc.Backed cfg w.log w.toAccounts
  granted : ∀ before claims after, w.log = before ++ .granted claims :: after → Proven before claims.sub

theorem granted_append {log events : List AccountEvent}
    (hold : ∀ before claims after, log = before ++ .granted claims :: after → Proven before claims.sub)
    (hnew : ∀ claims, .granted claims ∈ events → Proven log claims.sub) (before : List AccountEvent) (claims : Claims)
    (after : List AccountEvent) (h : log ++ events = before ++ .granted claims :: after) :
    Proven before claims.sub := by
  rcases List.append_eq_append_iff.1 h with ⟨mid, rfl, he⟩ | ⟨mid, rfl, he⟩
  · refine Proven.append (hnew claims ?_) mid
    rw [he]
    exact List.mem_append_right _ List.mem_cons_self
  · cases mid with
    | nil =>
      rw [List.nil_append] at he
      rw [List.append_nil] at hnew
      exact hnew claims (he ▸ List.mem_cons_self)
    | cons e mid =>
      cases he
      exact hold before claims mid rfl

theorem Inv.statement (hi : w.Inv cfg) {i : Nat} {pc : AccountPc} (hpc : w.calls[i]? = some pc) (now : Time)
    (fails : AccountFaults) : AccountService.Inv cfg
      { toAccounts := (pc.step cfg w.toAccounts now fails).1
        calls := w.calls.set i (pc.step cfg w.toAccounts now fails).2.2
        log := w.log ++ (pc.step cfg w.toAccounts now fails).2.1 } := by
  have hk : Kept cfg w.log w.toAccounts (pc.step cfg w.toAccounts now fails) :=
    statement_kept pc hi.backed (hi.calls pc (List.mem_of_getElem? hpc))
  exact ⟨hk.backed, forall_set (fun pc' hpc' => (hi.calls pc' hpc').extend hk.ext) hk.pc i,
    granted_append hi.granted hk.granted⟩

theorem Inv.store (hi : w.Inv cfg) {st : AuthStore} (hdrawn : w.drawn ≤ st.drawn)
    (hrefresh : ∀ jti rt, st.refreshTokens.lookup jti = some rt → Proven w.log rt.userID) :
    AccountService.Inv cfg { w with toAuthStore := st } := by
  have hk : Kept cfg w.log w.toAccounts ({ w.toAccounts with toAuthStore := st }, [], .done) :=
    kept_store hi.backed hdrawn hrefresh (List.forall_mem_nil _) trivial
  have hlog : w.log ++ [] = w.log := List.append_nil _
  exact ⟨hlog ▸ hk.backed, fun pc hpc => hlog ▸ (hi.calls pc hpc).extend hk.ext, hi.granted⟩

theorem Inv.step (hi : w.Inv cfg) (h : w.step cfg l = some w') : w'.Inv cfg := by
  cases l with
  | call pc =>
    simp only [AccountService.step] at h
    split at h
    · rename_i hstart
      cases h
      refine ⟨hi.backed, List.forall_mem_append.2 ⟨hi.calls, List.forall_mem_singleton.2 ?_⟩, hi.granted⟩
      cases pc with
      | register | verify | resend | login | refresh | logout => trivial
      | _ => cases hstart
    · cases h
  | statement i now fails =>
    obtain ⟨pc, hpc, rfl⟩ := Option.map_eq_some_iff.1 h
    exact hi.statement hpc now fails
  | cleanupRevoked now =>
    cases h
    exact hi.store (Nat.le_refl _) hi.backed.refresh
  | cleanupRefresh now =>
    cases h
    refine hi.store (Nat.le_refl _) fun jti rt h => ?_
    simp only [AuthStore.cleanupRefresh, GoMap.lookup_filter, Option.filter_eq_some_iff] at h
    exact hi.backed.refresh jti rt h.1

/-- Whatever calls run side by side, and whichever of their statements fail: an access
token is signed only for a user one of whose verification tokens was shown before, within
a day of its making, and that token was mailed to nobody but this user. -/
theorem granted_needs_mail (cfg : AuthConfig) {ls : List AccountLabel} {w : AccountService}
    (h : Run (AccountService.step cfg) (fun _ _ => True) {} ls w) {before after : List AccountEvent} {claims : Claims}
    (hlog : w.log = before ++ .granted claims :: after) :
    ∃ token issued shown a b c, before = a ++ .issued claims.sub token issued :: b ++ .presented token shown :: c ∧
      shown ≤ issued + day ∧ ∀ email, .mailed email token ∈ w.log → HasEmail w.users claims.sub email := by
  have hi : w.Inv cfg := by
    refine h.inv (Inv cfg) ⟨⟨?_, ?_, ?_, ?_, ?_⟩, ?_, ?_⟩ fun _ _ _ hi _ hst => hi.step hst
    all_goals simp
  obtain ⟨token, issued, shown, a, b, c, rfl, hle⟩ := hi.granted before claims after hlog
  refine ⟨token, issued, shown, a, b, c, rfl, hle, fun email hm => ?_⟩
  refine (hi.backed.mailed email token hm).owner claims.sub issued ?_
  rw [hlog]
  simp

/-- A user signs up, and follows the link in the mail an hour later. -/
def signUp : List AccountLabel :=
  .call (.register ⟨"user@example.com", "long enough", "User"⟩ "hash") :: List.replicate 3 (.statement 0 0 {}) ++
    .call (.verify "x") :: List.replicate 5 (.statement 1 (3600 * second) {})

def linkShown : List AccountEvent :=
  [.issued 1 "x" 0, .mailed "user@example.com" "x", .presented "x" (3600 * second)]

theorem granted_needs_mail_signUp :
    ∃ w, Run (AccountService.step (oneUser day false)) (fun _ _ => True) {} signUp w ∧
      w.log = linkShown ++ .granted ⟨1, 90000, "xx"⟩ :: [] ∧
      ∃ token issued shown a b c, linkShown = a ++ .issued 1 token issued :: b ++ .presented token shown :: c ∧
        shown ≤ issued + day ∧ ∀ email, .mailed email token ∈ w.log → HasEmail w.users 1 email := by
  have hrun : ∃ w, Run (AccountService.step (oneUser day false)) (fun _ _ => True) {} signUp w ∧
      w.log = linkShown ++ .granted ⟨1, 90000, "xx"⟩ :: [] := run_any (by decide +kernel)
  obtain ⟨w, hr, hlog⟩ := hrun
  exact ⟨w, hr, hlog, granted_needs_mail _ hr hlog⟩

end AccountService

end TunnelEdge.Dashboard
