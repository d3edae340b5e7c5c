import Mathlib.Logic.Function.Basic
import TunnelEdge.Dashboard.Service
import TunnelEdge.Lib.Runs
/-!
# Logging in and out

`AuthService` and the session half of `AuthHandler` with the two stores behind
them (`internal/store/pgstore/refresh_token_repo.go`): access tokens that were
revoked before they expired, and refresh tokens. Both are pruned by a
`CleanupExpired` that may run at any time.

An access token is its claims: only the dashboard can sign them. Every random
value is drawn from one source that never repeats itself.
-/

namespace TunnelEdge.Dashboard

open GoLib Store

/-- `24 * time.Hour` -/
def day : Duration := 86400 * second

theorem le_day_succ (t : Time) : t ≤ t + day + 1 :=
  Int.le_trans (Int.le_add_of_nonneg_right (by decide)) (Int.le_of_lt (Int.lt_succ _))

/-! ## Stores -/

structure RefreshToken where
  userID : Nat
  expiresAt : Time
  revokedAt : Option Time := none
deriving DecidableEq, Repr

/-- `revoked_jtis` and `refresh_tokens` by their primary key, and how many random values have been drawn. -/
structure AuthStore where
  revokedJTIs : GoMap String Time := ∅
  refreshTokens : GoMap String RefreshToken := ∅
  drawn : Nat := 0

namespace AuthStore

/-- `PGRevokedJTIRepository.Revoke`: `FirstOrCreate` keeps a record that is there. -/
def revokeJTI (s : AuthStore) (jti : String) (expiresAt : Time) : AuthStore :=
  match s.revokedJTIs.lookup jti with
  | some _ => s
  | none => { s with revokedJTIs := s.revokedJTIs.insert jti expiresAt }

def isRevoked (s : AuthStore) (jti : String) : Bool := (s.revokedJTIs.lookup jti).isSome

def cleanupRevoked (s : AuthStore) (now : Time) : AuthStore :=
  { s with revokedJTIs := GoMap.filter (fun _ expiresAt => !decide (expiresAt < now)) s.revokedJTIs }

def revokeRefresh (s : AuthStore) (now : Time) (jti : String) : AuthStore :=
  match s.refreshTokens.lookup jti with
  | some rt => { s with refreshTokens := s.refreshTokens.insert jti { rt with revokedAt := some now } }
  | none => s

def cleanupRefresh (s : AuthStore) (now : Time) : AuthStore :=
  { s with refreshTokens := GoMap.filter (fun _ rt => !decide (rt.expiresAt < now)) s.refreshTokens }

end AuthStore

/-! ## Tokens and cookies -/

/-- The claims of an access token; `exp` is in seconds. -/
structure Claims where
  sub : Nat
  exp : Int
  jti : String
deriving DecidableEq, Repr

structure User where
  id : Nat
  passwordHash : String
  emailVerified : Bool

structure AuthConfig where
  jwtTTL : Duration
  /-- `RefreshTokenEnabled`, with a repository for them -/
  refreshTokenEnabled : Bool
  refreshTokenTTL : Duration
  getByEmail : String → Option User
  compareHashAndPassword : String → String → Bool
  draw : Nat → String
  draw_inj : Function.Injective draw
  draw_ne : ∀ n, draw n ≠ ""

def AuthConfig.refreshTTL (cfg : AuthConfig) : Duration :=
  if cfg.refreshTokenTTL ≤ 0 then 7 * day else cfg.refreshTokenTTL

/-- `GenerateJWT`, for the value drawn as its `jti`. -/
def generateJWT (cfg : AuthConfig) (now : Time) (userID : Nat) (jti : String) : Claims :=
  { sub := userID, exp := (now + cfg.jwtTTL) / second, jti }

inductive CookieValue
  | jwt (claims : Claims)
  | text (s : String)
deriving DecidableEq, Repr

structure Cookie where
  name : String
  value : CookieValue
  path : String
deriving DecidableEq, Repr

/-- The path of a request matches the path of a cookie: they are equal, or the
request goes on behind it at a slash. -/
def pathMatches (requestPath cookiePath : String) : Bool :=
  requestPath = cookiePath ||
    (cookiePath.toList.isPrefixOf requestPath.toList &&
      (cookiePath.toList.getLast? = some '/' || (requestPath.toList.drop cookiePath.toList.length).head? = some '/'))

def sentTo (requestPath : String) (jar : List Cookie) : List Cookie :=
  jar.filter fun c => pathMatches requestPath c.path

/-- `r.Cookie(name)` -/
def findCookie (name : String) (cookies : List Cookie) : Option CookieValue :=
  (cookies.find? fun c => c.name = name).map Cookie.value

/-! ## AuthService and AuthHandler -/

structure LoginOutput where
  claims : Claims
  refreshJTI : String := ""
deriving DecidableEq, Repr

/-- What goes wrong in a login after the password was checked: drawing a value, storing the refresh token. -/
structure LoginFaults where
  jti : Option String := none
  refreshJTI : Bool := false
  create : Bool := false

def issueRefresh (cfg : AuthConfig) (s : AuthStore) (now : Time) (userID : Nat) (fails : LoginFaults) :
    AuthStore × String :=
  if cfg.refreshTokenEnabled && decide (cfg.refreshTTL > 0) && !fails.refreshJTI then
    let jti := cfg.draw s.drawn
    let s := { s with drawn := s.drawn + 1 }
    match s.refreshTokens.lookup jti, fails.create with
    | none, false =>
      ({ s with refreshTokens := s.refreshTokens.insert jti { userID, expiresAt := now + cfg.refreshTTL } }, jti)
    | _, _ => (s, "")
  else (s, "")

/-- `Login` up to its access token. -/
def signIn (cfg : AuthConfig) (s : AuthStore) (now : Time) (email password : String) (fails : LoginFaults) :
    Except ServiceError (AuthStore × Claims) :=
  if email = "" ∨ password = "" then .error (.new .invalidArg "email and password are required")
  else
    match cfg.getByEmail email with
    | none => .error (.new .unauthorized "invalid credentials")
    | some user =>
      if cfg.compareHashAndPassword user.passwordHash password = false then
        .error (.new .unauthorized "invalid credentials")
      else if user.emailVerified = false then
        .error (.new .forbidden "please verify your email before logging in")
      else
        match fails.jti with
        | some err => .error (.wrapped "failed to generate token" err)
        | none => .ok ({ s with drawn := s.drawn + 1 }, generateJWT cfg now user.id (cfg.draw s.drawn))

def login (cfg : AuthConfig) (s : AuthStore) (now : Time) (email password : String) (fails : LoginFaults) :
    AuthStore × Except ServiceError LoginOutput :=
  match signIn cfg s now email password fails with
  | .error err => (s, .error err)
  | .ok (s, claims) =>
    let (s, refreshJTI) := issueRefresh cfg s now claims.sub fails
    (s, .ok { claims, refreshJTI })

def LoginOutput.cookies (out : LoginOutput) : List Cookie :=
  { name := "session", value := .jwt out.claims, path := "/" } ::
    if out.refreshJTI ≠ "" then
      [{ name := "tunneledge_refresh", value := .text out.refreshJTI, path := "/api/v1/auth/refresh" }]
    else []

/-- `AuthService.RefreshAccessToken`; it only reads the stores. -/
def refreshAccessToken (cfg : AuthConfig) (s : AuthStore) (now : Time) (refreshJTI : String) :
    Except ServiceError Claims :=
  if cfg.refreshTokenEnabled = false then .error (.new .forbidden "refresh tokens are not enabled")
  else
    match s.refreshTokens.lookup refreshJTI with
    | none => .error (.new .unauthorized "invalid refresh token")
    | some rt =>
      if rt.revokedAt ≠ none then .error (.new .unauthorized "refresh token has been revoked")
      else if rt.expiresAt < now then .error (.new .unauthorized "refresh token has expired")
      else .ok (generateJWT cfg now rt.userID (cfg.draw s.drawn))

/-- What `JWTAuthMiddleware` asks of a token: that it has not expired and was not revoked. -/
def accepts (s : AuthStore) (now : Time) (claims : Claims) : Bool :=
  now < claims.exp * second && !(claims.jti ≠ "" && s.isRevoked claims.jti)

/-- `JWTAuthMiddleware` on a request without an `Authorization` header: the token that goes on to the handler. -/
def jwtAuthMiddleware (s : AuthStore) (now : Time) (cookies : List Cookie) : Option Claims :=
  match findCookie "session" cookies with
  | some (.jwt claims) => if accepts s now claims then some claims else none
  | _ => none

/-- Calls of `RevokeSession` that fail; they are logged and forgotten. -/
structure RevokeFaults where
  jti : Bool := false
  refresh : Bool := false

/-- `AuthService.RevokeSession`, with a revocation store -/
def revokeSession (cfg : AuthConfig) (s : AuthStore) (now : Time) (jti : String) (jtiExpiresAt : Time)
    (refreshJTI : String) (fails : RevokeFaults) : AuthStore :=
  let s := if jti ≠ "" ∧ fails.jti = false then s.revokeJTI jti jtiExpiresAt else s
  if cfg.refreshTokenEnabled ∧ refreshJTI ≠ "" ∧ fails.refresh = false then s.revokeRefresh now refreshJTI else s

/-- The refresh token that `AuthHandler.Logout` finds. -/
def refreshCookie (cookies : List Cookie) : String :=
  match findCookie "tunneledge_refresh" cookies with
  | some (.text jti) => jti
  | _ => ""

/-- `AuthHandler.Logout` behind the middleware: the stores afterwards and the status. -/
def logout (cfg : AuthConfig) (s : AuthStore) (now : Time) (cookies : List Cookie) (fails : RevokeFaults) :
    AuthStore × Nat :=
  match jwtAuthMiddleware s now cookies with
  | none => (s, 401)
  | some claims =>
    let jtiExpiry := if claims.jti ≠ "" then now + day else 0
    (revokeSession cfg s now claims.jti jtiExpiry (refreshCookie cookies) fails, 200)

/-! ## Runs -/

/-- What happens to the stores. A refresh changes nothing but the source it draws from. -/
inductive AuthEvent
  | login (email password : String) (fails : LoginFaults)
  | refresh
  | logout (cookies : List Cookie) (fails : RevokeFaults)
  | cleanupRevoked
  | cleanupRefresh

def AuthEvent.apply (cfg : AuthConfig) (s : AuthStore) (now : Time) : AuthEvent → AuthStore
  | login email password fails => (Dashboard.login cfg s now email password fails).1
  | refresh => { s with drawn := s.drawn + 1 }
  | logout cookies fails => (Dashboard.logout cfg s now cookies fails).1
  | cleanupRevoked => s.cleanupRevoked now
  | cleanupRefresh => s.cleanupRefresh now

/-- An event at a time that is not before the last one. -/
def authStep (cfg : AuthConfig) (st : AuthStore × Time) (l : Time × AuthEvent) : Option (AuthStore × Time) :=
  if st.2 ≤ l.1 then some (l.2.apply cfg st.1 l.1, l.1) else none

abbrev AuthRun (cfg : AuthConfig) := Run (authStep cfg) fun _ _ => True

section Facts

variable {cfg : AuthConfig} {s s' : AuthStore} {now : Time}

/-! ## What each operation does to a record -/

theorem revokeJTI_kept {jti j : String} {e expiresAt : Time} (h : s.revokedJTIs.lookup jti = some e) :
    (s.revokeJTI j expiresAt).revokedJTIs.lookup jti = some e := by
  unfold AuthStore.revokeJTI
  split
  · exact h
  · rename_i hj
    have hne : jti ≠ j := by
      rintro rfl
      rw [h] at hj
      cases hj
    rw [GoMap.lookup_insert_ite, if_neg hne, h]

theorem revokeJTI_new {jti : String} (expiresAt : Time) (h : s.isRevoked jti = false) :
    (s.revokeJTI jti expiresAt).revokedJTIs.lookup jti = some expiresAt := by
  simp only [AuthStore.isRevoked, Option.isSome_eq_false_iff, Option.isNone_iff_eq_none] at h
  simp [AuthStore.revokeJTI, h]

@[simp] theorem revokeJTI_refreshTokens (jti : String) (expiresAt : Time) :
    (s.revokeJTI jti expiresAt).refreshTokens = s.refreshTokens := by
  unfold AuthStore.revokeJTI
  split <;> rfl

@[simp] theorem revokeJTI_drawn (jti : String) (expiresAt : Time) : (s.revokeJTI jti expiresAt).drawn = s.drawn := by
  unfold AuthStore.revokeJTI
  split <;> rfl

@[simp] theorem revokeRefresh_revokedJTIs (jti : String) : (s.revokeRefresh now jti).revokedJTIs = s.revokedJTIs := by
  unfold AuthStore.revokeRefresh
  split <;> rfl

@[simp] theorem revokeRefresh_drawn (jti : String) : (s.revokeRefresh now jti).drawn = s.drawn := by
  unfold AuthStore.revokeRefresh
  split <;> rfl

theorem revokeRefresh_lookup {jti r : String} {rt : RefreshToken}
    (h : (s.revokeRefresh now jti).refreshTokens.lookup r = some rt) :
    rt.revokedAt ≠ none ∨ s.refreshTokens.lookup r = some rt := by
  unfold AuthStore.revokeRefresh at h
  split at h
  · rw [GoMap.lookup_insert_ite] at h
    split at h
    · cases h
      exact .inl (by simp)
    · exact .inr h
  · exact .inr h

theorem issueRefresh_revokedJTIs (userID : Nat) (fails : LoginFaults) :
    (issueRefresh cfg s now userID fails).1.revokedJTIs = s.revokedJTIs := by
  unfold issueRefresh
  split
  · dsimp only
    split <;> rfl
  · rfl

theorem issueRefresh_spec (cfg : AuthConfig) (s : AuthStore) (now : Time) (userID : Nat) (fails : LoginFaults) :
    s.drawn ≤ (issueRefresh cfg s now userID fails).1.drawn ∧
      ((issueRefresh cfg s now userID fails).2 ≠ "" →
        (issueRefresh cfg s now userID fails).2 = cfg.draw s.drawn ∧
          s.drawn < (issueRefresh cfg s now userID fails).1.drawn) ∧
      ∀ r, r ≠ cfg.draw s.drawn →
        (issueRefresh cfg s now userID fails).1.refreshTokens.lookup r = s.refreshTokens.lookup r := by
  unfold issueRefresh
  split
  · dsimp only
    split
    · refine ⟨Nat.le_succ _, fun _ => ⟨rfl, Nat.lt_succ_self _⟩, fun r hr => ?_⟩
      rw [GoMap.lookup_insert_ite, if_neg hr]
    · exact ⟨Nat.le_succ _, fun h => absurd rfl h, fun r _ => rfl⟩
  · exact ⟨Nat.le_refl _, fun h => absurd rfl h, fun r _ => rfl⟩

theorem signIn_ok {email password : String} {fails : LoginFaults} {claims : Claims}
    (h : signIn cfg s now email password fails = .ok (s', claims)) :
    ∃ user, cfg.getByEmail email = some user ∧ user.emailVerified = true ∧ s' = { s with drawn := s.drawn + 1 } ∧
      claims = generateJWT cfg now user.id (cfg.draw s.drawn) := by
  unfold signIn at h
  split at h
  · cases h
  split at h
  · cases h
  rename_i user huser
  split at h
  · cases h
  split at h
  · cases h
  rename_i hverified
  split at h
  · cases h
  cases h
  exact ⟨user, huser, by simpa using hverified, rfl, rfl⟩

theorem login_cases (cfg : AuthConfig) (s : AuthStore) (now : Time) (email password : String) (fails : LoginFaults) :
    (∃ err, login cfg s now email password fails = (s, .error err)) ∨
      ∃ userID, (login cfg s now email password fails).1 =
          (issueRefresh cfg { s with drawn := s.drawn + 1 } now userID fails).1 ∧
        (login cfg s now email password fails).2 = .ok {
          claims := generateJWT cfg now userID (cfg.draw s.drawn)
          refreshJTI := (issueRefresh cfg { s with drawn := s.drawn + 1 } now userID fails).2 } := by
  unfold login
  split
  · exact .inl ⟨_, rfl⟩
  · rename_i hs
    obtain ⟨user, -, -, rfl, rfl⟩ := signIn_ok hs
    exact .inr ⟨user.id, rfl, rfl⟩

theorem revokeSession_kept {jti j r : String} {e expiresAt : Time} (fails : RevokeFaults)
    (h : s.revokedJTIs.lookup jti = some e) :
    (revokeSession cfg s now j expiresAt r fails).revokedJTIs.lookup jti = some e := by
  unfold revokeSession
  dsimp only
  split
  · rw [revokeRefresh_revokedJTIs]
    split
    · exact revokeJTI_kept h
    · exact h
  · split
    · exact revokeJTI_kept h
    · exact h

@[simp] theorem revokeSession_drawn (j r : String) (expiresAt : Time) (fails : RevokeFaults) :
    (revokeSession cfg s now j expiresAt r fails).drawn = s.drawn := by
  unfold revokeSession
  dsimp only
  split <;> split <;> simp

theorem revokeSession_lookup {j r r' : String} {expiresAt : Time} {fails : RevokeFaults} {rt : RefreshToken}
    (h : (revokeSession cfg s now j expiresAt r fails).refreshTokens.lookup r' = some rt) :
    rt.revokedAt ≠ none ∨ s.refreshTokens.lookup r' = some rt := by
  unfold revokeSession at h
  dsimp only at h
  split at h
  · rcases revokeRefresh_lookup h with h | h
    · exact .inl h
    · split at h
      · rw [revokeJTI_refreshTokens] at h
        exact .inr h
      · exact .inr h
  · split at h
    · rw [revokeJTI_refreshTokens] at h
      exact .inr h
    · exact .inr h

theorem logout_cases (cfg : AuthConfig) (s : AuthStore) (now : Time) (cookies : List Cookie) (fails : RevokeFaults) :
    (logout cfg s now cookies fails).1 = s ∨
      ∃ jti refreshJTI expiresAt, (logout cfg s now cookies fails).1 =
        revokeSession cfg s now jti expiresAt refreshJTI fails := by
  unfold logout
  split
  · exact .inl rfl
  · exact .inr ⟨_, _, _, rfl⟩

theorem apply_drawn (e : AuthEvent) : s.drawn ≤ (e.apply cfg s now).drawn := by
  cases e with
  | login email password fails =>
    rcases login_cases cfg s now email password fails with ⟨err, h⟩ | ⟨userID, h, -⟩
    · simp only [AuthEvent.apply, h, Nat.le_refl]
    · simp only [AuthEvent.apply, h]
      exact Nat.le_trans (Nat.le_succ _) (issueRefresh_spec cfg { s with drawn := s.drawn + 1 } now userID fails).1
  | refresh => exact Nat.le_succ _
  | logout cookies fails =>
    rcases logout_cases cfg s now cookies fails with h | ⟨j, r, t, h⟩
    · simp only [AuthEvent.apply, h, Nat.le_refl]
    · simp only [AuthEvent.apply, h, revokeSession_drawn, Nat.le_refl]
  | cleanupRevoked => exact Nat.le_refl _
  | cleanupRefresh => exact Nat.le_refl _

theorem run_of_apply {I : AuthStore × Time → Prop}
    (happly : ∀ {s t now}, I (s, t) → t ≤ now → ∀ e : AuthEvent, I (e.apply cfg s now, now)) {st st' : AuthStore × Time}
    {es : List (Time × AuthEvent)} (h : I st) (hrun : AuthRun cfg st es st') : I st' := by
  refine hrun.inv I h ?_
  rintro ⟨s, t⟩ ⟨now, e⟩ st' hi - hs
  simp only [authStep] at hs
  split at hs
  · rename_i ht
    cases hs
    exact happly hi ht e
  · cases hs

/-! ## Access tokens -/

/-- The record of the revocation is there, with its expiry, or the token has expired. -/
def Barred (claims : Claims) (expiry : Time) (st : AuthStore × Time) : Prop :=
  st.1.revokedJTIs.lookup claims.jti = some expiry ∨ claims.exp * second ≤ st.2

theorem Barred.not_accepts {claims : Claims} {expiry : Time} {st : AuthStore × Time} (h : Barred claims expiry st)
    (hne : claims.jti ≠ "") : accepts st.1 st.2 claims = false := by
  rcases h with h | h
  · simp [accepts, AuthStore.isRevoked, h, hne]
  · simp only [accepts, Bool.and_eq_false_iff, decide_eq_false_iff_not]
    exact .inl (Int.not_lt.2 h)

/-- Once the record has expired, a cleanup makes the token good again for the rest of its life. -/
theorem accepts_of_pruned {claims : Claims} {expiry : Time} (h : s.revokedJTIs.lookup claims.jti = some expiry)
    (hexp : expiry < now) (hlive : now < claims.exp * second) : accepts (s.cleanupRevoked now) now claims = true := by
  simp [accepts, AuthStore.isRevoked, AuthStore.cleanupRevoked, GoMap.lookup_filter, h, hexp, hlive]

/-- No event takes the record away before the token has expired, if the record does not expire before it. -/
theorem Barred.apply {claims : Claims} {expiry t : Time} (hlast : claims.exp * second ≤ expiry + 1)
    (h : Barred claims expiry (s, t)) (ht : t ≤ now) (e : AuthEvent) :
    Barred claims expiry (e.apply cfg s now, now) := by
  rcases h with h | h
  · cases e with
    | login email password fails =>
      refine .inl ?_
      rcases login_cases cfg s now email password fails with ⟨err, hl⟩ | ⟨userID, hl, -⟩
      · simpa only [AuthEvent.apply, hl] using h
      · simpa only [AuthEvent.apply, hl, issueRefresh_revokedJTIs] using h
    | refresh => exact .inl h
    | logout cookies fails =>
      refine .inl ?_
      rcases logout_cases cfg s now cookies fails with hl | ⟨j, r, t, hl⟩
      · simpa only [AuthEvent.apply, hl] using h
      · simpa only [AuthEvent.apply, hl] using revokeSession_kept fails h
    | cleanupRevoked =>
      by_cases he : expiry < now
      · exact .inr (Int.le_trans hlast he)
      · refine .inl ?_
        simp only [AuthEvent.apply, AuthStore.cleanupRevoked, GoMap.lookup_filter, h]
        simp [he]
    | cleanupRefresh => exact .inl h
  · exact .inr (Int.le_trans h ht)

theorem Barred.run {claims : Claims} {expiry : Time} (hlast : claims.exp * second ≤ expiry + 1)
    {st st' : AuthStore × Time} {es : List (Time × AuthEvent)} (h : Barred claims expiry st)
    (hrun : AuthRun cfg st es st') : Barred claims expiry st' :=
  run_of_apply (fun h ht e => h.apply hlast ht e) h hrun

/-! ## Refresh tokens -/

/-- The token was drawn, and is gone, revoked or expired. -/
def Unusable (cfg : AuthConfig) (r : String) (st : AuthStore × Time) : Prop :=
  (∃ k < st.1.drawn, r = cfg.draw k) ∧
    ∀ rt, st.1.refreshTokens.lookup r = some rt → rt.revokedAt ≠ none ∨ rt.expiresAt < st.2

theorem refresh_error_iff (hen : cfg.refreshTokenEnabled = true) (r : String) :
    (∃ err, refreshAccessToken cfg s now r = .error err) ↔
      ∀ rt, s.refreshTokens.lookup r = some rt → rt.revokedAt ≠ none ∨ rt.expiresAt < now := by
  simp only [refreshAccessToken, hen, Bool.true_eq_false, if_false]
  cases h : s.refreshTokens.lookup r with
  | none => simp
  | some rt =>
    by_cases hr : rt.revokedAt = none
    · by_cases he : rt.expiresAt < now
      · simp [hr, he]
      · simp [hr, he]
    · simp [hr]

/-- It stays so: nothing is stored under a value that was drawn before. -/
theorem Unusable.apply {r : String} {t : Time} (h : Unusable cfg r (s, t)) (ht : t ≤ now) (e : AuthEvent) :
    Unusable cfg r (e.apply cfg s now, now) := by
  obtain ⟨⟨k, hk, rfl⟩, hold⟩ := h
  refine ⟨⟨k, Nat.lt_of_lt_of_le hk (apply_drawn e), rfl⟩, fun rt hrt => ?_⟩
  have hlater : ∀ rt, s.refreshTokens.lookup (cfg.draw k) = some rt → rt.revokedAt ≠ none ∨ rt.expiresAt < now :=
    fun rt h => (hold rt h).imp_right fun he => Int.lt_of_lt_of_le he ht
  cases e with
  | login email password fails =>
    rcases login_cases cfg s now email password fails with ⟨err, hl⟩ | ⟨userID, hl, -⟩
    · simp only [AuthEvent.apply, hl] at hrt
      exact hlater rt hrt
    · simp only [AuthEvent.apply, hl] at hrt
      have hne : cfg.draw k ≠ cfg.draw (s.drawn + 1) := fun he =>
        absurd (cfg.draw_inj he) (Nat.ne_of_lt (Nat.lt_succ_of_lt hk))
      rw [(issueRefresh_spec cfg { s with drawn := s.drawn + 1 } now userID fails).2.2 _ hne] at hrt
      exact hlater rt hrt
  | refresh => exact hlater rt hrt
  | logout cookies fails =>
    rcases logout_cases cfg s now cookies fails with hl | ⟨j, r, t, hl⟩
    · simp only [AuthEvent.apply, hl] at hrt
      exact hlater rt hrt
    · simp only [AuthEvent.apply, hl] at hrt
      rcases revokeSession_lookup hrt with hrt | hrt
      · exact .inl hrt
      · exact hlater rt hrt
  | cleanupRevoked => exact hlater rt hrt
  | cleanupRefresh =>
    simp only [AuthEvent.apply, AuthStore.cleanupRefresh, GoMap.lookup_filter, Option.filter_eq_some_iff] at hrt
    exact hlater rt hrt.1

theorem Unusable.run {r : String} {st st' : AuthStore × Time} {es : List (Time × AuthEvent)} (h : Unusable cfg r st)
    (hrun : AuthRun cfg st es st') : Unusable cfg r st' :=
  run_of_apply (fun h ht e => h.apply ht e) h hrun

end Facts

/-! ## A session from login to logout -/

section Session

variable {cfg : AuthConfig} {s s' : AuthStore} {now : Time} {out : LoginOutput}

theorem login_ok {email password : String} {fails : LoginFaults}
    (h : login cfg s now email password fails = (s', .ok out)) :
    out.claims.jti ≠ "" ∧ (out.refreshJTI ≠ "" → ∃ k < s'.drawn, out.refreshJTI = cfg.draw k) := by
  rcases login_cases cfg s now email password fails with ⟨err, hl⟩ | ⟨userID, hs, hout⟩
  · rw [h] at hl
    cases hl
  · rw [h] at hs hout
    cases hout
    cases hs
    refine ⟨cfg.draw_ne _, fun hne => ?_⟩
    obtain ⟨he, hlt⟩ := (issueRefresh_spec cfg { s with drawn := s.drawn + 1 } now userID fails).2.1 hne
    exact ⟨_, hlt, he⟩

theorem session_sent (out : LoginOutput) :
    findCookie "session" (sentTo "/api/v1/auth/logout" out.cookies) = some (.jwt out.claims) := by
  have hroot : pathMatches "/api/v1/auth/logout" "/" = true := by decide +kernel
  simp only [LoginOutput.cookies, sentTo, List.filter_cons, hroot, if_true]
  rfl

/-- It does not carry the refresh cookie, whose path is another. -/
theorem refresh_not_sent (out : LoginOutput) :
    findCookie "tunneledge_refresh" (sentTo "/api/v1/auth/logout" out.cookies) = none := by
  have hroot : pathMatches "/api/v1/auth/logout" "/" = true := by decide +kernel
  have hrefresh : pathMatches "/api/v1/auth/logout" "/api/v1/auth/refresh" = false := by decide +kernel
  simp only [LoginOutput.cookies, sentTo, List.filter_cons, hroot, if_true]
  split
  · simp [findCookie, hrefresh]
  · simp [findCookie]

theorem logout_session (cfg : AuthConfig) (s : AuthStore) (now : Time) (out : LoginOutput) (fails : RevokeFaults)
    (hne : out.claims.jti ≠ "") (h : accepts s now out.claims = true) :
    logout cfg s now (sentTo "/api/v1/auth/logout" out.cookies) fails =
      (if fails.jti = false then s.revokeJTI out.claims.jti (now + day) else s, 200) := by
  simp only [logout, jwtAuthMiddleware, session_sent, h, if_true, refreshCookie, refresh_not_sent, revokeSession]
  simp [hne]

theorem accepts_of_logout {fails : RevokeFaults}
    (h : (logout cfg s now (sentTo "/api/v1/auth/logout" out.cookies) fails).2 = 200) :
    accepts s now out.claims = true := by
  simp only [logout, jwtAuthMiddleware, session_sent] at h
  cases ha : accepts s now out.claims
  · simp [ha] at h
  · rfl

theorem not_revoked_of_accepts {claims : Claims} (hne : claims.jti ≠ "") (h : accepts s now claims = true) :
    s.isRevoked claims.jti = false := by
  simp only [accepts, Bool.and_eq_true, Bool.not_eq_true', Bool.and_eq_false_iff, decide_eq_false_iff_not, not_not,
    hne, false_or] at h
  exact h.2

/-- A token that outlives the record of its revocation by a cleanup is taken again. -/
theorem exists_accepted_of_late (cfg : AuthConfig) {claims : Claims} (h : s.isRevoked claims.jti = false)
    (hlate : now + day + 1 < claims.exp * second) :
    ∃ es s' t, AuthRun cfg (s.revokeJTI claims.jti (now + day), now) es (s', t) ∧ accepts s' t claims = true := by
  have hrun : AuthRun cfg (s.revokeJTI claims.jti (now + day), now) ([] ++ [(now + day + 1, .cleanupRevoked)])
      ((s.revokeJTI claims.jti (now + day)).cleanupRevoked (now + day + 1), now + day + 1) :=
    .snoc .nil trivial (if_pos (le_day_succ now))
  exact ⟨_, _, _, hrun, accepts_of_pruned (revokeJTI_new (now + day) h) (Int.lt_succ _) hlate⟩

theorem refresh_error_revokeJTI {jti r : String} {expiry : Time} :
    (∃ err, refreshAccessToken cfg (s.revokeJTI jti expiry) now r = .error err) ↔
      ∃ err, refreshAccessToken cfg s now r = .error err := by
  simp only [refreshAccessToken, revokeJTI_refreshTokens, revokeJTI_drawn]

theorem refresh_error_run {r : String} {t : Time} {es : List (Time × AuthEvent)}
    (hdrawn : ∃ k < s.drawn, r = cfg.draw k) (hdead : ∃ err, refreshAccessToken cfg s now r = .error err)
    (hrun : AuthRun cfg (s, now) es (s', t)) : ∃ err, refreshAccessToken cfg s' t r = .error err := by
  cases hen : cfg.refreshTokenEnabled with
  | false => exact ⟨_, if_pos hen⟩
  | true =>
    have hu : Unusable cfg r (s, now) := ⟨hdrawn, (refresh_error_iff hen r).1 hdead⟩
    exact (refresh_error_iff hen r).2 (hu.run hrun).2

end Session

/-- After a logout neither the access token nor the refresh token of the session
is ever taken again, if and only if the revocation was stored, the access token
expires within a day of the logout, and the refresh token was of no use any more
when the request came. -/
theorem logout_permanent_iff {cfg : AuthConfig} {s₀ s₁ s : AuthStore} {t₀ t : Time} {email password : String}
    {lf : LoginFaults} {out : LoginOutput} (hlogin : login cfg s₀ t₀ email password lf = (s₁, .ok out))
    {es : List (Time × AuthEvent)} (hrun : AuthRun cfg (s₁, t₀) es (s, t)) (fails : RevokeFaults)
    (hlogout : (logout cfg s t (sentTo "/api/v1/auth/logout" out.cookies) fails).2 = 200) :
    (∀ es' s' now,
      AuthRun cfg ((logout cfg s t (sentTo "/api/v1/auth/logout" out.cookies) fails).1, t) es' (s', now) →
        accepts s' now out.claims = false ∧
          (out.refreshJTI ≠ "" → ∃ err, refreshAccessToken cfg s' now out.refreshJTI = .error err)) ↔
    fails.jti = false ∧ out.claims.exp * second ≤ t + day + 1 ∧
      (out.refreshJTI ≠ "" → ∃ err, refreshAccessToken cfg s t out.refreshJTI = .error err) := by
  obtain ⟨hne, hdrawn⟩ := login_ok hlogin
  have hacc := accepts_of_logout hlogout
  have hrevoked := not_revoked_of_accepts hne hacc
  have hmono : s₁.drawn ≤ s.drawn :=
    run_of_apply (I := fun st => s₁.drawn ≤ st.1.drawn) (fun h _ e => Nat.le_trans h (apply_drawn e)) (Nat.le_refl _)
      hrun
  rw [logout_session cfg s t out fails hne hacc]
  constructor
  · intro h
    have hnow := h [] _ t .nil
    have hstored : fails.jti = false := by
      by_contra hf
      rw [if_neg hf, hacc] at hnow
      cases hnow.1
    rw [if_pos hstored] at h hnow
    refine ⟨hstored, ?_, fun hr => refresh_error_revokeJTI.1 (hnow.2 hr)⟩
    -- otherwise the record is pruned while the token still counts
    by_contra hlate
    obtain ⟨es', s', now, hrun', hpruned⟩ := exists_accepted_of_late cfg hrevoked (Int.not_le.1 hlate)
    rw [(h es' s' now hrun').1] at hpruned
    cases hpruned
  · rintro ⟨hstored, hlast, hdead⟩ es' s' now hrun'
    rw [if_pos hstored] at hrun'
    refine ⟨?_, fun hr => ?_⟩
    · have hb : Barred out.claims (t + day) (s.revokeJTI out.claims.jti (t + day), t) :=
        .inl (revokeJTI_new (t + day) hrevoked)
      exact (hb.run hlast hrun').not_accepts hne
    · obtain ⟨k, hk, he⟩ := hdrawn hr
      have hdrawn' : ∃ k < (s.revokeJTI out.claims.jti (t + day)).drawn, out.refreshJTI = cfg.draw k :=
        ⟨k, by simpa using Nat.lt_of_lt_of_le hk hmono, he⟩
      exact refresh_error_run hdrawn' (refresh_error_revokeJTI.2 (hdead hr)) hrun'

/-- One user, with a given lifetime of access tokens, with or without refresh tokens. -/
def oneUser (jwtTTL : Duration) (refreshTokenEnabled : Bool) : AuthConfig where
  jwtTTL
  refreshTokenEnabled
  refreshTokenTTL := 7 * day
  getByEmail email := if email = "user@example.com" then some ⟨1, "hash", true⟩ else none
  compareHashAndPassword hash password := hash = "hash" && password = "secret"
  draw n := String.ofList (List.replicate (n + 1) 'x')
  draw_inj := ofList_replicate_injective 'x'
  draw_ne := ofList_replicate_ne 'x'

/-- What the login gives: a token for `seconds` and a refresh token, if there are any. -/
def demoSession (seconds : Int) (refreshJTI : String) : LoginOutput :=
  { claims := { sub := 1, exp := seconds, jti := "x" }, refreshJTI }

def demoLogin (cfg : AuthConfig) : AuthStore × Except ServiceError LoginOutput :=
  login cfg {} 0 "user@example.com" "secret" {}

def demoLogout (cfg : AuthConfig) (out : LoginOutput) (now : Time) : AuthStore × Nat :=
  logout cfg (demoLogin cfg).1 now (sentTo "/api/v1/auth/logout" out.cookies) {}

/-- Tokens for an hour and no refresh tokens: the logout is for good. -/
theorem logout_permanent_hour :
    (demoLogin (oneUser (3600 * second) false)).2.toOption = some (demoSession 3600 "") ∧
      ∀ es' s' now,
        AuthRun (oneUser (3600 * second) false)
          ((demoLogout (oneUser (3600 * second) false) (demoSession 3600 "") 0).1, 0) es' (s', now) →
        accepts s' now (demoSession 3600 "").claims = false :=
  have hlogin : demoLogin (oneUser (3600 * second) false) =
      ((demoLogin (oneUser (3600 * second) false)).1, .ok (demoSession 3600 "")) := rfl
  ⟨by rw [hlogin]; rfl, fun es' s' now hrun =>
    ((logout_permanent_iff hlogin .nil {} (by decide +kernel)).2
      ⟨rfl, by decide +kernel, fun h => absurd rfl h⟩ es' s' now hrun).1⟩

/-- Tokens for two days and refresh tokens: an hour after the login the user
logs out, the refresh token works on, and so does the access token once the
record of its revocation was pruned. -/
theorem session_outlives_logout :
    (demoLogin (oneUser (2 * day) true)).2.toOption = some (demoSession 172800 "xx") ∧
      (demoLogout (oneUser (2 * day) true) (demoSession 172800 "xx") (3600 * second)).2 = 200 ∧
      (refreshAccessToken (oneUser (2 * day) true)
        (demoLogout (oneUser (2 * day) true) (demoSession 172800 "xx") (3600 * second)).1
        (3601 * second) "xx").toOption.isSome = true ∧
      accepts ((demoLogout (oneUser (2 * day) true) (demoSession 172800 "xx") (3600 * second)).1.cleanupRevoked
        (93600 * second)) (93600 * second) (demoSession 172800 "xx").claims = true := by
  decide +kernel

end TunnelEdge.Dashboard
