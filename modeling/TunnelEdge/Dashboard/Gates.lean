import Mathlib.Data.List.Infix
import TunnelEdge.Dashboard.Logout
/-!
# The gates of pages and of the API

`requireCookie` (`internal/dashboard/server.go`) stands before the pages of the dashboard
and `JWTAuthMiddleware` (`middleware.go`) before its API. Both read the session cookie,
and `NewServer` gives both the same secret, but each has its own chain of checks: the
page gate asks for a signature and, if the token has an expiry, for time left.

The JWT library is known by what the code expects of it. `decode` says what a text is
taken for, and `Parse` checks the signature, the expiry where there is one, and what the
options add.
-/

namespace TunnelEdge.Dashboard

open GoLib

/-! ## Tokens -/

/-- The claims of a token as the code reads them: `jti` if it is a string, and `sub` if it is a number. -/
structure MapClaims where
  exp : Option Int := none
  aud : List String := []
  jti : Option String := none
  sub : Option Nat := none

/-- What a text decodes to. -/
structure JWT where
  /-- The method is a `*jwt.SigningMethodHMAC`. -/
  hmac : Bool
  /-- The secrets under which the signature is right. -/
  signedBy : String → Bool
  claims : MapClaims

/-- `jwt.WithAudience` and `jwt.WithExpirationRequired` -/
structure ParserOptions where
  audience : Option String := none
  expirationRequired : Bool := false

def MapClaims.checkExpiry (claims : MapClaims) (now : Time) (required : Bool) : Bool :=
  match claims.exp with
  | some exp => now < exp * second
  | none => !required

def MapClaims.checkAudience (claims : MapClaims) (audience : Option String) : Bool :=
  match audience with
  | some aud => aud ∈ claims.aud
  | none => true

def MapClaims.validate (claims : MapClaims) (now : Time) (opts : ParserOptions) : Bool :=
  claims.checkExpiry now opts.expirationRequired && claims.checkAudience opts.audience

/-! ## Requests -/

/-- What the gates read of a request; `session` is its cookie of that name. -/
structure HTTPRequest where
  authorization : String := ""
  accept : String := ""
  session : Option String := none

/-- What a gate does: it goes on with what it has put in the context, or it answers itself. -/
inductive GateResult
  | redirect (location : String)
  | error (status : Nat) (msg : String)
  | next (jti : Option String) (userID : Option Nat)
deriving DecidableEq, Repr

def GateResult.passes : GateResult → Bool
  | .next _ _ => true
  | _ => false

/-- The token of an `Authorization` header, if its first word is `bearer` in any case. -/
def bearerToken (authHeader : String) : String :=
  let (scheme, rest) := authHeader.toList.span (· ≠ ' ')
  match rest with
  | [] => ""
  | _ :: token => if (String.ofList scheme).toLower = "bearer" then String.ofList token else ""

/-- What `NewServer` builds the gates from. The repository of revoked ids is optional, and may fail. -/
structure Gates where
  decode : String → Option JWT
  secret : String
  revokedRepo : Option (String → Except String Bool) := none

namespace Gates

variable (g : Gates) (now : Time)

/-- `jwt.Parse` with the key function of both gates, which refuses other methods than HMAC. -/
def parse (opts : ParserOptions) (tokenStr : String) : Option MapClaims :=
  match g.decode tokenStr with
  | none => none
  | some t => if t.hmac && t.signedBy g.secret && t.claims.validate now opts then some t.claims else none

def parseJWT (tokenStr : String) : Except String MapClaims :=
  match g.parse now {} tokenStr with
  | none => .error "invalid token"
  | some claims => .ok claims

def requireCookie (r : HTTPRequest) : GateResult :=
  match r.session with
  | none => .redirect "/login"
  | some value =>
    if value = "" then .redirect "/login"
    else
      match g.parseJWT now value with
      | .error _ => .redirect "/login"
      | .ok _ => .next none none

/-- The revocation check: the text of the answer, if the token is turned away. -/
def refusal (claims : MapClaims) : Option String :=
  match claims.jti, g.revokedRepo with
  | some jti, some isRevoked =>
    if jti = "" then none
    else
      match isRevoked jti with
      | .error _ => some "authorization check failed"
      | .ok true => some "token has been revoked"
      | .ok false => none
  | _, _ => none

/-- The claims of a token that has come through `jwt.Parse`. -/
def checkClaims (claims : MapClaims) : GateResult :=
  match g.refusal claims with
  | some msg => .error 401 msg
  | none =>
    match claims.sub with
    | none => .error 401 "invalid token subject"
    | some sub => .next (claims.jti.filter (· ≠ "")) (some sub)

def apiOptions : ParserOptions := { audience := some "tunneledge", expirationRequired := true }

def jwtAuth (r : HTTPRequest) : GateResult :=
  let bearer := bearerToken r.authorization
  let tokenStr := if bearer = "" then r.session.getD "" else bearer
  if tokenStr = "" then
    if "text/html".toList <:+: r.accept.toList then .redirect "/login" else .error 401 "missing authorization"
  else
    match g.parse now apiOptions tokenStr with
    | none => .error 401 "invalid or expired token"
    | some claims => g.checkClaims claims

end Gates

/-! ## What each gate asks for -/

section Facts

variable {g : Gates} {now : Time}

/-- What the API asks of a token beyond what the pages ask. -/
structure Gates.Complete (g : Gates) (claims : MapClaims) : Prop where
  expires : claims.exp ≠ none
  audience : "tunneledge" ∈ claims.aud
  current : ∀ jti ∈ claims.jti, jti ≠ "" → ∀ isRevoked ∈ g.revokedRepo, isRevoked jti = .ok false
  numeric : claims.sub ≠ none

theorem validate_api_iff (now : Time) (claims : MapClaims) :
    claims.validate now Gates.apiOptions = true ↔
      claims.validate now {} = true ∧ claims.exp ≠ none ∧ "tunneledge" ∈ claims.aud := by
  unfold MapClaims.validate MapClaims.checkExpiry MapClaims.checkAudience Gates.apiOptions
  cases claims.exp <;> simp

theorem refusal_eq_none_iff (claims : MapClaims) :
    g.refusal claims = none ↔
      ∀ jti ∈ claims.jti, jti ≠ "" → ∀ isRevoked ∈ g.revokedRepo, isRevoked jti = .ok false := by
  unfold Gates.refusal
  cases claims.jti with
  | none => simp
  | some jti =>
    cases g.revokedRepo with
    | none => simp
    | some isRevoked =>
      by_cases hne : jti = ""
      · simp [hne]
      · rcases h : isRevoked jti with e | _ | _ <;> simp [hne, h]

theorem admit_passes_iff (claims : MapClaims) :
    (g.checkClaims claims).passes = true ↔ g.refusal claims = none ∧ claims.sub ≠ none := by
  unfold Gates.checkClaims
  cases g.refusal claims with
  | some msg => simp [GateResult.passes]
  | none => cases claims.sub <;> simp [GateResult.passes]

/-- The API takes what the pages take and is complete. -/
theorem parse_api_iff {tokenStr : String} {claims : MapClaims} :
    g.parse now Gates.apiOptions tokenStr = some claims ↔
      g.parse now {} tokenStr = some claims ∧ claims.exp ≠ none ∧ "tunneledge" ∈ claims.aud := by
  unfold Gates.parse
  cases g.decode tokenStr with
  | none => simp
  | some t =>
    have hv := validate_api_iff now t.claims
    simp only [Option.ite_none_right_eq_some, Bool.and_eq_true, hv, Option.some.injEq]
    constructor
    · rintro ⟨⟨hs, hd, he, ha⟩, rfl⟩
      exact ⟨⟨⟨hs, hd⟩, rfl⟩, he, ha⟩
    · rintro ⟨⟨⟨hs, hd⟩, rfl⟩, he, ha⟩
      exact ⟨⟨hs, hd, he, ha⟩, rfl⟩

theorem parseJWT_eq_ok_iff {tokenStr : String} {claims : MapClaims} :
    g.parseJWT now tokenStr = .ok claims ↔ g.parse now {} tokenStr = some claims := by
  unfold Gates.parseJWT
  cases g.parse now {} tokenStr <;> simp

theorem requireCookie_passes_iff (r : HTTPRequest) :
    (g.requireCookie now r).passes = true ↔
      r.session.getD "" ≠ "" ∧ ∃ claims, g.parse now {} (r.session.getD "") = some claims := by
  unfold Gates.requireCookie Gates.parseJWT
  cases r.session with
  | none => simp [GateResult.passes]
  | some value =>
    by_cases hne : value = ""
    · simp [hne, GateResult.passes]
    · cases hp : g.parse now {} value <;> simp [hne, hp, GateResult.passes]

theorem jwtAuth_passes_iff {r : HTTPRequest} (hb : bearerToken r.authorization = "") :
    (g.jwtAuth now r).passes = true ↔
      r.session.getD "" ≠ "" ∧ ∃ claims, g.parse now {} (r.session.getD "") = some claims ∧ g.Complete claims := by
  unfold Gates.jwtAuth
  simp only [hb, if_true]
  by_cases hne : r.session.getD "" = ""
  · simp only [hne, if_true, ne_eq, not_true_eq_false, false_and, iff_false]
    split <;> simp [GateResult.passes]
  · simp only [hne, if_false, ne_eq, not_false_eq_true, true_and]
    cases hp : g.parse now Gates.apiOptions (r.session.getD "") with
    | none =>
      constructor
      · intro h
        cases h
      · rintro ⟨claims, hd, hc⟩
        rw [parse_api_iff.2 ⟨hd, hc.expires, hc.audience⟩] at hp
        cases hp
    | some claims =>
      obtain ⟨hd, he, ha⟩ := parse_api_iff.1 hp
      rw [admit_passes_iff, refusal_eq_none_iff]
      constructor
      · exact fun h => ⟨claims, hd, ⟨he, ha, h.1, h.2⟩⟩
      · rintro ⟨claims', hd', hc⟩
        rw [hd] at hd'
        cases hd'
        exact ⟨hc.current, hc.numeric⟩

end Facts

/-- The gates agree on a cookie exactly when the token that the page gate takes has an
expiry, the audience of the dashboard, an id that is known not to be revoked, and a
numeric subject. -/
theorem gates_agree_iff (g : Gates) (now : Time) (page api : HTTPRequest) (hc : page.session = api.session)
    (hb : bearerToken api.authorization = "") :
    ((g.requireCookie now page).passes = true ↔ (g.jwtAuth now api).passes = true) ↔
      ∀ value claims, page.session = some value → value ≠ "" → g.parseJWT now value = .ok claims →
        g.Complete claims := by
  rw [requireCookie_passes_iff, jwtAuth_passes_iff hb, ← hc]
  constructor
  · intro hiff value claims hv hne hp
    have hparse : g.parse now {} value = some claims := parseJWT_eq_ok_iff.1 hp
    rw [hv] at hiff
    obtain ⟨-, claims', hparse', hcomplete⟩ := hiff.1 ⟨hne, claims, hparse⟩
    rw [show (some value).getD "" = value from rfl, hparse] at hparse'
    cases hparse'
    exact hcomplete
  · intro hall
    constructor
    · rintro ⟨hne, claims, hp⟩
      cases hv : page.session with
      | none => exact absurd (by rw [hv]; rfl) hne
      | some value =>
        rw [hv] at hne hp
        exact ⟨hne, claims, hp, hall value claims hv hne (parseJWT_eq_ok_iff.2 hp)⟩
    · rintro ⟨hne, claims, hp, -⟩
      exact ⟨hne, claims, hp⟩

/-! ## Tokens of the dashboard -/

/-- A token that `GenerateJWT` has signed. -/
def JWT.issued (secret : String) (claims : Claims) : JWT where
  hmac := true
  signedBy key := key = secret
  claims := { exp := some claims.exp, aud := ["tunneledge"], jti := some claims.jti, sub := some claims.sub }

/-- The gates of a dashboard that keeps its revoked ids in `s`. -/
def AuthStore.gates (s : AuthStore) (secret : String) (decode : String → Option JWT) : Gates :=
  { decode, secret, revokedRepo := some fun jti => .ok (s.isRevoked jti) }

section Issued

variable {s : AuthStore} {now : Time} {secret value : String} {decode : String → Option JWT} {claims : Claims}
  {r : HTTPRequest}

theorem parse_issued (hd : decode value = some (JWT.issued secret claims)) :
    (s.gates secret decode).parse now {} value =
      if now < claims.exp * second then some (JWT.issued secret claims).claims else none := by
  simp [Gates.parse, AuthStore.gates, hd, JWT.issued, MapClaims.validate, MapClaims.checkExpiry,
    MapClaims.checkAudience]

/-- The API gate does with a token of the dashboard what `accepts` says. -/
theorem jwtAuth_issued (hb : bearerToken r.authorization = "") (hv : r.session = some value) (hne : value ≠ "")
    (hd : decode value = some (JWT.issued secret claims)) :
    ((s.gates secret decode).jwtAuth now r).passes = accepts s now claims := by
  rw [Bool.eq_iff_iff, jwtAuth_passes_iff hb, hv, show (some value).getD "" = value from rfl, parse_issued hd]
  unfold accepts
  have hcomplete : (s.gates secret decode).Complete (JWT.issued secret claims).claims ↔
      (claims.jti ≠ "" → s.isRevoked claims.jti = false) := by
    constructor
    · intro hc hj
      simpa using hc.current claims.jti rfl hj _ rfl
    · intro hr
      refine ⟨by simp [JWT.issued], by simp [JWT.issued], fun jti hj hjne isRevoked hi => ?_, by simp [JWT.issued]⟩
      cases hj
      cases hi
      exact congrArg Except.ok (hr hjne)
  by_cases ht : now < claims.exp * second
  · simp [ht, hne, hcomplete, or_iff_not_imp_left]
  · simp [ht]

/-- The page gate takes it until it expires, revoked or not. -/
theorem requireCookie_issued (hv : r.session = some value) (hne : value ≠ "")
    (hd : decode value = some (JWT.issued secret claims)) :
    ((s.gates secret decode).requireCookie now r).passes = decide (now < claims.exp * second) := by
  rw [Bool.eq_iff_iff, requireCookie_passes_iff, hv, show (some value).getD "" = value from rfl, parse_issued hd]
  by_cases ht : now < claims.exp * second <;> simp [ht, hne]

end Issued

def hourCookie (value : String) : Option JWT :=
  if value = "c1" then some (JWT.issued "key" { sub := 1, exp := 3600, jti := "j1" }) else none

theorem gates_agree_current :
    (((AuthStore.gates {} "key" hourCookie).requireCookie 0 { session := some "c1" }).passes = true ↔
      ((AuthStore.gates {} "key" hourCookie).jwtAuth 0 { session := some "c1" }).passes = true) := by
  refine (gates_agree_iff (AuthStore.gates {} "key" hourCookie) 0 { session := some "c1" } { session := some "c1" }
    rfl (by decide +kernel)).2 fun value claims hv _ hp => ?_
  cases hv
  cases hp
  refine ⟨by decide, by decide, fun jti hj _ isRevoked hi => ?_, by decide⟩
  cases hj
  cases hi
  decide +kernel

/-- After it was revoked, the pages still open. -/
theorem revoked_cookie_opens_pages :
    ((AuthStore.revokeJTI {} "j1" 3600).gates "key" hourCookie).requireCookie 0 { session := some "c1" } =
        .next none none ∧
      ((AuthStore.revokeJTI {} "j1" 3600).gates "key" hourCookie).jwtAuth 0 { session := some "c1" } =
        .error 401 "token has been revoked" := by
  decide +kernel

end TunnelEdge.Dashboard
