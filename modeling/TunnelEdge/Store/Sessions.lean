import TunnelEdge.Domain
/-!
# Session stores

`domain.SessionRepository` and its two implementations: the map of
`internal/store/memstore/session_repo.go` and the table of
`internal/store/pgstore/session_repo.go`. Each operation runs under one lock or
as one statement, so it is one function of the store and the time.

The memory store keeps one session for a tunnel. The table has no unique
column: it keeps a row for each registration with a status, and most operations
only see the `active` rows.
-/

namespace TunnelEdge.Store

open GoLib

/-- `domain.SessionRepository`: the operations that the registry and the gateways use. `setOwner` is the store
after a caller wrote the owner and the lease into a session that `get` or `list` gave it. -/
structure SessionRepository (σ : Type) where
  register : σ → Time → Session → σ × Except String Session
  deregister : σ → Time → String → σ × Except String Unit
  get : σ → String → Except String Session
  list : σ → List Session
  setOwner : σ → String → String → String → σ
  heartbeat : σ → Time → String → σ × Except String Unit
  cleanupExpired : σ → Time → Duration → σ × Nat
  getResumable : σ → Time → String → Except String Session
  setResumable : σ → Time → String → String → Time → σ × Except String Unit

/-! ## MemorySessionRepository -/

abbrev Memory := GoMap String Session

namespace Memory

/-- `IsExpired`: `time.Since(LastHeartbeat) > ttl`. -/
def isExpired (sess : Session) (now : Time) (ttl : Duration) : Bool := now - sess.lastHeartbeat > ttl

def register (s : Memory) (now : Time) (sess : Session) : Memory × Except String Session :=
  if sess.tunnelID = "" then (s, .error "tunnel_id is required")
  else
    match s.lookup sess.tunnelID with
    | some _ => (s, .error "tunnel already registered")
    | none =>
      let sess := { sess with
        createdAt := if sess.createdAt = 0 then now else sess.createdAt
        lastHeartbeat := if sess.lastHeartbeat = 0 then now else sess.lastHeartbeat }
      (s.insert sess.tunnelID sess, .ok sess)

def deregister (s : Memory) (tunnelID : String) : Memory × Except String Unit :=
  match s.lookup tunnelID with
  | none => (s, .error ("tunnel " ++ tunnelID ++ " not found"))
  | some _ => (s.erase tunnelID, .ok ())

def get (s : Memory) (tunnelID : String) : Except String Session :=
  match s.lookup tunnelID with
  | none => .error ("tunnel " ++ tunnelID ++ " not found")
  | some sess => .ok sess

/-- In no particular order. -/
def list (s : Memory) : List Session := GoMap.values (fun _ _ => true) s

/-- `Get` and `List` hand out the stored sessions themselves. -/
def setOwner (s : Memory) (tunnelID ownerRelayID leaseID : String) : Memory :=
  match s.lookup tunnelID with
  | none => s
  | some sess => s.insert tunnelID { sess with ownerRelayID, leaseID }

def heartbeat (s : Memory) (now : Time) (tunnelID : String) : Memory × Except String Unit :=
  match s.lookup tunnelID with
  | none => (s, .error ("tunnel " ++ tunnelID ++ " not found"))
  | some sess => (s.insert tunnelID { sess with lastHeartbeat := now }, .ok ())

def cleanupExpired (s : Memory) (now : Time) (ttl : Duration) : Memory × Nat :=
  (GoMap.filter (fun _ sess => !isExpired sess now ttl) s, GoMap.count (fun _ sess => isExpired sess now ttl) s)

/-- The session carries the token and its deadline lies ahead. -/
def resumable (token : String) (now : Time) (sess : Session) : Bool :=
  sess.resumeToken = token && sess.resumeDeadline.any fun deadline => now < deadline

def getResumable (s : Memory) (now : Time) (token : String) : Except String Session :=
  if token = "" then .error "resume token required"
  else
    match GoMap.values (fun _ sess => resumable token now sess) s with
    | sess :: _ => .ok sess
    | [] => .error "resumable session not found"

def setResumable (s : Memory) (tunnelID token : String) (deadline : Time) : Memory × Except String Unit :=
  match s.lookup tunnelID with
  | none => (s, .error ("session " ++ tunnelID ++ " not found"))
  | some sess => (s.insert tunnelID { sess with resumeToken := token, resumeDeadline := some deadline }, .ok ())

def repo : SessionRepository Memory where
  register := register
  deregister s _ t := deregister s t
  get := get
  list := list
  setOwner := setOwner
  heartbeat := heartbeat
  cleanupExpired := cleanupExpired
  getResumable := getResumable
  setResumable s _ := setResumable s

section Lookup

variable {s : Memory} {now : Time} {t t' : String}

theorem lookup_setResumable {token : String} {deadline : Time}
    (h : (setResumable s t' token deadline).1.lookup t ≠ none) : s.lookup t ≠ none := by
  unfold setResumable at h
  split at h
  · exact h
  · rename_i sess hs
    exact GoMap.lookup_of_replace (hs ▸ Option.some_ne_none sess) h

theorem lookup_heartbeat (h : (heartbeat s now t').1.lookup t ≠ none) : s.lookup t ≠ none := by
  unfold heartbeat at h
  split at h
  · exact h
  · rename_i sess hs
    exact GoMap.lookup_of_replace (hs ▸ Option.some_ne_none sess) h

theorem lookup_deregister (h : (deregister s t').1.lookup t ≠ none) : s.lookup t ≠ none := by
  unfold deregister at h
  split at h
  · exact h
  · simp only [GoMap.lookup_erase_ite] at h
    split at h
    · exact absurd rfl h
    · exact h

theorem lookup_cleanupExpired {ttl : Duration} (h : (cleanupExpired s now ttl).1.lookup t ≠ none) :
    s.lookup t ≠ none := by
  simp only [cleanupExpired, GoMap.lookup_filter] at h
  intro hn
  rw [hn] at h
  exact h rfl

theorem register_cases (s : Memory) (now : Time) (sess : Session) :
    (∃ err, register s now sess = (s, .error err)) ∨
    ∃ sess', sess'.tunnelID = sess.tunnelID ∧ register s now sess = (s.insert sess.tunnelID sess', .ok sess') := by
  unfold register
  split
  · exact .inl ⟨_, rfl⟩
  · split
    · exact .inl ⟨_, rfl⟩
    · refine .inr ⟨_, ?_, rfl⟩
      rfl

theorem deregister_cases (s : Memory) (t : String) :
    (∃ err, deregister s t = (s, .error err)) ∨ deregister s t = (s.erase t, .ok ()) := by
  unfold deregister
  split
  · exact .inl ⟨_, rfl⟩
  · exact .inr rfl

theorem lookup_register {sess : Session} (h : (register s now sess).1.lookup t ≠ none) :
    s.lookup t ≠ none ∨ (t = sess.tunnelID ∧ ∃ x, (register s now sess).2 = .ok x) := by
  unfold register at h ⊢
  split at h
  · exact .inl h
  · rename_i hne
    cases hs : s.lookup sess.tunnelID with
    | some x =>
      simp only [hs] at h
      exact .inl h
    | none =>
      simp only [hs, GoMap.lookup_insert_ite] at h
      by_cases ht : t = sess.tunnelID
      · exact .inr ⟨ht, by simp [hne]⟩
      · exact .inl (by simpa [ht] using h)

end Lookup

end Memory

/-! ## PGSessionRepository -/

inductive RowStatus
  | active | disconnecting | closed | expired
deriving DecidableEq, Repr

/-- A row of `tunnel_sessions`; `disconnected_at` is never read. -/
structure TunnelSessionModel where
  session : Session
  status : RowStatus
deriving DecidableEq, Repr

/-- The table, oldest row first: `First` orders by primary key. -/
abbrev Table := List TunnelSessionModel

namespace Table

/-- `WHERE tunnel_id = ? AND status = 'active'` -/
def activeOf (tunnelID : String) (row : TunnelSessionModel) : Bool :=
  row.session.tunnelID = tunnelID && row.status = .active

/-- `UPDATE ... WHERE`, with the number of rows affected. -/
def update (s : Table) (p : TunnelSessionModel → Bool) (f : TunnelSessionModel → TunnelSessionModel) : Table × Nat :=
  (s.map fun row => if p row then f row else row, s.countP p)

def register (s : Table) (now : Time) (sess : Session) : Table × Except String Session :=
  if sess.tunnelID = "" then (s, .error "tunnel_id is required")
  else
    let sess := { sess with createdAt := now, lastHeartbeat := now, resumeToken := "", resumeDeadline := none }
    (s ++ [⟨sess, .active⟩], .ok sess)

def deregister (s : Table) (tunnelID : String) : Table × Except String Unit :=
  match update s (activeOf tunnelID) ({ · with status := .closed }) with
  | (s, 0) => (s, .error ("tunnel " ++ tunnelID ++ " not found"))
  | (s, _) => (s, .ok ())

/-- A row as `Get` and `List` return it. -/
def toSession (row : TunnelSessionModel) : Session := { row.session with resumeToken := "", resumeDeadline := none }

def get (s : Table) (tunnelID : String) : Except String Session :=
  match s.find? (activeOf tunnelID) with
  | some row => .ok (toSession row)
  | none => .error ("tunnel " ++ tunnelID ++ " not found")

def list (s : Table) : List Session := (s.filter fun row => row.status = .active).map toSession

def heartbeat (s : Table) (now : Time) (tunnelID : String) : Table × Except String Unit :=
  match update s (activeOf tunnelID) (fun row => { row with session := { row.session with lastHeartbeat := now } }) with
  | (s, 0) => (s, .error ("tunnel " ++ tunnelID ++ " not found"))
  | (s, _) => (s, .ok ())

def cleanupExpired (s : Table) (now : Time) (ttl : Duration) : Table × Nat :=
  update s (fun row => row.status = .active && row.session.lastHeartbeat < now - ttl) ({ · with status := .expired })

/-- `WHERE resume_token = ? AND resume_deadline > ? AND status IN ('active', 'disconnecting')` -/
def resumable (token : String) (now : Time) (row : TunnelSessionModel) : Bool :=
  row.session.resumeToken = token && (row.session.resumeDeadline.any fun deadline => now < deadline) &&
    (row.status = .active || row.status = .disconnecting)

def getResumable (s : Table) (now : Time) (token : String) : Except String Session :=
  if token = "" then .error "resume token required"
  else
    match s.find? (resumable token now) with
    | some row => .ok row.session
    | none => .error "resumable session not found"

/-- Only an `active` row becomes resumable, and it stops being active. -/
def setResumable (s : Table) (tunnelID token : String) (deadline : Time) : Table × Except String Unit :=
  match update s (activeOf tunnelID) (fun row =>
    ⟨{ row.session with resumeToken := token, resumeDeadline := some deadline }, .disconnecting⟩) with
  | (s, 0) => (s, .error ("session " ++ tunnelID ++ " not found or not active"))
  | (s, _) => (s, .ok ())

def repo : SessionRepository Table where
  register := register
  deregister s _ t := deregister s t
  get := get
  list := list
  setOwner s _ _ _ := s
  heartbeat := heartbeat
  cleanupExpired := cleanupExpired
  getResumable := getResumable
  setResumable s _ := setResumable s

end Table

end TunnelEdge.Store
