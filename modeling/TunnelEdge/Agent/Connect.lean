import TunnelEdge.Transport.Formats
/-!
# What an agent sends first

`Agent.connect` (`internal/agent/agent.go`) on the control stream: a Hello, then a
SessionResume where the agent holds a token and resuming is enabled, and, unless
the session was resumed, AuthV2 for an agent with configured tunnels and Auth for
one without. The agent writes the authentication frame only once it has read the
answer to its SessionResume; to the gateway the frames are one stream of bytes,
read in this order.
-/

namespace TunnelEdge

open GoLib Transport

/-- `Agent`: the fields that `connect` reads. -/
structure Agent where
  token : Bytes
  tunnels : List TunnelEntry := []
  preferredRegion : Bytes := []
  sessionResumeEnabled : Bool := false
  resumeToken : Bytes := []

/-- The frame of `authenticateV1` or `authenticateV2`. -/
inductive AuthFrame
  | v1 (token : Bytes)
  | v2 (msg : AuthV2Message)
deriving DecidableEq, Repr

namespace AuthFrame

def encode : AuthFrame → Except FrameError Bytes
  | .v1 token => encodeAuth token
  | .v2 msg => encodeAuthV2 msg

/-- The messages that the encoder takes, and their bytes. -/
def Fits : AuthFrame → Prop
  | .v1 token => token.length ≤ maxTokenLen
  | .v2 msg => msg.Fits

def msgType : AuthFrame → UInt8
  | .v1 _ => msgAuth
  | .v2 _ => msgAuthV2

def body : AuthFrame → Bytes
  | .v1 token => putField16 token
  | .v2 msg => putField16 msg.token ++ UInt8.ofNat msg.tunnels.length :: msg.tunnels.flatMap TunnelEntry.wire ++
      putField8 msg.preferredRegion

def wire (auth : AuthFrame) : Bytes := auth.msgType :: auth.body

def token : AuthFrame → Bytes
  | .v1 token => token
  | .v2 msg => msg.token

def isV2 : AuthFrame → Bool
  | .v1 _ => false
  | .v2 _ => true

theorem encode_encodes : Encodes encode Fits wire := by
  intro auth b
  cases auth with
  | v1 token => exact encodeAuth_encodes token b
  | v2 msg => exact encodeAuthV2_encodes msg b

end AuthFrame

/-- The SessionResume frame, where the agent sends one. -/
def encodeResume : Option Bytes → Except FrameError Bytes
  | none => .ok []
  | some token => encodeSessionResume token

def ResumeFits (resume : Option Bytes) : Prop := ∀ token ∈ resume, token.length ≤ maxResumeTokenLen

def resumeWire : Option Bytes → Bytes
  | none => []
  | some token => msgSessionResume :: putField16 token

theorem encodeResume_encodes : Encodes encodeResume ResumeFits resumeWire := by
  intro resume b
  cases resume with
  | none => simp [encodeResume, ResumeFits, resumeWire, eq_comm]
  | some token => simpa [encodeResume, ResumeFits, resumeWire] using encodeSessionResume_encodes token b

/-- The frames of a connection one after another: the Hello, an optional SessionResume, the authentication. -/
def controlBytes (hello : Bytes) (resume : Option Bytes) (auth : AuthFrame) : Except FrameError Bytes := do
  let resumeFrame ← encodeResume resume
  let authFrame ← auth.encode
  pure (hello ++ (resumeFrame ++ authFrame))

theorem controlBytes_eq_ok {hello : Bytes} {resume : Option Bytes} {auth : AuthFrame} {s : Bytes}
    (h : controlBytes hello resume auth = .ok s) :
    ResumeFits resume ∧ auth.Fits ∧ s = hello ++ (resumeWire resume ++ auth.wire) := by
  unfold controlBytes at h
  cases hr : encodeResume resume with
  | error e => rw [hr] at h; cases h
  | ok r =>
    cases ha : auth.encode with
    | error e => rw [hr, ha] at h; cases h
    | ok b =>
      rw [hr, ha] at h
      cases h
      obtain ⟨hresume, rfl⟩ := encodeResume_encodes.of_ok hr
      obtain ⟨hauth, rfl⟩ := AuthFrame.encode_encodes.of_ok ha
      exact ⟨hresume, hauth, rfl⟩

namespace Agent

def resume (a : Agent) : Option Bytes :=
  if a.sessionResumeEnabled && a.resumeToken ≠ [] then some a.resumeToken else none

/-- `len(a.tunnels) > 0` -/
def isV2 (a : Agent) : Bool := a.tunnels ≠ []

def auth (a : Agent) : AuthFrame :=
  if a.isV2 then .v2 ⟨a.token, a.tunnels, a.preferredRegion⟩ else .v1 a.token

/-- What an agent of a protocol version sends. -/
def stream (a : Agent) (version : UInt16) (clientVersion : Bytes) : Except FrameError Bytes :=
  controlBytes (helloFrame version clientVersion) a.resume a.auth

@[simp] theorem auth_isV2 (a : Agent) : a.auth.isV2 = a.isV2 := by
  unfold auth
  cases a.isV2 <;> rfl

@[simp] theorem auth_token (a : Agent) : a.auth.token = a.token := by
  unfold auth
  cases a.isV2 <;> rfl

end Agent

end TunnelEdge
