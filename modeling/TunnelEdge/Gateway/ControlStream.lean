import TunnelEdge.Agent.Connect
import TunnelEdge.Gateway.State
/-!
# Reading the control stream

The order in which `handleAgentConnection` reads the agent's first stream. Every
frame starts with a type byte that `ReadMessageType` consumes. `DecodeHello` goes on
after it; the other decoders read the type themselves, so the gateway puts the byte
back in front of the stream for them. On the bytes that an agent sends, this
recovers each frame and leaves nothing between them.
-/

namespace TunnelEdge.Gateway

open GoLib Transport

inductive ControlFrame
  | hello (msg : HelloMessage)
  | sessionResume (msg : SessionResumeMessage)
  | auth (msg : AuthMessage)
  | authV2 (msg : AuthV2Message)
  /-- The type byte is read, the body does not decode. -/
  | malformed (kind : FrameKind)
  | unknown (msgType : UInt8)
deriving DecidableEq, Repr

/-- The frames read, and the bytes that are left. After an error the connection is closed and nothing more is read. -/
abbrev Frames := List ControlFrame × Bytes

/-- `handleV2Auth` and `handleV1Auth`: decode with the type byte put back. -/
def authFrame (msgType : UInt8) (s : Bytes) : Frames :=
  if msgType = msgAuthV2 then
    match multiReader [msgAuthV2] decodeAuthV2 s with
    | .ok (msg, rest) => ([.authV2 msg], rest)
    | .error _ => ([.malformed .authV2], [])
  else if msgType = msgAuth then
    match multiReader [msgAuth] decodeAuth s with
    | .ok (msg, rest) => ([.auth msg], rest)
    | .error _ => ([.malformed .auth], [])
  else ([.unknown msgType], s)

/-- After a refused resume: the next type byte, then the authentication frame. -/
def readAuth (s : Bytes) : Frames :=
  match readMessageType s with
  | .ok (nextType, s) => authFrame nextType s
  | .error _ => ([], [])

/-- The `switch` on the first type byte that is not a Hello's. -/
def dispatchFrames (msgType : UInt8) (s : Bytes) : Frames :=
  if msgType = msgSessionResume then
    match multiReader [msgSessionResume] decodeSessionResume s with
    | .ok (msg, s) => (.sessionResume msg :: (readAuth s).1, (readAuth s).2)
    | .error _ => ([.malformed .resume], [])
  else authFrame msgType s

def readAfterHello (s : Bytes) : Frames :=
  match readMessageType s with
  | .ok (msgType, s) => dispatchFrames msgType s
  | .error _ => ([], [])

/-- The whole stream. Nothing is read after a Hello of another version. -/
def controlStream (s : Bytes) : Frames :=
  match readMessageType s with
  | .ok (helloType, s) =>
    if helloType = msgHello then
      match decodeHello s with
      | .ok (hello, s) =>
        if hello.version ≠ Transport.protocolVersion then ([.hello hello], s)
        else (.hello hello :: (readAfterHello s).1, (readAfterHello s).2)
      | .error _ => ([.malformed .hello], [])
    else dispatchFrames helloType s
  | .error _ => ([], [])

@[simp] theorem readMessageType_cons (t : UInt8) (s : Bytes) : readMessageType (t :: s) = .ok (t, s) := rfl

@[simp] theorem readMessageType_nil : readMessageType [] = .error (.read "" .eof) := rfl

/-! ## Frames and where they break off -/

def authControl : AuthFrame → ControlFrame
  | .v1 token => .auth ⟨token⟩
  | .v2 msg => .authV2 msg

theorem authFrame_wire {auth : AuthFrame} (h : auth.Fits) (rest : Bytes) :
    authFrame auth.msgType (auth.body ++ rest) = ([authControl auth], rest) := by
  cases auth with
  | v1 token =>
    have hd := decodeAuth_reads.multiReader_decode (a := ⟨token⟩) h rfl rest
    simp only [authFrame, AuthFrame.msgType, AuthFrame.body, hd, authControl]
    rfl
  | v2 msg =>
    have hwire : msg.wire = msgAuthV2 :: (AuthFrame.v2 msg).body := by simp [AuthV2Message.wire, AuthFrame.body]
    have hd := decodeAuthV2_reads.multiReader_decode h hwire rest
    simp only [authFrame, AuthFrame.msgType, hd, authControl, if_true]

/-- The kind of frame that fails to decode. -/
def authKind : AuthFrame → FrameKind
  | .v1 _ => .auth
  | .v2 _ => .authV2

theorem authFrame_short {auth : AuthFrame} (h : auth.Fits) {q : Bytes} (hq : q <+: auth.body) (hne : q ≠ auth.body) :
    authFrame auth.msgType q = ([.malformed (authKind auth)], []) := by
  cases auth with
  | v1 token =>
    have hw := decodeAuth_reads.decode (a := ⟨token⟩) h []
    rw [List.append_nil] at hw
    obtain ⟨e, he⟩ := decodeAuth_reads.short_rejected hw (q := msgAuth :: q)
      (by simpa [AuthFrame.body] using hq) (by simpa [AuthFrame.body] using hne)
    have hd : multiReader [msgAuth] decodeAuth q = .error e := he
    simp only [authFrame, AuthFrame.msgType, hd, authKind]
    rfl
  | v2 msg =>
    have hw := decodeAuthV2_reads.decode h []
    rw [List.append_nil] at hw
    have hwire : msg.wire = msgAuthV2 :: (AuthFrame.v2 msg).body := by simp [AuthV2Message.wire, AuthFrame.body]
    obtain ⟨e, he⟩ := decodeAuthV2_reads.short_rejected hw (q := msgAuthV2 :: q) (by simpa [hwire] using hq)
      (by simpa [hwire] using hne)
    have hd : multiReader [msgAuthV2] decodeAuthV2 q = .error e := he
    simp only [authFrame, AuthFrame.msgType, hd, authKind, if_true]

theorem readAuth_wire {auth : AuthFrame} (h : auth.Fits) (rest : Bytes) :
    readAuth (auth.wire ++ rest) = ([authControl auth], rest) := by
  simp only [readAuth, AuthFrame.wire, List.cons_append, readMessageType_cons, authFrame_wire h]

theorem readAuth_short {auth : AuthFrame} (h : auth.Fits) {q : Bytes} (hq : q <+: auth.wire) (hne : q ≠ auth.wire)
    (hnil : q ≠ []) : readAuth q = ([.malformed (authKind auth)], []) := by
  cases q with
  | nil => exact absurd rfl hnil
  | cons t q =>
    obtain ⟨rfl, hbody⟩ := List.cons_prefix_cons.1 hq
    simp only [readAuth, readMessageType_cons]
    exact authFrame_short h hbody fun he => hne (by rw [AuthFrame.wire, he])

theorem msgType_ne_resume (auth : AuthFrame) : auth.msgType ≠ msgSessionResume := by
  cases auth with
  | v1 token => exact (by decide : msgAuth ≠ msgSessionResume)
  | v2 msg => exact (by decide : msgAuthV2 ≠ msgSessionResume)

def resumeControl (resume : Option Bytes) : List ControlFrame := (resume.map fun token => .sessionResume ⟨token⟩).toList

theorem readAfterHello_resume {token : Bytes} (h : token.length ≤ maxResumeTokenLen) (s : Bytes) :
    readAfterHello (resumeWire (some token) ++ s) = (.sessionResume ⟨token⟩ :: (readAuth s).1, (readAuth s).2) := by
  have hd := decodeSessionResume_reads.multiReader_decode (a := ⟨token⟩) h rfl s
  simp only [readAfterHello, resumeWire, List.cons_append, readMessageType_cons, dispatchFrames, if_true, hd]

theorem readAfterHello_resume_short {token q : Bytes} (h : token.length ≤ maxResumeTokenLen)
    (hq : q <+: resumeWire (some token)) (hne : q ≠ resumeWire (some token)) :
    readAfterHello q = ([], []) ∨ readAfterHello q = ([.malformed .resume], []) := by
  cases q with
  | nil => exact .inl rfl
  | cons t q =>
    right
    have hw := decodeSessionResume_reads.decode (a := ⟨token⟩) h []
    rw [List.append_nil] at hw
    obtain ⟨e, he⟩ := decodeSessionResume_reads.short_rejected hw hq hne
    obtain ⟨rfl, -⟩ := List.cons_prefix_cons.1 hq
    have hd : multiReader [msgSessionResume] decodeSessionResume q = .error e := he
    simp only [readAfterHello, readMessageType_cons, dispatchFrames, hd, if_true]

theorem readAfterHello_auth (auth : AuthFrame) (s : Bytes) :
    readAfterHello (auth.msgType :: s) = readAuth (auth.msgType :: s) := by
  simp only [readAfterHello, readAuth, readMessageType_cons, dispatchFrames, msgType_ne_resume, if_false]

theorem readAfterHello_wire {resume : Option Bytes} {auth : AuthFrame} (hr : ResumeFits resume) (ha : auth.Fits)
    (rest : Bytes) :
    readAfterHello (resumeWire resume ++ auth.wire ++ rest) = (resumeControl resume ++ [authControl auth], rest) := by
  cases resume with
  | none => exact (readAfterHello_auth auth _).trans (readAuth_wire ha rest)
  | some token =>
    rw [List.append_assoc, readAfterHello_resume (hr token rfl), readAuth_wire ha]
    rfl

theorem decodeHello_wire (version : UInt16) (clientVersion s : Bytes) :
    decodeHello (putUint16 version ++ putField16 (clientVersion.take maxVersionLen) ++ s) =
      .ok (⟨version, clientVersion.take maxVersionLen⟩, s) :=
  decodeHello_reads.decode (a := ⟨version, clientVersion.take maxVersionLen⟩) (List.length_take_le _ _) s

theorem controlStream_hello (version : UInt16) (clientVersion s : Bytes) :
    controlStream (helloFrame version clientVersion ++ s) =
      if version ≠ Transport.protocolVersion then ([.hello ⟨version, clientVersion.take maxVersionLen⟩], s)
      else (.hello ⟨version, clientVersion.take maxVersionLen⟩ :: (readAfterHello s).1, (readAfterHello s).2) := by
  simp only [controlStream, helloFrame, List.cons_append, readMessageType_cons, decodeHello_wire, if_true]

theorem controlStream_hello_short {version : UInt16} {clientVersion q : Bytes}
    (hq : q <+: helloFrame version clientVersion) (hne : q ≠ helloFrame version clientVersion) :
    controlStream q = ([], []) ∨ controlStream q = ([.malformed .hello], []) := by
  cases q with
  | nil => exact .inl rfl
  | cons t q =>
    right
    obtain ⟨rfl, hbody⟩ := List.cons_prefix_cons.1 hq
    have hw := decodeHello_wire version clientVersion []
    rw [List.append_nil] at hw
    obtain ⟨e, he⟩ := decodeHello_reads.short_rejected hw hbody fun h => hne (by rw [h]; rfl)
    simp only [controlStream, readMessageType_cons, he, if_true]

/-- The gateway reads from an agent's stream the version, the client version cut to 64 bytes, the resume token and
the authentication that the agent encoded, each from where the one before it ended. -/
theorem control_stream_framing (clientVersion : Bytes) (resume : Option Bytes) (auth : AuthFrame)
    (hello s rest : Bytes) (hh : encodeHello clientVersion = .ok hello) (hs : controlBytes hello resume auth = .ok s) :
    controlStream (s ++ rest) = (.hello ⟨Transport.protocolVersion, clientVersion.take maxVersionLen⟩ ::
      (resumeControl resume ++ [authControl auth]), rest) := by
  obtain ⟨hr, ha, rfl⟩ := controlBytes_eq_ok hs
  cases hh
  rw [List.append_assoc, controlStream_hello, if_neg (by simp), readAfterHello_wire hr ha]

theorem control_stream_framing_resume_v1 :
    controlStream ([0, 0, 3, 0, 1, 118, 9, 0, 1, 107, 1, 0, 1, 116] ++ [5]) =
      ([.hello ⟨3, [118]⟩, .sessionResume ⟨[107]⟩, .auth ⟨[116]⟩], [5]) :=
  control_stream_framing [118] (some [107]) (.v1 [116]) _ _ [5] rfl (by rfl)

end TunnelEdge.Gateway
