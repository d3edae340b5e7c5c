import TunnelEdge.Lib.Wire
/-!
# Frames on the wire

The frames that agent and gateway exchange over QUIC streams
(`internal/transport/transport.go`): one encoder and one decoder each. A Go string
is its bytes, so the fields of a message are `Bytes`. An encoder builds its whole
frame before the one `Write`; it is a function to the bytes written or its error.

Lengths are narrowed the way the source narrows them: `byte(n)` is `UInt8.ofNat n`
and `uint16(n)` is `UInt16.ofNat n`. Where a decoder skips the read of an empty
field, the model reads zero bytes, which is the same.
-/

namespace TunnelEdge.Transport

open GoLib

def protocolVersion : UInt16 := 3

def msgHello : UInt8 := 0x00
def msgAuth : UInt8 := 0x01
def msgAuthResponse : UInt8 := 0x02
def msgAuthV2 : UInt8 := 0x06
def msgAuthRespV2 : UInt8 := 0x07
def msgStreamLabel : UInt8 := 0x08
def msgSessionResume : UInt8 := 0x09
def msgSessionResumeResp : UInt8 := 0x0A

def authStatusOK : UInt8 := 0x00
def authStatusError : UInt8 := 0x01

def resumeStatusResumed : UInt8 := 0x10

def maxTokenLen : Nat := 4096
def maxTunnelIDLen : Nat := 256
def maxPublicURLLen : Nat := 512
def maxLabelLen : Nat := 64
def maxLocalAddrLen : Nat := 256
def maxTunnelCount : Nat := 32
def maxVersionLen : Nat := 64
def maxResumeTokenLen : Nat := 512
def maxRegionLen : Nat := 64
def maxSuggestedGWs : Nat := 8

inductive FrameError
  /-- `fmt.Errorf("<what>: %w", err)` around an error of `io.ReadFull`. -/
  | read (what : String) (err : ReadError)
  /-- `errs.New(errs.CodeInvalidArg, msg)` -/
  | invalidArg (msg : String)
  /-- The same with a field's value after the text. -/
  | invalidArgOf (msg : String) (value : Bytes)
  /-- `expected <expected>, got 0x%02x` -/
  | unexpectedType (expected : String) (got : UInt8)
deriving DecidableEq, Repr

abbrev Decoder := Reader FrameError

/-! ## Length-prefixed fields -/

def putField8 (v : Bytes) : Bytes := UInt8.ofNat v.length :: v

def putField16 (v : Bytes) : Bytes := putUint16 (UInt16.ofNat v.length) ++ v

/-- Read a field whose length is the next byte and at most `max`. -/
def field8 (lenWhat tooLong what : String) (max : Nat) : Decoder Bytes := do
  let buf ← readFull 1 (.read lenWhat)
  if (byteAt buf 0).toNat > max then throw (.invalidArg tooLong) else readFull (byteAt buf 0).toNat (.read what)

/-- Read a field whose length is in the next two bytes and at most `max`. -/
def field16 (lenWhat tooLong what : String) (max : Nat) : Decoder Bytes := do
  let buf ← readFull 2 (.read lenWhat)
  if (uint16At buf 0).toNat > max then throw (.invalidArg tooLong) else readFull (uint16At buf 0).toNat (.read what)

/-- Read a list whose length is the next byte and at most `max`. -/
def counted {α : Type} (what tooMany : String) (max : Nat) (item : Decoder α) : Decoder (List α) := do
  let buf ← readFull 1 (.read what)
  if (byteAt buf 0).toNat > max then throw (.invalidArg tooMany) else readMany item (byteAt buf 0).toNat

/-- A frame of a type byte and one field. -/
def encodeTokenFrame (msgType : UInt8) (tooLong : String) (max : Nat) (token : Bytes) : Except FrameError Bytes :=
  if token.length > max then .error (.invalidArg tooLong) else .ok (msgType :: putField16 token)

def decodeTokenFrame (msgType : UInt8) (headerWhat expected tooLong what : String) (max : Nat) : Decoder Bytes := do
  let header ← readFull 3 (.read headerWhat)
  if byteAt header 0 ≠ msgType then throw (.unexpectedType expected (byteAt header 0))
  else if (uint16At header 1).toNat > max then throw (.invalidArg tooLong)
  else readFull (uint16At header 1).toNat (.read what)

/-- The front of a reply: a type byte, a status and the tunnel id. -/
def statusHeader (msgType : UInt8) (headerWhat expected what : String) : Decoder (UInt8 × Bytes) := do
  let header ← readFull 4 (.read headerWhat)
  if byteAt header 0 ≠ msgType then throw (.unexpectedType expected (byteAt header 0))
  else if (uint16At header 2).toNat > maxTunnelIDLen then throw (.invalidArg "tunnel_id too long")
  else do
    let tunnelID ← readFull (uint16At header 2).toNat (.read what)
    pure (byteAt header 1, tunnelID)

/-! ## Hello -/

structure HelloMessage where
  version : UInt16
  clientVersion : Bytes
deriving DecidableEq, Repr

/-- A Hello of any protocol version; a long client version is cut. -/
def helloFrame (version : UInt16) (clientVersion : Bytes) : Bytes :=
  msgHello :: putUint16 version ++ putField16 (clientVersion.take maxVersionLen)

def encodeHello (clientVersion : Bytes) : Except FrameError Bytes := .ok (helloFrame protocolVersion clientVersion)

/-- The type byte has been consumed by `ReadMessageType`. -/
def decodeHello : Decoder HelloMessage := do
  let header ← readFull 4 (.read "failed to read hello frame")
  if (uint16At header 2).toNat > maxVersionLen then throw (.invalidArg "client version string too long")
  else do
    let clientVersion ← readFull (uint16At header 2).toNat (.read "failed to read client version")
    pure { version := uint16At header 0, clientVersion }

def readMessageType : Decoder UInt8 := do
  let buf ← readFull 1 (.read "")
  pure (byteAt buf 0)

/-! ## Auth -/

structure AuthMessage where
  token : Bytes
deriving DecidableEq, Repr

def encodeAuth (token : Bytes) : Except FrameError Bytes := encodeTokenFrame msgAuth "token too long" maxTokenLen token

def decodeAuth : Decoder AuthMessage :=
  .mk <$> decodeTokenFrame msgAuth "failed to read auth header" "auth message type 0x01" "token too long"
    "failed to read auth token" maxTokenLen

structure AuthResponseMessage where
  status : UInt8
  tunnelID : Bytes
  publicURL : Bytes
deriving DecidableEq, Repr

def encodeAuthResponse (status : UInt8) (tunnelID publicURL : Bytes) : Except FrameError Bytes :=
  if tunnelID.length > maxTunnelIDLen then .error (.invalidArg "tunnel_id too long")
  else if publicURL.length > maxPublicURLLen then .error (.invalidArg "public_url too long")
  else .ok ([msgAuthResponse, status] ++ putUint16 (UInt16.ofNat tunnelID.length) ++
    putUint16 (UInt16.ofNat publicURL.length) ++ tunnelID ++ publicURL)

def decodeAuthResponse : Decoder AuthResponseMessage := do
  let header ← readFull 6 (.read "failed to read auth response header")
  if byteAt header 0 ≠ msgAuthResponse then throw (.unexpectedType "auth response type 0x02" (byteAt header 0))
  else if (uint16At header 2).toNat > maxTunnelIDLen then throw (.invalidArg "tunnel_id too long")
  else if (uint16At header 4).toNat > maxPublicURLLen then throw (.invalidArg "public_url too long")
  else do
    let tunnelID ← readFull (uint16At header 2).toNat (.read "failed to read auth response tunnel_id")
    let publicURL ← readFull (uint16At header 4).toNat (.read "failed to read auth response public_url")
    pure { status := byteAt header 1, tunnelID, publicURL }

/-! ## AuthV2 -/

structure TunnelEntry where
  label : Bytes
  localAddr : Bytes
  tunnelType : Bytes
deriving DecidableEq, Repr

structure AuthV2Message where
  token : Bytes
  tunnels : List TunnelEntry
  preferredRegion : Bytes
deriving DecidableEq, Repr

/-- One round of the loop in `EncodeAuthV2`. -/
def encodeTunnelEntry (t : TunnelEntry) : Except FrameError Bytes :=
  if t.label.length > maxLabelLen then .error (.invalidArgOf "label too long: " t.label)
  else if t.localAddr.length > maxLocalAddrLen then .error (.invalidArgOf "local_addr too long: " t.localAddr)
  else if t.tunnelType.length > maxLabelLen then .error (.invalidArg "tunnel_type too long")
  else .ok (putField8 t.label ++ putField16 t.localAddr ++ putField8 t.tunnelType)

def encodeAuthV2 (msg : AuthV2Message) : Except FrameError Bytes :=
  if msg.token.length > maxTokenLen then .error (.invalidArg "token too long")
  else if msg.tunnels.length > maxTunnelCount then .error (.invalidArg "too many tunnels")
  else if msg.preferredRegion.length > maxRegionLen then .error (.invalidArg "region too long")
  else do
    let entries ← msg.tunnels.mapM encodeTunnelEntry
    pure (msgAuthV2 :: putField16 msg.token ++ UInt8.ofNat msg.tunnels.length :: entries.flatten ++
      putField8 msg.preferredRegion)

/-- One round of the loop in `DecodeAuthV2`. -/
def decodeTunnelEntry : Decoder TunnelEntry := do
  let label ← field8 "failed to read label len" "label too long" "failed to read label" maxLabelLen
  let localAddr ← field16 "failed to read local_addr len" "local_addr too long" "failed to read local_addr"
    maxLocalAddrLen
  let tunnelType ← field8 "failed to read tunnel_type len" "tunnel_type too long" "failed to read tunnel_type"
    maxLabelLen
  pure { label, localAddr, tunnelType }

/-- Its comment says that the type byte is consumed already; the code reads it. -/
def decodeAuthV2 : Decoder AuthV2Message := do
  let token ← decodeTokenFrame msgAuthV2 "failed to read auth v2 header" "auth v2 type 0x06" "token too long"
    "failed to read auth v2 token" maxTokenLen
  let tunnels ← counted "failed to read tunnel count" "too many tunnels" maxTunnelCount decodeTunnelEntry
  let preferredRegion ← field8 "failed to read region len" "region too long" "failed to read region" maxRegionLen
  pure { token, tunnels, preferredRegion }

structure TunnelHostEntry where
  label : Bytes
  hostname : Bytes
deriving DecidableEq, Repr

structure AuthV2ResponseMessage where
  status : UInt8
  tunnelID : Bytes := []
  tunnels : List TunnelHostEntry := []
  resumeToken : Bytes := []
  assignedRegion : Bytes := []
  suggestedGateways : List Bytes := []
deriving DecidableEq, Repr

/-- The entries of the two lists are written without a check of their lengths. -/
def encodeAuthV2Response (msg : AuthV2ResponseMessage) : Except FrameError Bytes :=
  if msg.tunnelID.length > maxTunnelIDLen then .error (.invalidArg "tunnel_id too long")
  else if msg.tunnels.length > maxTunnelCount then .error (.invalidArg "too many tunnels in response")
  else if msg.resumeToken.length > maxResumeTokenLen then .error (.invalidArg "resume_token too long")
  else if msg.assignedRegion.length > maxRegionLen then .error (.invalidArg "assigned_region too long")
  else if msg.suggestedGateways.length > maxSuggestedGWs then .error (.invalidArg "too many suggested gateways")
  else .ok ([msgAuthRespV2, msg.status] ++ putField16 msg.tunnelID ++ UInt8.ofNat msg.tunnels.length ::
    msg.tunnels.flatMap (fun t => putField8 t.label ++ putField16 t.hostname) ++ putField16 msg.resumeToken ++
    putField8 msg.assignedRegion ++ UInt8.ofNat msg.suggestedGateways.length ::
    msg.suggestedGateways.flatMap putField16)

/-- One round of the first loop in `DecodeAuthV2Response`: a label may have any length. -/
def decodeTunnelHostEntry : Decoder TunnelHostEntry := do
  let buf ← readFull 1 (.read "failed to read response label len")
  let label ← readFull (byteAt buf 0).toNat (.read "failed to read response label")
  let hostname ← field16 "failed to read response hostname len" "hostname too long" "failed to read response hostname"
    maxPublicURLLen
  pure { label, hostname }

def decodeAuthV2Response : Decoder AuthV2ResponseMessage := do
  let front ← statusHeader msgAuthRespV2 "failed to read auth v2 response header" "auth v2 response type 0x07"
    "failed to read auth v2 response tunnel_id"
  let tunnels ← counted "failed to read tunnel count in response" "too many tunnels in response" maxTunnelCount
    decodeTunnelHostEntry
  let resumeToken ← field16 "failed to read resume_token len" "resume_token too long" "failed to read resume_token"
    maxResumeTokenLen
  let assignedRegion ← field8 "failed to read assigned_region len" "assigned_region too long"
    "failed to read assigned_region" maxRegionLen
  let suggestedGateways ← counted "failed to read suggested gateway count" "too many suggested gateways"
    maxSuggestedGWs (field16 "failed to read suggested gw addr len" "suggested gateway addr too long"
      "failed to read suggested gw addr" maxPublicURLLen)
  pure { status := front.1, tunnelID := front.2, tunnels, resumeToken, assignedRegion, suggestedGateways }

/-! ## Session resume -/

structure SessionResumeMessage where
  token : Bytes
deriving DecidableEq, Repr

def encodeSessionResume (token : Bytes) : Except FrameError Bytes :=
  encodeTokenFrame msgSessionResume "resume token too long" maxResumeTokenLen token

def decodeSessionResume : Decoder SessionResumeMessage :=
  .mk <$> decodeTokenFrame msgSessionResume "failed to read session resume header" "session resume type 0x09"
    "resume token too long" "failed to read resume token" maxResumeTokenLen

structure SessionResumeRespMessage where
  status : UInt8
  tunnelID : Bytes := []
  newToken : Bytes := []
deriving DecidableEq, Repr

def encodeSessionResumeResp (msg : SessionResumeRespMessage) : Except FrameError Bytes :=
  if msg.tunnelID.length > maxTunnelIDLen then .error (.invalidArg "tunnel_id too long")
  else if msg.newToken.length > maxResumeTokenLen then .error (.invalidArg "new resume token too long")
  else .ok ([msgSessionResumeResp, msg.status] ++ putField16 msg.tunnelID ++ putField16 msg.newToken)

def decodeSessionResumeResp : Decoder SessionResumeRespMessage := do
  let front ← statusHeader msgSessionResumeResp "failed to read session resume resp header"
    "session resume resp type 0x0A" "failed to read resume resp tunnel_id"
  let newToken ← field16 "failed to read new token len" "new resume token too long" "failed to read new resume token"
    maxResumeTokenLen
  pure { status := front.1, tunnelID := front.2, newToken }

/-! ## Stream label -/

def encodeStreamLabel (label : Bytes) : Except FrameError Bytes :=
  if label.length > maxLabelLen then .error (.invalidArg "label too long") else .ok (msgStreamLabel :: putField8 label)

def decodeStreamLabel : Decoder Bytes := do
  let header ← readFull 2 (.read "failed to read stream label header")
  if byteAt header 0 ≠ msgStreamLabel then throw (.unexpectedType "stream label type 0x08" (byteAt header 0))
  else if (byteAt header 1).toNat > maxLabelLen then throw (.invalidArg "label too long")
  else readFull (byteAt header 1).toNat (.read "failed to read stream label")

/-! ## All kinds of stream frames -/

inductive FrameKind
  | auth | authResponse | authV2 | authV2Response | sessionResume | sessionResumeResp | streamLabel
deriving DecidableEq, Repr

namespace FrameKind

def Msg : FrameKind → Type
  | .auth => AuthMessage
  | .authResponse => AuthResponseMessage
  | .authV2 => AuthV2Message
  | .authV2Response => AuthV2ResponseMessage
  | .sessionResume => SessionResumeMessage
  | .sessionResumeResp => SessionResumeRespMessage
  | .streamLabel => Bytes

def encode : (k : FrameKind) → k.Msg → Except FrameError Bytes
  | .auth, (m : AuthMessage) => encodeAuth m.token
  | .authResponse, (m : AuthResponseMessage) => encodeAuthResponse m.status m.tunnelID m.publicURL
  | .authV2, m => encodeAuthV2 m
  | .authV2Response, m => encodeAuthV2Response m
  | .sessionResume, (m : SessionResumeMessage) => encodeSessionResume m.token
  | .sessionResumeResp, m => encodeSessionResumeResp m
  | .streamLabel, m => encodeStreamLabel m

def decode : (k : FrameKind) → Decoder k.Msg
  | .auth => decodeAuth
  | .authResponse => decodeAuthResponse
  | .authV2 => decodeAuthV2
  | .authV2Response => decodeAuthV2Response
  | .sessionResume => decodeSessionResume
  | .sessionResumeResp => decodeSessionResumeResp
  | .streamLabel => decodeStreamLabel

end FrameKind

end TunnelEdge.Transport
