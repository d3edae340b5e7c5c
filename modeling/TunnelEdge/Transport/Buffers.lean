import TunnelEdge.Lib.Slices
import TunnelEdge.Transport.Frames
/-!
# Encoders and their buffers

`EncodeAuthV2` and `EncodeAuthV2Response` compute the size of their frame in one pass
over the message and fill a buffer of that size in a second one, with a running
offset. Here they are with the buffer, the offset and every write. The size is what
the second pass needs: no write leaves the buffer, the offset ends at the size, and
what is written out is the frame of `encodeAuthV2` and `encodeAuthV2Response`, which
know nothing of buffers.
-/

namespace TunnelEdge.Transport

open GoLib

/-! ## EncodeAuthV2 -/

def TunnelEntry.size (t : TunnelEntry) : Nat := 1 + t.label.length + 2 + t.localAddr.length + 1 + t.tunnelType.length

/-- The first pass of `EncodeAuthV2`. -/
def AuthV2Message.size (msg : AuthV2Message) : Nat :=
  msg.tunnels.foldl (fun size t => size + t.size) (1 + 2 + msg.token.length + 1 + 1 + msg.preferredRegion.length)

/-- One round of the loop in the second pass; its checks come after the buffer is made. -/
def fillTunnelEntry (t : TunnelEntry) : Filler FrameError Unit :=
  if t.label.length > maxLabelLen then .fail (.invalidArgOf "label too long: " t.label)
  else if t.localAddr.length > maxLocalAddrLen then .fail (.invalidArgOf "local_addr too long: " t.localAddr)
  else if t.tunnelType.length > maxLabelLen then .fail (.invalidArg "tunnel_type too long")
  else do
    .byte (UInt8.ofNat t.label.length)
    .bytes t.label
    .uint16 (UInt16.ofNat t.localAddr.length)
    .bytes t.localAddr
    .byte (UInt8.ofNat t.tunnelType.length)
    .bytes t.tunnelType

def fillAuthV2 (msg : AuthV2Message) : Filler FrameError Unit := do
  .byte msgAuthV2
  .uint16 (UInt16.ofNat msg.token.length)
  .bytes msg.token
  .byte (UInt8.ofNat msg.tunnels.length)
  msg.tunnels.forM fillTunnelEntry
  .byte (UInt8.ofNat msg.preferredRegion.length)
  .bytes msg.preferredRegion

/-- How an encoder ends: with the bytes for its `Write` or a fault, and the cursor as it was then. -/
abbrev Written := EStateM.Result (Fault FrameError) Cursor Bytes

/-- Fill a new buffer of the size, and write out what is filled. -/
def writeBuffer (size : Nat) (m : Filler FrameError Unit) : Written := (do m; Filler.filled) { buf := zeros size }

def refuse (msg : String) : Written := .error (.returned (.invalidArg msg)) { buf := [] }

def writeAuthV2 (msg : AuthV2Message) : Written :=
  if msg.token.length > maxTokenLen then refuse "token too long"
  else if msg.tunnels.length > maxTunnelCount then refuse "too many tunnels"
  else if msg.preferredRegion.length > maxRegionLen then refuse "region too long"
  else writeBuffer msg.size (fillAuthV2 msg)

/-! ## EncodeAuthV2Response -/

def TunnelHostEntry.size (t : TunnelHostEntry) : Nat := 1 + t.label.length + 2 + t.hostname.length

/-- The two loops of the first pass, each with what is added before it. -/
def AuthV2ResponseMessage.size (msg : AuthV2ResponseMessage) : Nat :=
  let size := msg.tunnels.foldl (fun size t => size + t.size) (1 + 1 + 2 + msg.tunnelID.length + 1)
  msg.suggestedGateways.foldl (fun size gw => size + (2 + gw.length))
    (size + (2 + msg.resumeToken.length + 1 + msg.assignedRegion.length + 1))

def fillTunnelHostEntry (t : TunnelHostEntry) : Filler FrameError Unit := do
  .byte (UInt8.ofNat t.label.length)
  .bytes t.label
  .uint16 (UInt16.ofNat t.hostname.length)
  .bytes t.hostname

def fillSuggestedGateway (gw : Bytes) : Filler FrameError Unit := do
  .uint16 (UInt16.ofNat gw.length)
  .bytes gw

def fillAuthV2Response (msg : AuthV2ResponseMessage) : Filler FrameError Unit := do
  .byte msgAuthRespV2
  .byte msg.status
  .uint16 (UInt16.ofNat msg.tunnelID.length)
  .bytes msg.tunnelID
  .byte (UInt8.ofNat msg.tunnels.length)
  msg.tunnels.forM fillTunnelHostEntry
  .uint16 (UInt16.ofNat msg.resumeToken.length)
  .bytes msg.resumeToken
  .byte (UInt8.ofNat msg.assignedRegion.length)
  .bytes msg.assignedRegion
  .byte (UInt8.ofNat msg.suggestedGateways.length)
  msg.suggestedGateways.forM fillSuggestedGateway

def writeAuthV2Response (msg : AuthV2ResponseMessage) : Written :=
  if msg.tunnelID.length > maxTunnelIDLen then refuse "tunnel_id too long"
  else if msg.tunnels.length > maxTunnelCount then refuse "too many tunnels in response"
  else if msg.resumeToken.length > maxResumeTokenLen then refuse "resume_token too long"
  else if msg.assignedRegion.length > maxRegionLen then refuse "assigned_region too long"
  else if msg.suggestedGateways.length > maxSuggestedGWs then refuse "too many suggested gateways"
  else writeBuffer msg.size (fillAuthV2Response msg)

/-! ## The second pass needs what the first one computes -/

theorem foldl_size {α : Type} (size : α → Nat) (l : List α) (n : Nat) :
    l.foldl (fun n x => n + size x) n = n + (l.map size).sum := by
  induction l generalizing n with
  | nil => rfl
  | cons x l ih =>
    rw [List.foldl_cons, ih, List.map_cons, List.sum_cons, Nat.add_assoc]

theorem fillTunnelEntry_fills (t : TunnelEntry) : Fills (fillTunnelEntry t) t.size (encodeTunnelEntry t) := by
  unfold fillTunnelEntry encodeTunnelEntry
  split
  · exact .fail _ _
  · split
    · exact .fail _ _
    · split
      · exact .fail _ _
      · refine ((Fills.byte _).seq ((Fills.bytes _).seq ((Fills.uint16 _).seq ((Fills.bytes _).seq
          ((Fills.byte _).seq (Fills.bytes _)))))).congr ?_ ?_
        · unfold TunnelEntry.size
          omega
        · simp [bind, Except.bind, pure, Except.pure, putField8, putField16]

theorem fillAuthV2_fills (msg : AuthV2Message) :
    Fills (fillAuthV2 msg) msg.size (do
      let entries ← msg.tunnels.mapM encodeTunnelEntry
      pure (msgAuthV2 :: putField16 msg.token ++ UInt8.ofNat msg.tunnels.length :: entries.flatten ++
        putField8 msg.preferredRegion)) := by
  refine ((Fills.byte _).seq ((Fills.uint16 _).seq ((Fills.bytes _).seq ((Fills.byte _).seq
    ((Fills.forM fillTunnelEntry_fills _).seq ((Fills.byte _).seq (Fills.bytes _))))))).congr ?_ ?_
  · unfold AuthV2Message.size
    rw [foldl_size]
    omega
  · cases msg.tunnels.mapM encodeTunnelEntry with
    | error e => rfl
    | ok entries => simp [bind, Except.bind, pure, Except.pure, putField8, putField16]

theorem fillTunnelHostEntry_fills (t : TunnelHostEntry) :
    Fills (fillTunnelHostEntry t) t.size (.ok (putField8 t.label ++ putField16 t.hostname)) := by
  refine ((Fills.byte _).seq ((Fills.bytes _).seq ((Fills.uint16 _).seq (Fills.bytes _)))).congr ?_ ?_
  · unfold TunnelHostEntry.size
    omega
  · simp [bind, Except.bind, pure, Except.pure, putField8, putField16]

theorem fillSuggestedGateway_fills (gw : Bytes) :
    Fills (fillSuggestedGateway gw) (2 + gw.length) (.ok (putField16 gw)) :=
  (Fills.uint16 _).seq (Fills.bytes _)

theorem fillAuthV2Response_fills (msg : AuthV2ResponseMessage) :
    Fills (fillAuthV2Response msg) msg.size (.ok ([msgAuthRespV2, msg.status] ++ putField16 msg.tunnelID ++
      UInt8.ofNat msg.tunnels.length :: msg.tunnels.flatMap (fun t => putField8 t.label ++ putField16 t.hostname) ++
      putField16 msg.resumeToken ++ putField8 msg.assignedRegion ++ UInt8.ofNat msg.suggestedGateways.length ::
      msg.suggestedGateways.flatMap putField16)) := by
  refine ((Fills.byte _).seq ((Fills.byte _).seq ((Fills.uint16 _).seq ((Fills.bytes _).seq ((Fills.byte _).seq
    ((Fills.forM_ok fillTunnelHostEntry_fills _).seq ((Fills.uint16 _).seq ((Fills.bytes _).seq ((Fills.byte _).seq
    ((Fills.bytes _).seq ((Fills.byte _).seq (Fills.forM_ok fillSuggestedGateway_fills _)))))))))))).congr ?_ ?_
  · unfold AuthV2ResponseMessage.size
    simp only [foldl_size]
    omega
  · simp [bind, Except.bind, pure, Except.pure, putField8, putField16]

/-! ## No write leaves the buffer -/

/-- An encoder and its buffer of the computed size: every write is within it, and
when the encoder comes to its `Write`, the offset is the size and the whole buffer is written. -/
def InBuffer (size : Nat) : Written → Prop
  | .ok b c => (∀ w ∈ c.writes, w.1 + w.2 ≤ size) ∧ c.buf.length = size ∧ c.off = size ∧ b = c.buf
  | .error .outOfRange _ => False
  | .error (.returned _) c => ∀ w ∈ c.writes, w.1 + w.2 ≤ size

def Written.result : Written → Except (Fault FrameError) Bytes
  | .ok b _ => .ok b
  | .error e _ => .error e

theorem inBuffer_refuse (size : Nat) (msg : String) : InBuffer size (refuse msg) := by
  intro w hw
  cases hw

/-- A second pass that fits the first one: it stays in the buffer, and its result is that of the frame. -/
theorem writeBuffer_spec {m : Filler FrameError Unit} {size : Nat} {r : Except FrameError Bytes}
    (h : Fills m size r) :
    InBuffer size (writeBuffer size m) ∧ (writeBuffer size m).result = r.mapError .returned := by
  have hstart : (Cursor.mk (zeros size) 0 []).At [] (size + 0) := ⟨rfl, rfl, fun _ hw => by cases hw⟩
  have hrun := h _ _ _ hstart
  have hlen : (zeros size).length = size := length_zeros size
  unfold writeBuffer
  cases r with
  | error e =>
    obtain ⟨c, hrun, hwithin, hsize⟩ := hrun
    simp only [bind, EStateM.bind, hrun]
    rw [Cursor.Within, hsize, hlen] at hwithin
    exact ⟨hwithin, rfl⟩
  | ok bs =>
    obtain ⟨hbs, c, hrun, hc⟩ := hrun
    have hbuf : c.buf = bs := by rw [hc.buf]; exact List.append_nil _
    have hoff : c.off = bs.length := hc.off
    have hfilled : (Filler.filled c : Written) = .ok bs c := by
      unfold Filler.filled slice
      rw [hbuf, hoff, if_pos ⟨Nat.zero_le _, Nat.le_refl _⟩, List.take_length, List.drop_zero]
    have hwithin := hc.within
    rw [Cursor.Within, hbuf, hbs] at hwithin
    simp only [bind, EStateM.bind, hrun, hfilled]
    exact ⟨⟨hwithin, by rw [hbuf, hbs], by rw [hoff, hbs], hbuf.symm⟩, rfl⟩

/-- The encoder with a buffer writes the frame of the one without. -/
theorem writeAuthV2_result (msg : AuthV2Message) :
    (writeAuthV2 msg).result = (encodeAuthV2 msg).mapError .returned := by
  unfold writeAuthV2 encodeAuthV2
  split
  · rfl
  · split
    · rfl
    · split
      · rfl
      · exact (writeBuffer_spec (fillAuthV2_fills msg)).2

theorem writeAuthV2Response_result (msg : AuthV2ResponseMessage) :
    (writeAuthV2Response msg).result = (encodeAuthV2Response msg).mapError .returned := by
  unfold writeAuthV2Response encodeAuthV2Response
  repeat' split
  all_goals first | rfl | exact (writeBuffer_spec (fillAuthV2Response_fills msg)).2

/-- Both encoders stay in the buffer of the size that they compute, for any message, and fill all of it. -/
theorem encoders_fill_their_buffers :
    (∀ msg : AuthV2Message, InBuffer msg.size (writeAuthV2 msg)) ∧
      ∀ msg : AuthV2ResponseMessage, InBuffer msg.size (writeAuthV2Response msg) := by
  constructor
  · intro msg
    unfold writeAuthV2
    split
    · exact inBuffer_refuse _ _
    · split
      · exact inBuffer_refuse _ _
      · split
        · exact inBuffer_refuse _ _
        · exact (writeBuffer_spec (fillAuthV2_fills msg)).1
  · intro msg
    unfold writeAuthV2Response
    repeat' split
    all_goals first | exact inBuffer_refuse _ _ | exact (writeBuffer_spec (fillAuthV2Response_fills msg)).1

end TunnelEdge.Transport
