import TunnelEdge.Transport.Formats
/-!
# Encoders and decoders agree

What an encoder writes, the decoder of that frame reads back, whatever follows on
the stream. Six kinds of frames do so without a condition. The V2 response does
so exactly when the entries of its lists have lengths that their length fields and
the decoder allow. In the other direction every decoder accepts nothing but what
its encoder writes.
-/

namespace TunnelEdge.Transport

open GoLib

namespace FrameKind

def Fits : (k : FrameKind) → k.Msg → Prop
  | .auth, (m : AuthMessage) => m.token.length ≤ maxTokenLen
  | .authResponse, (m : AuthResponseMessage) => m.Fits
  | .authV2, (m : AuthV2Message) => m.Fits
  | .authV2Response, (m : AuthV2ResponseMessage) => m.Sendable ∧ m.EntriesFit
  | .sessionResume, (m : SessionResumeMessage) => m.token.length ≤ maxResumeTokenLen
  | .sessionResumeResp, (m : SessionResumeRespMessage) => m.Fits
  | .streamLabel, (label : Bytes) => label.length ≤ maxLabelLen

def wire : (k : FrameKind) → k.Msg → Bytes
  | .auth, (m : AuthMessage) => msgAuth :: putField16 m.token
  | .authResponse, (m : AuthResponseMessage) => m.wire
  | .authV2, (m : AuthV2Message) => m.wire
  | .authV2Response, (m : AuthV2ResponseMessage) => m.wire
  | .sessionResume, (m : SessionResumeMessage) => msgSessionResume :: putField16 m.token
  | .sessionResumeResp, (m : SessionResumeRespMessage) => m.wire
  | .streamLabel, (label : Bytes) => msgStreamLabel :: putField8 label

theorem decode_reads (k : FrameKind) : Reads k.decode k.Fits k.wire := by
  cases k with
  | auth => exact decodeAuth_reads
  | authResponse => exact decodeAuthResponse_reads
  | authV2 => exact decodeAuthV2_reads
  | authV2Response => exact decodeAuthV2Response_reads
  | sessionResume => exact decodeSessionResume_reads
  | sessionResumeResp => exact decodeSessionResumeResp_reads
  | streamLabel => exact decodeStreamLabel_reads

theorem encode_encodes {k : FrameKind} (hk : k ≠ .authV2Response) : Encodes k.encode k.Fits k.wire := by
  cases k with
  | auth => exact fun m => encodeAuth_encodes m.token
  | authResponse => exact encodeAuthResponse_encodes
  | authV2 => exact encodeAuthV2_encodes
  | authV2Response => exact absurd rfl hk
  | sessionResume => exact fun m => encodeSessionResume_encodes m.token
  | sessionResumeResp => exact encodeSessionResumeResp_encodes
  | streamLabel => exact encodeStreamLabel_encodes

theorem encode_of_fits {k : FrameKind} {m : k.Msg} (h : k.Fits m) : k.encode m = .ok (k.wire m) := by
  by_cases hk : k = .authV2Response
  · subst hk
    exact (encodeAuthV2Response_encodes m _).2 ⟨h.1, rfl⟩
  · exact (encode_encodes hk m _).2 ⟨h, rfl⟩

end FrameKind

/-- A frame is read back as the message it was written from, and nothing after it is touched. -/
theorem frame_round_trip (k : FrameKind) (hk : k ≠ .authV2Response) (m : k.Msg) (b rest : Bytes)
    (h : k.encode m = .ok b) : k.decode (b ++ rest) = .ok (m, rest) :=
  (FrameKind.encode_encodes hk).roundTrip k.decode_reads h rest

/-- A message with two tunnels, for a region. -/
theorem frame_round_trip_two_tunnels :
    FrameKind.authV2.decode
      ([6, 0, 2, 116, 107, 2, 3, 119, 101, 98, 0, 2, 58, 56, 3, 116, 99, 112, 1, 100, 0, 0, 0, 2, 101, 117] ++ [9, 0]) =
      .ok (⟨[116, 107], [⟨[119, 101, 98], [58, 56], [116, 99, 112]⟩, ⟨[100], [], []⟩], [101, 117]⟩, [9, 0]) :=
  frame_round_trip .authV2 (by decide) _ _ _ (by rfl)

/-- The V2 response is read back exactly when its labels fit in a one-byte length and its hostnames and gateway
addresses are no longer than the decoder allows; the encoder checks none of these. -/
theorem v2_response_round_trip_iff (m : AuthV2ResponseMessage) (b rest : Bytes) (h : encodeAuthV2Response m = .ok b) :
    decodeAuthV2Response (b ++ rest) = .ok (m, rest) ↔
      (∀ t ∈ m.tunnels, t.label.length ≤ 255 ∧ t.hostname.length ≤ maxPublicURLLen) ∧
        ∀ gw ∈ m.suggestedGateways, gw.length ≤ maxPublicURLLen := by
  obtain ⟨hs, rfl⟩ := encodeAuthV2Response_encodes.of_ok h
  rw [decodeAuthV2Response_reads]
  exact ⟨fun hd => hd.1.2, fun hf => ⟨⟨hs, hf⟩, rfl⟩⟩

theorem v2_response_round_trip_one_tunnel :
    decodeAuthV2Response ([7, 0, 0, 1, 116, 1, 1, 97, 0, 1, 104, 0, 0, 0, 0] ++ [5]) =
      .ok ({ status := 0, tunnelID := [116], tunnels := [⟨[97], [104]⟩] }, [5]) :=
  (v2_response_round_trip_iff _ _ _ (by rfl)).2 (by decide)

/-- A label of 256 bytes gets the length byte 0, and its own bytes are then read as the length of the hostname. -/
theorem long_label_breaks_v2_response :
    ∃ b, encodeAuthV2Response { status := 0, tunnels := [⟨List.replicate 256 97, []⟩] } = .ok b ∧
      decodeAuthV2Response b = .error (.invalidArg "hostname too long") :=
  ⟨_, rfl, by decide +kernel⟩

/-- A decoder accepts what its encoder writes and nothing else. So no message has
two encodings, and a frame that breaks off is rejected. -/
theorem decoders_canonical (k : FrameKind) :
    (∀ s m rest, k.decode s = .ok (m, rest) → ∃ p, s = p ++ rest ∧ k.encode m = .ok p) ∧
    (∀ p p' rest rest' m, k.decode (p ++ rest) = .ok (m, rest) → k.decode (p' ++ rest') = .ok (m, rest') → p = p') ∧
    (∀ p m q, k.decode p = .ok (m, []) → q <+: p → q ≠ p → ∃ e, k.decode q = .error e) := by
  refine ⟨fun s m rest h => ?_, fun p p' rest rest' m h h' => ?_, fun p m q h hq hne => ?_⟩
  · obtain ⟨hm, rfl⟩ := (k.decode_reads s m rest).1 h
    exact ⟨k.wire m, rfl, FrameKind.encode_of_fits hm⟩
  · have hp := ((k.decode_reads _ m rest).1 h).2
    have hp' := ((k.decode_reads _ m rest').1 h').2
    rw [List.append_cancel_right_eq] at hp hp'
    rw [hp, hp']
  · exact k.decode_reads.short_rejected h hq hne

theorem decoders_canonical_stream_label : ∃ p, ([8, 1, 97, 3] : Bytes) = p ++ [3] ∧
    FrameKind.streamLabel.encode [97] = .ok p :=
  (decoders_canonical .streamLabel).1 [8, 1, 97, 3] [97] [3] (by rfl)

end TunnelEdge.Transport
