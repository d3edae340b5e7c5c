import TunnelEdge.Lib.Slices
import TunnelEdge.Transport.Frames
/-!
# UDP datagrams

`EncodeUDPDatagram` and `DecodeUDPDatagram`: a whole frame in one QUIC datagram, so
the decoder walks a slice with a running offset and has to check every bound
itself. It does: no datagram makes it leave the slice, and what it returns are the
three fields at the front of the datagram. Its first test refuses anything under
six bytes, which is one more than the shortest frame that the encoder makes.
-/

namespace TunnelEdge.Transport

open GoLib

def msgUDPDatagram : UInt8 := 0x0B

def maxSrcAddrLen : Nat := 64
def maxUDPPayloadLen : Nat := 65535

structure UDPDatagramMessage where
  label : Bytes
  srcAddr : Bytes
  payload : Bytes
deriving DecidableEq, Repr

/-- `return nil, errs.New(errs.CodeInvalidArg, msg)` -/
def invalidArg {α : Type} (msg : String) : Checked FrameError α := .error (.returned (.invalidArg msg))

def encodeUDPDatagram (msg : UDPDatagramMessage) : Checked FrameError Bytes :=
  let lb := msg.label
  let ab := msg.srcAddr
  if lb.length > maxLabelLen then invalidArg "label too long"
  else if ab.length > maxSrcAddrLen then invalidArg "src_addr too long"
  else if msg.payload.length > maxUDPPayloadLen then invalidArg "UDP payload too long"
  else do
    let buf := zeros (1 + 1 + lb.length + 1 + ab.length + 2 + msg.payload.length)
    let buf ← setIndex buf 0 msgUDPDatagram
    let buf ← setIndex buf 1 (UInt8.ofNat lb.length)
    let buf ← copyAt buf 2 lb
    let off := 2 + lb.length
    let buf ← setIndex buf off (UInt8.ofNat ab.length)
    let buf ← copyAt buf (off + 1) ab
    let off := off + 1 + ab.length
    let buf ← putUint16At buf off (UInt16.ofNat msg.payload.length)
    copyAt buf (off + 2) msg.payload

def decodeUDPDatagram (data : Bytes) : Checked FrameError UDPDatagramMessage :=
  if data.length < 6 then invalidArg "UDP datagram too short"
  else do
    let msgType ← index data 0
    if msgType ≠ msgUDPDatagram then .error (.returned (.unexpectedType "UDP datagram type 0x0B" msgType))
    else do
      let labelLen ← index data 1
      let off := 2
      if off + labelLen.toNat > data.length then invalidArg "truncated label"
      else do
        let label ← slice data off (off + labelLen.toNat)
        let off := off + labelLen.toNat
        if off ≥ data.length then invalidArg "truncated src_addr len"
        else do
          let srcAddrLen ← index data off
          let off := off + 1
          if off + srcAddrLen.toNat > data.length then invalidArg "truncated src_addr"
          else do
            let srcAddr ← slice data off (off + srcAddrLen.toNat)
            let off := off + srcAddrLen.toNat
            if off + 2 > data.length then invalidArg "truncated payload len"
            else do
              let lenBuf ← slice data off (off + 2)
              let payloadLen := (uint16At lenBuf 0).toNat
              let off := off + 2
              if off + payloadLen > data.length then invalidArg "truncated payload"
              else do
                let payload ← slice data off (off + payloadLen)
                pure { label, srcAddr, payload }

/-! ## What is at the front of a datagram -/

/-- The datagram starts with the type byte and the three fields of `msg`, each after its length. -/
def UDPDatagramMessage.Framed (msg : UDPDatagramMessage) (data : Bytes) : Prop :=
  ∃ labelLen srcAddrLen hi lo rest,
    data = msgUDPDatagram :: labelLen ::
      (msg.label ++ srcAddrLen :: (msg.srcAddr ++ hi :: lo :: (msg.payload ++ rest))) ∧
    labelLen.toNat = msg.label.length ∧ srcAddrLen.toNat = msg.srcAddr.length ∧
    (be16 hi lo).toNat = msg.payload.length

theorem UDPDatagramMessage.Framed.length_le {msg : UDPDatagramMessage} {data : Bytes} (h : msg.Framed data) :
    1 + (1 + msg.label.length) + (1 + msg.srcAddr.length) + (2 + msg.payload.length) ≤ data.length := by
  obtain ⟨labelLen, srcAddrLen, hi, lo, rest, rfl, -⟩ := h
  simp only [List.length_cons, List.length_append]
  omega

theorem decodeUDPDatagram_of_framed {msg : UDPDatagramMessage} {data : Bytes} (hlen : 6 ≤ data.length)
    (h : msg.Framed data) : decodeUDPDatagram data = .ok msg := by
  have hle := h.length_le
  obtain ⟨labelLen, srcAddrLen, hi, lo, rest, hd, hl, ha, hp⟩ := h
  have hd₁ : data = (msgUDPDatagram :: labelLen :: (msg.label ++ [srcAddrLen])) ++
      (msg.srcAddr ++ hi :: lo :: (msg.payload ++ rest)) := by simp [hd]
  have hd₂ : data = (msgUDPDatagram :: labelLen :: (msg.label ++ srcAddrLen :: msg.srcAddr)) ++
      ([hi, lo] ++ (msg.payload ++ rest)) := by simp [hd]
  have hd₃ : data = (msgUDPDatagram :: labelLen :: (msg.label ++ srcAddrLen :: (msg.srcAddr ++ [hi, lo]))) ++
      (msg.payload ++ rest) := by simp [hd]
  have h₀ : index data 0 = (.ok msgUDPDatagram : Checked FrameError _) := by
    rw [hd]
    exact index_append [] rfl
  have h₁ : index data 1 = (.ok labelLen : Checked FrameError _) := by
    rw [hd]
    exact index_append [msgUDPDatagram] rfl
  have h₂ : slice data 2 (2 + msg.label.length) = (.ok msg.label : Checked FrameError _) := by
    rw [hd]
    exact slice_append [msgUDPDatagram, labelLen] rfl rfl
  have h₃ : index data (2 + msg.label.length) = (.ok srcAddrLen : Checked FrameError _) := by
    rw [hd]
    exact index_append (msgUDPDatagram :: labelLen :: msg.label) (by simp; omega)
  have h₄ : slice data (2 + msg.label.length + 1) (2 + msg.label.length + 1 + msg.srcAddr.length) =
      (.ok msg.srcAddr : Checked FrameError _) := by
    rw [hd₁]
    exact slice_append _ (by simp; omega) rfl
  have h₅ : slice data (2 + msg.label.length + 1 + msg.srcAddr.length)
      (2 + msg.label.length + 1 + msg.srcAddr.length + 2) = (.ok [hi, lo] : Checked FrameError _) := by
    rw [hd₂]
    exact slice_append _ (by simp; omega) rfl
  have h₆ : slice data (2 + msg.label.length + 1 + msg.srcAddr.length + 2)
      (2 + msg.label.length + 1 + msg.srcAddr.length + 2 + msg.payload.length) =
      (.ok msg.payload : Checked FrameError _) := by
    rw [hd₃]
    exact slice_append _ (by simp; omega) rfl
  have hlen16 : (uint16At [hi, lo] 0).toNat = msg.payload.length := hp
  unfold decodeUDPDatagram
  rw [if_neg (by omega), h₀]
  simp only [bind, Except.bind]
  rw [if_neg (by simp), h₁]
  simp only [hl]
  rw [if_neg (by omega), h₂]
  simp only
  rw [if_neg (by omega), h₃]
  simp only [ha]
  rw [if_neg (by omega), h₄]
  simp only
  rw [if_neg (by omega), h₅]
  simp only [hlen16]
  rw [if_neg (by omega), h₆]
  rfl

/-- Every check covers the read after it: the decoder comes to an error, or to the end of a frame. -/
theorem decodeUDPDatagram_cases (data : Bytes) :
    (∃ err, decodeUDPDatagram data = .error (.returned err)) ∨
      ∃ msg, decodeUDPDatagram data = .ok msg ∧ msg.Framed data := by
  unfold decodeUDPDatagram
  by_cases hshort : data.length < 6
  · rw [if_pos hshort]
    exact .inl ⟨_, rfl⟩
  rw [if_neg hshort]
  obtain ⟨msgType, s, h₀, hd⟩ := index_walk (ε := FrameError) 0 (List.nil_append data).symm rfl (by omega)
  simp only [h₀, bind, Except.bind]
  by_cases htype : msgType ≠ msgUDPDatagram
  · rw [if_pos htype]
    exact .inl ⟨_, rfl⟩
  rw [if_neg htype]
  obtain ⟨labelLen, s, h₁, hd⟩ := index_walk (ε := FrameError) 1 hd rfl (by omega)
  simp only [h₁]
  by_cases hlabel : 2 + labelLen.toNat > data.length
  · rw [if_pos hlabel]
    exact .inl ⟨_, rfl⟩
  rw [if_neg hlabel]
  obtain ⟨label, s, h₂, hd, hl⟩ := slice_walk (ε := FrameError) 2 labelLen.toNat hd rfl (Nat.not_lt.1 hlabel)
  simp only [h₂]
  by_cases hsrcLen : 2 + labelLen.toNat ≥ data.length
  · rw [if_pos hsrcLen]
    exact .inl ⟨_, rfl⟩
  rw [if_neg hsrcLen]
  obtain ⟨srcAddrLen, s, h₃, hd⟩ := index_walk (ε := FrameError) (2 + labelLen.toNat) hd (by simp; omega)
    (Nat.not_le.1 hsrcLen)
  simp only [h₃]
  by_cases hsrc : 2 + labelLen.toNat + 1 + srcAddrLen.toNat > data.length
  · rw [if_pos hsrc]
    exact .inl ⟨_, rfl⟩
  rw [if_neg hsrc]
  obtain ⟨srcAddr, s, h₄, hd, ha⟩ := slice_walk (ε := FrameError) (2 + labelLen.toNat + 1) srcAddrLen.toNat hd
    (by simp; omega) (Nat.not_lt.1 hsrc)
  simp only [h₄]
  by_cases hpayloadLen : 2 + labelLen.toNat + 1 + srcAddrLen.toNat + 2 > data.length
  · rw [if_pos hpayloadLen]
    exact .inl ⟨_, rfl⟩
  rw [if_neg hpayloadLen]
  obtain ⟨lenBuf, s, h₅, hd, h2⟩ := slice_walk (ε := FrameError) (2 + labelLen.toNat + 1 + srcAddrLen.toNat) 2 hd
    (by simp; omega) (Nat.not_lt.1 hpayloadLen)
  obtain ⟨hi, lo, rfl⟩ := List.length_eq_two.1 h2
  simp only [h₅]
  by_cases hpayload :
      2 + labelLen.toNat + 1 + srcAddrLen.toNat + 2 + (uint16At [hi, lo] 0).toNat > data.length
  · rw [if_pos hpayload]
    exact .inl ⟨_, rfl⟩
  rw [if_neg hpayload]
  obtain ⟨payload, rest, h₆, hd, hp⟩ := slice_walk (ε := FrameError) _ _ hd (by simp; omega) (Nat.not_lt.1 hpayload)
  simp only [h₆]
  refine .inr ⟨⟨label, srcAddr, payload⟩, rfl, labelLen, srcAddrLen, hi, lo, rest, ?_, hl.symm, ha.symm, hp.symm⟩
  rw [hd, not_not.1 htype]
  simp

/-- `DecodeUDPDatagram` on any bytes: it never leaves the slice, what it returns stands at the front of it, and of
six bytes or more it refuses nothing that starts with a frame. -/
theorem udp_decode_safe (data : Bytes) :
    decodeUDPDatagram data ≠ .error .outOfRange ∧
      (∀ msg, decodeUDPDatagram data = .ok msg → msg.Framed data ∧
        1 + (1 + msg.label.length) + (1 + msg.srcAddr.length) + (2 + msg.payload.length) ≤ data.length) ∧
      ∀ msg, 6 ≤ data.length → msg.Framed data → decodeUDPDatagram data = .ok msg := by
  refine ⟨?_, ?_, fun msg => decodeUDPDatagram_of_framed⟩
  · intro h
    rcases decodeUDPDatagram_cases data with ⟨err, he⟩ | ⟨msg, he, -⟩
    · rw [he] at h
      cases h
    · rw [he] at h
      cases h
  · intro msg h
    rcases decodeUDPDatagram_cases data with ⟨err, he⟩ | ⟨msg', he, hf⟩
    · rw [he] at h
      cases h
    · rw [he] at h
      cases h
      exact ⟨hf, hf.length_le⟩

/-! ## What the encoder writes -/

def UDPDatagramMessage.wire (msg : UDPDatagramMessage) : Bytes :=
  msgUDPDatagram :: (putField8 msg.label ++ (putField8 msg.srcAddr ++ putField16 msg.payload))

def UDPDatagramMessage.Fits (msg : UDPDatagramMessage) : Prop :=
  msg.label.length ≤ maxLabelLen ∧ msg.srcAddr.length ≤ maxSrcAddrLen ∧ msg.payload.length ≤ maxUDPPayloadLen

/-- The buffer has the right size, and every write falls on the zeros that are left of it. -/
theorem encodeUDPDatagram_of_fits {msg : UDPDatagramMessage} (h : msg.Fits) :
    encodeUDPDatagram msg = .ok msg.wire := by
  obtain ⟨hl, ha, hp⟩ := h
  have hsize : 1 + 1 + msg.label.length + 1 + msg.srcAddr.length + 2 + msg.payload.length =
      1 + (1 + (msg.label.length + (1 + (msg.srcAddr.length + (2 + (msg.payload.length + 0)))))) := by omega
  unfold encodeUDPDatagram
  rw [if_neg (Nat.not_lt.2 hl), if_neg (Nat.not_lt.2 ha), if_neg (Nat.not_lt.2 hp), hsize]
  rw [← List.nil_append (zeros _)]
  simp only [bind, Except.bind]
  rw [setIndex_fill]
  simp only
  rw [setIndex_fill]
  simp only
  rw [copyAt_fill]
  simp only
  rw [setIndex_fill]
  simp only
  rw [copyAt_fill]
  simp only
  rw [putUint16At_fill]
  simp only
  rw [copyAt_fill]
  · simp [UDPDatagramMessage.wire, putField8, putField16, zeros]
  all_goals simp only [List.length_append, List.length_cons, List.length_nil, length_putUint16]

theorem encodeUDPDatagram_ok {msg : UDPDatagramMessage} {b : Bytes} (h : encodeUDPDatagram msg = .ok b) :
    msg.Fits ∧ b = msg.wire := by
  have hfits : msg.Fits := by
    dsimp only [encodeUDPDatagram] at h
    split at h
    · cases h
    split at h
    · cases h
    split at h
    · cases h
    rename_i hl ha hp
    exact ⟨Nat.not_lt.1 hl, Nat.not_lt.1 ha, Nat.not_lt.1 hp⟩
  rw [encodeUDPDatagram_of_fits hfits] at h
  cases h
  exact ⟨hfits, rfl⟩

theorem UDPDatagramMessage.Fits.framed {msg : UDPDatagramMessage} (h : msg.Fits) : msg.Framed msg.wire := by
  obtain ⟨hl, ha, hp⟩ := h
  unfold maxLabelLen at hl
  unfold maxSrcAddrLen at ha
  unfold maxUDPPayloadLen at hp
  have hlen8 : ∀ {n : Nat}, n ≤ 64 → (UInt8.ofNat n).toNat = n := by
    intro n hn
    rw [UInt8.toNat_ofNat', Nat.mod_eq_of_lt (by omega)]
  have hlen16 : (UInt16.ofNat msg.payload.length).toNat = msg.payload.length := by
    rw [UInt16.toNat_ofNat', Nat.mod_eq_of_lt (by omega)]
  obtain ⟨hi, lo, hput⟩ : ∃ hi lo, putUint16 (UInt16.ofNat msg.payload.length) = [hi, lo] := ⟨_, _, rfl⟩
  refine ⟨_, _, hi, lo, [], ?_, hlen8 hl, hlen8 ha, ?_⟩
  · simp [UDPDatagramMessage.wire, putField8, putField16, hput]
  · rw [← (putUint16_eq_iff _ _ _).1 hput, hlen16]

/-- What `EncodeUDPDatagram` makes of a message is read back, unless all three fields are empty. -/
theorem udp_round_trip_iff {msg : UDPDatagramMessage} {b : Bytes} (h : encodeUDPDatagram msg = .ok b) :
    decodeUDPDatagram b = .ok msg ↔ ¬ (msg.label = [] ∧ msg.srcAddr = [] ∧ msg.payload = []) := by
  obtain ⟨hfits, rfl⟩ := encodeUDPDatagram_ok h
  have hlen : msg.wire.length = 5 + (msg.label.length + msg.srcAddr.length + msg.payload.length) := by
    simp [UDPDatagramMessage.wire, putField8, putField16]
    omega
  constructor
  · rintro hd ⟨hl, ha, hp⟩
    rw [hl, ha, hp] at hlen
    unfold decodeUDPDatagram at hd
    rw [if_pos (by rw [hlen]; decide)] at hd
    cases hd
  · intro hne
    refine decodeUDPDatagram_of_framed ?_ hfits.framed
    by_contra hshort
    refine hne ⟨?_, ?_, ?_⟩ <;> apply List.eq_nil_of_length_eq_zero <;> omega

theorem udp_round_trip_dns :
    encodeUDPDatagram ⟨[100], [], [1, 2]⟩ = .ok [11, 1, 100, 0, 0, 2, 1, 2] ∧
      decodeUDPDatagram [11, 1, 100, 0, 0, 2, 1, 2] = .ok ⟨[100], [], [1, 2]⟩ :=
  have h : encodeUDPDatagram ⟨[100], [], [1, 2]⟩ = .ok [11, 1, 100, 0, 0, 2, 1, 2] := by decide
  ⟨h, (udp_round_trip_iff h).2 (by decide)⟩

/-- The empty message is encoded in five bytes, which are too few for the decoder. -/
theorem udp_empty_refused :
    encodeUDPDatagram ⟨[], [], []⟩ = .ok [11, 0, 0, 0, 0] ∧
      decodeUDPDatagram [11, 0, 0, 0, 0] = .error (.returned (.invalidArg "UDP datagram too short")) := by
  decide

end TunnelEdge.Transport
