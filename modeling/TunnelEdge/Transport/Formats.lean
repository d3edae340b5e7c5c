import TunnelEdge.Transport.Frames
/-!
# What the frame decoders accept

For each frame its format: the messages that fit and their bytes. The encoder
succeeds on exactly those messages with exactly those bytes, and the decoder reads
exactly those bytes. Only the V2 response has two formats, since its decoder
checks lengths that its encoder does not.
-/

namespace TunnelEdge.Transport

open GoLib

/-! ## Fields -/

theorem field8_reads {lenWhat tooLong what : String} {max : Nat} (hmax : max < 256) :
    Reads (field8 lenWhat tooLong what max) (fun v => v.length ≤ max) putField8 := by
  refine ((Reads.readFull 1 _).bind (fun v => [UInt8.ofNat v.length]) (Q := fun v => v.length ≤ max) (v := id)
    fun buf hbuf => ?_).congr (fun v => by simp) fun v _ => by simp [putField8]
  obtain ⟨x, rfl⟩ := List.length_eq_one_iff.1 hbuf
  refine (Reads.guarded _ fun _ => Reads.readFull _ _).congr (fun v => ?_) fun _ _ => rfl
  rw [List.cons.injEq, and_iff_left rfl]
  exact length8_iff hmax x

theorem field16_reads {lenWhat tooLong what : String} {max : Nat} (hmax : max < 65536) :
    Reads (field16 lenWhat tooLong what max) (fun v => v.length ≤ max) putField16 := by
  refine ((Reads.readFull 2 _).bind (fun v => putUint16 (UInt16.ofNat v.length)) (Q := fun v => v.length ≤ max)
    (v := id) fun buf hbuf => ?_).congr (fun v => by simp) fun v _ => by simp [putField16]
  obtain ⟨hi, lo, rfl⟩ := List.length_eq_two.1 hbuf
  refine (Reads.guarded _ fun _ => Reads.readFull _ _).congr (fun v => ?_) fun _ _ => rfl
  rw [putUint16_eq_iff]
  exact length16_iff hmax (be16 hi lo)

theorem counted_reads {α : Type} {what tooMany : String} {max : Nat} (hmax : max < 256) {item : Decoder α}
    {ok : α → Prop} {wire : α → Bytes} (h : Reads item ok wire) :
    Reads (counted what tooMany max item) (fun l => l.length ≤ max ∧ ∀ a ∈ l, ok a)
      (fun l => UInt8.ofNat l.length :: l.flatMap wire) := by
  refine ((Reads.readFull 1 _).bind (fun l => [UInt8.ofNat l.length])
    (Q := fun l : List α => l.length ≤ max ∧ ∀ a ∈ l, ok a) (v := fun l => l.flatMap wire)
    fun buf hbuf => ?_).congr (fun l => by simp) fun l _ => by simp
  obtain ⟨x, rfl⟩ := List.length_eq_one_iff.1 hbuf
  refine (Reads.guarded _ fun _ => h.readMany _).congr (fun l => ?_) fun _ _ => rfl
  rw [List.cons.injEq, and_iff_left rfl, ← and_assoc, ← and_assoc]
  exact and_congr_left' (length8_iff hmax x)

theorem decodeTokenFrame_reads {msgType : UInt8} {headerWhat expected tooLong what : String} {max : Nat}
    (hmax : max < 65536) : Reads (decodeTokenFrame msgType headerWhat expected tooLong what max)
      (fun token => token.length ≤ max) (fun token => msgType :: putField16 token) := by
  refine ((Reads.readFull 3 _).bind (fun v => msgType :: putUint16 (UInt16.ofNat v.length))
    (Q := fun v => v.length ≤ max) (v := id) fun header hh => ?_).congr (fun v => by simp)
    fun v _ => by simp [putField16]
  obtain ⟨t, hi, lo, rfl⟩ := List.length_eq_three.1 hh
  refine (Reads.guarded _ fun _ => Reads.guarded _ fun _ => Reads.readFull _ _).congr (fun v => ?_) fun _ _ => rfl
  rw [List.cons.injEq, putUint16_eq_iff, and_assoc]
  exact and_congr (not_not.trans eq_comm) (length16_iff hmax (be16 hi lo))

theorem statusHeader_reads {msgType : UInt8} {headerWhat expected what : String} :
    Reads (statusHeader msgType headerWhat expected what) (fun p => p.2.length ≤ maxTunnelIDLen)
      (fun p => [msgType, p.1] ++ putField16 p.2) := by
  refine ((Reads.readFull 4 _).bind (fun p => msgType :: p.1 :: putUint16 (UInt16.ofNat p.2.length))
    (Q := fun p : UInt8 × Bytes => p.2.length ≤ maxTunnelIDLen) (v := Prod.snd) fun header hh => ?_).congr
    (fun p => by simp) fun p _ => by simp [putField16]
  obtain ⟨t, st, hi, lo, rfl⟩ := List.length_eq_four.1 hh
  refine (Reads.guarded _ fun _ => Reads.guarded _ fun _ => (Reads.readFull _ _).bindPure Prod.snd
    (Q := fun p => p.1 = st) fun id p => ?_).congr (fun p => ?_) fun _ _ => rfl
  · cases p
    rw [Prod.mk.injEq]
    exact and_comm
  · rw [List.cons.injEq, List.cons.injEq, putUint16_eq_iff]
    have hlen := length16_iff (n := p.2.length) (by decide : maxTunnelIDLen < 65536) (be16 hi lo)
    constructor
    · rintro ⟨ht, hx, hid, hst⟩
      have hlen := hlen.1 ⟨hx, hid⟩
      exact ⟨⟨(not_not.1 ht).symm, hst, hlen.1⟩, hlen.2⟩
    · rintro ⟨⟨ht, hst, hx⟩, hle⟩
      have hlen := hlen.2 ⟨hx, hle⟩
      exact ⟨not_not.2 ht.symm, hlen.1, hlen.2, hst⟩

theorem encodeTokenFrame_encodes (msgType : UInt8) (tooLong : String) (max : Nat) :
    Encodes (encodeTokenFrame msgType tooLong max) (fun token => token.length ≤ max)
      (fun token => msgType :: putField16 token) := by
  intro token b
  unfold encodeTokenFrame
  split
  · exact iff_of_false (by simp) fun h => absurd h.1 (by omega)
  · rw [Except.ok.injEq, and_iff_right (by omega), eq_comm]

/-! ## Hello -/

theorem decodeHello_reads : Reads decodeHello (fun m => m.clientVersion.length ≤ maxVersionLen)
    (fun m => putUint16 m.version ++ putField16 m.clientVersion) := by
  refine ((Reads.readFull 4 _).bind
    (fun m : HelloMessage => putUint16 m.version ++ putUint16 (UInt16.ofNat m.clientVersion.length))
    (Q := fun m => m.clientVersion.length ≤ maxVersionLen) (v := fun m => m.clientVersion)
    fun header hh => ?_).congr (fun m => by simp) fun m _ => by simp [putField16]
  obtain ⟨vh, vl, hi, lo, rfl⟩ := List.length_eq_four.1 hh
  refine (Reads.guarded _ fun _ => (Reads.readFull _ _).bindPure HelloMessage.clientVersion
    (Q := fun m => m.version = be16 vh vl) fun cv m => ?_).congr (fun m => ?_) fun _ _ => rfl
  · cases m
    rw [HelloMessage.mk.injEq]
    exact and_comm
  · rw [putUint16_append_eq_iff, putUint16_eq_iff, ← and_assoc, and_assoc (b := UInt16.ofNat _ = _), and_comm]
    exact and_congr Iff.rfl (length16_iff (by decide : maxVersionLen < 65536) (be16 hi lo))

/-! ## Auth and SessionResume -/

theorem encodeAuth_encodes : Encodes encodeAuth (fun token => token.length ≤ maxTokenLen)
    (fun token => msgAuth :: putField16 token) := encodeTokenFrame_encodes _ _ _

theorem decodeAuth_reads : Reads decodeAuth (fun m => m.token.length ≤ maxTokenLen)
    (fun m => msgAuth :: putField16 m.token) :=
  (decodeTokenFrame_reads (by decide)).map AuthMessage.token (fun _ => rfl) fun _ => rfl

theorem encodeSessionResume_encodes : Encodes encodeSessionResume (fun token => token.length ≤ maxResumeTokenLen)
    (fun token => msgSessionResume :: putField16 token) := encodeTokenFrame_encodes _ _ _

theorem decodeSessionResume_reads : Reads decodeSessionResume (fun m => m.token.length ≤ maxResumeTokenLen)
    (fun m => msgSessionResume :: putField16 m.token) :=
  (decodeTokenFrame_reads (by decide)).map SessionResumeMessage.token (fun _ => rfl) fun _ => rfl

/-! ## AuthResponse -/

/-- The lengths that an AuthResponse can carry. -/
def AuthResponseMessage.Fits (m : AuthResponseMessage) : Prop :=
  m.tunnelID.length ≤ maxTunnelIDLen ∧ m.publicURL.length ≤ maxPublicURLLen

def AuthResponseMessage.wire (m : AuthResponseMessage) : Bytes :=
  [msgAuthResponse, m.status] ++ putUint16 (UInt16.ofNat m.tunnelID.length) ++
    putUint16 (UInt16.ofNat m.publicURL.length) ++ m.tunnelID ++ m.publicURL

theorem encodeAuthResponse_encodes : Encodes (fun m : AuthResponseMessage =>
    encodeAuthResponse m.status m.tunnelID m.publicURL) AuthResponseMessage.Fits AuthResponseMessage.wire := by
  intro m b
  simp only [encodeAuthResponse, AuthResponseMessage.Fits, ← Nat.not_lt]
  split
  · exact iff_of_false (by simp) fun h => h.1.1 ‹_›
  · split
    · exact iff_of_false (by simp) fun h => h.1.2 ‹_›
    · rw [Except.ok.injEq, and_iff_right ⟨‹_›, ‹_›⟩, eq_comm]
      rfl

theorem decodeAuthResponse_reads : Reads decodeAuthResponse AuthResponseMessage.Fits AuthResponseMessage.wire := by
  refine ((Reads.readFull 6 _).bind (fun m : AuthResponseMessage => msgAuthResponse :: m.status ::
    (putUint16 (UInt16.ofNat m.tunnelID.length) ++ putUint16 (UInt16.ofNat m.publicURL.length)))
    (Q := AuthResponseMessage.Fits) (v := fun m => m.tunnelID ++ m.publicURL)
    fun header hh => ?_).congr (fun m => by simp) fun m _ => by simp [AuthResponseMessage.wire]
  match header, hh with
  | [t, st, ih, il, uh, ul], _ =>
  refine (Reads.guarded _ fun _ => Reads.guarded _ fun _ => Reads.guarded _ fun _ =>
    (Reads.readFull _ _).bind AuthResponseMessage.tunnelID
      (Q := fun m => m.publicURL.length = (be16 uh ul).toNat ∧ m.status = st) (v := fun m => m.publicURL)
    fun id _ => ((Reads.readFull _ _).bindPure AuthResponseMessage.publicURL
      (Q := fun m => m.tunnelID = id ∧ m.status = st) fun url m => ?_).congr (fun m => ?_) fun _ _ => rfl).congr
    (fun m => ?_) fun _ _ => rfl
  · cases m
    rw [AuthResponseMessage.mk.injEq]
    exact ⟨fun ⟨h₁, h₂, h₃⟩ => ⟨h₃, h₂, h₁⟩, fun ⟨h₃, h₂, h₁⟩ => ⟨h₁, h₂, h₃⟩⟩
  · exact and_left_comm
  · rw [List.cons.injEq, List.cons.injEq, putUint16_append_eq_iff, putUint16_eq_iff]
    have hid := length16_iff (n := m.tunnelID.length) (by decide : maxTunnelIDLen < 65536) (be16 ih il)
    have hurl := length16_iff (n := m.publicURL.length) (by decide : maxPublicURLLen < 65536) (be16 uh ul)
    constructor
    · rintro ⟨ht, hi, hu, hil, hul, hst⟩
      have hid := hid.1 ⟨hi, hil⟩
      have hurl := hurl.1 ⟨hu, hul⟩
      exact ⟨⟨(not_not.1 ht).symm, hst, hid.1, hurl.1⟩, hid.2, hurl.2⟩
    · rintro ⟨⟨ht, hst, hi, hu⟩, hil, hul⟩
      have hid := hid.2 ⟨hi, hil⟩
      have hurl := hurl.2 ⟨hu, hul⟩
      exact ⟨not_not.2 ht.symm, hid.1, hurl.1, hid.2, hurl.2, hst⟩

/-! ## AuthV2 -/

def TunnelEntry.Fits (t : TunnelEntry) : Prop :=
  t.label.length ≤ maxLabelLen ∧ t.localAddr.length ≤ maxLocalAddrLen ∧ t.tunnelType.length ≤ maxLabelLen

def TunnelEntry.wire (t : TunnelEntry) : Bytes := putField8 t.label ++ putField16 t.localAddr ++ putField8 t.tunnelType

theorem encodeTunnelEntry_encodes : Encodes encodeTunnelEntry TunnelEntry.Fits TunnelEntry.wire := by
  intro t b
  simp only [encodeTunnelEntry, TunnelEntry.Fits, ← Nat.not_lt]
  repeat' split
  · exact iff_of_false (by simp) fun h => h.1.1 ‹_›
  · exact iff_of_false (by simp) fun h => h.1.2.1 ‹_›
  · exact iff_of_false (by simp) fun h => h.1.2.2 ‹_›
  · rw [Except.ok.injEq, and_iff_right ⟨‹_›, ‹_›, ‹_›⟩, eq_comm]
    rfl

theorem decodeTunnelEntry_reads : Reads decodeTunnelEntry TunnelEntry.Fits TunnelEntry.wire := by
  refine ((field8_reads (by decide)).bind TunnelEntry.label
    (Q := fun t => t.localAddr.length ≤ maxLocalAddrLen ∧ t.tunnelType.length ≤ maxLabelLen)
    (v := fun t => putField16 t.localAddr ++ putField8 t.tunnelType) fun label _ => ?_).congr (fun _ => Iff.rfl)
    fun t _ => by simp [TunnelEntry.wire]
  refine ((field16_reads (by decide)).bind TunnelEntry.localAddr
    (Q := fun t => t.label = label ∧ t.tunnelType.length ≤ maxLabelLen)
    (v := fun t => putField8 t.tunnelType) fun localAddr _ => ?_).congr (fun _ => and_left_comm) fun _ _ => rfl
  refine ((field8_reads (by decide)).bindPure TunnelEntry.tunnelType
    (Q := fun t => t.label = label ∧ t.localAddr = localAddr) fun tunnelType t => ?_).congr (fun t => ?_) fun _ _ => rfl
  · cases t
    rw [TunnelEntry.mk.injEq]
    exact ⟨fun ⟨h₁, h₂, h₃⟩ => ⟨h₃, h₁, h₂⟩, fun ⟨h₃, h₁, h₂⟩ => ⟨h₁, h₂, h₃⟩⟩
  · exact ⟨fun ⟨h₁, h₂, h₃⟩ => ⟨h₃, h₂, h₁⟩, fun ⟨h₃, h₂, h₁⟩ => ⟨h₁, h₂, h₃⟩⟩

def AuthV2Message.Fits (m : AuthV2Message) : Prop :=
  m.token.length ≤ maxTokenLen ∧ (m.tunnels.length ≤ maxTunnelCount ∧ ∀ t ∈ m.tunnels, t.Fits) ∧
    m.preferredRegion.length ≤ maxRegionLen

def AuthV2Message.wire (m : AuthV2Message) : Bytes :=
  msgAuthV2 :: putField16 m.token ++ UInt8.ofNat m.tunnels.length :: m.tunnels.flatMap TunnelEntry.wire ++
    putField8 m.preferredRegion

theorem encodeAuthV2_encodes : Encodes encodeAuthV2 AuthV2Message.Fits AuthV2Message.wire := by
  intro m b
  simp only [encodeAuthV2, AuthV2Message.Fits]
  split
  · exact iff_of_false (by simp) fun h => absurd h.1.1 (by omega)
  split
  · exact iff_of_false (by simp) fun h => absurd h.1.2.1.1 (by omega)
  split
  · exact iff_of_false (by simp) fun h => absurd h.1.2.2 (by omega)
  rename_i htok hcount hregion
  have hmap := encodeTunnelEntry_encodes.mapM m.tunnels
  cases he : m.tunnels.mapM encodeTunnelEntry with
  | error e =>
    refine iff_of_false (by intro hc; cases hc) fun h => ?_
    rw [(hmap _).2 ⟨h.1.2.1.2, rfl⟩] at he
    cases he
  | ok entries =>
    obtain ⟨hall, rfl⟩ := (hmap entries).1 he
    change (Except.ok _ : Except FrameError Bytes) = .ok b ↔ _
    rw [Except.ok.injEq, and_iff_right ⟨by omega, ⟨by omega, hall⟩, by omega⟩, eq_comm, ← List.flatMap_def]
    rfl

theorem decodeAuthV2_reads : Reads decodeAuthV2 AuthV2Message.Fits AuthV2Message.wire := by
  refine ((decodeTokenFrame_reads (by decide)).bind AuthV2Message.token
    (Q := fun m => (m.tunnels.length ≤ maxTunnelCount ∧ ∀ t ∈ m.tunnels, t.Fits) ∧
      m.preferredRegion.length ≤ maxRegionLen)
    (v := fun m => UInt8.ofNat m.tunnels.length :: m.tunnels.flatMap TunnelEntry.wire ++ putField8 m.preferredRegion)
    fun token _ => ?_).congr (fun _ => Iff.rfl) fun m _ => by simp [AuthV2Message.wire]
  refine ((counted_reads (by decide) decodeTunnelEntry_reads).bind AuthV2Message.tunnels
    (Q := fun m => m.token = token ∧ m.preferredRegion.length ≤ maxRegionLen)
    (v := fun m => putField8 m.preferredRegion) fun tunnels _ => ?_).congr (fun _ => and_left_comm) fun _ _ => rfl
  refine ((field8_reads (by decide)).bindPure AuthV2Message.preferredRegion
    (Q := fun m => m.token = token ∧ m.tunnels = tunnels) fun region m => ?_).congr (fun m => ?_) fun _ _ => rfl
  · cases m
    rw [AuthV2Message.mk.injEq]
    exact ⟨fun ⟨h₁, h₂, h₃⟩ => ⟨h₃, h₁, h₂⟩, fun ⟨h₃, h₁, h₂⟩ => ⟨h₁, h₂, h₃⟩⟩
  · exact ⟨fun ⟨h₁, h₂, h₃⟩ => ⟨h₃, h₂, h₁⟩, fun ⟨h₃, h₂, h₁⟩ => ⟨h₁, h₂, h₃⟩⟩

/-! ## AuthV2Response -/

/-- The lengths that the encoder checks. -/
def AuthV2ResponseMessage.Sendable (m : AuthV2ResponseMessage) : Prop :=
  m.tunnelID.length ≤ maxTunnelIDLen ∧ m.tunnels.length ≤ maxTunnelCount ∧
    m.resumeToken.length ≤ maxResumeTokenLen ∧ m.assignedRegion.length ≤ maxRegionLen ∧
    m.suggestedGateways.length ≤ maxSuggestedGWs

/-- The lengths inside the two lists: a label has its length in one byte, a
hostname and a gateway address are refused by the decoder beyond `maxPublicURLLen`. -/
def AuthV2ResponseMessage.EntriesFit (m : AuthV2ResponseMessage) : Prop :=
  (∀ t ∈ m.tunnels, t.label.length ≤ 255 ∧ t.hostname.length ≤ maxPublicURLLen) ∧
    ∀ gw ∈ m.suggestedGateways, gw.length ≤ maxPublicURLLen

def TunnelHostEntry.wire (t : TunnelHostEntry) : Bytes := putField8 t.label ++ putField16 t.hostname

def AuthV2ResponseMessage.wire (m : AuthV2ResponseMessage) : Bytes :=
  [msgAuthRespV2, m.status] ++ putField16 m.tunnelID ++ UInt8.ofNat m.tunnels.length ::
    m.tunnels.flatMap TunnelHostEntry.wire ++ putField16 m.resumeToken ++ putField8 m.assignedRegion ++
    UInt8.ofNat m.suggestedGateways.length :: m.suggestedGateways.flatMap putField16

theorem encodeAuthV2Response_encodes :
    Encodes encodeAuthV2Response AuthV2ResponseMessage.Sendable AuthV2ResponseMessage.wire := by
  intro m b
  simp only [encodeAuthV2Response, AuthV2ResponseMessage.Sendable, ← Nat.not_lt]
  repeat' split
  · exact iff_of_false (by simp) fun h => h.1.1 ‹_›
  · exact iff_of_false (by simp) fun h => h.1.2.1 ‹_›
  · exact iff_of_false (by simp) fun h => h.1.2.2.1 ‹_›
  · exact iff_of_false (by simp) fun h => h.1.2.2.2.1 ‹_›
  · exact iff_of_false (by simp) fun h => h.1.2.2.2.2 ‹_›
  · rw [Except.ok.injEq, and_iff_right ⟨‹_›, ‹_›, ‹_›, ‹_›, ‹_›⟩, eq_comm]
    rfl

theorem decodeTunnelHostEntry_reads : Reads decodeTunnelHostEntry
    (fun t => t.label.length ≤ 255 ∧ t.hostname.length ≤ maxPublicURLLen) TunnelHostEntry.wire := by
  refine ((Reads.readFull 1 _).bind (fun t : TunnelHostEntry => [UInt8.ofNat t.label.length])
    (Q := fun t => t.label.length ≤ 255 ∧ t.hostname.length ≤ maxPublicURLLen)
    (v := fun t => t.label ++ putField16 t.hostname) fun buf hbuf => ?_).congr (fun t => by simp)
    fun t _ => by simp [TunnelHostEntry.wire, putField8]
  obtain ⟨x, rfl⟩ := List.length_eq_one_iff.1 hbuf
  refine ((Reads.readFull _ _).bind TunnelHostEntry.label (Q := fun t => t.hostname.length ≤ maxPublicURLLen)
    (v := fun t => putField16 t.hostname) fun label _ => ((field16_reads (by decide)).bindPure TunnelHostEntry.hostname
      (Q := fun t => t.label = label) fun hostname t => ?_).congr (fun _ => and_comm) fun _ _ => rfl).congr
    (fun t => ?_) fun _ _ => rfl
  · cases t
    rw [TunnelHostEntry.mk.injEq]
    exact and_comm
  · -- the length byte is not checked, but it is one byte
    have hx : ¬ x.toNat > 255 := by have := x.toNat_lt; omega
    have hlen := length8_iff (n := t.label.length) (by decide : 255 < 256) x
    rw [and_iff_right hx] at hlen
    rw [List.cons.injEq, and_iff_left rfl, ← and_assoc]
    exact and_congr_left' hlen

theorem decodeAuthV2Response_reads : Reads decodeAuthV2Response (fun m => m.Sendable ∧ m.EntriesFit)
    AuthV2ResponseMessage.wire := by
  refine (statusHeader_reads.bind (fun m : AuthV2ResponseMessage => (m.status, m.tunnelID))
    (Q := fun m => (m.tunnels.length ≤ maxTunnelCount ∧
        ∀ t ∈ m.tunnels, t.label.length ≤ 255 ∧ t.hostname.length ≤ maxPublicURLLen) ∧
      m.resumeToken.length ≤ maxResumeTokenLen ∧ m.assignedRegion.length ≤ maxRegionLen ∧
      m.suggestedGateways.length ≤ maxSuggestedGWs ∧ ∀ gw ∈ m.suggestedGateways, gw.length ≤ maxPublicURLLen)
    (v := fun m => UInt8.ofNat m.tunnels.length :: m.tunnels.flatMap TunnelHostEntry.wire ++
      (putField16 m.resumeToken ++ (putField8 m.assignedRegion ++
        (UInt8.ofNat m.suggestedGateways.length :: m.suggestedGateways.flatMap putField16))))
    fun front _ => ?_).congr (fun m => ?_) fun m _ => by simp [AuthV2ResponseMessage.wire]
  · refine ((counted_reads (by decide) decodeTunnelHostEntry_reads).bind AuthV2ResponseMessage.tunnels
      (Q := fun m => (m.status, m.tunnelID) = front ∧ m.resumeToken.length ≤ maxResumeTokenLen ∧
        m.assignedRegion.length ≤ maxRegionLen ∧ m.suggestedGateways.length ≤ maxSuggestedGWs ∧
        ∀ gw ∈ m.suggestedGateways, gw.length ≤ maxPublicURLLen) fun tunnels _ => ?_).congr (fun _ => and_left_comm)
      fun _ _ => rfl
    refine ((field16_reads (by decide)).bind AuthV2ResponseMessage.resumeToken
      (Q := fun m => (m.tunnels = tunnels ∧ (m.status, m.tunnelID) = front) ∧ m.assignedRegion.length ≤ maxRegionLen ∧
        m.suggestedGateways.length ≤ maxSuggestedGWs ∧ ∀ gw ∈ m.suggestedGateways, gw.length ≤ maxPublicURLLen)
      fun resume _ => ?_).congr (fun _ => and_left_comm.trans and_assoc) fun _ _ => rfl
    refine ((field8_reads (by decide)).bind AuthV2ResponseMessage.assignedRegion
      (Q := fun m => (m.resumeToken = resume ∧ m.tunnels = tunnels ∧ (m.status, m.tunnelID) = front) ∧
        m.suggestedGateways.length ≤ maxSuggestedGWs ∧ ∀ gw ∈ m.suggestedGateways, gw.length ≤ maxPublicURLLen)
      fun region _ => ?_).congr (fun _ => and_left_comm.trans and_assoc) fun _ _ => rfl
    refine ((counted_reads (by decide) (field16_reads (by decide))).bindPure AuthV2ResponseMessage.suggestedGateways
      (Q := fun m => m.assignedRegion = region ∧ m.resumeToken = resume ∧ m.tunnels = tunnels ∧
        (m.status, m.tunnelID) = front) fun gws m => ?_).congr (fun m => ?_) fun _ _ => rfl
    · cases m
      cases front
      rw [AuthV2ResponseMessage.mk.injEq, Prod.mk.injEq]
      grind
    · rw [and_comm, and_assoc]
  · simp only [AuthV2ResponseMessage.Sendable, AuthV2ResponseMessage.EntriesFit]
    grind

/-! ## SessionResumeResp -/

def SessionResumeRespMessage.Fits (m : SessionResumeRespMessage) : Prop :=
  m.tunnelID.length ≤ maxTunnelIDLen ∧ m.newToken.length ≤ maxResumeTokenLen

def SessionResumeRespMessage.wire (m : SessionResumeRespMessage) : Bytes :=
  [msgSessionResumeResp, m.status] ++ putField16 m.tunnelID ++ putField16 m.newToken

theorem encodeSessionResumeResp_encodes :
    Encodes encodeSessionResumeResp SessionResumeRespMessage.Fits SessionResumeRespMessage.wire := by
  intro m b
  simp only [encodeSessionResumeResp, SessionResumeRespMessage.Fits, ← Nat.not_lt]
  repeat' split
  · exact iff_of_false (by simp) fun h => h.1.1 ‹_›
  · exact iff_of_false (by simp) fun h => h.1.2 ‹_›
  · rw [Except.ok.injEq, and_iff_right ⟨‹_›, ‹_›⟩, eq_comm]
    rfl

theorem decodeSessionResumeResp_reads :
    Reads decodeSessionResumeResp SessionResumeRespMessage.Fits SessionResumeRespMessage.wire := by
  refine (statusHeader_reads.bind (fun m : SessionResumeRespMessage => (m.status, m.tunnelID))
    (Q := fun m => m.newToken.length ≤ maxResumeTokenLen) fun front _ =>
      ((field16_reads (by decide)).bindPure SessionResumeRespMessage.newToken
        (Q := fun m => (m.status, m.tunnelID) = front) fun token m => ?_).congr (fun _ => and_comm)
        fun _ _ => rfl).congr (fun _ => Iff.rfl) fun _ _ => rfl
  cases m
  cases front
  rw [SessionResumeRespMessage.mk.injEq, Prod.mk.injEq, ← and_assoc]
  exact and_comm

/-! ## StreamLabel -/

theorem encodeStreamLabel_encodes : Encodes encodeStreamLabel (fun label => label.length ≤ maxLabelLen)
    (fun label => msgStreamLabel :: putField8 label) := by
  intro label b
  unfold encodeStreamLabel
  split
  · exact iff_of_false (by simp) fun h => absurd h.1 (by omega)
  · rw [Except.ok.injEq, and_iff_right (by omega), eq_comm]

theorem decodeStreamLabel_reads : Reads decodeStreamLabel (fun label => label.length ≤ maxLabelLen)
    (fun label => msgStreamLabel :: putField8 label) := by
  refine ((Reads.readFull 2 _).bind (fun v => [msgStreamLabel, UInt8.ofNat v.length])
    (Q := fun v => v.length ≤ maxLabelLen) (v := id) fun header hh => ?_).congr (fun v => by simp)
    fun v _ => by simp [putField8]
  obtain ⟨t, x, rfl⟩ := List.length_eq_two.1 hh
  refine (Reads.guarded _ fun _ => Reads.guarded _ fun _ => Reads.readFull _ _).congr (fun v => ?_) fun _ _ => rfl
  rw [List.cons.injEq, List.cons.injEq, and_iff_left rfl, and_assoc]
  exact and_congr (not_not.trans eq_comm) (length8_iff (by decide : maxLabelLen < 256) x)

end TunnelEdge.Transport
