import Mathlib.Data.List.Basic
/-!
# Binary formats

Encoders and decoders of byte strings. A decoder reads from a stream and leaves
the rest of it, so decoders run one after another on one stream. `Reads d ok wire`
says exactly which streams a decoder accepts: those that start with the bytes
`wire a` of a value `a` with `ok a`, and what it then returns and leaves. One such
statement per decoder gives its round trip, that it accepts canonical bytes only,
and that it rejects what breaks off early. There is one rule for each way to build
a decoder.
-/

namespace GoLib

/-- `[]byte`, and the bytes of a Go `string`. -/
abbrev Bytes := List UInt8

/-- `io.ReadFull` on a stream that ends: before the first byte, or after it. -/
inductive ReadError
  | eof | unexpectedEOF
deriving DecidableEq, Repr

/-- A function that reads from an `io.Reader`. -/
abbrev Reader (ε : Type) := StateT Bytes (Except ε)

variable {ε α β : Type}

/-- `io.ReadFull` into a buffer of `n` bytes; `wrap` is what the caller makes of an error. -/
def readFull (n : Nat) (wrap : ReadError → ε) : Reader ε Bytes := fun s =>
  if n ≤ s.length then .ok (s.take n, s.drop n) else .error (wrap (if s = [] then .eof else .unexpectedEOF))

def readMany (item : Reader ε α) : Nat → Reader ε (List α)
  | 0 => pure []
  | n + 1 => do
    let a ← item
    let rest ← readMany item n
    pure (a :: rest)

/-- `io.MultiReader(bytes.NewReader(front), r)`: read as if the stream started with `front`. -/
def multiReader (front : Bytes) (d : Reader ε α) : Reader ε α := fun s => d (front ++ s)

/-! ## Big-endian integers -/

/-- `binary.BigEndian.PutUint16` -/
def putUint16 (v : UInt16) : Bytes := [(v >>> 8).toUInt8, v.toUInt8]

/-- `binary.BigEndian.Uint16` -/
def be16 (hi lo : UInt8) : UInt16 := (hi.toUInt16 <<< 8) ||| lo.toUInt16

/-- `buf[i]`, for a buffer that is longer. -/
def byteAt (buf : Bytes) (i : Nat) : UInt8 := buf.getD i 0

/-- `binary.BigEndian.Uint16(buf[i:i+2])` -/
def uint16At (buf : Bytes) (i : Nat) : UInt16 := be16 (byteAt buf i) (byteAt buf (i + 1))

theorem toNat_be16 (hi lo : UInt8) : (be16 hi lo).toNat = hi.toNat * 256 + lo.toNat := by
  have hh := hi.toNat_lt
  have hl := lo.toNat_lt
  have hs : hi.toNat <<< 8 % 2 ^ 16 = hi.toNat <<< 8 := by
    rw [Nat.shiftLeft_eq]
    omega
  simp only [be16, UInt16.toNat_or, UInt16.toNat_shiftLeft, UInt8.toNat_toUInt16]
  rw [show (8 : UInt16).toNat % 16 = 8 from rfl, hs, ← Nat.shiftLeft_add_eq_or_of_lt hl, Nat.shiftLeft_eq]

/-- A length that fits in a byte, narrowed by the writer and checked by the reader. -/
theorem length8_iff {max n : Nat} (hmax : max < 256) (x : UInt8) :
    ¬ x.toNat > max ∧ n = x.toNat ↔ UInt8.ofNat n = x ∧ n ≤ max := by
  have key : n ≤ max → (UInt8.ofNat n = x ↔ n = x.toNat) := fun hle => by
    rw [← UInt8.toNat_inj, UInt8.toNat_ofNat', Nat.mod_eq_of_lt (by omega)]
  constructor
  · rintro ⟨hx, rfl⟩
    exact ⟨(key (by omega)).2 rfl, by omega⟩
  · rintro ⟨hx, hle⟩
    have := (key hle).1 hx
    exact ⟨by omega, this⟩

theorem length16_iff {max n : Nat} (hmax : max < 65536) (x : UInt16) :
    ¬ x.toNat > max ∧ n = x.toNat ↔ UInt16.ofNat n = x ∧ n ≤ max := by
  have key : n ≤ max → (UInt16.ofNat n = x ↔ n = x.toNat) := fun hle => by
    rw [← UInt16.toNat_inj, UInt16.toNat_ofNat', Nat.mod_eq_of_lt (by omega)]
  constructor
  · rintro ⟨hx, rfl⟩
    exact ⟨(key (by omega)).2 rfl, by omega⟩
  · rintro ⟨hx, hle⟩
    have := (key hle).1 hx
    exact ⟨by omega, this⟩

@[simp] theorem length_putUint16 (v : UInt16) : (putUint16 v).length = 2 := rfl

theorem putUint16_eq_iff (v : UInt16) (hi lo : UInt8) : putUint16 v = [hi, lo] ↔ v = be16 hi lo := by
  have hv := v.toNat_lt
  have hh := hi.toNat_lt
  have hl := lo.toNat_lt
  simp only [putUint16, List.cons.injEq, and_true, ← UInt8.toNat_inj, ← UInt16.toNat_inj, UInt16.toNat_toUInt8,
    UInt16.toNat_shiftRight, Nat.shiftRight_eq_div_pow, toNat_be16]
  rw [show (8 : UInt16).toNat % 16 = 8 from rfl]
  omega

theorem putUint16_append_eq_iff (v : UInt16) (l : Bytes) (hi lo : UInt8) (l' : Bytes) :
    putUint16 v ++ l = hi :: lo :: l' ↔ v = be16 hi lo ∧ l = l' := by
  rw [← putUint16_eq_iff]
  simp only [putUint16, List.cons_append, List.nil_append, List.cons.injEq, and_true, and_assoc]

/-! ## What a decoder accepts -/

/-- `d` accepts the streams that start with `wire a` for an `a` with `ok a`, returns `a` and leaves the rest. -/
def Reads (d : Reader ε α) (ok : α → Prop) (wire : α → Bytes) : Prop :=
  ∀ s a rest, d s = .ok (a, rest) ↔ ok a ∧ s = wire a ++ rest

/-- `enc` succeeds on the values with `ok`, with the bytes `wire`. -/
def Encodes (enc : α → Except ε Bytes) (ok : α → Prop) (wire : α → Bytes) : Prop :=
  ∀ a b, enc a = .ok b ↔ ok a ∧ b = wire a

namespace Reads

variable {d : Reader ε α} {ok : α → Prop} {wire : α → Bytes}

theorem congr {ok' : α → Prop} {wire' : α → Bytes} (h : Reads d ok wire) (hok : ∀ a, ok a ↔ ok' a)
    (hwire : ∀ a, ok' a → wire a = wire' a) : Reads d ok' wire' := by
  intro s a rest
  rw [h, hok]
  constructor
  · rintro ⟨ha, rfl⟩
    exact ⟨ha, by rw [hwire a ha]⟩
  · rintro ⟨ha, rfl⟩
    exact ⟨ha, by rw [hwire a ha]⟩

theorem pure (a₀ : α) : Reads (Pure.pure a₀ : Reader ε α) (· = a₀) (fun _ => []) := by
  intro s a rest
  change (Except.ok (a₀, s) : Except ε _) = .ok (a, rest) ↔ a = a₀ ∧ s = [] ++ rest
  rw [Except.ok.injEq, Prod.mk.injEq, List.nil_append, eq_comm (a := a₀)]

/-- One decoder after another. The value `b` of the whole determines the value `f b` of the first part. -/
theorem bind {p : Reader ε α} {q : α → Reader ε β} {P : α → Prop} {w : α → Bytes} (f : β → α) {Q : β → Prop}
    {v : β → Bytes} (hp : Reads p P w) (hq : ∀ a, P a → Reads (q a) (fun b => f b = a ∧ Q b) v) :
    Reads (p >>= q) (fun b => P (f b) ∧ Q b) (fun b => w (f b) ++ v b) := by
  intro s b rest
  change (p s >>= fun r => q r.1 r.2) = .ok (b, rest) ↔ _
  rw [List.append_assoc]
  constructor
  · intro h
    cases hs : p s with
    | error e => rw [hs] at h; cases h
    | ok r =>
      obtain ⟨a, s'⟩ := r
      rw [hs] at h
      obtain ⟨ha, rfl⟩ := (hp s a s').1 hs
      obtain ⟨⟨rfl, hb⟩, rfl⟩ := (hq a ha s' b rest).1 h
      exact ⟨⟨ha, hb⟩, rfl⟩
  · rintro ⟨⟨ha, hb⟩, rfl⟩
    rw [(hp _ (f b) (v b ++ rest)).2 ⟨ha, rfl⟩]
    exact (hq (f b) ha _ b rest).2 ⟨⟨rfl, hb⟩, rfl⟩

theorem bindPure {p : Reader ε α} {mk : α → β} {P : α → Prop} {w : α → Bytes} (f : β → α) {Q : β → Prop}
    (hp : Reads p P w) (hmk : ∀ a b, b = mk a ↔ f b = a ∧ Q b) :
    Reads (p >>= fun a => Pure.pure (mk a)) (fun b => P (f b) ∧ Q b) (fun b => w (f b)) :=
  (hp.bind f (v := fun _ => []) fun a _ => (Reads.pure (mk a)).congr (hmk a) fun _ _ => rfl).congr
    (fun _ => Iff.rfl) fun _ _ => List.append_nil _

theorem map {f : α → β} (g : β → α) (hfg : ∀ b, f (g b) = b) (hgf : ∀ a, g (f a) = a) (h : Reads d ok wire) :
    Reads (f <$> d) (fun b => ok (g b)) (fun b => wire (g b)) := by
  intro s b rest
  change ((fun r => (f r.1, r.2)) <$> d s) = .ok (b, rest) ↔ _
  rw [← h]
  cases d s with
  | error e => exact iff_of_false (by intro hc; cases hc) (by intro hc; cases hc)
  | ok r =>
    obtain ⟨a, s'⟩ := r
    change (Except.ok (f a, s') : Except ε _) = .ok (b, rest) ↔ (Except.ok (a, s') : Except ε _) = .ok (g b, rest)
    rw [Except.ok.injEq, Except.ok.injEq, Prod.mk.injEq, Prod.mk.injEq]
    exact and_congr_left' ⟨fun hb => by rw [← hb, hgf], fun ha => by rw [ha, hfg]⟩

theorem guarded {c : Prop} [Decidable c] (e : ε) (h : ¬ c → Reads d ok wire) :
    Reads (if c then throw e else d) (fun a => ¬ c ∧ ok a) wire := by
  intro s a rest
  by_cases hc : c
  · rw [if_pos hc]
    refine iff_of_false ?_ fun ha => ha.1.1 hc
    intro h
    cases h
  · rw [if_neg hc, h hc s a rest]
    simp only [hc, not_false_eq_true, true_and]

theorem readFull (n : Nat) (wrap : ReadError → ε) : Reads (GoLib.readFull n wrap) (fun b => b.length = n) id := by
  intro s b rest
  simp only [GoLib.readFull, id]
  split
  · rename_i hn
    rw [Except.ok.injEq, Prod.mk.injEq]
    constructor
    · rintro ⟨rfl, rfl⟩
      exact ⟨by rw [List.length_take, Nat.min_eq_left hn], (List.take_append_drop n s).symm⟩
    · rintro ⟨rfl, rfl⟩
      exact ⟨List.take_left, List.drop_left⟩
  · rename_i hn
    refine iff_of_false (by simp) ?_
    rintro ⟨rfl, rfl⟩
    exact hn (by rw [List.length_append]; omega)

theorem readMany (h : Reads d ok wire) (n : Nat) :
    Reads (GoLib.readMany d n) (fun l => l.length = n ∧ ∀ a ∈ l, ok a) (fun l => l.flatMap wire) := by
  induction n with
  | zero =>
    refine (Reads.pure []).congr (fun l => ?_) fun l hl => ?_
    · rw [List.length_eq_zero_iff]
      exact ⟨fun hl => ⟨hl, by simp [hl]⟩, And.left⟩
    · rw [List.length_eq_zero_iff.1 hl.1]
      rfl
  | succ n ih =>
    -- the list is not a function of its head alone, so the loop is inverted by hand
    intro s l rest
    change (d s >>= fun r => (GoLib.readMany d n >>= fun l => Pure.pure (r.1 :: l)) r.2) = .ok (l, rest) ↔ _
    constructor
    · intro hl
      cases hs : d s with
      | error e => rw [hs] at hl; cases hl
      | ok r =>
        obtain ⟨a, s'⟩ := r
        rw [hs] at hl
        obtain ⟨ha, rfl⟩ := (h s a s').1 hs
        change (GoLib.readMany d n s' >>= fun r => Except.ok (a :: r.1, r.2)) = .ok (l, rest) at hl
        cases hs' : GoLib.readMany d n s' with
        | error e => rw [hs'] at hl; cases hl
        | ok r =>
          obtain ⟨l', s''⟩ := r
          rw [hs'] at hl
          cases hl
          obtain ⟨⟨hlen, hall⟩, rfl⟩ := (ih s' l' s'').1 hs'
          refine ⟨⟨by rw [List.length_cons, hlen], ?_⟩, by simp⟩
          rintro x (_ | ⟨_, hx⟩)
          · exact ha
          · exact hall x hx
    · rintro ⟨⟨hlen, hall⟩, rfl⟩
      cases l with
      | nil => cases hlen
      | cons a l =>
        simp only [List.flatMap_cons, List.append_assoc]
        rw [(h _ a _).2 ⟨hall a (by simp), rfl⟩]
        change (GoLib.readMany d n (l.flatMap wire ++ rest) >>= fun r => Except.ok (a :: r.1, r.2)) = _
        rw [(ih _ l rest).2 ⟨⟨Nat.succ.inj hlen, fun x hx => hall x (by simp [hx])⟩, rfl⟩]
        rfl

/-! ## What follows -/

theorem decode (h : Reads d ok wire) {a : α} (ha : ok a) (rest : Bytes) : d (wire a ++ rest) = .ok (a, rest) :=
  (h _ a rest).2 ⟨ha, rfl⟩

/-- What the decoder accepts, it accepts in front of anything else. -/
theorem extend (h : Reads d ok wire) {s : Bytes} {a : α} {rest : Bytes} (hs : d s = .ok (a, rest)) (more : Bytes) :
    d (s ++ more) = .ok (a, rest ++ more) := by
  obtain ⟨ha, rfl⟩ := (h s a rest).1 hs
  rw [List.append_assoc]
  exact h.decode ha (rest ++ more)

theorem short_rejected (h : Reads d ok wire) {b q : Bytes} {a : α} (hb : d b = .ok (a, [])) (hq : q <+: b)
    (hne : q ≠ b) : ∃ e, d q = .error e := by
  obtain ⟨more, rfl⟩ := hq
  cases hd : d q with
  | error e => exact ⟨e, rfl⟩
  | ok r =>
    obtain ⟨a', rest⟩ := r
    rw [h.extend hd more] at hb
    obtain ⟨-, hnil⟩ := Prod.mk.inj (Except.ok.inj hb)
    rw [List.append_eq_nil_iff.1 hnil |>.2, List.append_nil] at hne
    exact absurd rfl hne

/-- The type byte is read alone and put back for the decoder of the frame. -/
theorem multiReader_decode (h : Reads d ok wire) {a : α} (ha : ok a) {t : UInt8} {body : Bytes}
    (hw : wire a = t :: body) (rest : Bytes) : multiReader [t] d (body ++ rest) = .ok (a, rest) := by
  have := h.decode ha rest
  rwa [hw] at this

end Reads

namespace Encodes

variable {enc : α → Except ε Bytes} {ok : α → Prop} {wire : α → Bytes}

theorem of_ok {b : Bytes} {a : α} (h : Encodes enc ok wire) (hb : enc a = .ok b) : ok a ∧ b = wire a := (h a b).1 hb

theorem mapM (h : Encodes enc ok wire) (l : List α) (bs : List Bytes) :
    l.mapM enc = .ok bs ↔ (∀ a ∈ l, ok a) ∧ bs = l.map wire := by
  induction l generalizing bs with
  | nil =>
    change (Except.ok [] : Except ε _) = .ok bs ↔ _
    simp [eq_comm]
  | cons a l ih =>
    rw [List.mapM_cons]
    cases ha : enc a with
    | error e =>
      refine iff_of_false (by intro hc; cases hc) ?_
      rintro ⟨hall, -⟩
      have := (h a (wire a)).2 ⟨hall a (by simp), rfl⟩
      rw [ha] at this
      cases this
    | ok b =>
      obtain ⟨hok, rfl⟩ := (h a b).1 ha
      change (l.mapM enc >>= fun bs => Except.ok (wire a :: bs)) = .ok bs ↔ _
      cases hl : l.mapM enc with
      | error e =>
        refine iff_of_false (by intro hc; cases hc) ?_
        rintro ⟨hall, -⟩
        have := (ih (l.map wire)).2 ⟨fun x hx => hall x (by simp [hx]), rfl⟩
        rw [hl] at this
        cases this
      | ok bs' =>
        obtain ⟨hall, rfl⟩ := (ih bs').1 hl
        change (Except.ok (wire a :: l.map wire) : Except ε _) = .ok bs ↔ _
        rw [Except.ok.injEq, List.map_cons, eq_comm (a := bs)]
        simp only [List.forall_mem_cons, hok, true_and, iff_and_self]
        exact fun _ => hall

theorem roundTrip (he : Encodes enc ok wire) {ε' : Type} {d : Reader ε' α} (hd : Reads d ok wire) {a : α} {b : Bytes}
    (h : enc a = .ok b) (rest : Bytes) : d (b ++ rest) = .ok (a, rest) := by
  obtain ⟨ha, rfl⟩ := he.of_ok h
  exact hd.decode ha rest

end Encodes

end GoLib
