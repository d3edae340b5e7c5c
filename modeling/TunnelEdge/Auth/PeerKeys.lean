import Mathlib.Data.List.Basic
import Mathlib.Data.List.TakeWhile
/-!
# Keys of the rate limiters

Both limiters are meant to be per source IP, and both make their key from the text of
the peer's address. The gateway takes what is in front of the first colon, which for an
IPv6 address is only the first group. The registry takes the whole text, port included.
-/

namespace TunnelEdge.Auth

/-! ## Addresses -/

/-- The IP of a peer. An IPv6 address is its text, which has a colon in every notation. -/
inductive PeerHost
  | v4 (a b c d : UInt8)
  | v6 (text : String) (colon : ':' ∈ text.toList)
deriving DecidableEq

structure PeerAddr where
  host : PeerHost
  port : UInt16
deriving DecidableEq

def PeerHost.text : PeerHost → String
  | .v4 a b c d => a.toNat.repr ++ "." ++ b.toNat.repr ++ "." ++ c.toNat.repr ++ "." ++ d.toNat.repr
  | .v6 text _ => "[" ++ text ++ "]"

/-- `net.Addr.String` -/
def PeerAddr.string (p : PeerAddr) : String := p.host.text ++ ":" ++ p.port.toNat.repr

/-! ## Keys -/

/-- `strings.Cut` at a character: what is before it. -/
def cut (s : String) (sep : Char) : String := String.ofList (s.toList.takeWhile (· ≠ sep))

/-- The key in `handleAgentConnection`. -/
def authKey (remoteAddr : String) : String :=
  let remoteIP := cut remoteAddr ':'
  if remoteIP = "" then remoteAddr else remoteIP

/-- The key in `RateLimitInterceptor`. -/
def interceptorKey (peerAddr : String) : String := peerAddr

def PeerHost.firstGroup : PeerHost → Option String
  | .v4 .. => none
  | .v6 text _ => some (cut text ':')

/-- The keys of the two limiters agree exactly for requests from one host. -/
def KeyedByHost (p q : PeerAddr) : Prop :=
  (authKey p.string = authKey q.string ↔ p.host = q.host) ∧
    (interceptorKey p.string = interceptorKey q.string ↔ p.host = q.host)

instance (p q : PeerAddr) : Decidable (KeyedByHost p q) := inferInstanceAs (Decidable (_ ∧ _))

/-! ## Reading an address back -/

theorem append_cons_inj {α : Type} {x : α} {a b p q : List α} (hp : x ∉ p) (hq : x ∉ q)
    (h : a ++ x :: p = b ++ x :: q) : a = b ∧ p = q := by
  -- whichever side is longer has its last separator in the other one's tail
  obtain ⟨c, rfl, hc⟩ | ⟨c, rfl, hc⟩ := List.append_eq_append_iff.1 h
  all_goals
    cases c with
    | nil => simpa [eq_comm] using hc
    | cons y c =>
      simp only [List.cons_append, List.cons.injEq] at hc
      simp [hc.2] at hp hq

theorem notMem_repr {c : Char} (hc : c.isDigit = false) (n : Nat) : c ∉ n.repr.toList := by
  intro h
  rw [Nat.toList_repr] at h
  rw [Nat.isDigit_of_mem_toDigits (by decide) (by decide) h] at hc
  cases hc

theorem toNat_of_repr {m n : Nat} (h : m.repr = n.repr) : m = n := by
  have h := congrArg (Nat.ofDigitChars 10 · 0) (congrArg String.toList h)
  simpa only [Nat.toList_repr, Nat.ofDigitChars_ten_toDigits] using h

theorem append_repr_inj (sep : Char) (hsep : sep.isDigit = false) {a b : String} {m n : Nat}
    (h : a ++ String.singleton sep ++ m.repr = b ++ String.singleton sep ++ n.repr) : a = b ∧ m = n := by
  have h := congrArg String.toList h
  simp only [String.toList_append, String.toList_singleton, List.append_assoc, List.singleton_append] at h
  obtain ⟨ha, hn⟩ := append_cons_inj (notMem_repr hsep m) (notMem_repr hsep n) h
  exact ⟨String.toList_inj.1 ha, toNat_of_repr (String.toList_inj.1 hn)⟩

theorem text_v4_inj {a b c d a' b' c' d' : UInt8}
    (h : (PeerHost.v4 a b c d).text = (PeerHost.v4 a' b' c' d').text) :
    PeerHost.v4 a b c d = PeerHost.v4 a' b' c' d' := by
  obtain ⟨h, hd⟩ := append_repr_inj '.' rfl h
  obtain ⟨h, hc⟩ := append_repr_inj '.' rfl h
  obtain ⟨ha, hb⟩ := append_repr_inj '.' rfl h
  rw [UInt8.toNat_inj.1 (toNat_of_repr ha), UInt8.toNat_inj.1 hb, UInt8.toNat_inj.1 hc, UInt8.toNat_inj.1 hd]

theorem colon_notMem_v4 (a b c d : UInt8) : ':' ∉ (PeerHost.v4 a b c d).text.toList := by
  have hdigits := fun n => notMem_repr (c := ':') rfl n
  simp only [PeerHost.text, String.toList_append, List.mem_append, hdigits, or_false, false_or]
  decide

theorem colon_mem_v6 (text : String) (colon : ':' ∈ text.toList) : ':' ∈ (PeerHost.v6 text colon).text.toList := by
  simp [PeerHost.text, colon]

theorem text_inj {h h' : PeerHost} (heq : h.text = h'.text) : h = h' := by
  cases h with
  | v4 a b c d =>
    cases h' with
    | v4 => exact text_v4_inj heq
    | v6 text colon => exact absurd (heq ▸ colon_mem_v6 text colon) (colon_notMem_v4 a b c d)
  | v6 text colon =>
    cases h' with
    | v4 a b c d => exact absurd (heq ▸ colon_mem_v6 text colon) (colon_notMem_v4 a b c d)
    | v6 text' colon' =>
      have htext := congrArg String.toList heq
      simp only [PeerHost.text, String.toList_append, List.append_cancel_left_eq, List.append_cancel_right_eq] at htext
      cases String.toList_inj.1 htext
      rfl

theorem string_inj {p q : PeerAddr} : p.string = q.string ↔ p.host = q.host ∧ p.port = q.port := by
  constructor
  · intro h
    obtain ⟨hhost, hport⟩ := append_repr_inj ':' rfl h
    exact ⟨text_inj hhost, UInt16.toNat_inj.1 hport⟩
  · rintro ⟨hhost, hport⟩
    rw [PeerAddr.string, PeerAddr.string, hhost, hport]

/-! ## What the gateway reads -/

theorem cut_append_of_mem {s : String} (t : String) {sep : Char} (h : sep ∈ s.toList) :
    cut (s ++ t) sep = cut s sep := by
  unfold cut
  rw [String.toList_append, List.takeWhile_append, if_neg]
  intro hall
  have hpass := List.takeWhile_eq_self_iff.1 (List.IsPrefix.eq_of_length (List.takeWhile_prefix _) hall) sep h
  simp at hpass

theorem cut_append_sep {s : String} (t : String) {sep : Char} (h : sep ∉ s.toList) :
    cut (s ++ String.singleton sep ++ t) sep = s := by
  have hall : s.toList.takeWhile (· ≠ sep) = s.toList :=
    List.takeWhile_eq_self_iff.2 fun c hc => decide_eq_true fun heq => h (heq ▸ hc)
  unfold cut
  rw [String.append_assoc, String.toList_append, List.takeWhile_append, if_pos (by rw [hall]), String.toList_append,
    String.toList_singleton]
  simp

theorem cut_bracket (s : String) : cut ("[" ++ s) ':' = "[" ++ cut s ':' := by
  unfold cut
  rw [← String.toList_inj]
  simp

theorem authKey_of_cut {addr key : String} (h : cut addr ':' = key) (hne : key ≠ "") : authKey addr = key := by
  unfold authKey
  simp only [h, if_neg hne]

theorem colon_eq : ":" = String.singleton ':' := by decide

/-- An IPv4 address is read whole, an IPv6 address up to its first colon. -/
theorem authKey_string (p : PeerAddr) :
    authKey p.string = (p.host.firstGroup.map ("[" ++ ·)).getD p.host.text := by
  obtain ⟨host, port⟩ := p
  cases host with
  | v4 a b c d =>
    have hcut : cut (PeerAddr.mk (.v4 a b c d) port).string ':' = (PeerHost.v4 a b c d).text := by
      rw [PeerAddr.string, colon_eq]
      exact cut_append_sep _ (colon_notMem_v4 a b c d)
    have hne : (PeerHost.v4 a b c d).text ≠ "" := by
      simp [PeerHost.text, String.append_eq_empty_iff]
    exact authKey_of_cut hcut hne
  | v6 text colon =>
    have hcut : cut (PeerAddr.mk (.v6 text colon) port).string ':' = "[" ++ cut text ':' := by
      rw [PeerAddr.string, String.append_assoc, cut_append_of_mem _ (colon_mem_v6 text colon), PeerHost.text,
        String.append_assoc, cut_bracket, cut_append_of_mem _ colon]
    have hne : "[" ++ cut text ':' ≠ "" := by
      simp [String.append_eq_empty_iff]
    exact authKey_of_cut hcut hne

theorem v4_ne_bracket (a b c d : UInt8) (s : String) : (PeerHost.v4 a b c d).text ≠ "[" ++ s := by
  intro h
  have hmem : '[' ∈ (PeerHost.v4 a b c d).text.toList := by simp [h]
  have hdigits := fun n => notMem_repr (c := '[') rfl n
  simp only [PeerHost.text, String.toList_append, List.mem_append, hdigits, or_false, false_or] at hmem
  revert hmem
  decide

/-- Two addresses get one key at the gateway if their hosts are the same, or are IPv6 and
start with the same group. -/
theorem authKey_eq_iff {p q : PeerAddr} :
    authKey p.string = authKey q.string ↔
      p.host = q.host ∨ p.host.firstGroup ≠ none ∧ p.host.firstGroup = q.host.firstGroup := by
  rw [authKey_string, authKey_string]
  cases hp : p.host with
  | v4 a b c d =>
    cases hq : q.host with
    | v4 =>
      simp only [PeerHost.firstGroup, ne_eq, not_true_eq_false, false_and, or_false]
      exact ⟨text_v4_inj, fun h => congrArg PeerHost.text h⟩
    | v6 text colon => simpa [PeerHost.firstGroup] using v4_ne_bracket a b c d _
  | v6 text colon =>
    cases hq : q.host with
    | v4 a b c d => simpa [PeerHost.firstGroup] using (v4_ne_bracket a b c d _).symm
    | v6 text' colon' =>
      simp only [PeerHost.firstGroup, Option.map_some, Option.getD_some, String.append_right_inj, PeerHost.v6.injEq,
        ne_eq, reduceCtorEq, not_false_eq_true, Option.some.injEq, true_and]
      exact ⟨.inr, fun h => h.elim (fun h => congrArg (cut · ':') h) id⟩

/-! ## The limits are per source IP -/

/-- The limits are per source IP for two requests that, if from one host, also come from
one port and, if from two IPv6 hosts, come from hosts that differ in their first group. -/
theorem keyed_by_host_iff (p q : PeerAddr) :
    KeyedByHost p q ↔
      (p.host = q.host → p.port = q.port) ∧
        (p.host ≠ q.host → p.host.firstGroup ≠ none → p.host.firstGroup ≠ q.host.firstGroup) := by
  unfold KeyedByHost interceptorKey
  rw [authKey_eq_iff, string_inj]
  tauto

/-- Two IPv6 hosts that share the gateway's key `[2001`. -/
theorem ipv6_hosts_share_key :
    authKey (PeerAddr.mk (.v6 "2001:db8::1" (by decide)) 1).string = "[2001" ∧
      authKey (PeerAddr.mk (.v6 "2001:db8::2" (by decide)) 1).string = "[2001" ∧
      ¬KeyedByHost ⟨.v6 "2001:db8::1" (by decide), 1⟩ ⟨.v6 "2001:db8::2" (by decide), 1⟩ ∧
      ¬KeyedByHost ⟨.v4 10 0 0 1, 1⟩ ⟨.v4 10 0 0 1, 2⟩ := by
  decide +kernel

end TunnelEdge.Auth
