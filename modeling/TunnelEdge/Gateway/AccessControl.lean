import Mathlib.Algebra.Group.Nat.Defs
import Mathlib.Data.List.Perm.Basic
import TunnelEdge.Store.Profiles
/-!
# Access rules at the gateway

The part of `handlePublicConnection` that reads the access rules of a tunnel
(`internal/gateway/public_handler.go`). It makes one pass over the rules in the
order the query returns them, which is no order: a matching deny rule ends the
pass, any other matching rule is remembered, and a rule whose CIDR does not
parse is skipped.

`net/netip` is a parameter, `NetIP`; `NetIP.v4` is its part for IPv4.
-/

namespace TunnelEdge.Gateway

open Store

/-- `netip.ParseAddr`, `netip.ParsePrefix` and `Prefix.Contains`. -/
structure NetIP where
  Addr : Type
  Network : Type
  parseAddr : String → Option Addr
  parsePrefix : String → Option Network
  contains : Network → Addr → Bool

/-! ## The loop -/

section Loop

variable (net : NetIP) (addr : net.Addr)

/-- `for _, acl := range acls { ... }` and the check of `allowed` after it. -/
def aclLoop (allowed : Bool) : List TunnelACL → Bool
  | [] => allowed
  | acl :: acls =>
    match net.parsePrefix acl.cidr with
    | none => aclLoop allowed acls
    | some network =>
      if net.contains network addr then
        if acl.aclType = "deny" then false else aclLoop true acls
      else aclLoop allowed acls

/-- Whether a client at this address gets through the rules. -/
def admits (acls : List TunnelACL) : Bool := if acls.length > 0 then aclLoop net addr false acls else true

/-- A CIDR that parses and contains the address. -/
def covers (cidr : String) : Bool := (net.parsePrefix cidr).any fun network => net.contains network addr

variable {net addr}

theorem aclLoop_cons_of_not {acl : TunnelACL} (h : covers net addr acl.cidr = false) (allowed : Bool)
    (acls : List TunnelACL) :
    aclLoop net addr allowed (acl :: acls) = aclLoop net addr allowed acls := by
  rw [aclLoop]
  unfold covers at h
  split
  · rfl
  · rename_i network hp
    rw [hp] at h
    exact if_neg (by simpa using h)

theorem aclLoop_cons_of {acl : TunnelACL} (h : covers net addr acl.cidr = true) (allowed : Bool)
    (acls : List TunnelACL) :
    aclLoop net addr allowed (acl :: acls) = if acl.aclType = "deny" then false else aclLoop net addr true acls := by
  rw [aclLoop]
  unfold covers at h
  split
  · rename_i hp
    rw [hp] at h
    cases h
  · rename_i network hp
    rw [hp] at h
    exact if_pos (by simpa using h)

/-- The loop lets a client through when a rule that applies is no deny rule, or
one was seen before, and no rule that applies is a deny rule. -/
theorem aclLoop_iff (allowed : Bool) (acls : List TunnelACL) :
    aclLoop net addr allowed acls = true ↔
      (allowed = true ∨ ∃ acl ∈ acls, covers net addr acl.cidr = true ∧ acl.aclType ≠ "deny") ∧
        ∀ acl ∈ acls, covers net addr acl.cidr = true → acl.aclType ≠ "deny" := by
  induction acls generalizing allowed with
  | nil => simp [aclLoop]
  | cons acl acls ih =>
    simp only [List.mem_cons, exists_eq_or_imp, forall_eq_or_imp]
    cases h : covers net addr acl.cidr
    · rw [aclLoop_cons_of_not h, ih]
      simp
    · rw [aclLoop_cons_of h]
      by_cases hd : acl.aclType = "deny"
      · simp [hd]
      · simp [hd, ih]

theorem admits_iff (acls : List TunnelACL) :
    admits net addr acls = true ↔
      acls = [] ∨ (∃ acl ∈ acls, covers net addr acl.cidr = true ∧ acl.aclType ≠ "deny") ∧
        ¬ ∃ acl ∈ acls, covers net addr acl.cidr = true ∧ acl.aclType = "deny" := by
  cases acls with
  | nil => simp [admits]
  | cons acl acls =>
    rw [admits, if_pos (by simp), aclLoop_iff]
    simp only [Bool.false_eq_true, false_or, reduceCtorEq, not_exists, not_and, ne_eq]

theorem admits_perm {acls acls' : List TunnelACL} (h : acls.Perm acls') :
    admits net addr acls = admits net addr acls' := by
  have hnil : acls = [] ↔ acls' = [] := by
    rw [← List.length_eq_zero_iff, h.length_eq, List.length_eq_zero_iff]
  rw [Bool.eq_iff_iff, admits_iff, admits_iff, hnil]
  simp only [h.mem_iff]

theorem admits_cons_deny {acl : TunnelACL} {acls : List TunnelACL} (hdeny : acl.aclType = "deny")
    (hrefused : admits net addr acls = false) : admits net addr (acl :: acls) = false := by
  rw [← Bool.not_eq_true, admits_iff] at hrefused ⊢
  -- the rule that lets the client in is an old one, since the new one is a deny rule
  rintro (hnil | ⟨⟨acl', hm, happ, ht⟩, hno⟩)
  · cases hnil
  · rcases List.mem_cons.1 hm with rfl | hm
    · exact ht hdeny
    · refine hrefused (.inr ⟨⟨acl', hm, happ, ht⟩, ?_⟩)
      rintro ⟨acl'', hm'', h⟩
      exact hno ⟨acl'', List.mem_cons_of_mem acl hm'', h⟩

end Loop

/-! ## IPv4 -/

/-- A decimal field: at most `max`, without a sign or leading zeros. -/
def parseField (max : Nat) (cs : List Char) : Option Nat :=
  if cs ≠ [] ∧ cs.all Char.isDigit ∧ cs.length ≤ 3 ∧ (cs.length > 1 → cs.head? ≠ some '0') then
    let n := cs.foldl (fun n c => 10 * n + (c.toNat - '0'.toNat)) 0
    if n ≤ max then some n else none
  else none

/-- `a.b.c.d` -/
def parseIPv4 (s : List Char) : Option Nat :=
  match (s.splitOn '.').map (parseField 255) with
  | [some a, some b, some c, some d] => some (((a * 256 + b) * 256 + c) * 256 + d)
  | _ => none

/-- `a.b.c.d/bits` -/
def parseIPv4Prefix (s : List Char) : Option (Nat × Nat) :=
  match s.splitOn '/' with
  | [ip, bits] =>
    match parseIPv4 ip, parseField 32 bits with
    | some ip, some bits => some (ip, bits)
    | _, _ => none
  | _ => none

namespace NetIP

/-- `net/netip` on IPv4 addresses. -/
abbrev v4 : NetIP where
  Addr := Nat
  Network := Nat × Nat
  parseAddr s := parseIPv4 s.toList
  parsePrefix s := parseIPv4Prefix s.toList
  contains network addr := network.1 / 2 ^ (32 - network.2) = addr / 2 ^ (32 - network.2)

end NetIP

/-! ## The check -/

/-- The rule repository of a gateway: none is set, `List` fails, or it works. -/
inductive ACLSource
  | unset
  | failing (err : String)
  | working
deriving DecidableEq, Repr

/-- `g.tunnelACLs.List`, if there is a repository. -/
def ACLSource.list (source : ACLSource) (acls : TunnelACLs) (tunnelID : String) :
    Option (Except String (List TunnelACL)) :=
  match source with
  | unset => none
  | failing err => some (.error err)
  | working => some (.ok (TunnelACLs.list acls tunnelID))

/-- The whole check: a client passes it unless its address parses and the rules could be read. -/
def aclCheck (net : NetIP) (tunnelACLs : Option (Except String (List TunnelACL))) (clientIPStr : String) : Bool :=
  match tunnelACLs with
  | none => true
  | some listed =>
    match net.parseAddr clientIPStr with
    | none => true
    | some addr =>
      match listed with
      | .error _ => true
      | .ok acls => admits net addr acls

theorem aclCheck_of_listed {net : NetIP} {client : String} {addr : net.Addr} (h : net.parseAddr client = some addr)
    (acls : List TunnelACL) : aclCheck net (some (.ok acls)) client = admits net addr acls := by
  simp only [aclCheck, h]

/-- The decision for every order of the rules: who is let through, that the
order does not matter, and that one more deny rule that parses lets nobody in. -/
theorem acl_decision (net : NetIP) {client : String} {addr : net.Addr} (hparse : net.parseAddr client = some addr)
    {acls acls' : List TunnelACL} (hperm : acls'.Perm acls) :
    (aclCheck net (some (.ok acls')) client = true ↔
      acls = [] ∨ (∃ acl ∈ acls, covers net addr acl.cidr = true ∧ acl.aclType ≠ "deny") ∧
        ¬ ∃ acl ∈ acls, covers net addr acl.cidr = true ∧ acl.aclType = "deny") ∧
    aclCheck net (some (.ok acls')) client = aclCheck net (some (.ok acls)) client ∧
    ∀ (acl : TunnelACL) (network : net.Network) (more : List TunnelACL), acl.aclType = "deny" →
      net.parsePrefix acl.cidr = some network → more.Perm (acl :: acls) →
      aclCheck net (some (.ok acls)) client = false → aclCheck net (some (.ok more)) client = false := by
  simp only [aclCheck_of_listed hparse]
  refine ⟨?_, admits_perm hperm, ?_⟩
  · rw [admits_perm hperm, admits_iff]
  · intro acl network more hdeny _ hmore hrefused
    rw [admits_perm hmore]
    exact admits_cons_deny hdeny hrefused

/-- Two rules, read in the other order. -/
theorem acl_decision_v4 :
    let acls : List TunnelACL :=
      [{ tunnelID := "t-web", aclType := "deny", cidr := "203.0.113.0/24" },
        { tunnelID := "t-web", aclType := "allow", cidr := "0.0.0.0/0" }]
    NetIP.v4.parseAddr "203.0.113.7" = some (3405803783 : Nat) ∧
      aclCheck .v4 (some (.ok acls.reverse)) "203.0.113.7" = aclCheck .v4 (some (.ok acls)) "203.0.113.7" ∧
      aclCheck .v4 (some (.ok acls)) "203.0.113.7" = false :=
  have hparse : NetIP.v4.parseAddr "203.0.113.7" = some (3405803783 : Nat) := by decide +kernel
  ⟨hparse, (acl_decision .v4 hparse (List.reverse_perm _)).2.1, by decide +kernel⟩

end TunnelEdge.Gateway
