import TunnelEdge.Lib.Runs
import TunnelEdge.Gateway.Router
/-!
# Whose hostname it is

A hostname is built from a label and an agent id by concatenation, and both may
contain the separator. `Confusable` says when two agents' names give one
hostname: the agent id of one is a suffix of the other's, and the label takes up
the difference. The main result is an equivalence over a set of names: no
sequence of router calls over these names lets an agent change another agent's
hostname exactly when no two of them are confusable.
-/

namespace TunnelEdge.Gateway

open GoLib TunnelRouter

/-- A public name of an agent: its default host, or one of its labels. -/
structure Name where
  agentID : String
  label : Option String
deriving DecidableEq

def Name.tunnelID (n : Name) : String := newTunnelID n.agentID

def Name.hostname (domain : String) (n : Name) : String :=
  match n.label with
  | none => hostnameForTunnel domain n.tunnelID
  | some l => hostnameForLabel domain n.tunnelID l

/-- What `Register` and `RegisterLabel` store. -/
def Name.routeKey (n : Name) : RouteKey := ⟨n.tunnelID, n.label.getD "default"⟩

/-- The calls on a router; an agent's calls are for the tunnel `t-<agentID>`. -/
inductive RouterCall
  | register (n : Name)
  | deregister (n : Name)
  | deregisterAll (agentID : String)

/-- `Register` or `RegisterLabel`, `Deregister` or `DeregisterLabel`, by the name. -/
def TunnelRouter.call (r : TunnelRouter) : RouterCall → TunnelRouter
  | .register ⟨a, none⟩ => (r.register (newTunnelID a)).1
  | .register ⟨a, some l⟩ => (r.registerLabel (newTunnelID a) l).1
  | .deregister ⟨a, none⟩ => r.deregister (newTunnelID a)
  | .deregister ⟨a, some l⟩ => r.deregisterLabel (newTunnelID a) l
  | .deregisterAll a => r.deregisterAll (newTunnelID a)

def RouterCall.tunnelID : RouterCall → String
  | .register n | .deregister n => n.tunnelID
  | .deregisterAll a => newTunnelID a

def RouterCall.Over (N : Set Name) : RouterCall → Prop
  | .register n | .deregister n => n ∈ N
  | .deregisterAll _ => True

def routerStep (r : TunnelRouter) (c : RouterCall) : Option TunnelRouter := some (r.call c)

/-- After any calls over `N`, a further one leaves the hostnames of other tunnels alone. -/
def NoCapture (domain : String) (N : Set Name) : Prop :=
  ∀ cs r, Run routerStep (fun _ c => c.Over N) { domain } cs r → ∀ c : RouterCall, c.Over N →
    ∀ h t l, r.lookupWithLabel h = some (t, l) → t ≠ c.tunnelID → (r.call c).lookupWithLabel h = some (t, l)

/-! ## When two names are one hostname -/

/-- The longer label ends where the longer agent id begins. -/
def Shifted (l a m b : String) : Prop := ∃ s, l = m ++ "-" ++ s ∧ b = s ++ "-" ++ a

def Confusable (n n' : Name) : Prop :=
  match n.label, n'.label with
  | some l, some m => Shifted l n.agentID m n'.agentID ∨ Shifted m n'.agentID l n.agentID
  | none, some m => n.agentID = m ++ "-" ++ n'.agentID
  | some l, none => n'.agentID = l ++ "-" ++ n.agentID
  | none, none => False

/-- A label may hold what another label leaves to the agent id. -/
theorem dashed_eq_iff {l a m b : String} (hne : a ≠ b) :
    l ++ "-" ++ a = m ++ "-" ++ b ↔ Shifted l a m b ∨ Shifted m b l a := by
  have hdash : "-".toList = ['-'] := rfl
  have shift : ∀ {l a m b c : List Char}, a ≠ b → l = m ++ c → c ++ ('-' :: a) = '-' :: b →
      ∃ s, l = m ++ '-' :: s ∧ b = s ++ '-' :: a := by
    intro l a m b c hab hl hc
    cases c with
    | nil => exact absurd (List.cons.inj hc).2 hab
    | cons x s =>
      obtain ⟨rfl, hb⟩ := List.cons.inj hc
      exact ⟨s, hl, hb.symm⟩
  have lift : ∀ {l a m b : String}, (∃ s, l.toList = m.toList ++ '-' :: s ∧ b.toList = s ++ '-' :: a.toList) →
      Shifted l a m b := by
    rintro l a m b ⟨s, hl, hb⟩
    refine ⟨String.ofList s, String.toList_inj.1 ?_, String.toList_inj.1 ?_⟩
    · simp [hl, hdash]
    · simp [hb, hdash]
  have hab : a.toList ≠ b.toList := fun h => hne (String.toList_inj.1 h)
  constructor
  · intro h
    have h := congrArg String.toList h
    simp only [String.toList_append, hdash, List.append_assoc, List.singleton_append] at h
    rcases List.append_eq_append_iff.1 h with ⟨c, hm, hc⟩ | ⟨c, hl, hc⟩
    · exact .inr (lift (shift hab.symm hm hc.symm))
    · exact .inl (lift (shift hab hl hc.symm))
  · rintro (⟨s, rfl, rfl⟩ | ⟨s, rfl, rfl⟩) <;> simp only [String.append_assoc]

theorem dotted_inj {x y domain : String} : x ++ "." ++ domain = y ++ "." ++ domain ↔ x = y := by
  constructor
  · intro h
    have h := congrArg String.toList h
    simp only [String.toList_append, List.append_assoc] at h
    exact String.toList_inj.1 (List.append_cancel_right h)
  · rintro rfl
    rfl

theorem hostname_eq_iff {domain : String} {n n' : Name} (hne : n.agentID ≠ n'.agentID) :
    n.hostname domain = n'.hostname domain ↔ Confusable n n' := by
  obtain ⟨a, l⟩ := n
  obtain ⟨b, m⟩ := n'
  cases l <;> cases m <;>
    simp only [Name.hostname, Name.tunnelID, hostnameForTunnel, hostnameForLabel, trimTunnelPrefix_newTunnelID,
      dotted_inj, Confusable]
  · exact iff_of_false hne not_false
  · exact eq_comm
  · exact dashed_eq_iff hne

/-! ## What a call does -/

theorem call_register (r : TunnelRouter) (n : Name) (h : String) : (r.call (.register n)).hostMap.lookup h =
    if h = n.hostname r.domain then some n.routeKey else r.hostMap.lookup h := by
  obtain ⟨a, _ | l⟩ := n
  · exact register_hostMap r _ h
  · exact registerLabel_hostMap r _ l h

theorem call_deregister (r : TunnelRouter) (n : Name) (h : String) : (r.call (.deregister n)).hostMap.lookup h =
    if h = n.hostname r.domain then none else r.hostMap.lookup h := by
  obtain ⟨a, _ | l⟩ := n
  · exact deregister_hostMap r _ h
  · exact deregisterLabel_hostMap r _ l h

@[simp] theorem call_domain (r : TunnelRouter) (c : RouterCall) : (r.call c).domain = r.domain := by
  rcases c with ⟨_, _ | _⟩ | ⟨_, _ | _⟩ | _ <;> rfl

/-- Every host of the map is a name of `N`, stored for that name's tunnel and label. -/
structure Named (domain : String) (N : Set Name) (r : TunnelRouter) : Prop where
  same : r.domain = domain
  hosts : ∀ h k, r.hostMap.lookup h = some k → ∃ n ∈ N, h = n.hostname domain ∧ k = n.routeKey

theorem Named.call {domain : String} {N : Set Name} {r : TunnelRouter} (hn : Named domain N r) {c : RouterCall}
    (hc : c.Over N) : Named domain N (r.call c) := by
  refine ⟨(call_domain r c).trans hn.same, fun h k hk => ?_⟩
  cases c with
  | register n =>
    rw [call_register] at hk
    split at hk
    · cases hk
      exact ⟨n, hc, hn.same ▸ ‹_›, rfl⟩
    · exact hn.hosts h k hk
  | deregister n =>
    rw [call_deregister] at hk
    split at hk
    · cases hk
    · exact hn.hosts h k hk
  | deregisterAll a =>
    simp only [TunnelRouter.call, deregisterAll_hostMap, Option.filter_eq_some_iff] at hk
    exact hn.hosts h k hk.1

theorem named_of_run {domain : String} {N : Set Name} {cs : List RouterCall} {r : TunnelRouter}
    (hr : Run routerStep (fun _ c => c.Over N) { domain } cs r) : Named domain N r := by
  refine hr.inv (Named domain N) ⟨rfl, by simp⟩ fun r c r' hn hc hst => ?_
  cases hst
  exact hn.call hc

/-- A call changes a host of another tunnel only if it names that very host. -/
theorem call_other {domain : String} {N : Set Name} {r : TunnelRouter} (hn : Named domain N r) {c : RouterCall}
    {h : String} {k : RouteKey} (hk : r.hostMap.lookup h = some k) (hne : k.tunnelID ≠ c.tunnelID)
    (hfree : ∀ n, (c = .register n ∨ c = .deregister n) → h ≠ n.hostname domain) :
    (r.call c).hostMap.lookup h = some k := by
  cases c with
  | register n => rw [call_register, hn.same, if_neg (hfree n (.inl rfl)), hk]
  | deregister n => rw [call_deregister, hn.same, if_neg (hfree n (.inr rfl)), hk]
  | deregisterAll a =>
    simp only [RouterCall.tunnelID] at hne
    simp [TunnelRouter.call, hk, Option.filter_some, hne]

/-! ## Capture -/

/-- Over a set of names, no sequence of calls lets an agent change what another
agent's hostname resolves to exactly when no two agents' names are confusable. -/
theorem no_capture_iff (domain : String) (N : Set Name) :
    NoCapture domain N ↔ ∀ n ∈ N, ∀ n' ∈ N, n.agentID ≠ n'.agentID → ¬ Confusable n n' := by
  constructor
  · -- register the one name, then the other
    intro hcap n hn n' hn' hne hconf
    have hhost : n.hostname domain = n'.hostname domain := (hostname_eq_iff hne).2 hconf
    have hr : Run routerStep (fun _ c => c.Over N) { domain } [.register n] _ := .snoc .nil hn rfl
    have hl : (TunnelRouter.call { domain } (.register n)).lookupWithLabel (n.hostname domain) =
        some (n.tunnelID, n.label.getD "default") := by
      rw [lookupWithLabel, call_register, if_pos rfl]
      rfl
    have ht : n.tunnelID ≠ n'.tunnelID := fun h => hne (newTunnelID_inj h)
    have hafter := hcap _ _ hr (.register n') hn' _ _ _ hl ht
    rw [lookupWithLabel, call_register, call_domain, if_pos hhost] at hafter
    exact ht (congrArg Prod.fst (Option.some.inj hafter)).symm
  · intro hfree cs r hr c hc h t l hl hne
    have hn := named_of_run hr
    obtain ⟨k, hk, hkl⟩ := Option.map_eq_some_iff.1 hl
    cases hkl
    obtain ⟨n, hnN, rfl, rfl⟩ := hn.hosts h k hk
    have hother := call_other hn hk hne fun n' hcn hhost => ?_
    · rw [lookupWithLabel, hother]
      rfl
    · have hn'N : n' ∈ N := by rcases hcn with rfl | rfl <;> exact hc
      have hag : n.agentID ≠ n'.agentID := by
        intro h
        refine hne ?_
        rcases hcn with rfl | rfl <;> exact congrArg newTunnelID h
      exact hfree n hnN n' hn'N hag ((hostname_eq_iff hag).1 hhost)

/-- Agent `z` with the label `x-y` takes the hostname of agent `y-z` with the label `x`; both labels are accepted. -/
theorem label_captures_hostname : validateLabel "x" = .ok () ∧ validateLabel "x-y" = .ok () ∧
    ¬ NoCapture "example.com" {⟨"y-z", some "x"⟩, ⟨"z", some "x-y"⟩} := by
  refine ⟨by decide +kernel, by decide +kernel, fun hcap => ?_⟩
  have hr : Run routerStep (fun _ c => c.Over {⟨"y-z", some "x"⟩, ⟨"z", some "x-y"⟩}) { domain := "example.com" }
      [.register ⟨"y-z", some "x"⟩] _ := .snoc .nil (.inl rfl) rfl
  have hafter := hcap _ _ hr (.register ⟨"z", some "x-y"⟩) (.inr rfl) "x-y-z.example.com" "t-y-z" "x"
    (by decide +kernel) (by decide +kernel)
  exact absurd hafter (by decide +kernel)

end TunnelEdge.Gateway
