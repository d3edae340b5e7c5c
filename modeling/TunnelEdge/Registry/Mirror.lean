import TunnelEdge.Registry.Snapshot
/-!
# What a watch client believes

A peer that watches a registry keeps its own picture of it: the tunnels that are
registered, from the tunnel events, and the owner of each tunnel, from the lease
events. The picture agrees with the tables whenever nothing is on its way, as
long as every change publishes its event and the events of one tunnel are
published in the order of the changes.

Neither goes without saying. The cleanup tick deletes expired sessions and
publishes nothing, and so does `CurrentLease` when it deletes an expired
lease. And the events are published after the lock is gone, so that the event of
an earlier change can come later.
-/

namespace TunnelEdge.Registry

open GoLib Store

/-! ## The client's picture -/

namespace RegistryEvent

def tunnelKey (ev : RegistryEvent) : Option String :=
  match ev.type with
  | .tunnelUpserted | .tunnelDeleted => ev.tunnel.map Session.tunnelID
  | _ => none

/-- A tunnel is there after `tunnel_upserted` and gone after `tunnel_deleted`. -/
def present (ev : RegistryEvent) : Bool := ev.type = .tunnelUpserted

def leasedTunnel (ev : RegistryEvent) : Option String :=
  match ev.type with
  | .leaseAcquired | .leaseReleased => ev.lease.map Lease.tunnelID
  | _ => none

/-- The owner that a lease event sets: none for `lease_released`. -/
def owner (ev : RegistryEvent) : Option String :=
  match ev.type with
  | .leaseAcquired => ev.lease.map Lease.relayID
  | _ => none

theorem reread_tunnelKey (ev : RegistryEvent) (record : Option Session) :
    (ev.reread record).tunnelKey = ev.tunnelKey := by
  unfold tunnelKey
  rw [reread_type, reread_tunnelID]

theorem reread_present (ev : RegistryEvent) (record : Option Session) : (ev.reread record).present = ev.present := by
  unfold present
  rw [reread_type]

theorem leasedTunnel_acquired (l : Lease) : (acquired l).leasedTunnel = some l.tunnelID := rfl

theorem leasedTunnel_released (l : Lease) : (released l).leasedTunnel = some l.tunnelID := rfl

theorem reread_leasedTunnel (ev : RegistryEvent) (record : Option Session) :
    (ev.reread record).leasedTunnel = ev.leasedTunnel := by
  unfold leasedTunnel
  rw [reread_type, reread_lease]

theorem reread_owner (ev : RegistryEvent) (record : Option Session) : (ev.reread record).owner = ev.owner := by
  unfold owner
  rw [reread_type, reread_lease]

end RegistryEvent

def knownTunnels (events : List RegistryEvent) : String → Bool :=
  replay RegistryEvent.tunnelKey RegistryEvent.present (fun _ => false) events

def knownOwners (events : List RegistryEvent) : String → Option String :=
  replay RegistryEvent.leasedTunnel RegistryEvent.owner (fun _ => none) events

/-! ## A watch without filters replays what was published -/

namespace Hub

/-- Watch `k` has room, and no earlier change of the same key is still to be published. -/
def inTurn (key : RegistryEvent → Option String) (k : Nat) (h : Hub) : HubLabel → Bool
  | .publish i => h.roomy k (.publish i) && inOrder key h.pending i
  | .broadcast _ => false
  | _ => true

/-- Watch `k` reads without filters, and the map it will have when all that is on its way has arrived is `truth`. -/
def Mirrors {V : Type} (key : RegistryEvent → Option String) (val : RegistryEvent → V) (init : String → V) (k : Nat)
    (h : Hub) (truth : String → V) : Prop :=
  ∃ w, h.watches[k]? = some w ∧ (w.tunnelFilter = "" ∧ w.relayFilter = "" ∧ w.ready = true) ∧
    replay key val init (w.sent ++ w.queue ++ h.pending.flatten) = truth

section Mirrors

variable {V : Type} {key : RegistryEvent → Option String} {val : RegistryEvent → V} {init truth truth' : String → V}
  {k : Nat} {h h' : Hub} {l : HubLabel}

theorem Mirrors.step (hkey : ∀ ev r, key (ev.reread r) = key ev) (hval : ∀ ev r, val (ev.reread r) = val ev)
    (hm : h.Mirrors key val init k truth) (hs : h.step l = some h') (ht : h.inTurn key k l = true)
    (hnew : replay key val truth l.spawned = truth') : h'.Mirrors key val init k truth' := by
  obtain ⟨w, hw, hopen, hr⟩ := hm
  obtain ⟨w', hw', hmove⟩ := step_move hs hw
  refine ⟨w', hw', ?_⟩
  cases hmove with
  | spawn events hp =>
    refine ⟨hopen, ?_⟩
    rw [hp, List.flatten_append, List.flatten_singleton, ← List.append_assoc, replay_append, hr]
    exact hnew
  | publish i ev hn =>
    refine ⟨hopen, ?_⟩
    simp only [inTurn, roomy, hw, Option.all_some, Bool.and_eq_true, decide_eq_true_eq] at ht
    rw [Watch.offer, offer_of_lt ht.1, ← List.append_assoc, List.append_assoc, List.singleton_append, replay_append,
      replay_next hn ht.2, ← replay_append, hr]
    exact hnew
  | broadcast => cases ht
  | snapshot events hready => simp [hopen.2.2] at hready
  | recv record ev rest hq hp =>
    refine ⟨hopen, ?_⟩
    have hall : matchesDomainEvent (ev.reread record) w.tunnelFilter w.relayFilter = true := by
      simp [matchesDomainEvent, hopen.1, hopen.2.1]
    have hsame : replay key val init (w.sent ++ [ev.reread record]) = replay key val init (w.sent ++ [ev]) := by
      funext t
      rw [replay_append, replay_append, replay_singleton, replay_singleton, hkey, hval]
    rw [hq, List.append_cons, List.append_assoc, replay_append, ← hsame, ← replay_append, ← List.append_assoc] at hr
    rw [Watch.send, if_pos hall, hp, hr]
    exact hnew
  | other _ hl hp =>
    refine ⟨hopen, ?_⟩
    rw [hp, hr]
    rwa [hl] at hnew

theorem Mirrors.idle (hm : h.Mirrors key val init k truth) (hi : h.Idle k) :
    ∃ w, h.watches[k]? = some w ∧ replay key val init w.sent = truth := by
  obtain ⟨w, hw, -, hr⟩ := hm
  rw [hi.published, hi.drained w hw, List.append_nil, List.append_nil] at hr
  exact ⟨w, hw, hr⟩

end Mirrors

end Hub

/-! ## Sessions -/

def registered (store : Memory) (t : String) : Bool := (store.lookup t).isSome

theorem registered_insert {store : Memory} {t : String} {sess : Session} (h : store.lookup t ≠ none) :
    registered (store.insert t sess) = registered store := by
  funext t'
  unfold registered
  rw [GoMap.lookup_insert_ite]
  split
  · rename_i ht
    rw [ht, Option.isSome_iff_ne_none.2 h]
    rfl
  · rfl

theorem registered_setOwner (store : Memory) (t owner lease : String) :
    registered (Memory.setOwner store t owner lease) = registered store := by
  unfold Memory.setOwner
  split
  · rfl
  · rename_i sess hs
    exact registered_insert (by rw [hs]; exact Option.some_ne_none _)

theorem registered_heartbeat (store : Memory) (now : Time) (t : String) :
    registered (Memory.heartbeat store now t).1 = registered store := by
  unfold Memory.heartbeat
  split
  · rfl
  · rename_i sess hs
    exact registered_insert (by rw [hs]; exact Option.some_ne_none _)

theorem registered_cleanupExpired {store : Memory} {now : Time} {ttl : Duration}
    (h : GoMap.values (fun _ sess => Memory.isExpired sess now ttl) store = []) :
    registered (Memory.cleanupExpired store now ttl).1 = registered store := by
  funext t
  simp only [registered, Memory.cleanupExpired, GoMap.lookup_filter]
  cases hs : store.lookup t with
  | none => rfl
  | some sess => simp [Option.filter_some, (GoMap.values_eq_nil_iff _ _).1 h t sess hs]

namespace Server

variable {s : Server Memory} {sessionTTL : Duration}

theorem refresh_registered (s : Server Memory) (now : Time) (sess : Session) :
    registered (s.refresh Memory.repo now sess).1.store = registered s.store := by
  unfold refresh
  split
  · rfl
  · exact registered_setOwner ..

theorem refreshAll_registered (s : Server Memory) (now : Time) (sessions : List Session) :
    registered (s.refreshAll Memory.repo now sessions).1.store = registered s.store := by
  induction sessions generalizing s with
  | nil => rfl
  | cons sess rest ih => exact (ih _).trans (refresh_registered s now sess)

theorem newSession_tunnelID {σ : Type} (s : Server σ) (now : Time) (t a p l : String) :
    (s.newSession now t a p l).tunnelID = t := rfl

theorem registerTunnel_store {σ : Type} (repo : SessionRepository σ) (s : Server σ) (now : Time) (t a p l : String) :
    (s.registerTunnel repo now t a p l).1.store = (repo.register s.store now (s.newSession now t a p l)).1 := by
  unfold registerTunnel newSession
  dsimp only
  split <;> rename_i heq <;> rw [heq]

/-- The events of a tunnel handler replay what it does to the store, as long as no session expires. -/
theorem tunnelOp_registered (op : TunnelOp)
    (h : ∀ now, op = .cleanupExpired now →
      GoMap.values (fun _ sess => Memory.isExpired sess now sessionTTL) s.store = []) :
    replay RegistryEvent.tunnelKey RegistryEvent.present (registered s.store)
        (s.tunnelOp Memory.repo sessionTTL op).2 =
      registered (s.tunnelOp Memory.repo sessionTTL op).1.store := by
  cases op with
  | registerTunnel now t a p l =>
    simp only [tunnelOp, registerTunnel_store]
    rcases Memory.register_cases s.store now (s.newSession now t a p l) with ⟨err, hr⟩ | ⟨sess, hid, hr⟩
    · rw [show Memory.repo.register s.store now _ = _ from hr]
      rfl
    · rw [show Memory.repo.register s.store now _ = _ from hr]
      funext t'
      have hkey : (RegistryEvent.upserted sess).tunnelKey = some t := congrArg some hid
      rw [replay_set hkey]
      simp only [registered, newSession_tunnelID, GoMap.lookup_insert_ite]
      split <;> rfl
  | deregisterTunnel now t =>
    simp only [tunnelOp, deregisterTunnel]
    rcases Memory.deregister_cases s.store t with ⟨err, hd⟩ | hd
    · rw [show Memory.repo.deregister s.store now t = _ from hd]
      rfl
    · rw [show Memory.repo.deregister s.store now t = _ from hd]
      funext t'
      have hkey : (RegistryEvent.deleted t).tunnelKey = some t := rfl
      rw [replay_set hkey]
      simp only [registered, GoMap.lookup_erase_ite]
      split <;> rfl
  | getTunnel now t =>
    simp only [tunnelOp]
    split
    · rfl
    · exact (refresh_registered ..).symm
  | listTunnels now => exact (refreshAll_registered ..).symm
  | heartbeat now t =>
    have hh := registered_heartbeat s.store now t
    simp only [tunnelOp, heartbeat, Memory.repo]
    split <;> rename_i heq <;> rw [heq] at hh <;> exact hh.symm
  | cleanupExpired now => exact (registered_cleanupExpired (h now rfl)).symm

end Server

namespace Node

/-- A process whose first watch asks for everything. -/
def watched {σ : Type} (store : σ) : Node σ := { new store with hub := { watches := [{}] } }

/-- Watch `k` has room for an event that is published now. -/
def roomy {σ : Type} (k : Nat) (n : Node σ) : NodeLabel → Bool
  | .publish i => n.hub.roomy k (.publish i)
  | _ => true

/-- No session expires in a cleanup tick, and the events of one tunnel are
published in the order of the handlers, with room in the first watch's channel. -/
def tellsTunnels (sessionTTL : Duration) (n : Node Memory) : NodeLabel → Bool
  | .tunnel (.cleanupExpired now) =>
    (GoMap.values (fun _ sess => Memory.isExpired sess now sessionTTL) n.server.store).isEmpty
  | .publish i => n.hub.inTurn RegistryEvent.tunnelKey 0 (.publish i)
  | _ => true

section Sessions

variable {ids : UUIDs} {sessionTTL : Duration} {n n' : Node Memory} {l : NodeLabel}

theorem coordOp_store {σ : Type} (n : Node σ) (op : CoordOp) : (n.coordOp ids op).1.server.store = n.server.store := by
  cases op with
  | reportRelayHealth now r addr health =>
    simp only [coordOp]
    split <;> rfl
  | _ => rfl

theorem coordOp_events {σ : Type} (n : Node σ) (op : CoordOp) :
    ∀ ev ∈ (n.coordOp ids op).2, ev.tunnelKey = none ∧ ev.Ordinary := by
  cases op with
  | acquireLease | renewLease | releaseLease =>
    simp only [coordOp, Option.mem_toList, Option.map_eq_some_iff]
    rintro ev ⟨l, -, rfl⟩
    exact ⟨rfl, fun h => (by cases h), fun h => (by cases h)⟩
  | currentLease now t => simp [coordOp]
  | reportRelayHealth now r addr health =>
    simp only [coordOp]
    split
    · simp
    · simp only [List.mem_singleton]
      rintro ev rfl
      exact ⟨rfl, fun h => (by cases h), fun h => (by cases h)⟩
  | releaseExpiredLeases now =>
    simp only [coordOp, List.mem_map]
    rintro ev ⟨l, -, rfl⟩
    exact ⟨rfl, fun h => (by cases h), fun h => (by cases h)⟩

theorem tellsTunnels_inTurn (h : n.tellsTunnels sessionTTL l = true) :
    n.hub.inTurn RegistryEvent.tunnelKey 0 (n.hubLabel Memory.repo sessionTTL ids l) = true := by
  cases l with
  | publish i => exact h
  | _ => rfl

theorem step_registered (h : n.tellsTunnels sessionTTL l = true) :
    replay RegistryEvent.tunnelKey RegistryEvent.present (registered n.server.store)
        (n.hubLabel Memory.repo sessionTTL ids l).spawned =
      registered (n.effect Memory.repo sessionTTL ids l).server.store := by
  cases l with
  | tunnel op =>
    refine Server.tunnelOp_registered op fun now hop => ?_
    subst hop
    exact List.isEmpty_iff.1 h
  | coord op =>
    funext t
    refine (replay_of_none fun ev hev => ?_).trans (congrFun (congrArg registered (coordOp_store n op).symm) t)
    rw [(coordOp_events n op ev hev).1]
    exact (Option.some_ne_none t).symm
  | snapshot k now => exact (Server.refreshAll_registered ..).symm
  | watch => rfl
  | publish => rfl
  | recv => rfl

/-- The first watch will know the tunnels in the store. -/
def TunnelsMirrored (n : Node Memory) : Prop :=
  n.hub.Mirrors RegistryEvent.tunnelKey RegistryEvent.present (fun _ => false) 0 (registered n.server.store)

theorem tunnelsMirrored_step (hm : n.TunnelsMirrored) (hok : n.tellsTunnels sessionTTL l = true)
    (hs : n.step Memory.repo sessionTTL ids l = some n') : n'.TunnelsMirrored := by
  obtain ⟨hub, hh, rfl⟩ := step_eq_some _ _ _ hs
  exact Hub.Mirrors.step RegistryEvent.reread_tunnelKey RegistryEvent.reread_present hm hh (tellsTunnels_inTurn hok)
    (step_registered hok)

/-- A client that watches a process over the memory store from its start knows
exactly the tunnels in the store, in every run in which no session expires in a
cleanup tick and each tunnel's events are published in order. -/
theorem watch_mirrors_sessions (ids : UUIDs) (sessionTTL : Duration) {ls : List NodeLabel} {n : Node Memory}
    (hrun : Run (step Memory.repo sessionTTL ids) (fun n l => n.tellsTunnels sessionTTL l = true) (watched ∅) ls n)
    (hidle : n.hub.Idle 0) :
    ∃ w ∈ n.hub.watches[0]?, ∀ t, knownTunnels w.sent t = (n.server.store.lookup t).isSome := by
  have h0 : (watched ∅ : Node Memory).TunnelsMirrored := ⟨{}, rfl, ⟨rfl, rfl, rfl⟩, rfl⟩
  have hm := hrun.inv TunnelsMirrored h0 fun _ _ _ hm hok hs => tunnelsMirrored_step hm hok hs
  obtain ⟨w, hw, hr⟩ := hm.idle hidle
  exact ⟨w, hw, fun t => congrFun hr t⟩

/-- Two registrations whose events overtake each other, a deregistration and a quiet cleanup tick. -/
def twoTunnels : List NodeLabel :=
  [.tunnel (.registerTunnel 1 "t-a" "a" "" ""), .tunnel (.registerTunnel 2 "t-b" "b" "" ""), .publish 1, .publish 0,
    .tunnel (.deregisterTunnel 3 "t-b"), .recv 0 none, .recv 0 none, .publish 2, .recv 0 none,
    .tunnel (.cleanupExpired 4)]

/-- The client ends up with the one tunnel that is left. -/
theorem watch_mirrors_sessions_two_tunnels :
    ∃ n, Run (step Memory.repo second .sample) (fun n l => n.tellsTunnels second l = true) (watched ∅) twoTunnels n ∧
      n.hub.Idle 0 ∧ n.server.store.keys = ["t-a"] ∧
      ∃ w ∈ n.hub.watches[0]?, ∀ t, knownTunnels w.sent t = (n.server.store.lookup t).isSome := by
  obtain ⟨n, hr, hi, hk⟩ := run_checked_any (P := fun n : Node Memory => n.hub.Idle 0 ∧ n.server.store.keys = ["t-a"])
    (show (exec (checked (step Memory.repo second .sample) (tellsTunnels second)) (watched ∅) twoTunnels).any _ =
      true by decide +kernel)
  exact ⟨n, hr, hi, hk, watch_mirrors_sessions .sample second hr hi⟩

/-- A session that a cleanup tick deletes stays known to the client, and so does
one that was deregistered before its `tunnel_upserted` was published; the channel
never filled up. -/
theorem deleted_session_stays_known :
    (∃ n, Run (step Memory.repo second .sample) (fun n l => n.roomy 0 l = true) (watched ∅)
      [.tunnel (.registerTunnel 1 "t-a" "a" "" ""), .publish 0, .recv 0 none,
        .tunnel (.cleanupExpired (2 + second))] n ∧
      n.hub.Idle 0 ∧ n.server.store.lookup "t-a" = none ∧
      ∃ w ∈ n.hub.watches[0]?, knownTunnels w.sent "t-a" = true) ∧
    ∃ n, Run (step Memory.repo second .sample) (fun n l => n.roomy 0 l = true) (watched ∅)
      [.tunnel (.registerTunnel 1 "t-a" "a" "" ""), .tunnel (.deregisterTunnel 2 "t-a"), .publish 1, .publish 0,
        .recv 0 none, .recv 0 none] n ∧
      n.hub.Idle 0 ∧ n.server.store.lookup "t-a" = none ∧
      ∃ w ∈ n.hub.watches[0]?, knownTunnels w.sent "t-a" = true := by
  constructor
  · exact run_checked_any (by decide +kernel)
  · exact run_checked_any (by decide +kernel)

end Sessions

end Node

end TunnelEdge.Registry
