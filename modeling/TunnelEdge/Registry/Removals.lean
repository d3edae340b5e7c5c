import TunnelEdge.Registry.EtcdWatch
/-!
# Removals and relay filters

A gateway that watches one relay wants to hear when a tunnel or a lease of that
relay goes. Of a lease that the `MemCoordinator` releases or sweeps it hears, after
all `lease_acquired` of it if the goroutines that publish them come first. It
does not hear of a tunnel that is deregistered, and over etcd not of a lease
either: those events carry the tunnel id alone, and a relay filter compares it
with an empty relay id.
-/

namespace TunnelEdge.Registry

open GoLib Store LeaseStore

namespace EtcdNodes

variable {σ : Type} {repo : SessionRepository σ} {sessionTTL : Duration} {s s' : EtcdNodes σ} {l : EtcdLabel}

/-! ## Removals over etcd -/

/-- Anything happens until process `i` has seen all that etcd reports and nothing is left
to publish or to read there, with room for its watch `k` all the time. -/
structure Drains (repo : SessionRepository σ) (sessionTTL : Duration) (i k : Nat) (s s' : EtcdNodes σ) : Prop where
  run : ∃ ls, Run (step repo sessionTTL) (fun s l => s.roomy repo sessionTTL i k l = true) s ls s'
  idle : (s'.hubs i).Idle k
  watched : (s'.cluster.insts i).watched = s'.cluster.etcd.events.length

/-- In a state that the processes reach the label fires, and then process `i` comes to rest. -/
structure Settles (repo : SessionRepository σ) (sessionTTL : Duration) (store : σ) (i k : Nat) (l : EtcdLabel)
    (s s₁ s₂ : EtcdNodes σ) : Prop where
  reached : ∃ ls, Run (step repo sessionTTL) (fun _ _ => True) (new store) ls s
  fired : s.step repo sessionTTL l = some s₁
  drains : Drains repo sessionTTL i k s₁ s₂

/-- A step on the way to `s` deleted the lease key of the tunnel, by a release or by expiry, when etcd's log had `m`
events, and process `i` has not come to it. -/
structure Unlocked (repo : SessionRepository σ) (sessionTTL : Duration) (store : σ) (i : Nat) (t : String) (m : Nat)
    (s : EtcdNodes σ) : Prop where
  removed : ∃ ls s₀ l s₁ ls', Run (step repo sessionTTL) (fun _ _ => True) (new store) ls s₀ ∧
    s₀.step repo sessionTTL l = some s₁ ∧ s₀.cluster.etcd.kvs.lookup (leaseKey t) ≠ none ∧
    s₁.cluster.etcd.kvs.lookup (leaseKey t) = none ∧ s₀.cluster.etcd.events.length = m ∧
    Run (step repo sessionTTL) (fun _ _ => True) s₁ ls' s
  ahead : (s.cluster.insts i).watched ≤ m

/-- A `lease_acquired` of the tunnel that etcd did not report after its first `m` events. -/
def AcquiredBefore (t : String) (m : Nat) (s : EtcdNodes σ) (ev : RegistryEvent) : Prop :=
  ev.AcquiresTunnel t ∧ ∀ we ∈ s.cluster.etcd.events.drop m, etcdEvent we ≠ some ev

instance (t : String) (m : Nat) (s : EtcdNodes σ) (ev : RegistryEvent) : Decidable (s.AcquiredBefore t m ev) :=
  inferInstanceAs (Decidable (_ ∧ _))

section Removals

variable {store : σ} {s₁ s₂ : EtcdNodes σ} {i k m j : Nat} {w : Watch} {t : String}

theorem deleted_delivered_iff {now : Time} {answers : String → Bool}
    (h : Settles repo sessionTTL store i k (.tunnel i (.deregisterTunnel now t) answers) s s₁ s₂)
    (hw : (s.hubs i).watches[k]? = some w) (hsent : ∃ ev ∈ w.sent, ev.Upserts t)
    (hok : (repo.deregister s.store now t).2 = .ok ()) :
    (s.hubs i).Delivered k (RegistryEvent.Deletes t) (s₂.hubs i) ↔ w.relayFilter = "" := by
  obtain ⟨ls, hrun⟩ := h.reached
  obtain ⟨⟨ls', hrest⟩, hidle, -⟩ := h.drains
  have htold := run_told (told_new store) hrun
  have htold₂ := run_told (htold.step h.fired) hrest
  have hsince := hub_since hrest (since_step h.fired (Hub.since_self hw trivial))
  refine Hub.deleted_delivered_iff hw (htold.filtered i) hsent (htold₂.filtered i) ((htold₂.nameless i).mono And.left)
    hsince hidle fun hm => ?_
  have hev : (tunnelOpEtcd repo sessionTTL (s.currentLease answers) s.store (.deregisterTunnel now t)).2 =
      [.deleted t] := by
    rcases hd : repo.deregister s.store now t with ⟨st, r⟩
    rw [hd] at hok
    cases hok
    simp only [tunnelOpEtcd, hd]
  have hway : (s₁.hubs i).OnTheWay k w (.deleted t) := by
    obtain ⟨s', -, hs⟩ := Option.bind_eq_some_iff.1 h.fired
    simp only [hubMove, hev, Hub.step, Option.map_some, Option.some.injEq] at hs
    rw [← hs]
    simp only [Function.update_self]
    exact Hub.since_self hw (.inr (.inr (by simp)))
  obtain ⟨ms, hms⟩ := hub_run hrest
  exact hway.run (by exact RegistryEventType.noConfusion) hm hms

/-- The event that a deleted lease key becomes. -/
def releasedOf (t : String) : RegistryEvent :=
  .released { leaseID := "", tunnelID := t, relayID := "", expiresAt := 0, version := 0 }

/-- Event `j` of etcd is the delete of the tunnel's key, and it is ahead of process `i`, or its event is the last
for the watch but for leases that were acquired after the first `m` events. -/
structure Reported (i k m j : Nat) (w : Watch) (t : String) (s : EtcdNodes σ) : Prop where
  event : s.cluster.etcd.events[j]? = some (.delete (leaseKey t))
  after : m ≤ j
  since : (s.hubs i).Since k w fun _ _ => True
  ahead : (s.cluster.insts i).watched ≤ j ∨ j < (s.cluster.insts i).watched ∧
    ∀ u, (s.hubs i).watches[k]? = some u → u.Marked (releasedOf t) fun ev => ¬ s.AcquiredBefore t m ev

theorem delete_logged (hs : s.step repo sessionTTL l = some s')
    (hin : s.cluster.etcd.kvs.lookup (leaseKey t) ≠ none) (hout : s'.cluster.etcd.kvs.lookup (leaseKey t) = none) :
    ∃ j, s'.cluster.etcd.events[j]? = some (.delete (leaseKey t)) ∧ s.cluster.etcd.events.length ≤ j := by
  obtain ⟨evs, he, hdel⟩ := step_logged hs
  obtain ⟨d, hd⟩ := List.mem_iff_getElem?.1 (hdel _ hin hout)
  refine ⟨s.cluster.etcd.events.length + d, ?_, Nat.le_add_right ..⟩
  rw [he, List.getElem?_append_right (Nat.le_add_right ..), Nat.add_sub_cancel_left]
  exact hd

theorem AcquiredBefore.of_step {ev : RegistryEvent} (hs : s.step repo sessionTTL l = some s')
    (h : s'.AcquiredBefore t m ev) : s.AcquiredBefore t m ev := by
  obtain ⟨evs, he, -⟩ := step_logged hs
  refine ⟨h.1, fun we hwe => h.2 we ?_⟩
  rw [he, List.drop_append]
  exact List.mem_append_left _ hwe

theorem Reported.step (hpass : matchesDomainEvent (releasedOf t) w.tunnelFilter w.relayFilter = true) (ht : s.Told)
    (h : s.Reported i k m j w t) (hr : s.roomy repo sessionTTL i k l = true)
    (hs : s.step repo sessionTTL l = some s') : s'.Reported i k m j w t := by
  have hroom : ∀ hl, s.hubMove repo sessionTTL l = some (i, hl) → (s.hubs i).roomy k hl = true := by
    intro hl hmove
    simpa [roomy, hmove] using hr
  obtain ⟨evs, hevs, -⟩ := step_logged hs
  have hj := (List.getElem?_eq_some_iff.1 h.event).1
  refine ⟨by rw [hevs, List.getElem?_append_left hj]; exact h.event, h.after, since_step hs h.since, ?_⟩
  obtain ⟨u, -, hu, htf, hrf, -⟩ := h.since
  rcases h.ahead with hle | ⟨hlt, hmark⟩
  · rcases step_watched hs i with ⟨rfl, -, -, hw'⟩ | ⟨-, hw'⟩
    · rcases Nat.lt_or_eq_of_le hle with hlt | heq
      · exact .inl (hw' ▸ hlt)
      · -- the watch loop handles the delete now
        refine .inr ⟨by omega, fun u' hu' => ?_⟩
        have hmove : s.hubMove repo sessionTTL (.cluster (.watch i)) = some (i, .broadcast (releasedOf t)) := by
          simp only [hubMove, heq, h.event, Option.bind_some, etcdEvent, tunnelOfKey_leaseKey, Option.map_some]
          rfl
        rcases step_hub hs i with ⟨-, hno⟩ | ⟨hl, hmove', hh⟩
        · exact absurd hmove (hno _)
        · rw [hmove] at hmove'
          cases hmove'
          have hfree := hroom _ hmove
          simp only [Hub.roomy, hu, Option.all_some, decide_eq_true_eq] at hfree
          simp only [Hub.step, Option.some.injEq] at hh
          rw [← hh, List.getElem?_map, hu] at hu'
          cases hu'
          exact Watch.marked_offered hfree
    · exact .inl (hw' ▸ hle)
  · have hlt' : j < (s'.cluster.insts i).watched := by
      rcases step_watched hs i with ⟨-, -, -, hw'⟩ | ⟨-, hw'⟩ <;> omega
    refine .inr ⟨hlt', fun u' hu' => ?_⟩
    have hmark : u.Marked (releasedOf t) fun ev => ¬ s'.AcquiredBefore t m ev :=
      (hmark u hu).mono fun ev hev hb => hev (hb.of_step hs)
    rcases step_hub hs i with ⟨he, -⟩ | ⟨hl, hmove, hh⟩
    · rw [he, hu] at hu'
      cases hu'
      exact hmark
    · obtain ⟨u₁, hu₁, hm⟩ := Hub.step_move hh hu
      rw [hu'] at hu₁
      cases hu₁
      refine hmark.move hm (by exact RegistryEventType.noConfusion) (by rwa [htf, hrf]) ?_ ?_ ?_
      · intro ev record hev hb
        have hty : ev.type = .leaseAcquired := RegistryEvent.reread_type ev record ▸ hb.1.1
        rw [RegistryEvent.reread_of_ne (by rw [hty]; exact RegistryEventType.noConfusion)] at hb
        exact hev hb
      · exact fun ev hev hb => ht.plain i ev hev hb.1.1
      · rintro ev rfl hb
        rcases (hubMove_acquired hmove).2 ev rfl with hty | ⟨-, we, hwe, hev⟩
        · exact hty hb.1.1
        · -- it is reported after the delete
          refine (hb.of_step hs).2 we (List.mem_of_getElem? (i := (s.cluster.insts i).watched - m) ?_) hev
          rw [List.getElem?_drop, Nat.add_sub_cancel' (Nat.le_trans h.after (Nat.le_of_lt hlt))]
          exact hwe

/-- A `lease_acquired` from before the lease's key was deleted is followed by a `lease_released` if and only if the
watch does not filter by relay. -/
theorem acquired_followed_iff {w₂ : Watch} (h : Unlocked repo sessionTTL store i t m s)
    (hd : Drains repo sessionTTL i k s s₂) (hw : (s.hubs i).watches[k]? = some w)
    (hw₂ : (s₂.hubs i).watches[k]? = some w₂) (hsent : ∃ ev ∈ w₂.sent, s₂.AcquiredBefore t m ev) :
    Followed (s₂.AcquiredBefore t m) (RegistryEvent.ReleasesTunnel t) w₂.sent ↔ w₂.relayFilter = "" := by
  obtain ⟨⟨ls, s₀, l, s₁, ls', hrun, hs, hin, hout, rfl, hrun'⟩, hahead⟩ := h
  obtain ⟨⟨ls₂, hrest⟩, hidle, hwatched⟩ := hd
  have htold₀ := run_told (told_new store) hrun
  have htold := run_told (htold₀.step hs) hrun'
  have htold₂ := run_told htold hrest
  have hmem := List.mem_of_getElem? hw₂
  obtain ⟨u, -, hu, htf, hrf, -⟩ := hub_since hrest (Hub.since_self hw trivial)
  rw [hw₂] at hu
  cases hu
  constructor
  · intro hf
    obtain ⟨ev, hev, hb⟩ := hsent
    obtain ⟨pre, post, hsplit⟩ := List.mem_iff_append.1 hev
    obtain ⟨ev', hev', hty, hl⟩ := hf pre ev post hsplit hb
    have hev' : ev' ∈ w₂.sent := by simp [hsplit, hev']
    obtain ⟨lease, hlease, -⟩ := Option.map_eq_some_iff.1 hl
    have hm := htold₂.filtered i w₂ hmem ev' hev'
    rw [matches_lease _ _ hlease (.inr hty), ((htold₂.nameless i).sent w₂ hmem ev' hev').2 hty lease hlease,
      Bool.and_eq_true] at hm
    exact passes_bare.1 hm.2
  · intro hr
    obtain ⟨ev, hev, ⟨hty, hl⟩, -⟩ := hsent
    obtain ⟨lease, hlease, rfl⟩ := Option.map_eq_some_iff.1 hl
    have hpass : matchesDomainEvent (releasedOf lease.tunnelID) w.tunnelFilter w.relayFilter = true := by
      have hf := htold₂.filtered i w₂ hmem ev hev
      rw [matches_lease _ _ hlease (.inl hty), Bool.and_eq_true] at hf
      rw [matches_lease _ _ rfl (.inr rfl), ← hrf, ← htf, hr, passes_empty, Bool.and_true]
      exact hf.1
    obtain ⟨j, hdel, hle⟩ := delete_logged hs hin hout
    obtain ⟨evs, hlog⟩ : ∃ evs, s.cluster.etcd.events = s₁.cluster.etcd.events ++ evs :=
      hrun'.inv (fun s => ∃ evs, s.cluster.etcd.events = s₁.cluster.etcd.events ++ evs) ⟨[], by simp⟩ (by
        rintro _ _ _ ⟨evs, he⟩ - hst
        obtain ⟨evs', he', -⟩ := step_logged hst
        exact ⟨evs ++ evs', by rw [he', he, List.append_assoc]⟩)
    have h₁ : s.Reported i k s₀.cluster.etcd.events.length j w lease.tunnelID := by
      refine ⟨?_, hle, Hub.since_self hw trivial, .inl (Nat.le_trans hahead hle)⟩
      rw [hlog, List.getElem?_append_left (List.getElem?_eq_some_iff.1 hdel).1]
      exact hdel
    have h₂ := (hrest.inv (fun s => s.Told ∧ s.Reported i k s₀.cluster.etcd.events.length j w lease.tunnelID)
      ⟨htold, h₁⟩ fun _ _ _ ⟨ht, hrep⟩ hr hst => ⟨ht.step hst, hrep.step hpass ht hr hst⟩).2
    rcases h₂.ahead with hle₂ | ⟨-, hmark⟩
    · -- nothing is ahead of the process any more
      have hj := (List.getElem?_eq_some_iff.1 h₂.event).1
      rw [hwatched] at hle₂
      exact absurd hj (Nat.not_lt.2 hle₂)
    · exact (hmark w₂ hw₂).followed (hidle.drained w₂ hw₂) ⟨rfl, rfl⟩ fun hb => by cases hb.1.1

end Removals

end EtcdNodes

/-! ## Which removals a filtered watch sees -/

theorem not_followed_of_last {p q : RegistryEvent → Prop} {events : List RegistryEvent}
    (h : ∃ ev ∈ events.getLast?, p ev) : ¬ Followed p q events := by
  obtain ⟨ev, hev, hp⟩ := h
  obtain ⟨front, rfl⟩ := List.getLast?_eq_some_iff.1 hev
  intro hf
  obtain ⟨ev', hev', -⟩ := hf front ev [] rfl hp
  cases hev'

/-- A watch that was told of a tunnel is told of its deregistration if and only if
it does not filter by relay, with either coordinator. With the `MemCoordinator`
every `lease_acquired` that a watch delivers of a lease that is released, by
`ReleaseLease` or by the sweep, is followed by a `lease_released`, whatever its
filters, if that is published after them. Over etcd every `lease_acquired` from
before the lease's key was deleted is followed by one if and only if the watch does
not filter by relay. -/
theorem filtered_watch_sees_removals_iff {σ : Type} (repo : SessionRepository σ) (sessionTTL : Duration) (ids : UUIDs)
    (store : σ) :
    (∀ n n₁ n₂ k w now t,
      Node.Settles repo sessionTTL ids store k (fun _ _ => true) (.tunnel (.deregisterTunnel now t)) n n₁ n₂ →
      n.hub.watches[k]? = some w → (∃ ev ∈ w.sent, ev.Upserts t) →
      (n.server.deregisterTunnel repo now t).2 = .ok () →
      (n.hub.Delivered k (RegistryEvent.Deletes t) n₂.hub ↔ w.relayFilter = "")) ∧
    (∀ n n₁ n₂ k w op id,
      Node.Settles repo sessionTTL ids store k (Node.releasesLast id) (.coord op) n n₁ n₂ →
      (op = .releaseLease id ∨ ∃ now, op = .releaseExpiredLeases now) →
      n.table.lookup id ≠ none → n₁.table.lookup id = none → n₂.hub.watches[k]? = some w →
      Followed (RegistryEvent.Acquires id) (RegistryEvent.Releases id) w.sent) ∧
    (∀ s s₁ s₂ i k w now t answers,
      EtcdNodes.Settles repo sessionTTL store i k (.tunnel i (.deregisterTunnel now t) answers) s s₁ s₂ →
      (s.hubs i).watches[k]? = some w → (∃ ev ∈ w.sent, ev.Upserts t) → (repo.deregister s.store now t).2 = .ok () →
      ((s.hubs i).Delivered k (RegistryEvent.Deletes t) (s₂.hubs i) ↔ w.relayFilter = "")) ∧
    ∀ s s₂ i k w w₂ t m, EtcdNodes.Unlocked repo sessionTTL store i t m s →
      EtcdNodes.Drains repo sessionTTL i k s s₂ → (s.hubs i).watches[k]? = some w →
      (s₂.hubs i).watches[k]? = some w₂ → (∃ ev ∈ w₂.sent, s₂.AcquiredBefore t m ev) →
      (Followed (s₂.AcquiredBefore t m) (RegistryEvent.ReleasesTunnel t) w₂.sent ↔ w₂.relayFilter = "") :=
  ⟨fun _ _ _ _ _ _ _ h hw hsent hok => Node.deleted_delivered_iff h hw hsent hok,
    fun _ _ _ _ _ _ _ h hop hin hout hw => Node.acquired_followed h hop hin hout hw,
    fun _ _ _ _ _ _ _ _ _ h hw hsent hok => EtcdNodes.deleted_delivered_iff h hw hsent hok,
    fun _ _ _ _ _ _ _ _ h hd hw hw₂ hsent => EtcdNodes.acquired_followed_iff h hd hw hw₂ hsent⟩

/-- A leased tunnel is registered under the eyes of a watch with a relay filter. -/
def registersOwned (relayFilter : String) : List NodeLabel :=
  [.watch "" relayFilter false, .coord (.acquireLease 0 ⟨"t-a", "r1", second⟩),
    .tunnel (.registerTunnel 1 "t-a" "a" "" ""), .publish 0, .publish 1, .recv 0 none, .recv 0 none]

/-- A lease is acquired under the eyes of a watch for its relay, and renewed. The renewal is still to be published. -/
def renewsOwned : List NodeLabel :=
  [.watch "" "r1" false, .coord (.acquireLease 0 ⟨"t-a", "r1", second⟩), .publish 0, .recv 0 none,
    .coord (.renewLease 1 "u" second)]

/-- A lease is acquired under the eyes of a watch with a relay filter, and is about to be revoked. -/
def acquiresOwned (relayFilter : String) : List EtcdLabel :=
  [.watch 0 "" relayFilter false, .cluster (.invoke 0 0 (.acquire ⟨"t-a", "r1", second⟩ "u")),
    .cluster (.send 0 0 .ok), .cluster (.send 0 0 .ok), .cluster (.send 0 0 .ok), .cluster (.watch 0), .recv 0 0 none,
    .cluster (.invoke 1 0 (.release "u")), .cluster (.send 1 1 .ok)]

/-- A tunnel of relay `r1` that the watch was told of is deregistered. -/
structure OwnedDeregistered (relayFilter : String) (n n₁ n₂ : Node Memory) (w : Watch) : Prop where
  settles :
    Node.Settles Memory.repo second .sample ∅ 0 (fun _ _ => true) (.tunnel (.deregisterTunnel 2 "t-a")) n n₁ n₂
  watch : n.hub.watches[0]? = some w
  filter : w.relayFilter = relayFilter
  told : ∃ ev ∈ w.sent, ev.Upserts "t-a"
  owner : (n.server.store.lookup "t-a").map Session.ownerRelayID = some "r1"
  ok : (n.server.deregisterTunnel Memory.repo 2 "t-a").2 = .ok ()

/-- The key of a lease of `r1` that the watch was told of is deleted. -/
structure OwnedRevoked (relayFilter : String) (s s₂ : EtcdNodes Memory) (w w₂ : Watch) (m : Nat) : Prop where
  unlocked : EtcdNodes.Unlocked Memory.repo second ∅ 0 "t-a" m s
  drains : EtcdNodes.Drains Memory.repo second 0 0 s s₂
  before : (s.hubs 0).watches[0]? = some w
  watch : (s₂.hubs 0).watches[0]? = some w₂
  filter : w₂.relayFilter = relayFilter
  told : ∃ ev ∈ w₂.sent, s₂.AcquiredBefore "t-a" m ev ∧ ev.lease.map Lease.relayID = some "r1"

theorem deregisters_owned (relayFilter : String) (h : relayFilter = "" ∨ relayFilter = "r1") :
    ∃ n n₁ n₂ w, OwnedDeregistered relayFilter n n₁ n₂ w := by
  obtain ⟨n, n₁, n₂, hr, hs, hr', hi, ⟨w, hw, hrf, hsent⟩, hown, hok⟩ := run_step_any
    (Node.step Memory.repo second .sample) (fun n l => n.roomy 0 l && true) (.new ∅) (registersOwned relayFilter)
    (.tunnel (.deregisterTunnel 2 "t-a")) [.publish 2, .recv 0 none]
    (P := fun n _ n₂ => n₂.hub.Idle 0 ∧
      (∃ w ∈ n.hub.watches[0]?, w.relayFilter = relayFilter ∧ ∃ ev ∈ w.sent, ev.Upserts "t-a") ∧
      (n.server.store.lookup "t-a").map Session.ownerRelayID = some "r1" ∧
      (n.server.deregisterTunnel Memory.repo 2 "t-a").2.isOk = true)
    (by rcases h with rfl | rfl <;> decide +kernel)
  refine ⟨n, n₁, n₂, w, ⟨⟨_, hr⟩, hs, ⟨_, hr'⟩, hi⟩, hw, hrf, hsent, hown, ?_⟩
  cases hd : (n.server.deregisterTunnel Memory.repo 2 "t-a").2 with
  | ok u => rfl
  | error e => rw [hd] at hok; cases hok

theorem revokes_owned (relayFilter : String) (h : relayFilter = "" ∨ relayFilter = "r1") :
    ∃ s s₂ w w₂ m, OwnedRevoked relayFilter s s₂ w w₂ m := by
  obtain ⟨s, s₁, s₂, hr, hs, hr', hi, hwatched, hin, hout, hahead, hw, w₂, hw₂, hrf, hsent⟩ := run_step_any
    (EtcdNodes.step Memory.repo second) (EtcdNodes.roomy Memory.repo second 0 0) (.new ∅) (acquiresOwned relayFilter)
    (.cluster (.send 1 2 .ok)) [.cluster (.watch 0), .recv 0 0 none]
    (P := fun s s₁ s₂ => (s₂.hubs 0).Idle 0 ∧ (s₂.cluster.insts 0).watched = s₂.cluster.etcd.events.length ∧
      s.cluster.etcd.kvs.lookup (leaseKey "t-a") ≠ none ∧ s₁.cluster.etcd.kvs.lookup (leaseKey "t-a") = none ∧
      (s₁.cluster.insts 0).watched ≤ s.cluster.etcd.events.length ∧ (s₁.hubs 0).watches[0]?.isSome = true ∧
      ∃ w₂ ∈ (s₂.hubs 0).watches[0]?, w₂.relayFilter = relayFilter ∧
        ∃ ev ∈ w₂.sent, s₂.AcquiredBefore "t-a" s.cluster.etcd.events.length ev ∧
          ev.lease.map Lease.relayID = some "r1")
    (by rcases h with rfl | rfl <;> decide +kernel)
  obtain ⟨w, hw⟩ := Option.isSome_iff_exists.1 hw
  exact ⟨s₁, s₂, w, w₂, _, ⟨⟨_, s, _, s₁, [], hr, hs, hin, hout, rfl, .nil⟩, hahead⟩, ⟨⟨_, hr'⟩, hi, hwatched⟩, hw, hw₂,
    hrf, hsent⟩

/-- A watch without filters sees the tunnel deregistered and, over etcd, the lease
revoked; one for relay `r1` sees the lease released by the `MemCoordinator`, after the renewal. -/
theorem filtered_watch_sees_removals_one_tunnel :
    (∃ n n₁ n₂ w, OwnedDeregistered "" n n₁ n₂ w ∧ n.hub.Delivered 0 (RegistryEvent.Deletes "t-a") n₂.hub) ∧
    (∃ n n₁ n₂ w,
      Node.Settles Memory.repo second .sample ∅ 0 (Node.releasesLast "u") (.coord (.releaseLease "u")) n n₁ n₂ ∧
      n₂.hub.watches[0]? = some w ∧ w.relayFilter = "r1" ∧ (w.sent.countP fun ev => ev.Acquires "u") = 2 ∧
      Followed (RegistryEvent.Acquires "u") (RegistryEvent.Releases "u") w.sent) ∧
    ∃ s s₂ w w₂ m, OwnedRevoked "" s s₂ w w₂ m ∧
      Followed (s₂.AcquiredBefore "t-a" m) (RegistryEvent.ReleasesTunnel "t-a") w₂.sent := by
  obtain ⟨hdel, hrel, -, hetcd⟩ := filtered_watch_sees_removals_iff Memory.repo second .sample ∅
  refine ⟨?_, ?_, ?_⟩
  · obtain ⟨n, n₁, n₂, w, h⟩ := deregisters_owned "" (.inl rfl)
    exact ⟨n, n₁, n₂, w, h, (hdel n n₁ n₂ 0 w 2 "t-a" h.settles h.watch h.told h.ok).2 h.filter⟩
  · obtain ⟨n, n₁, n₂, hr, hs, hr', hi, ⟨w, hw, hrf, hsent⟩, hin, hout⟩ := run_step_any
      (Node.step Memory.repo second .sample) (fun n l => n.roomy 0 l && n.releasesLast "u" l) (.new ∅) renewsOwned
      (.coord (.releaseLease "u")) [.publish 1, .publish 2, .recv 0 none, .recv 0 none]
      (P := fun n n₁ n₂ => n₂.hub.Idle 0 ∧
        (∃ w ∈ n₂.hub.watches[0]?, w.relayFilter = "r1" ∧ (w.sent.countP fun ev => ev.Acquires "u") = 2) ∧
        n.table.lookup "u" ≠ none ∧ n₁.table.lookup "u" = none)
      (by decide +kernel)
    have hset : Node.Settles Memory.repo second .sample ∅ 0 (Node.releasesLast "u") (.coord (.releaseLease "u")) n n₁
        n₂ := ⟨⟨_, hr⟩, hs, ⟨_, hr'⟩, hi⟩
    exact ⟨n, n₁, n₂, w, hset, hw, hrf, hsent, hrel n n₁ n₂ 0 w _ "u" hset (.inl rfl) hin hout hw⟩
  · obtain ⟨s, s₂, w, w₂, m, h⟩ := revokes_owned "" (.inl rfl)
    obtain ⟨ev, hev, hacq, -⟩ := h.told
    exact ⟨s, s₂, w, w₂, m, h,
      (hetcd s s₂ 0 0 w w₂ "t-a" m h.unlocked h.drains h.before h.watch ⟨ev, hev, hacq⟩).2 h.filter⟩

/-- A watch for relay `r1` is told of a tunnel of `r1` and not of its deregistration, with room in its channel and
everything published and read. Over etcd the same happens with a lease of `r1`. With the `MemCoordinator` the renewal
of a lease is published after its release, and the `lease_acquired` comes last. -/
theorem owned_removals_not_delivered :
    (∃ n n₁ n₂ w, OwnedDeregistered "r1" n n₁ n₂ w ∧ ¬ n.hub.Delivered 0 (RegistryEvent.Deletes "t-a") n₂.hub) ∧
    (∃ s s₂ w w₂ m, OwnedRevoked "r1" s s₂ w w₂ m ∧
      ¬ Followed (s₂.AcquiredBefore "t-a" m) (RegistryEvent.ReleasesTunnel "t-a") w₂.sent) ∧
    ∃ n n₁ n₂ w,
      Node.Settles Memory.repo second .sample ∅ 0 (fun _ _ => true) (.coord (.releaseLease "u")) n n₁ n₂ ∧
      n.table.lookup "u" ≠ none ∧ n₁.table.lookup "u" = none ∧ n₂.hub.watches[0]? = some w ∧ w.relayFilter = "r1" ∧
      ¬ Followed (RegistryEvent.Acquires "u") (RegistryEvent.Releases "u") w.sent := by
  have hne : ("r1" : String) ≠ "" := by decide
  refine ⟨?_, ?_, ?_⟩
  · obtain ⟨n, n₁, n₂, w, h⟩ := deregisters_owned "r1" (.inr rfl)
    refine ⟨n, n₁, n₂, w, h, fun hd => hne (h.filter.symm.trans ?_)⟩
    exact (Node.deleted_delivered_iff h.settles h.watch h.told h.ok).1 hd
  · obtain ⟨s, s₂, w, w₂, m, h⟩ := revokes_owned "r1" (.inr rfl)
    obtain ⟨ev, hev, hacq, -⟩ := h.told
    refine ⟨s, s₂, w, w₂, m, h, fun hf => hne (h.filter.symm.trans ?_)⟩
    exact (EtcdNodes.acquired_followed_iff h.unlocked h.drains h.before h.watch ⟨ev, hev, hacq⟩).1 hf
  · obtain ⟨n, n₁, n₂, hr, hs, hr', hi, hin, hout, w, hw, hrf, hlast⟩ := run_step_any
      (Node.step Memory.repo second .sample) (fun n l => n.roomy 0 l && true) (.new ∅) renewsOwned
      (.coord (.releaseLease "u")) [.publish 2, .publish 1, .recv 0 none, .recv 0 none]
      (P := fun n n₁ n₂ => n₂.hub.Idle 0 ∧ n.table.lookup "u" ≠ none ∧ n₁.table.lookup "u" = none ∧
        ∃ w ∈ n₂.hub.watches[0]?, w.relayFilter = "r1" ∧ ∃ ev ∈ w.sent.getLast?, ev.Acquires "u")
      (by decide +kernel)
    exact ⟨n, n₁, n₂, w, ⟨⟨_, hr⟩, hs, ⟨_, hr'⟩, hi⟩, hin, hout, hw, hrf, not_followed_of_last hlast⟩

end TunnelEdge.Registry
