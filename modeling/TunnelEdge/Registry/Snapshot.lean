import TunnelEdge.Registry.Node
/-!
# What a new watch is sent

With `include_existing` a `Watch` first sends a snapshot, which filters sessions,
leases, relays and health reports by hand, each in its own way; everything
later goes through `matchesDomainEvent`. The two agree on every state a process
can reach. The loop over the sessions deletes expired leases on its way, which
changes neither the owners it reports for other sessions nor the leases the
snapshot lists.
-/

namespace TunnelEdge.Registry

open GoLib Store

/-! ## Looks at the same time do not disturb each other -/

namespace MemCoordinator

variable {m : MemCoordinator}

theorem currentLease_after (hi : m.Inv) (now : Time) (t t' : String) :
    ((m.currentLease now t).1.currentLease now t').2 = (m.currentLease now t').2 := by
  rcases currentLeaseLocked_cases hi t now with ⟨l, -, -, hc⟩ | ⟨l, hl, he, hc⟩ | ⟨-, hc⟩
  · rw [show m.currentLease now t = _ from hc]
  · rw [show m.currentLease now t = _ from hc]
    -- the lease that goes has expired, so it was not reported before either
    rw [currentLease_eq (inv_drop hi hl.1), currentLease_eq hi, leaseOf_drop hi hl.1]
    split
    · rename_i ht
      rw [ht, (leaseOf_eq_some hi).2 ⟨hl.1, rfl⟩, Option.filter_some, if_neg (by simpa using he)]
      rfl
    · rfl
  · rw [show m.currentLease now t = _ from hc]

theorem snapshot_after (hi : m.Inv) (rh : GoMap String RelayHealth) (now : Time) (t tf rf : String) :
    (m.currentLease now t).1.snapshot rh now tf rf = m.snapshot rh now tf rf := by
  rcases currentLeaseLocked_cases hi t now with ⟨l, -, -, hc⟩ | ⟨l, hl, he, hc⟩ | ⟨-, hc⟩
  · rw [show m.currentLease now t = _ from hc]
  · rw [show m.currentLease now t = _ from hc]
    simp only [snapshot, drop]
    rw [GoMap.values_erase]
    intro v hv
    rw [hl.1] at hv
    cases hv
    simp [he]
  · rw [show m.currentLease now t = _ from hc]

/-! ## The coordinator's half -/

theorem snapshot_leases (now : Time) (tf rf : String) :
    ((GoMap.values (fun _ lease => !(lease.expiresAt < now) && passes "" lease.tunnelID &&
        passes "" lease.relayID) m.leasesByID).map RegistryEvent.acquired).filter (matchesDomainEvent · tf rf) =
      (GoMap.values (fun _ lease => !(lease.expiresAt < now) && passes tf lease.tunnelID &&
        passes rf lease.relayID) m.leasesByID).map RegistryEvent.acquired := by
  have hm : ∀ l, matchesDomainEvent (.acquired l) tf rf = (passes tf l.tunnelID && passes rf l.relayID) :=
    fun l => matches_lease tf rf rfl (.inl rfl)
  rw [List.filter_map, GoMap.filter_values]
  congr 2
  funext _ l
  simp only [Function.comp_apply, hm, passes_empty, Bool.and_true]
  rw [Bool.and_comm, Bool.and_assoc]

theorem snapshot_relays (tf rf : String) :
    ((GoMap.values (fun _ relay => passes "" relay.relayID) m.relays).map RegistryEvent.relayUpserted).filter
        (matchesDomainEvent · tf rf) =
      (GoMap.values (fun _ relay => passes rf relay.relayID) m.relays).map RegistryEvent.relayUpserted := by
  have hm : ∀ r, matchesDomainEvent (.relayUpserted r) tf rf = passes rf r.relayID :=
    fun r => matches_relay tf rf rfl (.inl rfl)
  rw [List.filter_map, GoMap.filter_values]
  congr 2
  funext _ r
  simp only [Function.comp_apply, hm, passes_empty, Bool.and_true]

/-- The snapshot picks health reports by their key and `matchesDomainEvent` by
the relay beside them, which is there and has that key as its id. -/
theorem snapshot_health {rh : GoMap String RelayHealth} (hr : m.RelayTable rh) (tf rf : String) :
    ((rh.entries.filter fun e => passes "" e.1).map fun e =>
        RegistryEvent.healthUpdated (m.relays.lookup e.1) e.2).filter (matchesDomainEvent · tf rf) =
      (rh.entries.filter fun e => passes rf e.1).map fun e =>
        RegistryEvent.healthUpdated (m.relays.lookup e.1) e.2 := by
  have hm : ∀ e ∈ rh.entries,
      matchesDomainEvent (.healthUpdated (m.relays.lookup e.1) e.2) tf rf = passes rf e.1 := by
    intro e he
    obtain ⟨info, hinfo⟩ := hr.reported e.1 e.2 ((GoMap.mem_entries_iff rh e.1 e.2).1 he)
    rw [matches_relay tf rf hinfo (.inr rfl), hr.own e.1 info hinfo]
  rw [List.filter_map, List.filter_filter]
  refine congrArg _ (List.filter_congr fun e he => ?_)
  simp only [Function.comp_apply, hm e he, passes_empty, Bool.and_true]

theorem snapshot_filtered {rh : GoMap String RelayHealth} (hr : m.RelayTable rh) (now : Time) (tf rf : String) :
    (m.snapshot rh now "" "").filter (matchesDomainEvent · tf rf) = m.snapshot rh now tf rf := by
  unfold snapshot
  rw [List.filter_append, List.filter_append, snapshot_leases, snapshot_relays, snapshot_health hr]

end MemCoordinator

/-! ## The sessions' half -/

namespace Server

variable {σ : Type} {repo : SessionRepository σ} {s : Server σ}

/-- A session with the owner that `CurrentLease` reports. -/
def shown (coord : MemCoordinator) (now : Time) (sess : Session) : Session :=
  match (coord.currentLease now sess.tunnelID).2 with
  | none => sess
  | some lease => { sess with ownerRelayID := lease.relayID, leaseID := lease.leaseID }

theorem shown_tunnelID (coord : MemCoordinator) (now : Time) (sess : Session) :
    (shown coord now sess).tunnelID = sess.tunnelID := by
  unfold shown
  split <;> rfl

theorem refresh_shown (s : Server σ) (now : Time) (sess : Session) :
    (s.refresh repo now sess).2 = shown s.coord now sess := by
  unfold refresh shown
  split <;> rename_i hc <;> rw [hc]

theorem refreshAll_shown (hi : s.coord.Inv) (now : Time) (sessions : List Session) :
    (s.refreshAll repo now sessions).2 = sessions.map (shown s.coord now) := by
  induction sessions generalizing s with
  | nil => rfl
  | cons sess rest ih =>
    have hi' : (s.refresh repo now sess).1.coord.Inv := by
      rw [refresh_coord]
      rcases MemCoordinator.currentLeaseLocked_cases hi sess.tunnelID now with
        ⟨l, -, -, hc⟩ | ⟨l, hl, -, hc⟩ | ⟨-, hc⟩ <;> rw [MemCoordinator.currentLease, hc]
      · exact hi
      · exact MemCoordinator.inv_drop hi hl.1
      · exact hi
    have hrest : shown (s.refresh repo now sess).1.coord now = shown s.coord now := by
      funext sess'
      rw [refresh_coord]
      unfold shown
      rw [MemCoordinator.currentLease_after hi]
    rw [refreshAll_cons, ih hi', refresh_shown, hrest, List.map_cons]

theorem refreshAll_snapshot {ids : UUIDs} {d : Nat} (hl : Leases ids.draw d s.coord) (rh : GoMap String RelayHealth)
    (now : Time) (sessions : List Session) (tf rf : String) :
    (s.refreshAll repo now sessions).1.coord.snapshot rh now tf rf = s.coord.snapshot rh now tf rf := by
  refine (refreshAll_coord (P := fun m => Leases ids.draw d m ∧ m.snapshot rh now tf rf = s.coord.snapshot rh now tf rf)
    (fun m t hm => ⟨hm.1.currentLease now t, ?_⟩) sessions ⟨hl, rfl⟩).2
  rw [MemCoordinator.snapshot_after hm.1.inv]
  exact hm.2

theorem sendSnapshot_events {ids : UUIDs} {d : Nat} (hl : Leases ids.draw d s.coord) (rh : GoMap String RelayHealth)
    (now : Time) (tf rf : String) :
    (s.sendSnapshot repo rh now tf rf).2 =
      (((repo.list s.store).map (shown s.coord now)).filter fun sess =>
        passes tf sess.tunnelID && passes rf sess.ownerRelayID).map .upserted ++
      s.coord.snapshot rh now tf rf := by
  show (((s.refreshAll repo now _).2).filter _).map _ ++ (s.refreshAll repo now _).1.coord.snapshot rh now tf rf = _
  rw [refreshAll_snapshot hl, refreshAll_shown hl.inv]
  congr 2
  rw [List.filter_map, List.filter_map, List.filter_filter]
  refine congrArg _ (List.filter_congr fun sess _ => ?_)
  simp only [Function.comp_apply, shown_tunnelID, Bool.and_comm]

theorem sendSnapshot_filtered {ids : UUIDs} {d : Nat} {rh : GoMap String RelayHealth} (hl : Leases ids.draw d s.coord)
    (hr : s.coord.RelayTable rh) (now : Time) (tf rf : String) :
    (s.sendSnapshot repo rh now tf rf).2 =
      (s.sendSnapshot repo rh now "" "").2.filter (matchesDomainEvent · tf rf) := by
  have hm : ∀ sess, matchesDomainEvent (.upserted sess) tf rf =
      (passes tf sess.tunnelID && passes rf sess.ownerRelayID) := fun sess => matches_tunnel tf rf rfl (.inl rfl)
  rw [sendSnapshot_events hl, sendSnapshot_events hl, List.filter_append, MemCoordinator.snapshot_filtered hr]
  congr 1
  generalize (repo.list s.store).map (shown s.coord now) = sessions
  rw [List.filter_map, List.filter_filter]
  simp only [Function.comp_def, hm, passes_empty, Bool.and_true]

theorem sendSnapshot_matches {ids : UUIDs} {d : Nat} {rh : GoMap String RelayHealth} (hl : Leases ids.draw d s.coord)
    (hr : s.coord.RelayTable rh) {now : Time} {tf rf : String} {ev : RegistryEvent}
    (h : ev ∈ (s.sendSnapshot repo rh now tf rf).2) : matchesDomainEvent ev tf rf = true := by
  rw [sendSnapshot_filtered hl hr] at h
  exact (List.mem_filter.1 h).2

end Server

/-! ## Snapshots of a running process -/

/-- In every state that a process over the memory store reaches, the snapshot
with filters is, as a multiset, the snapshot without filters as
`matchesDomainEvent` would let it through. -/
theorem snapshot_agrees_with_filter (ids : UUIDs) (sessionTTL : Duration) {ls : List NodeLabel} {n : Node Memory}
    (hrun : Run (Node.step Memory.repo sessionTTL ids) (fun _ _ => True) (.new ∅) ls n) (now : Time)
    (tunnelFilter relayFilter : String) :
    (n.server.sendSnapshot Memory.repo n.relayHealth now tunnelFilter relayFilter).2.Perm
      ((n.server.sendSnapshot Memory.repo n.relayHealth now "" "").2.filter
        (matchesDomainEvent · tunnelFilter relayFilter)) := by
  have hb := Node.run_base (Node.base_new ids ∅) hrun
  rw [Server.sendSnapshot_filtered hb.leases hb.relays]

theorem us_injective : Function.Injective fun k : Nat => String.ofList (List.replicate (k + 1) 'u') :=
  ofList_replicate_injective 'u'

theorem us_ne (k : Nat) : String.ofList (List.replicate (k + 1) 'u') ≠ "" := ofList_replicate_ne 'u' k

/-- Ids that a run can be computed with. -/
def UUIDs.sample : UUIDs where
  draw k := String.ofList (List.replicate (k + 1) 'u')
  inj := us_injective
  ne := us_ne

def twoRelays : List NodeLabel :=
  [.coord (.acquireLease 0 ⟨"t1", "r1", second⟩), .tunnel (.registerTunnel 1 "t1" "a1" "" ""),
    .tunnel (.registerTunnel 2 "t2" "a2" "" ""), .coord (.reportRelayHealth 3 "r1" "10.0.0.1" {}),
    .coord (.reportRelayHealth 4 "r2" "10.0.0.2" {})]

/-- Relay `r1` is sent four of the seven events. -/
theorem snapshot_agrees_with_filter_two_relays :
    ∃ n, Run (Node.step Memory.repo second UUIDs.sample) (fun _ _ => True) (.new ∅) twoRelays n ∧
      (n.server.sendSnapshot Memory.repo n.relayHealth 5 "" "").2.length = 7 ∧
      (n.server.sendSnapshot Memory.repo n.relayHealth 5 "" "r1").2.length = 4 ∧
      (n.server.sendSnapshot Memory.repo n.relayHealth 5 "" "r1").2.Perm
        ((n.server.sendSnapshot Memory.repo n.relayHealth 5 "" "").2.filter (matchesDomainEvent · "" "r1")) := by
  obtain ⟨n, hr, h7, h4⟩ := run_any (P := fun n : Node Memory =>
    (n.server.sendSnapshot Memory.repo n.relayHealth 5 "" "").2.length = 7 ∧
      (n.server.sendSnapshot Memory.repo n.relayHealth 5 "" "r1").2.length = 4)
    (show (exec (Node.step Memory.repo second UUIDs.sample) (.new ∅) twoRelays).any _ = true by decide +kernel)
  exact ⟨n, hr, h7, h4, snapshot_agrees_with_filter UUIDs.sample second hr 5 "" "r1"⟩

end TunnelEdge.Registry
