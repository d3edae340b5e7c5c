import TunnelEdge.Gateway.Renewal
import TunnelEdge.Gateway.Resume
/-!
# The lease of a resumed tunnel

While a tunnel is suspended nobody renews its lease: `heartbeatLoop` has ended with
the connection. A resume within `sessionResumeTTL` finds the entry, attaches the new
connection and answers, without asking the registry for the lease; whether it is
still there depends on how its TTL, the last renewal and the resume happen to lie.

A run is followed with the time at which the gateway last acquired or renewed each
lease. An answer within the TTL from then on is right (`resumed_lease_owned`), as
long as nobody releases a lease that an entry, or a handshake on its way to one,
still has.
-/

namespace TunnelEdge.Gateway

open GoLib Store Registry

variable {σ : Type} {env : Env σ} {w w' : World σ} {c : ConnID} {r : Role} {fate : Fate} {p q : Pc} {g t id : String}
  {granted : String → Option Time}

/-! ## The last request for a lease -/

def World.grant (env : Env σ) (w : World σ) (c : ConnID) (fate : Fate) : Pc → Option Lease
  | .acquire a => w.acquisition env c fate a
  | .renew _ leaseID => (w.request fate (·.renewLease w.now leaseID (env.config (w.home c)).leaseTTL)).2
  | _ => none

/-- When `g` last acquired or renewed each lease. -/
def grantedAt (env : Env σ) (g : String) (w : World σ) (l : Label) (_ : World σ) (granted : String → Option Time) :
    String → Option Time :=
  match l with
  | .run c r fate =>
    match w.grant env c fate (w.pc c r) with
    | some l => if w.home c = g then Function.update granted l.leaseID (some w.now) else granted
    | none => granted
  | _ => granted

/-- `g` answers a resume of `t` only while it has an entry for `t`, within the TTL from the last request for its
lease. No goroutine releases a lease that this entry or another goroutine has. -/
def withinTTL (env : Env σ) (g t : String) (s : World σ × (String → Option Time)) : Label → Bool
  | .run c r _ =>
    match s.1.pc c r with
    | .reply t' _ => t' ≠ t || s.1.home c ≠ g ||
        (s.1.leaseOf g t).any fun leaseID => (s.2 leaseID).any fun at_ =>
          s.1.now ≤ at_ + Server.wireTTL (env.config g).leaseTTL
    | .unlease leaseID | .release _ leaseID _ => s.1.leaseOf g t ≠ some leaseID &&
        s.1.conns.all fun c' => [Role.main, .beat, .timer].all fun r' =>
          (c' = c && r' = r) || (s.1.pc c' r').held ≠ some leaseID
    | _ => true
  | _ => true

/-! ## A granted lease is in the registry -/

theorem acquireLease_stored {s : Server σ} (hi : s.coord.Inv) {now : Time} {fresh : String} {req : LeaseRequest}
    {l : Lease} (h : (s.acquireLease now fresh req).2 = .ok l) :
    ∃ l', (s.acquireLease now fresh req).1.coord.leasesByID.lookup l.leaseID = some l' ∧
      l'.expiresAt = now + Server.wireTTL req.ttl := by
  simp only [Server.acquireLease] at h ⊢
  have hc := MemCoordinator.acquireLease_cases hi now fresh { req with ttl := Server.wireTTL req.ttl }
  rcases hr : s.coord.acquireLease now fresh { req with ttl := Server.wireTTL req.ttl } with ⟨m, res⟩
  rw [hr] at hc h
  cases hc with
  | invalid | conflict => cases h
  | extend | grant =>
    cases h
    exact ⟨_, (MemCoordinator.putLease_leases ..).trans (if_pos rfl), rfl⟩

theorem renewLease_stored {s : Server σ} (hi : s.coord.Inv) {now : Time} {ttl : Duration} {l : Lease}
    (h : (s.renewLease now id ttl).2 = .ok l) :
    ∃ l', (s.renewLease now id ttl).1.coord.leasesByID.lookup l.leaseID = some l' ∧
      l'.expiresAt = now + Server.wireTTL ttl := by
  simp only [Server.renewLease] at h ⊢
  rcases MemCoordinator.renewLease_cases hi now id (Server.wireTTL ttl) with ⟨s, hr, -⟩ | ⟨l₀, hl₀, -, hr⟩
  · rw [hr] at h
    cases h
  · rw [hr] at h ⊢
    cases h
    have hid : l₀.leaseID = id := (hi.ids id l₀ hl₀).1
    exact ⟨_, (congrArg (AList.lookup · _) hid).trans (AList.lookup_insert _), rfl⟩

theorem grant_lasts (hb : Base env w) {l : Lease} (h : w.grant env c fate (w.pc c r) = some l) :
    (w.ran env c r fate).Lasts l.leaseID (w.now + Server.wireTTL (env.config (w.home c)).leaseTTL) := by
  have hran : (w.ran env c r fate).server = (stepPc env w c r fate (w.pc c r)).1.server := rfl
  rw [World.Lasts, hran]
  cases hp : w.pc c r with
  | acquire a =>
    rw [hp] at h
    simp only [World.grant, World.acquisition] at h
    obtain ⟨rfl, hok⟩ := request_some h
    obtain ⟨l', hl', hexp⟩ := acquireLease_stored hb.leases.inv hok
    refine ⟨l', ?_, Int.le_of_eq hexp.symm⟩
    simp only [stepPc, stepHandshake, h]
    exact hl'
  | renew t leaseID =>
    rw [hp] at h
    simp only [World.grant] at h
    obtain ⟨rfl, hok⟩ := request_some h
    obtain ⟨l', hl', hexp⟩ := renewLease_stored hb.leases.inv hok
    refine ⟨l', ?_, Int.le_of_eq hexp.symm⟩
    simp only [stepPc, stepBeat, h]
    exact hl'
  | _ => rw [hp] at h; cases h

/-! ## No expiry lies further ahead than a TTL -/

theorem acquireLease_expiry {m : MemCoordinator} (hi : m.Inv) {now : Time} {fresh : String} {req : LeaseRequest}
    {l : Lease} (h : (m.acquireLease now fresh req).1.leasesByID.lookup id = some l) :
    m.leasesByID.lookup id = some l ∨ (l.relayID = req.relayID ∧ l.expiresAt = now + req.ttl) := by
  have hc := MemCoordinator.acquireLease_cases hi now fresh req
  rcases hr : m.acquireLease now fresh req with ⟨m₁, res⟩
  rw [hr] at hc h
  cases hc with
  | invalid | conflict => exact .inl h
  | extend l₀ _ hh _ hrelay =>
    rw [MemCoordinator.putLease_leases] at h
    split at h
    · cases h
      exact .inr ⟨rfl, rfl⟩
    · exact .inl h
  | grant m' _ hm =>
    rw [MemCoordinator.putLease_leases] at h
    split at h
    · cases h
      exact .inr ⟨rfl, rfl⟩
    · rcases (MemCoordinator.grant_purged hi hm).2.2 id with he | ⟨he, -⟩
      · exact .inl (he ▸ h)
      · rw [he] at h
        cases h

theorem renewLease_expiry {m : MemCoordinator} (hi : m.Inv) {now : Time} {id' : String} {ttl : Duration} {l : Lease}
    (h : (m.renewLease now id' ttl).1.leasesByID.lookup id = some l) :
    m.leasesByID.lookup id = some l ∨ (id = id' ∧ l.expiresAt = now + ttl ∧
      ∃ l₀, m.leasesByID.lookup id = some l₀ ∧ l₀.relayID = l.relayID) := by
  rcases MemCoordinator.renewLease_cases hi now id' ttl with ⟨s, hr, -⟩ | ⟨l₀, hl₀, -, hr⟩
  · rw [hr] at h
    exact .inl h
  · rw [hr] at h
    simp only [GoMap.lookup_insert_ite] at h
    split at h
    · rename_i hid
      subst hid
      cases h
      exact .inr ⟨rfl, rfl, l₀, hl₀, rfl⟩
    · exact .inl h

theorem ran_lease_expiry (hb : Base env w) (ht : Traced env w) {l : Lease}
    (h : (w.ran env c r fate).server.coord.leasesByID.lookup id = some l) :
    w.server.coord.leasesByID.lookup id = some l ∨
      l.expiresAt = w.now + Server.wireTTL (env.config l.relayID).leaseTTL := by
  have hinv := hb.leases.inv
  cases ran_coord env w c r fate with
  | same hs => exact .inl (hs ▸ h)
  | acquire a _ _ hs =>
    rw [hs] at h
    rcases acquireLease_expiry hinv h with h | ⟨hrelay, hexp⟩
    · exact .inl h
    · exact .inr (by rw [hrelay]; exact hexp)
  | renew t leaseID hp _ hs =>
    rw [hs] at h
    rcases renewLease_expiry hinv h with h | ⟨rfl, hexp, l₀, hl₀, hrelay⟩
    · exact .inl h
    · have hhome := (ht.pcs c r t id l₀ (by rw [hp]; rfl) hl₀).2
      exact .inr (by rw [← hrelay, hhome]; exact hexp)
  | release leaseID _ _ hs =>
    rw [hs] at h
    exact .inl (releaseLease_leases hinv h)
  | current a _ _ hs =>
    rw [hs] at h
    exact .inl (currentLease_leases hinv h)

/-- No lease lasts longer than a TTL of its gateway from now on. -/
def Bounded (env : Env σ) (w : World σ) : Prop :=
  ∀ id l, w.server.coord.leasesByID.lookup id = some l →
    l.expiresAt ≤ w.now + Server.wireTTL (env.config l.relayID).leaseTTL

theorem step_now_le {l : Label} (h : w.step env l = some w') : w.now ≤ w'.now := by
  have hset : ∀ {c r q}, w' = w.setPc c r q → w.now ≤ w'.now := fun he => he ▸ Int.le_refl _
  cases l with
  | clock d =>
    cases h
    exact Int.le_add_of_nonneg_right (Int.natCast_nonneg d)
  | run c r fate =>
    obtain ⟨-, rfl⟩ := run_step h
    exact Int.le_of_eq (ran_keeps env w c r fate).1.symm
  | lost | cancelled | pulse =>
    obtain ⟨t, -, he⟩ := stream_quiet h
    exact hset he
  | tick | quit =>
    obtain ⟨t, -, he⟩ := ticker_quiet h
    exact hset he
  | sweepLeases | sweepSessions =>
    cases h
    exact Int.le_refl _
  | accept | fire =>
    simp only [World.step] at h
    repeat' split at h
    all_goals cases h
    all_goals simp [World.setPc]

theorem bounded_step (hb : Base env w) (ht : Traced env w) (h : Bounded env w) {l : Label}
    (hst : w.step env l = some w') : Bounded env w' := by
  have hnow := step_now_le hst
  intro id l hl
  refine Int.le_trans ?_ (Int.add_le_add_right hnow _)
  rcases step_cases hb hst with ⟨c, r, fate, -, -, rfl⟩ | hq
  · rcases ran_lease_expiry hb ht hl with hl | hexp
    · exact h id l hl
    · exact Int.le_of_eq hexp
  · exact h id l (quiet_leases hb.leases hq hl)

/-! ## The leases that count for a tunnel -/

/-- The entry of `t` at `g` has the lease, or a goroutine of `g` that works on `t` has it in hand. -/
def World.Named (w : World σ) (g t id : String) : Prop :=
  w.leaseOf g t = some id ∨ ∃ c r, w.home c = g ∧ (w.pc c r).held = some id ∧ (w.pc c r).tunnel = some t

theorem claim_of_held (hid : p.held = some id) (ht : p.tunnel = some t) : p.claim = some (t, id) := by
  cases p <;> simp_all [Pc.held, Pc.tunnel, Pc.claim]

theorem held_of_claim (h : p.claim = some (t, id)) :
    (p.held = some id ∧ p.tunnel = some t) ∨ p = .renew t id := by
  cases p <;> simp_all [Pc.held, Pc.tunnel, Pc.claim]

theorem named_ran (hr : (w.pc c r).runnable = true) (h : (w.ran env c r fate).Named g t id) :
    w.Named g t id ∨
      w.home c = g ∧ ∃ a l, w.pc c r = .acquire a ∧ w.acquisition env c fate a = some l ∧ l.leaseID = id := by
  rcases h with h | ⟨c', r', hg, hid, ht⟩
  · rw [ran_leaseOf] at h
    split at h
    · rename_i hg
      rcases relet_some h with ⟨a, token, hp, ha⟩ | h
      · exact .inl (.inr ⟨c, r, hg.symm, by rw [hp]; rfl, by rw [hp, ← ha]; rfl⟩)
      · exact .inl (.inl (hg ▸ h))
    · exact .inl (.inl h)
  · rw [(ran_keeps env w c r fate).2.2.1] at hg
    rcases ran_pc env w c r fate c' r' with hp | ⟨rfl, rfl, hp⟩ | ⟨-, -, t', hp⟩
    · rw [hp] at hid ht
      exact .inl (.inr ⟨c', r', hg, hid, ht⟩)
    · have hclaim := claim_of_held hid ht
      rw [hp] at hclaim hid
      rcases stepPc_claim hr hclaim with hold | ⟨a, l, hp, hacq, -, rfl⟩ | ⟨-, hentry⟩
      · rcases held_of_claim hold with ⟨h1, h2⟩ | hrenew
        · exact .inl (.inr ⟨c', r', hg, h1, h2⟩)
        · -- a round that has renewed hands the lease to nobody
          rw [stepPc_held env w c' r' fate _ hr, hrenew] at hid
          cases hid
      · exact .inr ⟨hg, a, l, hp, hacq, rfl⟩
      · exact .inl (.inl (hg ▸ hentry))
    · rw [hp] at hid
      cases hid

theorem named_quiet (hb : Base env w) (hq : Quiet env w w') (h : w'.Named g t id) : w.Named g t id := by
  rcases h with h | ⟨c, r, hg, hid, ht⟩
  · rw [World.leaseOf, hq.gateway] at h
    exact .inl h
  · have hpc : w'.pc c r = w.pc c r := hq.pc_eq (P := fun q => q.held = some id)
      (fun _ _ ho h => by rw [outside_held ho] at h; cases h) (fun _ h => by cases h) hid
    rw [hpc] at hid ht
    have hc : c ∈ w.conns := hb.mem_conns (r := r) fun h0 => by rw [h0] at hid; cases hid
    exact .inr ⟨c, r, (hq.conns c hc).2 ▸ hg, hid, ht⟩

theorem withinTTL_releases (hok : withinTTL env g t (w, granted) (.run c r fate) = true)
    (hrel : (w.pc c r).releases = some id) :
    w.leaseOf g t ≠ some id ∧ ∀ c' ∈ w.conns, ∀ r', (w.pc c' r').held = some id → c' = c ∧ r' = r := by
  have hall : (w.leaseOf g t ≠ some id && w.conns.all fun c' => [Role.main, .beat, .timer].all fun r' =>
      (c' = c && r' = r) || (w.pc c' r').held ≠ some id) = true := by
    cases hp : w.pc c r with
    | unlease leaseID | release t' leaseID reason =>
      rw [hp] at hrel
      cases hrel
      simpa only [withinTTL, hp] using hok
    | _ =>
      rw [hp] at hrel
      cases hrel
  rw [Bool.and_eq_true, List.all_eq_true] at hall
  refine ⟨of_decide_eq_true hall.1, fun c' hc' r' hheld => ?_⟩
  have hr' := List.all_eq_true.1 (hall.2 c' hc') r' (by cases r' <;> simp)
  simpa [hheld] using hr'

theorem withinTTL_unnamed (hb : Base env w) (hr : (w.pc c r).runnable = true)
    (hok : withinTTL env g t (w, granted) (.run c r fate) = true) (hrel : (w.pc c r).releases = some id) :
    ¬ (w.ran env c r fate).Named g t id := by
  obtain ⟨hentry, hothers⟩ := withinTTL_releases hok hrel
  have hnext : (w.pc c r).heldNext env w c fate = none := by
    cases hp : w.pc c r <;> rw [hp] at hrel <;> first | cases hrel; done | simp [Pc.heldNext]
  rintro (h | ⟨c', r', -, hid, -⟩)
  · rw [ran_leaseOf] at h
    split at h
    · rename_i hg
      rcases relet_some h with ⟨a, token, hp, -⟩ | h
      · rw [hp] at hrel
        cases hrel
      · exact hentry (hg ▸ h)
    · exact hentry h
  · have hown : ((w.ran env c r fate).pc c r).held = none := by
      rw [ran_pc_self env rfl, stepPc_held env w c r fate _ hr, hnext]
    by_cases he : c' = c ∧ r' = r
    · obtain ⟨rfl, rfl⟩ := he
      rw [hown] at hid
      cases hid
    · rcases ran_held env w c r fate hr hid with hold | ⟨hc, hr', -⟩
      · exact he (hothers c' (hb.mem_conns (r := r') fun h0 => by rw [h0] at hold; cases hold) r' hold)
      · exact he ⟨hc, hr'⟩

/-! ## Along a run -/

/-- Where a lease counts for `t` at `g`, the registry has it until the TTL from the last request for it has passed. -/
def Known (env : Env σ) (g t : String) (w : World σ) (granted : String → Option Time) : Prop :=
  ∀ id at_, granted id = some at_ → w.now ≤ at_ + Server.wireTTL (env.config g).leaseTTL → w.Named g t id →
    w.Lasts id (at_ + Server.wireTTL (env.config g).leaseTTL)

theorem known_ran (hb : Base env w) (ht : Traced env w) (hbound : Bounded env w) (h : Known env g t w granted)
    (hr : (w.pc c r).runnable = true) (hok : withinTTL env g t (w, granted) (.run c r fate) = true) :
    Known env g t (w.ran env c r fate) (grantedAt env g w (.run c r fate) (w.ran env c r fate) granted) := by
  intro id at_ hat hnow hnamed
  rw [(ran_keeps env w c r fate).1] at hnow
  -- a lease that was there before the step and is not the one just granted
  have hkept : granted id = some at_ → w.Named g t id →
      (w.ran env c r fate).Lasts id (at_ + Server.wireTTL (env.config g).leaseTTL) := by
    intro hold hnamed₀
    obtain ⟨l, hl, hle⟩ := h id at_ hold hnow hnamed₀
    obtain ⟨l', hl', -, -, hexp⟩ := ran_lease_kept fate hb ht hl (Int.le_trans hnow hle)
      fun hrel => withinTTL_unnamed hb hr hok hrel hnamed
    refine ⟨l', hl', ?_⟩
    rcases hexp with hexp | hexp
    · exact hexp ▸ hle
    · exact hexp ▸ Int.le_trans hle (hbound id l hl)
  cases hgrant : w.grant env c fate (w.pc c r) with
  | none =>
    simp only [grantedAt, hgrant] at hat
    refine hkept hat ((named_ran hr hnamed).resolve_right ?_)
    rintro ⟨-, a, l, hp, hacq, -⟩
    rw [hp] at hgrant
    exact absurd (hacq.symm.trans hgrant) (by simp)
  | some l =>
    simp only [grantedAt, hgrant] at hat
    by_cases hg : w.home c = g
    · rw [if_pos hg] at hat
      by_cases hid : id = l.leaseID
      · subst hid hg
        rw [Function.update_self] at hat
        cases hat
        exact grant_lasts hb hgrant
      · rw [Function.update_of_ne hid] at hat
        refine hkept hat ((named_ran hr hnamed).resolve_right ?_)
        rintro ⟨-, a, l', hp, hacq, rfl⟩
        rw [hp] at hgrant
        cases hacq.symm.trans hgrant
        exact hid rfl
    · rw [if_neg hg] at hat
      exact hkept hat ((named_ran hr hnamed).resolve_right fun hnew => hg hnew.1)

theorem known_quiet (hb : Base env w) (hq : Quiet env w w') (hle : w.now ≤ w'.now) (h : Known env g t w granted) :
    Known env g t w' granted := by
  intro id at_ hat hnow hnamed
  have hnow₀ := Int.le_trans hle hnow
  exact lasts_quiet hb hq hnow₀ (h id at_ hat hnow₀ (named_quiet hb hq hnamed))

theorem run_known {start : Time} {store : σ} {ls : List Label}
    (h : Run (tracked (World.step env) (grantedAt env g)) (fun s l => withinTTL env g t s l = true)
      (.init env start store, fun _ => none) ls (w, granted)) :
    Base env w ∧ Traced env w ∧ Bounded env w ∧ Known env g t w granted := by
  refine h.inv (fun s => Base env s.1 ∧ Traced env s.1 ∧ Bounded env s.1 ∧ Known env g t s.1 s.2)
    ⟨base_init env start store, traced_init env start store, fun id l hl => ?_, fun id at_ hat => ?_⟩ ?_
  · cases hl
  · cases hat
  rintro s l s' ⟨hb, ht, hbound, hk⟩ hok hst
  obtain ⟨hst, hnote⟩ := tracked_some hst
  refine ⟨base_step hb hst, traced_step hb ht hst, bounded_step hb ht hbound hst, ?_⟩
  rw [hnote]
  cases l with
  | run c r fate =>
    obtain ⟨hr, he⟩ := run_step hst
    rw [he]
    exact known_ran hb ht hbound hk hr hok
  | _ =>
    have hq := (step_cases hb hst).resolve_left fun ⟨_, _, _, hl, _⟩ => by cases hl
    exact known_quiet hb hq (step_now_le hst) hk

/-- Whenever a resume of `t` is about to be answered at `g`, in a run that keeps to the condition, the entry of `t`
has a lease that the registry holds for `g` and that has not expired, and no other relay holds `t`. -/
theorem resumed_lease_owned {start : Time} {store : σ} {ls : List Label} {token : String}
    (h : Run (tracked (World.step env) (grantedAt env g)) (fun s l => withinTTL env g t s l = true)
      (.init env start store, fun _ => none) ls (w, granted))
    (hpc : w.pc c .main = .reply t token) (hg : w.home c = g)
    (hok : withinTTL env g t (w, granted) (.run c .main fate) = true) :
    ∃ id l, w.leaseOf g t = some id ∧ w.server.coord.leasesByID.lookup id = some l ∧ w.now ≤ l.expiresAt ∧
      l.relayID = g ∧ ∀ l', w.server.coord.Holds t l' → l'.relayID = g := by
  obtain ⟨hb, ht, -, hk⟩ := run_known h
  simp only [withinTTL, hpc, hg, ne_eq, not_true_eq_false, decide_false, Bool.false_or, Option.any_eq_true] at hok
  obtain ⟨id, hid, at_, hat, hnow⟩ := hok
  have hnow := of_decide_eq_true hnow
  obtain ⟨l, hl, hle⟩ := hk id at_ hat hnow (.inl hid)
  obtain ⟨htunnel, hrelay⟩ := ht.entries g t id l hid hl
  refine ⟨id, l, hid, hl, Int.le_trans hnow hle, hrelay, fun l' hl' => ?_⟩
  rw [← hb.leases.inv.unique (htunnel ▸ hb.leases.inv.holds hl) hl', hrelay]

/-- A second agent connection is lost after a second, and five seconds later its resume is about to be answered. -/
def shortBreak : List Label :=
  connect 0 "g1" ++ handshakeV2 1 ++ [.run 1 .main .ok] ++ suspension 1 1000000000 ++ comesBack 1 2 "rrr" ++
    List.replicate 5 (.run 2 .main .ok)

theorem resumed_lease_owned_shortBreak :
    ∃ w : World Table, w.pc 2 .main = .reply "t-a" "" ∧ w.now = 6 * second ∧
      ∃ id l, w.leaseOf "g1" "t-a" = some id ∧ w.server.coord.leasesByID.lookup id = some l ∧ w.now ≤ l.expiresAt ∧
        l.relayID = "g1" ∧ ∀ l', w.server.coord.Holds "t-a" l' → l'.relayID = "g1" := by
  obtain ⟨⟨w, granted⟩, h, hpc, hnow, hhome, hok⟩ := run_checked_any
    (P := fun s : World Table × (String → Option Time) =>
      s.1.pc 2 .main = .reply "t-a" "" ∧ s.1.now = 6 * second ∧ s.1.home 2 = "g1" ∧
        withinTTL (demo Table.repo true) "g1" "t-a" s (.run 2 .main .ok) = true)
    (show (exec (checked (tracked (World.step (demo Table.repo true)) (grantedAt (demo Table.repo true) "g1"))
        (withinTTL (demo Table.repo true) "g1" "t-a"))
      (.init (demo Table.repo true) 0 [], fun _ => none) shortBreak).any _ = true by decide +kernel)
  exact ⟨w, hpc, hnow, resumed_lease_owned h hpc hhome hok⟩

/-- A configuration file with a lease TTL of five seconds and a resume window of thirty. -/
def fiveSeconds : Pkg.Config where
  gateway := { tenSeconds.gateway with
    leaseTTL := 5 * second, sessionResumeEnabled := true, sessionResumeTTL := 30 * second }

def fiveSecondGateways : Env Table :=
  { demo Table.repo true with
    config := fun _ => newGateway fiveSeconds.gateway "443" true fun token => if token = "k" then some "a" else none }

/-- The configuration is accepted, every request is answered, and a resume is answered on a lease that has expired. -/
theorem resumed_on_expired_lease :
    fiveSeconds.validate .gateway = .ok () ∧
      ∃ w w' : World Table, Run (World.step fiveSecondGateways) (fun _ _ => True) (.init fiveSecondGateways 0 [])
          shortBreak w ∧
        w.step fiveSecondGateways (.run 2 .main .ok) = some w' ∧ w'.sent 2 = [.resumeResp .resumed "t-a" ""] ∧
        w.leaseOf "g1" "t-a" = some "u" ∧
        (w.server.coord.leasesByID.lookup "u").any (·.expiresAt < w.now) = true := by
  refine ⟨by decide +kernel, ?_⟩
  obtain ⟨w, w', -, h, hst, -, hsent, hentry, hexp⟩ :=
    run_step_any (World.step fiveSecondGateways) (fun _ _ => true) (.init fiveSecondGateways 0 []) shortBreak
      (.run 2 .main .ok) []
      (P := fun w w' _ => w'.sent 2 = [.resumeResp .resumed "t-a" ""] ∧ w.leaseOf "g1" "t-a" = some "u" ∧
        (w.server.coord.leasesByID.lookup "u").any (·.expiresAt < w.now) = true) (by decide +kernel)
  exact ⟨w, w', h, hst, hsent, hentry, hexp⟩

end TunnelEdge.Gateway
