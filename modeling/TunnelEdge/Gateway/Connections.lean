import TunnelEdge.Gateway.Reach
/-!
# Several connections of one agent

All connections of an agent share one tunnel id, and `removeTunnel` and
`suspendTunnel` go by that id: neither asks which connection the entry holds. The
end of an old connection therefore spares the connection that replaced it exactly
because, and only while, the old goroutine has nothing left to do to the tunnel.
-/

namespace TunnelEdge.Gateway

open GoLib Store Registry

variable {σ : Type} {env : Env σ} {w w' : World σ} {c c' : ConnID} {r : Role} {fate : Fate} {p q : Pc} {t : String}

/-- The steps of `suspendTunnel` and `removeTunnel` for `t`. -/
def Pc.ending (t : String) : Pc → Bool
  | .suspend t' | .storeResume t' _ | .arm t' | .record t' | .take t' _ | .dropRoutes t' _ _ | .release t' _ _
  | .deregister t' _ => t' = t
  | _ => false

/-- A connection that has `t`, or still has its entry, its routes or this lease to take away. -/
def Pc.endangers (t leaseID : String) : Pc → Bool
  | .storeToken a _ | .register a => a.tunnelID = t
  | .storeNew t' _ | .reply t' _ | .serving t' | .pulse t' | .suspend t' | .storeResume t' _ | .take t' _
  | .dropRoutes t' _ _ => t' = t
  | .release t' leaseID' _ => t' = t && leaseID' = leaseID
  | _ => false

def World.alone (w : World σ) (c : ConnID) (t leaseID : String) : Bool :=
  w.conns.all fun c' => c' = c || w.home c' ≠ w.home c || !(w.pc c' .main).endangers t leaseID

/-- A connection becomes the one of a tunnel, by `addTunnel` or by a resume, only when no other connection of the
gateway serves the tunnel or has still to tear it down. -/
def attachesAlone (w : World σ) : Label → Bool
  | .run c r _ =>
    match w.pc c r with
    | .install a leaseID _ => w.alone c a.tunnelID leaseID
    | .attach t _ _ => ((w.gateway (w.home c)).tunnels.lookup t).all fun at_ => w.alone c t at_.leaseID
    | _ => true
  | _ => true

/-- The entry of `t`, the routes of the gateway and the lease are what they were. -/
structure Untouched (w w' : World σ) (g t leaseID : String) : Prop where
  entry : (w'.gateway g).tunnels.lookup t = (w.gateway g).tunnels.lookup t
  routes : (w'.gateway g).router = (w.gateway g).router
  lease : w'.server.coord.leasesByID.lookup leaseID = w.server.coord.leasesByID.lookup leaseID

/-! ## One connection at a time -/

theorem alone_iff (hb : Base env w) (h : w.alone c t leaseID = true) (hh : w.home c' = w.home c) (hne : c' ≠ c) :
    (w.pc c' .main).endangers t leaseID = false := by
  by_cases hc : c' ∈ w.conns
  · simp only [World.alone, List.all_eq_true] at h
    simpa [hh, hne] using h c' hc
  · rw [(hb.idle c' hc).1]
    rfl

theorem endangers_of_early (h : q.early = true) (t leaseID : String) : q.endangers t leaseID = false := by
  cases q <;> first | rfl | cases h

theorem outside_endangers (h : Pc.Outside r p q) {leaseID : String} (he : q.endangers t leaseID = true) :
    p.endangers t leaseID = true := by
  cases h with
  | accept _ ho =>
    rcases early_of_opening ho with hq | ⟨f, rfl⟩
    · rw [endangers_of_early hq] at he
      cases he
    · cases he
  | _ => simp_all [Pc.endangers]

theorem next_endangers (h : Pc.Next .main p q) (hp : p.fits .main = true) {leaseID : String}
    (he : q.endangers t leaseID = true) :
    p.endangers t leaseID = true ∨ (∃ a leaseID' token, p = .install a leaseID' token ∧ a.tunnelID = t) ∨
      ∃ token rest, p = .attach t token rest ∧ q.early = false := by
  cases h with
  | early _ _ _ hq =>
    rw [endangers_of_early hq] at he
    cases he
  | cancelPending | beatExpired | unrenewed => cases hp
  | _ => simp_all [Pc.endangers, Pc.early]

theorem install_entry (env : Env σ) (w : World σ) (c : ConnID) (r : Role) (fate : Fate) (a : Auth)
    (leaseID token : String) :
    ∃ at_, ((stepPc env w c r fate (.install a leaseID token)).1.gateway (w.home c)).tunnels.lookup a.tunnelID =
      some at_ ∧ at_.conn = some c :=
  ⟨_, by simp [stepPc, stepHandshake, World.note, addTunnel]; rfl, rfl⟩

theorem attach_entry {token : String} {rest : List Frame}
    (h : (stepPc env w c r fate (.attach t token rest)).2.early = false) :
    ∃ at_, ((stepPc env w c r fate (.attach t token rest)).1.gateway (w.home c)).tunnels.lookup t = some at_ ∧
      at_.conn = some c := by
  cases hl : (w.gateway (w.home c)).tunnels.lookup t with
  | none =>
    simp only [stepPc, stepResume, hl] at h
    cases h
  | some at_ => exact ⟨_, by simp [stepPc, stepResume, hl, World.note]; rfl, rfl⟩

/-- Where an entry holds a connection, no other connection of that gateway endangers the tunnel. -/
def Alone (w : World σ) : Prop :=
  ∀ c c' t at_, (w.gateway (w.home c)).tunnels.lookup t = some at_ → at_.conn = some c' → c' ≠ c →
    (w.pc c .main).endangers t at_.leaseID = false

theorem alone_init (env : Env σ) (start : Time) (store : σ) : Alone (.init env start store) :=
  fun _ _ _ _ _ _ _ => rfl

theorem ran_endangers (hb : Base env w) (hr : (w.pc c r).runnable = true) {leaseID : String}
    (h : ((w.ran env c r fate).pc c' .main).endangers t leaseID = true) :
    (w.pc c' .main).endangers t leaseID = true ∨
      c' = c ∧ ∃ at_, ((w.ran env c r fate).gateway (w.home c)).tunnels.lookup t = some at_ ∧ at_.conn = some c := by
  rcases ran_pc env w c r fate c' .main with hpc | ⟨rfl, rfl, hpc⟩ | ⟨-, hr', -⟩
  · exact .inl (hpc ▸ h)
  · rw [hpc] at h
    rcases next_endangers (stepPc_next env w c' .main fate _ hr) (hb.fits c' .main) h with
      hp | ⟨a, leaseID', token, hp, rfl⟩ | ⟨token, rest, hp, hq⟩
    · exact .inl hp
    · have he := install_entry env w c' .main fate a leaseID' token
      rw [← hp] at he
      exact .inr ⟨rfl, he⟩
    · rw [hp] at hq
      have he := attach_entry hq
      rw [← hp] at he
      exact .inr ⟨rfl, he⟩
  · cases hr'

theorem alone_ran (hb : Base env w) (hi : Alone w) (hok : attachesAlone w (.run c r fate) = true)
    (hr : (w.pc c r).runnable = true) : Alone (w.ran env c r fate) := by
  intro c₁ c₂ t at_ hl hconn hne
  obtain ⟨-, -, hhome, hothers⟩ := ran_keeps env w c r fate
  rw [hhome] at hl
  by_contra hd
  rw [Bool.not_eq_false] at hd
  rcases ran_endangers hb hr hd with hold | ⟨rfl, at', hl', hconn'⟩
  · -- the goroutine endangered the tunnel before, so the entry must be new
    have hkeep : (w.gateway (w.home c₁)).tunnels.lookup t ≠ some at_ := by
      intro h
      rw [hi c₁ c₂ t at_ h hconn hne] at hold
      cases hold
    by_cases hh : w.home c₁ = w.home c
    · rw [hh] at hl hkeep
      have hnew : ∀ leaseID, w.alone c t leaseID = true → at_.conn = some c → at_.leaseID = leaseID → False := by
        rintro leaseID hal hc rfl
        have hcc : c₁ ≠ c := by
          rintro rfl
          rw [hc] at hconn
          exact hne (Option.some.inj hconn).symm
        rw [alone_iff hb hal hh hcc] at hold
        cases hold
      cases ran_tunnels env w c r fate with
      | same he => exact hkeep (he ▸ hl)
      | install a leaseID token hp he =>
        simp only [he, addTunnel, GoMap.lookup_insert_ite] at hl
        split at hl
        · subst_vars
          cases hl
          simp only [attachesAlone, hp] at hok
          exact hnew leaseID hok rfl rfl
        · exact hkeep hl
      | attach t' token rest at' hp hl' he =>
        rw [he, GoMap.lookup_insert_ite] at hl
        split at hl
        · subst_vars
          cases hl
          simp only [attachesAlone, hp, hl', Option.all_some] at hok
          exact hnew at'.leaseID hok rfl rfl
        · exact hkeep hl
      | suspend t' at' hp hl' he =>
        rw [he, GoMap.lookup_insert_ite] at hl
        split at hl
        · cases hl
          cases hconn
        · exact hkeep hl
      | take t' reason hp he =>
        rw [he, GoMap.lookup_erase_ite] at hl
        split at hl
        · cases hl
        · exact hkeep hl
    · rw [hothers _ hh] at hl
      exact hkeep hl
  · rw [hl'] at hl
    cases hl
    rw [hconn'] at hconn
    exact hne (Option.some.inj hconn).symm

theorem alone_quiet (hb : Base env w) (hi : Alone w) (hq : Quiet env w w') : Alone w' := by
  intro c c' t at_ hl hconn hne
  by_contra hd
  rw [Bool.not_eq_false] at hd
  have hold : (w.pc c .main).endangers t at_.leaseID = true := by
    rcases hq.pc c .main with h | h | ⟨h, -⟩
    · exact h ▸ hd
    · exact outside_endangers h hd
    · cases h
  have hc : c ∈ w.conns := hb.mem_of rfl hold
  rw [hq.gateway, (hq.conns c hc).2] at hl
  rw [hi c c' t at_ hl hconn hne] at hold
  cases hold

theorem alone_step (hb : Base env w) (hi : Alone w) {l : Label} (hok : attachesAlone w l = true)
    (h : w.step env l = some w') : Alone w' := by
  rcases step_cases hb h with ⟨c, r, fate, rfl, hr, rfl⟩ | hq
  · exact alone_ran hb hi hok hr
  · exact alone_quiet hb hi hq

/-! ## The end of a connection -/

theorem releaseLease_other (m : MemCoordinator) {id id' : String} (h : id' ≠ id) :
    (m.releaseLease id).1.leasesByID.lookup id' = m.leasesByID.lookup id' := by
  unfold MemCoordinator.releaseLease
  repeat' split
  · rfl
  · rfl
  · simp [MemCoordinator.drop_leases, h]

theorem untouched_of_harmless {leaseID : String} (he : (w.pc c .main).ending t = true)
    (hd : (w.pc c .main).endangers t leaseID = false) :
    Untouched w (w.ran env c .main fate) (w.home c) t leaseID := by
  unfold World.ran
  cases hp : w.pc c .main with
  | arm t' => exact ⟨rfl, rfl, rfl⟩
  | record t' => exact ⟨by simp [stepPc, stepStream, World.setPc], by simp [stepPc, stepStream, World.setPc], rfl⟩
  | release t' leaseID' reason =>
    rw [hp] at he hd
    have ht : t' = t := by simpa [Pc.ending] using he
    have hne : leaseID' ≠ leaseID := by simpa [Pc.endangers, ht] using hd
    refine ⟨by simp [stepPc, stepRemoval, World.setPc], by simp [stepPc, stepRemoval, World.setPc], ?_⟩
    cases fate with
    | lost => rfl
    | ok => exact releaseLease_other _ (Ne.symm hne)
    | replyLost => exact releaseLease_other _ (Ne.symm hne)
  | deregister t' reason =>
    refine ⟨by simp [stepPc, stepRemoval, World.setPc], by simp [stepPc, stepRemoval, World.setPc], ?_⟩
    cases fate with
    | lost => rfl
    | ok => exact congrArg (·.leasesByID.lookup leaseID) (deregisterTunnel_coord ..)
    | replyLost => exact congrArg (·.leasesByID.lookup leaseID) (deregisterTunnel_coord ..)
  | _ => rw [hp] at he hd; simp_all [Pc.ending, Pc.endangers]

/-- When connections attach alone, the end of `c` and every step of the teardown it starts leave a tunnel alone
whose connection is another one. -/
theorem ending_spares_other_connection {start : Time} {store : σ} {ls : List Label}
    (h : Run (World.step env) (attachesAlone · ·) (.init env start store) ls w) {at_ : ActiveTunnel}
    (hl : (w.gateway (w.home c)).tunnels.lookup t = some at_) (hconn : at_.conn = some c') (hne : c' ≠ c) {l : Label}
    (hend : l = .lost c ∨ ((w.pc c .main).ending t = true ∧ ∃ fate, l = .run c .main fate))
    (hs : w.step env l = some w') : Untouched w w' (w.home c) t at_.leaseID := by
  obtain ⟨-, hi⟩ := run_inv Alone (alone_init env start store)
    (fun _ _ _ hb hi hok hst => alone_step hb hi hok hst) h
  rcases hend with rfl | ⟨hend, fate, rfl⟩
  · obtain ⟨t', -, rfl⟩ := stream_quiet hs
    exact ⟨rfl, rfl, rfl⟩
  · obtain ⟨-, rfl⟩ := run_step hs
    exact untouched_of_harmless hend (hi c c' t at_ hl hconn hne)

/-- The old connection is at its last request when the agent is back. -/
def backInTime : List Label :=
  connect 0 "g1" ++ [.lost 0, .run 0 .main .ok, .run 0 .main .ok, .run 0 .main .ok] ++ connect 1 "g1"

theorem ending_spares_other_connection_back :
    ∃ w w' at_, Run (World.step (demo Table.repo false)) (attachesAlone · ·) (.init (demo Table.repo false) 0 [])
        backInTime w ∧
      w.pc 0 .main = .deregister "t-a" .streamError ∧
      (w.gateway (w.home 0)).tunnels.lookup "t-a" = some at_ ∧ at_.conn = some 1 ∧
      w.step (demo Table.repo false) (.run 0 .main .ok) = some w' ∧
      Untouched w w' (w.home 0) "t-a" at_.leaseID := by
  obtain ⟨w, hr, hpc, hl, hs⟩ := run_checked_any (P := fun w : World Table =>
    w.pc 0 .main = .deregister "t-a" .streamError ∧
      ((w.gateway (w.home 0)).tunnels.lookup "t-a").map ActiveTunnel.conn = some (some 1) ∧
      (w.step (demo Table.repo false) (.run 0 .main .ok)).isSome)
    (show (exec (checked (World.step (demo Table.repo false)) attachesAlone) (.init (demo Table.repo false) 0 [])
      backInTime).any _ = true by decide +kernel)
  obtain ⟨at_, hl, hconn⟩ := Option.map_eq_some_iff.1 hl
  obtain ⟨w', hs⟩ := Option.isSome_iff_exists.1 hs
  exact ⟨w, w', at_, hr, hpc, hl, hconn, hs, ending_spares_other_connection hr hl hconn (by decide)
    (.inr ⟨by rw [hpc]; rfl, .ok, rfl⟩) hs⟩

/-- The agent is back before the gateway has noticed that the old connection is gone. -/
def backTooSoon : List Label := connect 0 "g1" ++ connect 1 "g1" ++ [.lost 0]

/-- The end of the old connection takes the tunnel away from the new one: entry, routes and lease. -/
theorem ending_removes_other_connection :
    ∃ w w', Run (World.step (demo Table.repo false)) (fun _ _ => True) (.init (demo Table.repo false) 0 [])
        backTooSoon w ∧
      (w.pc 0 .main = .take "t-a" .streamError ∧ w.pc 1 .main = .serving "t-a" ∧
        ((w.gateway "g1").tunnels.lookup "t-a").map (fun at_ => (at_.conn, at_.leaseID)) = some (some 1, "u") ∧
        (w.gateway "g1").router.lookupWithLabel "a.x" = some ("t-a", "default") ∧
        (w.server.coord.leasesByID.lookup "u").isSome) ∧
      Run (World.step (demo Table.repo false)) (fun _ _ => True) w (List.replicate 3 (.run 0 .main .ok)) w' ∧
      ((w'.gateway "g1").tunnels.lookup "t-a").isNone ∧
      (w'.gateway "g1").router.lookupWithLabel "a.x" = none ∧
      (w'.server.coord.leasesByID.lookup "u").isNone :=
  run_any_then (by decide +kernel)

end TunnelEdge.Gateway
