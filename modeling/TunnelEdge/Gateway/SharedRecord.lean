import TunnelEdge.Gateway.PublicCalls
/-!
# Connections that go away

`suspendTunnel` sets the `conn` of a tunnel's record to nil, and two places use
it afterwards as if it were there: another `suspendTunnel` for a tunnel that is
suspended already, and a public call that looked at the record before. Both end
the process.

It does not happen in a run in which a lost connection is only dealt with while
its tunnel is not suspended and no public call is between its look at that
record and `OpenStreamSync`.
-/

namespace TunnelEdge.Gateway

open GoLib Store Registry Streams

variable {σ : Type}

/-! ## The conditions -/

/-- The call has found a connection in its record and has not used it yet. -/
def PublicCall.between (call : PublicCall) : Bool :=
  match call.pc with
  | .holding stage _ _ _ => stage ≠ .check
  | _ => false

/-- And that record is the entry of `t` on gateway `g`. -/
def PublicCall.uses (g t : String) (call : PublicCall) : Bool :=
  match call.pc with
  | .holding stage t' _ .shared => stage ≠ .check && call.gateway = g && t' = t
  | _ => false

/-- A goroutine suspends a tunnel that is not suspended, and whose record no call is using. -/
def suspendsCleanly (s : Front σ) : FrontLabel → Bool
  | .world (.run c r _) =>
    match s.world.pc c r with
    | .suspend t =>
      (((s.world.gateway (s.world.home c)).tunnels.lookup t).all fun at_ => !at_.suspended) &&
        s.calls.all fun call => !call.uses (s.world.home c) t
    | _ => true
  | _ => true

/-! ## Records -/

/-- A record has no connection exactly while its tunnel is suspended. -/
def Consistent (w : World σ) : Prop :=
  ∀ g t at_, (w.gateway g).tunnels.lookup t = some at_ → (at_.conn = none ↔ at_.suspended = true)

/-- Every call that is about to use its record finds a connection there. -/
def Provided (s : Front σ) : Prop :=
  ∀ call ∈ s.calls, ∀ stage t label ref, call.pc = .holding stage t label ref → stage ≠ .check →
    (s.world.record call.gateway t ref).1 ≠ none

section World

variable {env : Env σ} {w w' : World σ} {c : ConnID} {r : Role} {fate : Fate} {l : Label}

/-- Only a suspension of a tunnel without connection crashes a gateway. -/
theorem stepPc_crashed (env : Env σ) (w : World σ) (c : ConnID) (r : Role) (fate : Fate) (p : Pc)
    (h : ((stepPc env w c r fate p).1.gateway (w.home c)).crashed = true) :
    (w.gateway (w.home c)).crashed = true ∨
      ∃ t at_, p = .suspend t ∧ (w.gateway (w.home c)).tunnels.lookup t = some at_ ∧ at_.conn = none := by
  cases p with
  | suspend t =>
    rcases suspend_cases env w c r fate t with hs | hs | ⟨at_, hl, hc, -⟩ | ⟨_, _, hs⟩
    · exact .inl (by rwa [hs] at h)
    · exact .inl (by rwa [hs] at h)
    · exact .inr ⟨t, at_, rfl, hl, hc⟩
    · exact .inl (by simpa [hs, World.note] using h)
  | routeLabels a leaseID rest => cases rest <;> exact .inl (by simpa [stepPc, stepHandshake] using h)
  | _ =>
    refine .inl ?_
    revert h
    simp only [stepPc, stepHandshake, stepResume, stepStream, stepRemoval, stepBeat, World.heartbeat,
      World.setResumable]
    repeat' split
    all_goals simp [World.note, World.send, World.setPc, addTunnel]

theorem step_gateway (h : w.step env l = some w') :
    (∃ c r fate, l = .run c r fate ∧ w' = w.ran env c r fate) ∨ w'.gateway = w.gateway := by
  cases l with
  | run c r fate => exact .inl ⟨c, r, fate, rfl, (run_step h).2⟩
  | clock d | sweepLeases | sweepSessions => cases h; exact .inr rfl
  | accept c g frames =>
    simp only [World.step] at h
    split at h
    · cases h
      exact .inr (by simp [World.setPc])
    · cases h
  | lost c | cancelled c | pulse c =>
    obtain ⟨t, -, rfl⟩ := stream_quiet h
    exact .inr rfl
  | tick c | quit c =>
    obtain ⟨t, -, rfl⟩ := ticker_quiet h
    exact .inr rfl
  | fire c =>
    simp only [World.step] at h
    split at h
    · split at h
      · cases h
        exact .inr rfl
      · cases h
    · cases h

theorem consistent_init (env : Env σ) (start : Time) (store : σ) : Consistent (.init env start store) := by
  intro g t at_ h
  cases h

theorem consistent_ran (h : Consistent w) : Consistent (w.ran env c r fate) := by
  intro g t at_ hl
  by_cases hg : g = w.home c
  · subst hg
    cases ran_tunnels env w c r fate with
    | same he =>
      rw [he] at hl
      exact h _ t at_ hl
    | install a leaseID token hp he =>
      simp only [he, addTunnel, GoMap.lookup_insert_ite] at hl
      split at hl
      · cases hl
        simp
      · exact h _ t at_ hl
    | attach t' token rest at₀ hp hl₀ he =>
      simp only [he, GoMap.lookup_insert_ite] at hl
      split at hl
      · cases hl
        simp
      · exact h _ t at_ hl
    | suspend t' at₀ hp hl₀ he =>
      simp only [he, GoMap.lookup_insert_ite] at hl
      split at hl
      · cases hl
        simp
      · exact h _ t at_ hl
    | take t' reason hp he =>
      simp only [he, GoMap.lookup_erase_ite] at hl
      split at hl
      · cases hl
      · exact h _ t at_ hl
  · rw [(ran_keeps env w c r fate).2.2.2 g hg] at hl
    exact h g t at_ hl

theorem consistent_step (h : Consistent w) (hs : w.step env l = some w') : Consistent w' := by
  rcases step_gateway hs with ⟨c, r, fate, -, rfl⟩ | hg
  · exact consistent_ran h
  · unfold Consistent
    rw [hg]
    exact h

theorem record_shared_iff {g t : String} :
    (w.record g t .shared).1 ≠ none ↔ ∃ at_, (w.gateway g).tunnels.lookup t = some at_ ∧ at_.conn ≠ none := by
  unfold World.record
  cases (w.gateway g).tunnels.lookup t with
  | none => simp
  | some at_ => simp

theorem ran_record {g t : String} (h : (w.record g t .shared).1 ≠ none)
    (hleave : leaving w (.run c r fate) ≠ some (g, t)) (hsusp : w.home c = g → w.pc c r ≠ .suspend t) :
    ((w.ran env c r fate).record g t .shared).1 ≠ none := by
  rw [record_shared_iff] at h ⊢
  obtain ⟨at_, hl, hc⟩ := h
  by_cases hg : g = w.home c
  · subst hg
    cases ran_tunnels env w c r fate with
    | same he => exact ⟨at_, by rw [he, hl], hc⟩
    | install a leaseID token hp he =>
      have hne : t ≠ a.tunnelID := fun ht => hleave (by rw [leaving, hp, ht])
      exact ⟨at_, by simp [he, addTunnel, hne, hl], hc⟩
    | attach t' token rest at₀ hp hl₀ he =>
      by_cases ht : t = t'
      · exact ⟨{ at₀ with conn := some c, suspended := false }, by simp [he, ht], by simp⟩
      · exact ⟨at_, by simp [he, ht, hl], hc⟩
    | suspend t' at₀ hp hl₀ he =>
      have hne : t ≠ t' := fun ht => hsusp rfl (by rw [hp, ht])
      exact ⟨at_, by simp [he, hne, hl], hc⟩
    | take t' reason hp he =>
      have hne : t ≠ t' := fun ht => hleave (by rw [leaving, hp, ht])
      exact ⟨at_, by simp [he, hne, hl], hc⟩
  · exact ⟨at_, by rw [(ran_keeps env w c r fate).2.2.2 g hg, hl], hc⟩

end World

section Front

variable {fenv : FrontEnv σ} {s s' : Front σ}

theorem stepCall_world (fenv : FrontEnv σ) (s : Front σ) (call : PublicCall) (answer : CallAnswer) (p : CallPc) :
    (s.stepCall fenv call answer p).1.world = s.world ∨
      (∃ t label ref, p = .holding .openStream t label ref ∧ (s.world.record call.gateway t ref).1 = none) ∧
        (s.stepCall fenv call answer p).1.world =
          s.world.updateGateway call.gateway fun gw => { gw with crashed := true } := by
  cases p with
  | holding stage t label ref =>
    cases stage with
    | openStream =>
      cases hr : (s.world.record call.gateway t ref).1 with
      | none => exact .inr ⟨⟨t, label, ref, rfl, hr⟩, by simp only [Front.stepCall, Front.stepHolding, hr]⟩
      | some c => exact .inl (by simp only [Front.stepCall, Front.stepHolding, hr])
    | check | acl => exact .inl rfl
    | limit | limitPerTunnel =>
      simp only [Front.stepCall, Front.stepHolding]
      split <;> exact .inl rfl
  | routing | fetching =>
    simp only [Front.stepCall]
    split <;> exact .inl rfl
  | labelling | registering | relaying | closing | ended => exact .inl rfl

theorem consistent_front (h : Consistent s.world) {l : FrontLabel} (hs : s.step fenv l = some s') :
    Consistent s'.world := by
  cases Front.step_move hs with
  | world l hw => exact consistent_step h hw
  | drop l hw | accept g hostname client hw =>
    rw [hw]
    exact h
  | call i answer call hi hw =>
    rw [hw]
    rcases stepCall_world fenv s call answer call.pc with he | ⟨-, he⟩
    · rw [he]
      exact h
    · rw [he]
      intro g t at_ hl
      refine h g t at_ ?_
      by_cases hg : g = call.gateway
      · subst hg
        simpa using hl
      · simpa [World.updateGateway, hg] using hl

/-- A call that uses an entry is what keeps that tunnel from being suspended. -/
theorem not_suspend_of_uses {c : ConnID} {r : Role} {fate : Fate} {t : String}
    (hok : suspendsCleanly s (.world (.run c r fate)) = true) {call : PublicCall} (hm : call ∈ s.calls)
    (hu : call.uses (s.world.home c) t = true) : s.world.pc c r ≠ .suspend t := by
  intro hp
  simp only [suspendsCleanly, hp, Bool.and_eq_true, List.all_eq_true] at hok
  have h := hok.2 call hm
  rw [hu] at h
  cases h

/-- A call that has found a connection still has one after a step of the gateways, also when its
record leaves the map. -/
theorem detach_provided {l : Label} {w' : World σ} (hs : s.world.step fenv.env l = some w')
    (hok : suspendsCleanly s (.world l) = true) (hp : Provided s) {call : PublicCall} (hm : call ∈ s.calls)
    {stage : CallStage} {t label : String} {ref : RecordRef}
    (hpc : (call.detach s.world l).pc = .holding stage t label ref) (hstage : stage ≠ .check) :
    (w'.record (call.detach s.world l).gateway t ref).1 ≠ none := by
  by_cases hl : ∃ stage t label, call.pc = .holding stage t label .shared ∧ leaving s.world l = some (call.gateway, t)
  · obtain ⟨stage', t', label', hpc', hl⟩ := hl
    simp only [PublicCall.detach, hpc', hl, if_true] at hpc ⊢
    cases hpc
    exact hp call hm stage t label .shared hpc' hstage
  · have hkeep : call.detach s.world l = call := by
      unfold PublicCall.detach
      split
      · rename_i stage' t' label' hpc'
        rw [if_neg fun he => hl ⟨stage', t', label', hpc', he⟩]
      · rfl
    rw [hkeep] at hpc ⊢
    have hrec := hp call hm stage t label ref hpc hstage
    cases ref with
    | detached conn suspended => exact hrec
    | shared =>
      rcases step_gateway hs with ⟨c, r, fate, rfl, rfl⟩ | hg
      · refine ran_record hrec (fun he => hl ⟨stage, t, label, hpc, he⟩) fun hg => ?_
        exact not_suspend_of_uses hok hm (by simp [PublicCall.uses, hpc, hstage, hg])
      · rw [record_shared_iff, hg, ← record_shared_iff]
        exact hrec

theorem provided_step (hp : Provided s) {l : FrontLabel} (hok : suspendsCleanly s l = true)
    (hs : s.step fenv l = some s') : Provided s' := by
  cases Front.step_move hs with
  | world l hw hst hc =>
    intro call' hm' stage t label ref hpc hstage
    rw [hc] at hm'
    obtain ⟨call, hm, rfl⟩ := List.mem_map.1 hm'
    exact detach_provided hw hok hp hm hpc hstage
  | drop l hw hc =>
    unfold Provided
    rw [hw, hc]
    exact hp
  | accept g hostname client hw hst hc =>
    intro call hm stage t label ref hpc hstage
    rw [hc] at hm
    rw [hw]
    rcases List.mem_append.1 hm with hm | hm
    · exact hp call hm stage t label ref hpc hstage
    · rw [List.mem_singleton.1 hm] at hpc
      cases hpc
  | call i answer call hi hw hst hc =>
    have hm := List.mem_of_getElem? hi
    have hworld : s'.world = s.world := by
      rcases stepCall_world fenv s call answer call.pc with he | ⟨⟨t, label, ref, hpc, hnone⟩, -⟩
      · exact hw.trans he
      · exact absurd hnone (hp call hm _ t label ref hpc (by decide))
    intro call' hm' stage t label ref hpc hstage
    rw [hc] at hm'
    rw [hworld]
    rcases List.mem_or_eq_of_mem_set hm' with hm' | rfl
    · exact hp call' hm' stage t label ref hpc hstage
    · -- the call that moves has just looked, or had a connection before
      have hnext := Front.stepCall_next fenv s call answer call.pc
      rw [show (s.stepCall fenv call answer call.pc).2 = _ from hpc] at hnext
      generalize hq : call.pc = p at hnext
      cases hnext with
      | fetch => exact absurd rfl hstage
      | check t label ref hfound => exact hfound
      | limit | limitPerTunnel | acl => exact hp call hm _ t label ref hq (by decide)

theorem alive_step (hcons : Consistent s.world) (hp : Provided s) (ha : ∀ g, (s.world.gateway g).crashed = false)
    {l : FrontLabel} (hok : suspendsCleanly s l = true) (hs : s.step fenv l = some s') :
    ∀ g, (s'.world.gateway g).crashed = false := by
  intro g
  cases Front.step_move hs with
  | world l hw =>
    rcases step_gateway hw with ⟨c, r, fate, rfl, he⟩ | hg
    · rw [he]
      by_cases hg : g = s.world.home c
      · subst hg
        by_contra hcrash
        rw [Bool.not_eq_false] at hcrash
        rcases stepPc_crashed fenv.env s.world c r fate (s.world.pc c r) hcrash with hold | ⟨t, at_, hpc, hl, hnone⟩
        · rw [ha] at hold
          cases hold
        · -- the record has no connection, so its tunnel was suspended already
          have hsusp := (hcons _ t at_ hl).1 hnone
          simp only [suspendsCleanly, hpc, hl, Option.all_some, hsusp] at hok
          cases hok
      · rw [(ran_keeps fenv.env s.world c r fate).2.2.2 g hg]
        exact ha g
    · rw [hg]
      exact ha g
  | drop l hw | accept g' hostname client hw =>
    rw [hw]
    exact ha g
  | call i answer call hi hw =>
    rcases stepCall_world fenv s call answer call.pc with he | ⟨⟨t, label, ref, hpc, hnone⟩, -⟩
    · rw [hw, he]
      exact ha g
    · exact absurd hnone (hp call (List.mem_of_getElem? hi) _ t label ref hpc (by decide))

end Front

/-- Connections are there where they are used, in every run from a state that
has no call at work on a record, as long as tunnels are suspended cleanly. -/
theorem connection_never_missing {fenv : FrontEnv σ} {start : Time} {store : σ} {ls₀ ls : List FrontLabel}
    {s₀ s : Front σ} (h₀ : Run (Front.step fenv) (fun _ _ => True) (.init fenv start store) ls₀ s₀)
    (halive : ∀ g, (s₀.world.gateway g).crashed = false) (hrest : ∀ call ∈ s₀.calls, call.between = false)
    (h : Run (Front.step fenv) (fun s l => suspendsCleanly s l = true) s₀ ls s) :
    ∀ g, (s.world.gateway g).crashed = false := by
  have hcons : Consistent s₀.world := h₀.inv (fun s => Consistent s.world) (consistent_init fenv.env start store)
    fun _ _ _ hi _ hstep => consistent_front hi hstep
  have hprov : Provided s₀ := by
    intro call hm stage t label ref hpc hstage
    have hb := hrest call hm
    simp [PublicCall.between, hpc, hstage] at hb
  refine (h.inv (fun s => Consistent s.world ∧ Provided s ∧ ∀ g, (s.world.gateway g).crashed = false)
    ⟨hcons, hprov, halive⟩ ?_).2.2
  rintro s l s' ⟨hc, hp, ha⟩ hok hstep
  exact ⟨consistent_front hc hstep, provided_step hp hok hstep, alive_step hc hp ha hok hstep⟩

def resumable : FrontEnv Memory := { env := demo Memory.repo true }

def aboutToOpen : List FrontLabel :=
  (connect 0 "g1").map .world ++ .accept "g1" "a.x" "198.51.100.7" :: List.replicate 6 (.call 0 {})

def lostAfterwards : List FrontLabel :=
  aboutToOpen ++ [.call 0 {}, .world (.lost 0), .world (.run 0 .main .ok)]

theorem connection_never_missing_lostAfterwards :
    ∃ s, Run (Front.step resumable) (fun s l => suspendsCleanly s l = true) (.init resumable 0 ∅) lostAfterwards s ∧
      (s.world.record "g1" "t-a" .shared = (none, true) ∧ s.calls.map PublicCall.pc = [.labelling "t-a" "default"]) ∧
      ∀ g, (s.world.gateway g).crashed = false := by
  have hends : ∃ s, Run (Front.step resumable) (fun s l => suspendsCleanly s l = true) (.init resumable 0 ∅)
      lostAfterwards s ∧ (s.world.record "g1" "t-a" .shared = (none, true) ∧
        s.calls.map PublicCall.pc = [.labelling "t-a" "default"]) := run_checked_any (by decide +kernel)
  obtain ⟨s, hrun, hs⟩ := hends
  exact ⟨s, hrun, hs, connection_never_missing .nil (fun _ => rfl) (fun _ h => by cases h) hrun⟩

def lostBefore : List FrontLabel := aboutToOpen ++ [.world (.lost 0), .world (.run 0 .main .ok), .call 0 {}]

/-- The registry forgets the session of a first connection, so that the agent can
make a second, and both are lost one after the other. -/
def lostTwice : List FrontLabel :=
  (connect 0 "g1").map .world ++ [.world (.clock 301000000000), .world .sweepSessions] ++
    (connect 1 "g1").map .world ++
    [.world (.lost 0), .world (.run 0 .main .ok), .world (.lost 1), .world (.run 1 .main .ok)]

theorem connection_missing :
    (∃ s, Run (Front.step resumable) (fun _ _ => True) (.init resumable 0 ∅) lostBefore s ∧
      (s.world.gateway "g1").crashed = true) ∧
    ∃ s, Run (Front.step resumable) (fun _ _ => True) (.init resumable 0 ∅) lostTwice s ∧
      (s.world.gateway "g1").crashed = true :=
  ⟨run_any (by decide +kernel), run_any (by decide +kernel)⟩

end TunnelEdge.Gateway
