import TunnelEdge.Gateway.PublicCalls
/-!
# The stream limits

`handlePublicConnection` compares the number of streams of the tunnel with its
limits and registers its own stream only after the rules, `OpenStreamSync` and
the label: calls that make the comparison one after another before the first
of them registers all pass. The limits hold as long as no call makes it while
another is on its way to registering a stream of that tunnel.
-/

namespace TunnelEdge.Gateway

open GoLib Store Registry Streams

variable {σ : Type}

/-- The call is past its first limit and has not registered its stream of `t`. -/
def CallPc.pending (t : String) : CallPc → Bool
  | .holding .limitPerTunnel t' _ _ | .holding .acl t' _ _ | .holding .openStream t' _ _ => t' = t
  | .labelling t' _ | .registering t' => t' = t
  | _ => false

def CallPc.admitted (t : String) : CallPc → Bool
  | .holding .acl t' _ _ | .holding .openStream t' _ _ => t' = t
  | .labelling t' _ | .registering t' => t' = t
  | _ => false

/-- A call looks at the limits only while no other is on its way to a stream of the tunnel. -/
def oneAtATime (s : Front σ) : FrontLabel → Bool
  | .call i _ =>
    match s.calls[i]? with
    | some ⟨g, _, .holding .limit t _ _⟩ => s.calls.all fun other => !(other.gateway = g && other.pc.pending t)
    | _ => true
  | _ => true

/-- The streams of `t` on `g`, and the calls about to add one. -/
structure Within (lim : Limits) (g t : String) (s : Front σ) : Prop where
  count : ((s.streams g).countByTunnel t : Int) ≤ lim.maxStreams ∧
    ((s.streams g).countByTunnel t : Int) ≤ lim.maxStreamsPerTunnel
  first : ∀ (i : Nat) call, s.calls[i]? = some call → call.gateway = g → call.pc.pending t = true →
    ((s.streams g).countByTunnel t : Int) + 1 ≤ lim.maxStreams
  second : ∀ (i : Nat) call, s.calls[i]? = some call → call.gateway = g → call.pc.admitted t = true →
    ((s.streams g).countByTunnel t : Int) + 1 ≤ lim.maxStreamsPerTunnel
  alone : ∀ (i j : Nat) ci cj, s.calls[i]? = some ci → s.calls[j]? = some cj → ci.gateway = g → cj.gateway = g →
    ci.pc.pending t = true → cj.pc.pending t = true → i = j

section Steps

variable {fenv : FrontEnv σ} {s s' : Front σ} {g t : String} {lim : Limits} {p q : CallPc}

theorem pending_of_admitted (h : p.admitted t = true) : p.pending t = true := by
  unfold CallPc.admitted at h
  split at h <;> first | exact h | cases h

theorem le_of_not_reached {limit : Int} {count : Nat} (hpos : 0 < limit) (h : reached limit count = false) :
    (count : Int) + 1 ≤ limit := by
  simp only [reached, hpos, decide_true, Bool.true_and, decide_eq_false_iff_not, Int.not_le] at h
  exact h

theorem pending_of_next (hn : Front.CallNext fenv s g p q) (h : q.pending t = true) : p.pending t = true ∨
    (∃ label ref, p = .holding .limit t label ref) ∧
      reached (fenv.limits g).maxStreams ((s.streams g).countByTunnel t) = false := by
  cases hn with
  | limit t' label ref hr =>
    obtain rfl : t' = t := of_decide_eq_true h
    exact .inr ⟨⟨label, ref, rfl⟩, hr⟩
  | limitPerTunnel | acl | openStream | label => exact .inl h
  | ended | route | fetch | check | register | relayed => cases h

theorem admitted_of_next (hn : Front.CallNext fenv s g p q) (h : q.admitted t = true) : p.admitted t = true ∨
    reached (fenv.limits g).maxStreamsPerTunnel ((s.streams g).countByTunnel t) = false := by
  cases hn with
  | limitPerTunnel t' label ref hr =>
    obtain rfl : t' = t := of_decide_eq_true h
    exact .inr hr
  | acl | openStream | label => exact .inl h
  | ended | route | fetch | check | limit | register | relayed => cases h

theorem detach_gateway (w : World σ) (l : Label) (call : PublicCall) : (call.detach w l).gateway = call.gateway := by
  unfold PublicCall.detach
  split
  · split <;> rfl
  · rfl

theorem detach_pending (w : World σ) (l : Label) (call : PublicCall) :
    (call.detach w l).pc.pending t = call.pc.pending t ∧ (call.detach w l).pc.admitted t = call.pc.admitted t := by
  unfold PublicCall.detach
  split
  · rename_i stage t' label hp
    split
    · rw [hp]
      cases stage <;> exact ⟨rfl, rfl⟩
    · exact ⟨rfl, rfl⟩
  · exact ⟨rfl, rfl⟩

theorem Within.mono (h : Within lim g t s) (hs : (s'.streams g).countByTunnel t ≤ (s.streams g).countByTunnel t)
    (hc : ∀ (i : Nat) call', s'.calls[i]? = some call' → call'.gateway = g → call'.pc.pending t = true →
      ∃ call, s.calls[i]? = some call ∧ call.gateway = g ∧ call.pc.pending t = true ∧
        (call'.pc.admitted t = true → call.pc.admitted t = true)) : Within lim g t s' := by
  have hle : ((s'.streams g).countByTunnel t : Int) ≤ (s.streams g).countByTunnel t := Int.ofNat_le.2 hs
  refine ⟨⟨Int.le_trans hle h.count.1, Int.le_trans hle h.count.2⟩, fun i call' hi hg hp => ?_,
    fun i call' hi hg ha => ?_, fun i j ci cj hi hj hgi hgj hpi hpj => ?_⟩
  · obtain ⟨call, hi', hg', hp', -⟩ := hc i call' hi hg hp
    exact Int.le_trans (Int.add_le_add_right hle 1) (h.first i call hi' hg' hp')
  · obtain ⟨call, hi', hg', -, ha'⟩ := hc i call' hi hg (pending_of_admitted ha)
    exact Int.le_trans (Int.add_le_add_right hle 1) (h.second i call hi' hg' (ha' ha))
  · obtain ⟨ci', hi', hgi', hpi', -⟩ := hc i ci hi hgi hpi
    obtain ⟨cj', hj', hgj', hpj', -⟩ := hc j cj hj hgj hpj
    exact h.alone i j ci' cj' hi' hj' hgi' hgj' hpi' hpj'

theorem not_pending_of_limit {i : Nat} {answer : CallAnswer} {call : PublicCall} {label : String} {ref : RecordRef}
    (hok : oneAtATime s (.call i answer) = true) (hi : s.calls[i]? = some call)
    (hp : call.pc = .holding .limit t label ref) :
    ∀ other ∈ s.calls, other.gateway = call.gateway → other.pc.pending t ≠ true := by
  intro other ho hg hpend
  obtain ⟨g, client, p⟩ := call
  obtain rfl : p = .holding .limit t label ref := hp
  simp only [oneAtATime, hi, List.all_eq_true] at hok
  have h := hok other ho
  simp [hg, hpend] at h

theorem within_register (h : Within lim g t s) {i : Nat} {call : PublicCall} {q : CallPc} (hi : s.calls[i]? = some call)
    (hg : call.gateway = g) (hp : call.pc = .registering t) (hq : q.pending t = false)
    (hs : (s'.streams g).countByTunnel t ≤ (s.streams g).countByTunnel t + 1)
    (hc : s'.calls = s.calls.set i { call with pc := q }) : Within lim g t s' := by
  have hmine : call.pc.pending t = true ∧ call.pc.admitted t = true := by
    rw [hp]
    simp [CallPc.pending, CallPc.admitted]
  have hnone : ∀ (j : Nat) cj, s'.calls[j]? = some cj → cj.gateway = g → cj.pc.pending t ≠ true := by
    intro j cj hj hgj hpj
    rw [hc] at hj
    rcases Front.getElem?_calls_set hj with ⟨-, rfl⟩ | ⟨hne, hj⟩
    · exact absurd hpj (by simp [hq])
    · exact hne (h.alone j i cj call hj hi hgj hg hpj hmine.1)
  have h₁ := h.first i call hi hg hmine.1
  have h₂ := h.second i call hi hg hmine.2
  refine ⟨⟨by omega, by omega⟩, fun j cj hj hgj hpj => ?_, fun j cj hj hgj haj => ?_,
    fun j k cj ck hj _ hgj _ hpj _ => ?_⟩
  · exact absurd hpj (hnone j cj hj hgj)
  · exact absurd (pending_of_admitted haj) (hnone j cj hj hgj)
  · exact absurd hpj (hnone j cj hj hgj)

theorem within_pass (hms : 0 < (fenv.limits g).maxStreams) (hmt : 0 < (fenv.limits g).maxStreamsPerTunnel)
    (h : Within (fenv.limits g) g t s) {i : Nat} {answer : CallAnswer} {call : PublicCall} {q : CallPc}
    (hok : oneAtATime s (.call i answer) = true) (hi : s.calls[i]? = some call)
    (hnext : Front.CallNext fenv s call.gateway call.pc q)
    (hs : (s'.streams g).countByTunnel t ≤ (s.streams g).countByTunnel t)
    (hc : s'.calls = s.calls.set i { call with pc := q }) : Within (fenv.limits g) g t s' := by
  have hle : ((s'.streams g).countByTunnel t : Int) ≤ (s.streams g).countByTunnel t := Int.ofNat_le.2 hs
  have hcalls : ∀ (j : Nat) cj, s'.calls[j]? = some cj →
      j = i ∧ cj = { call with pc := q } ∨ j ≠ i ∧ s.calls[j]? = some cj := by
    intro j cj hj
    rw [hc] at hj
    exact Front.getElem?_calls_set hj
  have hother : call.gateway = g → q.pending t = true →
      ∀ (k : Nat) ck, k ≠ i → s.calls[k]? = some ck → ck.gateway = g → ck.pc.pending t ≠ true := by
    rintro rfl hq k ck hk hck hgk hpk
    rcases pending_of_next hnext hq with hp | ⟨⟨label, ref, hp⟩, -⟩
    · exact hk (h.alone k i ck call hck hi hgk rfl hpk hp)
    · exact not_pending_of_limit hok hi hp ck (List.mem_of_getElem? hck) hgk hpk
  refine ⟨⟨Int.le_trans hle h.count.1, Int.le_trans hle h.count.2⟩, fun j cj hj hgj hpj => ?_,
    fun j cj hj hgj haj => ?_, fun j k cj ck hj hk hgj hgk hpj hpk => ?_⟩
  · refine Int.le_trans (Int.add_le_add_right hle 1) ?_
    rcases hcalls j cj hj with ⟨-, rfl⟩ | ⟨-, hj⟩
    · obtain rfl : call.gateway = g := hgj
      rcases pending_of_next hnext hpj with hp | ⟨-, hr⟩
      · exact h.first i call hi rfl hp
      · exact le_of_not_reached hms hr
    · exact h.first j cj hj hgj hpj
  · refine Int.le_trans (Int.add_le_add_right hle 1) ?_
    rcases hcalls j cj hj with ⟨-, rfl⟩ | ⟨-, hj⟩
    · obtain rfl : call.gateway = g := hgj
      rcases admitted_of_next hnext haj with ha | hr
      · exact h.second i call hi rfl ha
      · exact le_of_not_reached hmt hr
    · exact h.second j cj hj hgj haj
  · rcases hcalls j cj hj with ⟨rfl, rfl⟩ | ⟨hji, hj⟩ <;> rcases hcalls k ck hk with ⟨rfl, rfl⟩ | ⟨hki, hk⟩
    · rfl
    · exact absurd hpk (hother hgj hpj k ck hki hk hgk)
    · exact absurd hpj (hother hgk hpk j cj hji hj hgj)
    · exact h.alone j k cj ck hj hk hgj hgk hpj hpk

theorem within_call (hms : 0 < (fenv.limits g).maxStreams) (hmt : 0 < (fenv.limits g).maxStreamsPerTunnel)
    (h : Within (fenv.limits g) g t s) {i : Nat} {answer : CallAnswer} {call : PublicCall}
    (hok : oneAtATime s (.call i answer) = true) (hi : s.calls[i]? = some call)
    (hs : s'.streams = (s.stepCall fenv call answer call.pc).1.streams)
    (hc : s'.calls = s.calls.set i { call with pc := (s.stepCall fenv call answer call.pc).2 }) :
    Within (fenv.limits g) g t s' := by
  have hcount := Front.stepCall_streams fenv s call answer call.pc g t
  rw [← hs] at hcount
  by_cases hreg : g = call.gateway ∧ call.pc = .registering t
  · rw [if_pos hreg] at hcount
    exact within_register h hi hreg.1.symm hreg.2 (by rw [hreg.2]; rfl) hcount hc
  · rw [if_neg hreg, Nat.add_zero] at hcount
    exact within_pass hms hmt h hok hi (Front.stepCall_next fenv s call answer call.pc) hcount hc

theorem within_step (hms : 0 < (fenv.limits g).maxStreams) (hmt : 0 < (fenv.limits g).maxStreamsPerTunnel)
    (h : Within (fenv.limits g) g t s) {l : FrontLabel} (hok : oneAtATime s l = true)
    (hstep : s.step fenv l = some s') : Within (fenv.limits g) g t s' := by
  cases Front.step_move hstep with
  | world l hw hs hc =>
    refine h.mono (Nat.le_of_eq (by rw [hs])) fun i call' hi hg hp => ?_
    rw [hc, List.getElem?_map] at hi
    obtain ⟨call, hi', rfl⟩ := Option.map_eq_some_iff.1 hi
    rw [detach_gateway] at hg
    rw [(detach_pending s.world l call).1] at hp
    refine ⟨call, hi', hg, hp, fun ha => ?_⟩
    rwa [(detach_pending s.world l call).2] at ha
  | drop l hw hc hs hl =>
    refine h.mono (hs g t) fun i call hi hg hp => ?_
    rw [hc] at hi
    exact ⟨call, hi, hg, hp, id⟩
  | accept g' hostname client hw hs hc =>
    refine h.mono (Nat.le_of_eq (by rw [hs])) fun i call hi hg hp => ?_
    rw [hc] at hi
    rcases Front.getElem?_calls_append hi with hi | rfl
    · exact ⟨call, hi, hg, hp, id⟩
    · cases hp
  | call i answer call hi hw hs hc => exact within_call hms hmt h hok hi hs hc

theorem within_init (hms : 0 < (fenv.limits g).maxStreams) (hmt : 0 < (fenv.limits g).maxStreamsPerTunnel)
    (start : Time) (store : σ) : Within (fenv.limits g) g t (Front.init fenv start store) :=
  ⟨⟨Int.le_of_lt hms, Int.le_of_lt hmt⟩, fun _ _ h => (by cases h), fun _ _ h => (by cases h),
    fun _ _ _ _ h => (by cases h)⟩

end Steps

/-- The streams of a tunnel stay within both limits in every run in which no call
looks at the limits while another is between that look and its `Open`. -/
theorem streams_within_limits {fenv : FrontEnv σ} {start : Time} {store : σ} {ls : List FrontLabel} {s : Front σ}
    (h : Run (Front.step fenv) (fun s l => oneAtATime s l = true) (.init fenv start store) ls s) {g : String}
    (hms : 0 < (fenv.limits g).maxStreams) (hmt : 0 < (fenv.limits g).maxStreamsPerTunnel) (t : String) :
    ((s.streams g).countByTunnel t : Int) ≤
      min (fenv.limits g).maxStreams (fenv.limits g).maxStreamsPerTunnel := by
  have hw := h.inv (Within (fenv.limits g) g t) (within_init hms hmt start store)
    fun _ _ _ hi hok hstep => within_step hms hmt hi hok hstep
  exact Int.le_min.2 hw.count

def oneStream : FrontEnv Memory := { env := demo Memory.repo false, limits := fun _ => ⟨1, 1⟩ }

def twoClients : List FrontLabel :=
  (connect 0 "g1").map .world ++ [.accept "g1" "a.x" "198.51.100.7", .accept "g1" "a.x" "198.51.100.8"]

def inTurn : List FrontLabel :=
  twoClients ++ List.replicate 8 (.call 0 {}) ++ [.call 0 { id := "s0" }] ++ List.replicate 4 (.call 1 {})

theorem streams_within_limits_inTurn :
    ∃ s, Run (Front.step oneStream) (fun s l => oneAtATime s l = true) (.init oneStream 0 ∅) inTurn s ∧
      ((s.streams "g1").countByTunnel "t-a" = 1 ∧ (s.calls.map PublicCall.pc) = [.relaying "s0", .ended]) ∧
      ((s.streams "g1").countByTunnel "t-a" : Int) ≤ min 1 1 := by
  have hends : ∃ s, Run (Front.step oneStream) (fun s l => oneAtATime s l = true) (.init oneStream 0 ∅) inTurn s ∧
      ((s.streams "g1").countByTunnel "t-a" = 1 ∧ (s.calls.map PublicCall.pc) = [.relaying "s0", .ended]) :=
    run_checked_any (by decide +kernel)
  obtain ⟨s, hrun, hs⟩ := hends
  exact ⟨s, hrun, hs, streams_within_limits hrun (by decide) (by decide) "t-a"⟩

/-- Both look at the limits before either has a stream. -/
def atOnce : List FrontLabel :=
  twoClients ++ List.replicate 5 (.call 0 {}) ++ List.replicate 5 (.call 1 {}) ++
    (List.replicate 3 (.call 0 {}) ++ [.call 0 { id := "s0" }]) ++
    (List.replicate 3 (.call 1 {}) ++ [.call 1 { id := "s1" }])

theorem limit_exceeded_at_once :
    ∃ s, Run (Front.step oneStream) (fun _ _ => True) (.init oneStream 0 ∅) atOnce s ∧
      ¬ ((s.streams "g1").countByTunnel "t-a" : Int) ≤
        min (oneStream.limits "g1").maxStreams (oneStream.limits "g1").maxStreamsPerTunnel :=
  run_any (by decide +kernel)

end TunnelEdge.Gateway
