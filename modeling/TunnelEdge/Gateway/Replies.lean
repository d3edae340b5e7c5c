import TunnelEdge.Gateway.ControlStream
import TunnelEdge.Gateway.Reach
/-!
# What the agent can make of the replies

The agent decodes each reply with the decoder of one kind of frame, chosen by what
it sent: `DecodeSessionResumeResp` after a SessionResume, `DecodeAuthV2Response` or
`DecodeAuthResponse` after its authentication. The gateway answers some failures
with an AuthResponse whatever the agent sent. Here both sides run together: the
agent's bytes, or the part of them that arrives, are what the gateway reads.
-/

namespace TunnelEdge.Gateway

open GoLib Store Registry Transport

/-! ## The agent's side -/

def Message.kind : Message → Transport.FrameKind
  | .authResponse .. => .authResponse
  | .authV2Response .. => .authV2Response
  | .resumeResp .. => .sessionResumeResp

/-- The frame that `authenticateV1` or `authenticateV2` decodes. -/
def responseKind (a : Agent) : Transport.FrameKind := if a.isV2 then .authV2Response else .authResponse

/-- The frame that the agent's next decode call expects, after the replies it has decoded. -/
def nextDecode (a : Agent) : List Message → Option Transport.FrameKind
  | [] => some (if a.resume.isSome then .sessionResumeResp else responseKind a)
  | [.resumeResp status _ _] => if a.resume.isSome && status ≠ .resumed then some (responseKind a) else none
  | _ => none

/-- Each reply is of the kind that the agent decodes next. -/
def Decodable (a : Agent) (replies : List Message) : Prop :=
  ∀ pre m post, replies = pre ++ m :: post → nextDecode a pre = some m.kind

/-- The agent has decoded everything and waits for the response to its authentication. -/
def Awaits (a : Agent) (replies : List Message) : Prop :=
  Decodable a replies ∧ nextDecode a replies = some (responseKind a)

section Decodable

variable {a : Agent} {ms : List Message} {m : Message}

@[simp] theorem decodable_nil (a : Agent) : Decodable a [] := by
  intro pre m post h
  simp at h

theorem decodable_concat_iff : Decodable a (ms ++ [m]) ↔ Decodable a ms ∧ nextDecode a ms = some m.kind := by
  constructor
  · intro h
    refine ⟨fun pre m' post hms => h pre m' (post ++ [m]) (by rw [hms, List.append_assoc]; rfl), h ms m [] rfl⟩
  · rintro ⟨h, hm⟩ pre m' post heq
    rcases List.eq_nil_or_concat post with rfl | ⟨post', x, rfl⟩
    · obtain ⟨rfl, hx⟩ := List.append_inj' heq rfl
      cases hx
      exact hm
    · have heq' : ms ++ [m] = (pre ++ m' :: post') ++ [x] := by simpa using heq
      exact h pre m' post' (List.append_inj' heq' rfl).1

theorem decodable_singleton_iff : Decodable a [m] ↔ nextDecode a [] = some m.kind := by
  rw [← List.nil_append [m], decodable_concat_iff, and_iff_right (decodable_nil a)]

theorem Awaits.concat (h : Awaits a ms) (hm : m.kind = responseKind a) : Decodable a (ms ++ [m]) :=
  decodable_concat_iff.2 ⟨h.1, hm ▸ h.2⟩

theorem awaits_nil (h : a.resume = none) : Awaits a [] := ⟨decodable_nil a, by simp [nextDecode, h]⟩

theorem awaits_refused {status : ResumeStatus} {t token : String} (h : a.resume.isSome = true)
    (hs : status ≠ .resumed) : Awaits a [.resumeResp status t token] :=
  ⟨decodable_singleton_iff.2 (by simp [nextDecode, h, Message.kind]), by simp [nextDecode, h, hs]⟩

end Decodable

/-! ## The gateway's side -/

section Replying

variable {σ : Type} {env : Env σ} {w w' : World σ} {c : ConnID} {r : Role} {fate : Fate} {p : Pc} {a : Agent}
  {sent : List Message} {cfg : Config}

/-- Program counters from which nothing more is written to the agent. -/
def Pc.silent : Pc → Bool
  | .idle | .quota _ | .routeDefault _ | .acquire _ | .routeLabels .. | .drawToken .. | .respond .. => false
  | .lookup .. | .refuse .. | .cancelTimer .. | .drawNew .. | .attach .. | .storeNew .. | .reply .. => false
  | _ => true

/-- What the goroutine may still write fits the agent, once there is no resume attempt or it has been refused. -/
def Answering (a : Agent) (sent : List Message) : Pc → Prop
  | .quota x => x.v2 = true ∧ x.v2 = a.isV2 ∧ Awaits a sent
  | .routeDefault x | .acquire x | .routeLabels x .. | .drawToken x _ | .respond x .. => x.v2 = a.isV2 ∧ Awaits a sent
  | p => p.silent = true ∧ Decodable a sent

/-- After a refusal the goroutine goes on to the authentication frame. -/
def AfterRefusal (cfg : Config) (a : Agent) (rest : List Frame) : Prop :=
  ∀ status, status ≠ .resumed →
    Answering a ([.resumeResp status "" ""] ++ (fullAuth cfg false rest).2.toList) (fullAuth cfg false rest).1

def Replying (cfg : Config) (a : Agent) (sent : List Message) : Pc → Prop
  | .lookup _ rest | .cancelTimer _ rest | .drawNew _ rest | .attach _ _ rest =>
    a.resume.isSome = true ∧ sent = [] ∧ AfterRefusal cfg a rest
  | .refuse status rest => a.resume.isSome = true ∧ sent = [] ∧ AfterRefusal cfg a rest ∧ status ≠ .resumed
  | .storeNew .. | .reply .. => a.resume.isSome = true ∧ sent = []
  | p => Answering a sent p

theorem replying_of_silent (hp : p.silent = true) (h : Decodable a sent) : Replying cfg a sent p := by
  cases p <;> first | exact ⟨hp, h⟩ | cases hp

theorem replying_of_answering (h : Answering a sent p) : Replying cfg a sent p := by
  cases p <;> first | exact h | cases h.1

theorem Replying.decodable (h : Replying cfg a sent p) : Decodable a sent := by
  cases p with
  | lookup | cancelTimer | drawNew | attach | refuse => rw [h.2.1]; exact decodable_nil a
  | storeNew | reply => rw [h.2]; exact decodable_nil a
  | quota => exact h.2.2.1
  | routeDefault | acquire | routeLabels | drawToken | respond => exact h.2.1
  | _ => exact h.2

theorem stepPc_silent (env : Env σ) (w : World σ) (c : ConnID) (r : Role) (fate : Fate) (hp : p.silent = true)
    (hr : p.runnable = true) :
    (stepPc env w c r fate p).1.sent = w.sent ∧ (stepPc env w c r fate p).2.silent = true := by
  cases p with
  | suspend t =>
    rcases suspend_cases env w c r fate t with h | h | ⟨_, _, _, h⟩ | ⟨_, _, h⟩ <;> rw [h] <;>
      exact ⟨rfl, rfl⟩
  | idle | quota | routeDefault | acquire | routeLabels | drawToken | respond | lookup | refuse | cancelTimer | drawNew
  | attach | storeNew | reply => cases hp
  | serving | waiting | done | failed => cases hr
  | _ =>
    constructor
    · simp only [stepPc, stepHandshake, stepStream, stepRemoval, stepBeat]
      repeat' split
      all_goals simp [World.setPc, World.note, World.updateGateway]
    · simp only [stepPc, stepHandshake, stepStream, stepRemoval, stepBeat, removed]
      repeat' split
      all_goals rfl

theorem stepPc_sent_other (env : Env σ) (w : World σ) {c c' : ConnID} (r : Role) (fate : Fate) (p : Pc) (h : c' ≠ c) :
    (stepPc env w c r fate p).1.sent c' = w.sent c' := by
  have hopt : ∀ (w : World σ) (m : Option Message), (w.sendOption c m).sent c' = w.sent c' := by
    intro w m
    cases m <;> simp [World.sendOption, World.send, h]
  cases p with
  | suspend t =>
    rcases suspend_cases env w c r fate t with hs | hs | ⟨_, _, _, hs⟩ | ⟨_, _, hs⟩ <;> rw [hs] <;> rfl
  | routeLabels x leaseID rest => cases rest <;> simp [stepPc, stepHandshake, World.updateGateway]
  | _ =>
    simp only [stepPc, stepHandshake, stepResume, stepStream, stepRemoval, stepBeat]
    repeat' split
    all_goals simp [World.setPc, World.note, World.updateGateway, World.send, h, hopt]

theorem answering_routeNext {x : Auth} (hv : x.v2 = a.isV2) (h : Awaits a sent) (cfg : Config) (leaseID : String)
    (rest : List TunnelRoute) : Answering a sent (routeNext cfg x leaseID rest) := by
  unfold routeNext
  split
  · split
    · exact ⟨hv, h⟩
    · exact ⟨hv, h⟩
  · exact ⟨hv, h⟩

theorem kind_authOK {x : Auth} (hv : x.v2 = a.isV2) (token : String) : (authOK cfg x token).kind = responseKind a := by
  unfold authOK responseKind
  rw [← hv]
  cases x.v2 <;> rfl

theorem send_sent (w : World σ) (c : ConnID) (m : Message) : (w.send c m).sent c = w.sent c ++ [m] := by
  simp [World.send]

theorem sendOption_sent (w : World σ) (c : ConnID) (m : Option Message) :
    (w.sendOption c m).sent c = w.sent c ++ m.toList := by
  cases m <;> simp [World.sendOption, World.send]

theorem stepPc_replying (env : Env σ) (w : World σ) (c : ConnID) (r : Role) (fate : Fate)
    (h : Replying (env.config (w.home c)) a (w.sent c) p) (hr : p.runnable = true) :
    Replying (env.config (w.home c)) a ((stepPc env w c r fate p).1.sent c) (stepPc env w c r fate p).2 := by
  cases hp : p.silent with
  | true =>
    obtain ⟨hs, hq⟩ := stepPc_silent env w c r fate hp hr
    rw [hs]
    exact replying_of_silent hq h.decodable
  | false =>
  cases p with
  | idle => cases hr
  | quota x =>
    obtain ⟨hx, hv, ha⟩ := h
    have herr : Decodable a ((w.send c (.authV2Response .error "" [] "" "")).sent c) := by
      rw [send_sent]
      exact ha.concat (by simp [Message.kind, responseKind, ← hv, hx])
    simp only [stepPc, stepHandshake]
    split
    · exact ⟨rfl, herr⟩
    · split
      · exact ⟨hv, ha⟩
      · exact ⟨rfl, herr⟩
  | routeDefault x => exact h
  | acquire x =>
    obtain ⟨hv, ha⟩ := h
    simp only [stepPc, stepHandshake]
    split
    · simp only [World.note, request_sent]
      split
      · exact replying_of_answering (answering_routeNext hv ha _ _ _)
      · exact ⟨hv, ha⟩
    · split
      · rename_i hx
        refine ⟨rfl, ?_⟩
        rw [send_sent, request_sent]
        exact ha.concat (by simp [Message.kind, responseKind, ← hv, hx])
      · rename_i hx
        refine ⟨rfl, ?_⟩
        rw [send_sent, request_sent]
        exact ha.concat (by simp [Message.kind, responseKind, ← hv, hx])
  | routeLabels x leaseID rest =>
    obtain ⟨hv, ha⟩ := h
    cases rest with
    | nil => exact replying_of_answering (answering_routeNext hv ha (env.config (w.home c)) leaseID [])
    | cons route rest => exact replying_of_answering (answering_routeNext hv ha (env.config (w.home c)) leaseID rest)
  | drawToken x leaseID =>
    simp only [stepPc, stepHandshake, token_sent]
    exact h
  | respond x leaseID token =>
    obtain ⟨hv, ha⟩ := h
    simp only [stepPc, stepHandshake]
    split
    · refine ⟨rfl, ?_⟩
      rw [send_sent]
      exact ha.concat (kind_authOK hv token)
    · exact ⟨rfl, ha.1⟩
  | lookup token rest =>
    simp only [stepPc, stepResume]
    split
    · exact h
    · exact ⟨h.1, h.2.1, h.2.2, by simp⟩
  | refuse status rest =>
    obtain ⟨-, hsent, hafter, hs⟩ := h
    simp only [stepPc, stepResume]
    split
    · rw [sendOption_sent, send_sent, hsent]
      exact replying_of_answering (hafter status hs)
    · exact ⟨rfl, by rw [hsent]; exact decodable_nil a⟩
  | cancelTimer t rest =>
    simp only [stepPc, stepResume, stopTimer_sent]
    exact h
  | drawNew t rest =>
    simp only [stepPc, stepResume, token_sent]
    exact h
  | attach t token rest =>
    simp only [stepPc, stepResume]
    split
    · exact ⟨h.1, h.2.1, h.2.2, by simp⟩
    · split
      · exact ⟨h.1, h.2.1⟩
      · exact ⟨h.1, h.2.1⟩
  | storeNew t token =>
    simp only [stepPc, stepResume, setResumable_sent]
    exact h
  | reply t token =>
    simp only [stepPc, stepResume]
    split
    · refine ⟨rfl, ?_⟩
      change Decodable a ((w.send c _).sent c)
      rw [send_sent, h.2]
      exact decodable_singleton_iff.2 (by simp [nextDecode, h.1, Message.kind])
    · exact ⟨rfl, by rw [h.2]; exact decodable_nil a⟩
  | _ => cases hp

/-! ## Along a run -/

theorem accept_spec {g : String} {frames : List Frame} (h : w.step env (.accept c g frames) = some w') :
    c ∉ w.conns ∧ (w.gateway g).crashed = false ∧ w'.gateway = w.gateway ∧ c ∈ w'.conns ∧ w'.home c = g ∧
      w'.pc c .main = (handleAgentConnection (env.config g) frames).1 ∧
      w'.sent c = w.sent c ++ (handleAgentConnection (env.config g) frames).2.toList := by
  simp only [World.step] at h
  split at h
  · rename_i hc
    cases h
    refine ⟨hc.1, by simpa using hc.2, by simp [World.setPc], by simp [World.setPc], by simp [World.setPc], by simp, ?_⟩
    exact sendOption_sent _ c _
  · cases h

theorem step_sent {l : Label} (hb : Base env w) (h : w.step env l = some w') (c : ConnID) :
    w'.sent c = w.sent c ∨ (∃ fate, l = .run c .main fate) ∨ ∃ g frames, l = .accept c g frames := by
  cases l with
  | run c' r fate =>
    obtain ⟨hr, rfl⟩ := run_step h
    by_cases hc : c = c'
    · subst hc
      have hsilent : r ≠ .main → (w.pc c r).silent = true := by
        intro hne
        have hf := hb.fits c r
        cases r with
        | main => exact absurd rfl hne
        | _ => cases hp : w.pc c _ <;> simp_all [Pc.fits, Pc.silent, Pc.runnable]
      cases r with
      | main => exact .inr (.inl ⟨fate, rfl⟩)
      | beat => exact .inl (congrFun (stepPc_silent env w c _ fate (hsilent (by simp)) hr).1 c)
      | timer => exact .inl (congrFun (stepPc_silent env w c _ fate (hsilent (by simp)) hr).1 c)
    · exact .inl (stepPc_sent_other env w r fate _ hc)
  | accept c' g frames =>
    by_cases hc : c = c'
    · exact .inr (.inr ⟨g, frames, by rw [hc]⟩)
    · left
      simp only [World.step] at h
      split at h
      · cases h
        cases (handleAgentConnection (env.config g) frames).2 <;> simp [World.setPc, World.sendOption, World.send, hc]
      · cases h
  | clock d | sweepLeases | sweepSessions => cases h; exact .inl rfl
  | lost c' | cancelled c' | pulse c' =>
    obtain ⟨t, -, rfl⟩ := stream_quiet h
    exact .inl rfl
  | tick c' | quit c' =>
    obtain ⟨t, -, rfl⟩ := ticker_quiet h
    exact .inl rfl
  | fire c' =>
    simp only [World.step] at h
    split at h
    · split at h
      · cases h; exact .inl rfl
      · cases h
    · cases h

theorem ran_replying (h : Replying (env.config (w.home c)) a (w.sent c) (w.pc c .main))
    (hr : (w.pc c .main).runnable = true) :
    Replying (env.config (w.home c)) a ((w.ran env c .main fate).sent c) ((w.ran env c .main fate).pc c .main) := by
  rw [ran_pc_self env rfl]
  exact stepPc_replying env w c .main fate h hr

/-- An outside event finds the goroutine in `agentStreamLoop`, where it has written its last reply. -/
theorem outside_replying {q : Pc} (ho : Pc.Outside .main p q) (h : Replying cfg a sent p) : Replying cfg a sent q := by
  cases ho with
  | accept _ _ => cases h.1
  | suspend t | remove t _ | pulse t => exact ⟨rfl, h.2⟩

theorem run_replying {ok : World σ → Label → Prop} {ls : List Label} (hb : Base env w) (hc : c ∈ w.conns)
    (h : Replying (env.config (w.home c)) a (w.sent c) (w.pc c .main)) (hrun : Run (World.step env) ok w ls w') :
    Decodable a (w'.sent c) := by
  refine (run_inv_from (fun w => c ∈ w.conns ∧ Replying (env.config (w.home c)) a (w.sent c) (w.pc c .main)) hb
    ⟨hc, h⟩ ?_ hrun).2.2.decodable
  rintro w l w' hb ⟨hc, h⟩ - hst
  -- the step of the goroutine itself, or one that leaves its replies alone
  have hself : ∀ fate, (w.pc c .main).runnable = true → c ∈ (w.ran env c .main fate).conns ∧
      Replying (env.config ((w.ran env c .main fate).home c)) a ((w.ran env c .main fate).sent c)
        ((w.ran env c .main fate).pc c .main) := by
    intro fate hr
    obtain ⟨-, hconns, hhome, -⟩ := ran_keeps env w c .main fate
    rw [hconns, hhome]
    exact ⟨hc, ran_replying h hr⟩
  rcases step_sent hb hst c with hs | ⟨fate, rfl⟩ | ⟨g, frames, rfl⟩
  · rcases step_cases hb hst with ⟨c', r, fate, rfl, hr, rfl⟩ | hq
    · rcases ran_pc env w c' r fate c .main with hp | ⟨rfl, rfl, -⟩ | ⟨-, hr', -⟩
      · obtain ⟨-, hconns, hhome, -⟩ := ran_keeps env w c' r fate
        rw [hconns, hhome, hs, hp]
        exact ⟨hc, h⟩
      · exact hself fate hr
      · cases hr'
    · obtain ⟨hc', hhome⟩ := hq.conns c hc
      rw [hhome, hs]
      refine ⟨hc', ?_⟩
      rcases hq.pc c .main with hp | ho | ⟨hr, -⟩
      · rw [hp]
        exact h
      · exact outside_replying ho h
      · cases hr
  · obtain ⟨hr, rfl⟩ := run_step hst
    exact hself fate hr
  · exact absurd hc (accept_spec hst).1

theorem run_sent_nil {ok : World σ → Label → Prop} {start : Time} {store : σ} {ls : List Label}
    (h : Run (World.step env) ok (.init env start store) ls w) (hc : c ∉ w.conns) : w.sent c = [] := by
  refine (run_inv (fun w => ∀ c, c ∉ w.conns → w.sent c = []) (fun _ _ => rfl) ?_ h).2 c hc
  intro w l w' hb hi _ hst c hc
  have hc₀ : c ∉ w.conns := by
    intro hin
    rcases step_cases hb hst with ⟨c', r, fate, -, -, rfl⟩ | hq
    · rw [(ran_keeps env w c' r fate).2.1] at hc
      exact hc hin
    · exact hc (hq.conns c hin).1
  rcases step_sent hb hst c with hs | ⟨fate, rfl⟩ | ⟨g, frames, rfl⟩
  · rw [hs, hi c hc₀]
  · exact absurd (hb.mem_of rfl (run_step hst).1) hc₀
  · exact absurd (accept_spec hst).2.2.2.1 hc

end Replying

/-! ## From bytes to replies -/

/-- A decoded frame as the handshake takes it, with `str` for the text of a Go string. -/
def ControlFrame.toFrame (str : Bytes → String) : ControlFrame → Frame
  | .hello msg => .hello msg.version.toNat
  | .sessionResume msg => .resume (str msg.token)
  | .auth msg => .auth (str msg.token)
  | .authV2 msg => .authV2 (str msg.token) (msg.tunnels.map fun t => ⟨str t.label, str t.localAddr, str t.tunnelType⟩)
  | .malformed kind => .malformed kind
  | .unknown _ => .unknown

def framesOf (str : Bytes → String) (received : Bytes) : List Frame :=
  (controlStream received).1.map (ControlFrame.toFrame str)

/-- The frames of what arrives of the authentication. -/
def authPart (str : Bytes → String) (received : Bytes) : List Frame :=
  (readAuth received).1.map (ControlFrame.toFrame str)

section Received

variable {str : Bytes → String} {cfg : Config} {a : Agent} {auth : AuthFrame} {q : Bytes}

def Accepted (cfg : Config) (str : Bytes → String) (auth : AuthFrame) (q : Bytes) : Prop :=
  q = auth.wire ∧ (cfg.authenticate (str auth.token)).isSome = true

/-- What arrives of the authentication frame is nothing, or it is refused, or the agent is authenticated. -/
inductive AuthOutcome (cfg : Config) (str : Bytes → String) (auth : AuthFrame) (q : Bytes) : Pc × Option Message → Prop
  | missing (hq : q = []) : AuthOutcome cfg str auth q (.failed .read, none)
  | refused (hne : q ≠ []) (h : ¬ Accepted cfg str auth q) (f : Failure) :
      AuthOutcome cfg str auth q (rejected f .error)
  | quota (x : Auth) (h : Accepted cfg str auth q) (hx : x.v2 = true) (hv : auth.isV2 = true) :
      AuthOutcome cfg str auth q (.quota x, none)
  | default (x : Auth) (h : Accepted cfg str auth q) (hx : x.v2 = false) (hv : auth.isV2 = false) :
      AuthOutcome cfg str auth q (.routeDefault x, none)

theorem fullAuth_outcome (cfg : Config) (str : Bytes → String) (first : Bool) (ha : auth.Fits) (hq : q <+: auth.wire) :
    AuthOutcome cfg str auth q (fullAuth cfg first (authPart str q)) := by
  by_cases hnil : q = []
  · subst hnil
    exact .missing rfl
  by_cases hw : q = auth.wire
  · have hr := readAuth_wire ha []
    rw [List.append_nil, ← hw] at hr
    rw [authPart, hr]
    cases auth with
    | v1 token =>
      simp only [authControl, List.map_cons, List.map_nil, ControlFrame.toFrame, fullAuth]
      cases hauth : cfg.authenticate (str token) with
      | none => exact .refused hnil (by simp [Accepted, AuthFrame.token, hauth]) _
      | some agentID => exact .default _ ⟨hw, by simp [AuthFrame.token, hauth]⟩ rfl rfl
    | v2 msg =>
      simp only [authControl, List.map_cons, List.map_nil, ControlFrame.toFrame, fullAuth]
      cases hauth : cfg.authenticate (str msg.token) with
      | none => exact .refused hnil (by simp [Accepted, AuthFrame.token, hauth]) _
      | some agentID => exact .quota _ ⟨hw, by simp [AuthFrame.token, hauth]⟩ rfl rfl
  · rw [authPart, readAuth_short ha hq hw hnil]
    cases auth <;> exact .refused hnil (fun h => hw h.1) _

/-- The authentication is answered with the frame that the agent decodes: it is V1, or the gateway got nothing
of it, or it accepts it. -/
def AnsweredInKind (cfg : Config) (str : Bytes → String) (a : Agent) (q : Bytes) : Prop :=
  a.isV2 = false ∨ q = [] ∨ Accepted cfg str a.auth q

theorem AuthOutcome.answering {o : Pc × Option Message} {pre : List Message} (h : AuthOutcome cfg str a.auth q o)
    (hpre : Awaits a pre) (hq : AnsweredInKind cfg str a q) : Answering a (pre ++ o.2.toList) o.1 := by
  cases h with
  | missing => exact ⟨rfl, by simpa using hpre.1⟩
  | refused hne hn f =>
    have hv := hq.resolve_right fun h => h.elim hne hn
    exact ⟨rfl, hpre.concat (by simp [Message.kind, responseKind, hv])⟩
  | quota x _ hx hv => exact ⟨hx, by rw [hx, ← Agent.auth_isV2, hv], by simpa using hpre⟩
  | default x _ hx hv => exact ⟨by rw [hx, ← Agent.auth_isV2, hv], by simpa using hpre⟩

/-- Where it is not, the gateway sends an AuthResponse at once, to an agent that expects an AuthV2Response. -/
theorem AuthOutcome.rejects {o : Pc × Option Message} (h : AuthOutcome cfg str a.auth q o)
    (hn : ¬ AnsweredInKind cfg str a q) : a.isV2 = true ∧ ∃ f, o = rejected f .error := by
  simp only [AnsweredInKind, not_or, Bool.not_eq_false] at hn
  refine ⟨hn.1, ?_⟩
  cases h with
  | missing hq => exact absurd hq hn.2.1
  | refused _ _ f => exact ⟨f, rfl⟩
  | quota x h => exact absurd h hn.2.2
  | default x h => exact absurd h hn.2.2

theorem Awaits.not_decodable {pre : List Message} {status : AuthStatus} {t url : String} (h : Awaits a pre)
    (hv : a.isV2 = true) : ¬ Decodable a (pre ++ [.authResponse status t url]) := by
  rw [decodable_concat_iff, h.2]
  simp [responseKind, hv, Message.kind]

theorem opening_short (cfg : Config) (str : Bytes → String) {version : UInt16} {clientVersion : Bytes}
    (hq : q <+: helloFrame version clientVersion) (hne : q ≠ helloFrame version clientVersion) :
    ∃ f, handleAgentConnection cfg (framesOf str q) = (.failed f, none) := by
  rcases controlStream_hello_short hq hne with h | h
  · exact ⟨_, by rw [framesOf, h]; rfl⟩
  · exact ⟨_, by rw [framesOf, h]; rfl⟩

theorem opening_hello (version : UInt16) (clientVersion q : Bytes) :
    handleAgentConnection cfg (framesOf str (helloFrame version clientVersion ++ q)) =
      if version ≠ Transport.protocolVersion then rejected .version .versionError
      else dispatch cfg ((readAfterHello q).1.map (ControlFrame.toFrame str)) := by
  have hver : version.toNat ≠ protocolVersion ↔ version ≠ Transport.protocolVersion :=
    not_congr (UInt16.toNat_inj (b := Transport.protocolVersion))
  rw [framesOf, controlStream_hello]
  split
  · rename_i h
    simp only [List.map_cons, ControlFrame.toFrame, handleAgentConnection]
    rw [if_pos (hver.2 h)]
  · rename_i h
    simp only [List.map_cons, ControlFrame.toFrame, handleAgentConnection]
    rw [if_neg (fun hc => h (hver.1 hc))]

theorem dispatch_auth (ha : auth.Fits) (hq : q <+: auth.wire) :
    dispatch cfg ((readAfterHello q).1.map (ControlFrame.toFrame str)) = fullAuth cfg true (authPart str q) := by
  cases q with
  | nil => rfl
  | cons t q =>
    have hwhole := hq
    obtain ⟨rfl, -⟩ := List.cons_prefix_cons.1 hq
    rw [readAfterHello_auth]
    change dispatch cfg (authPart str _) = _
    by_cases hw : auth.msgType :: q = auth.wire
    · have hr := readAuth_wire ha []
      rw [List.append_nil, ← hw] at hr
      rw [authPart, hr]
      cases auth <;> rfl
    · rw [authPart, readAuth_short ha hwhole hw (by simp)]
      cases auth <;> rfl

/-- With one, its token is looked up, unless the gateway has no session store. -/
theorem dispatch_resume {token : Bytes} (h : token.length ≤ maxResumeTokenLen) (q : Bytes) :
    dispatch cfg ((readAfterHello (resumeWire (some token) ++ q)).1.map (ControlFrame.toFrame str)) =
      (if cfg.sessionRepo then .lookup (str token) (authPart str q) else .refuse .notFound (authPart str q), none) := by
  rw [readAfterHello_resume h]
  rfl

theorem dispatch_resume_short (cfg : Config) (str : Bytes → String) {token : Bytes}
    (h : token.length ≤ maxResumeTokenLen) (hq : q <+: resumeWire (some token)) (hne : q ≠ resumeWire (some token)) :
    ∃ f, dispatch cfg ((readAfterHello q).1.map (ControlFrame.toFrame str)) = (.failed f, none) := by
  rcases readAfterHello_resume_short h hq hne with he | he
  · exact ⟨_, by rw [he]; rfl⟩
  · exact ⟨_, by rw [he]; rfl⟩

end Received

/-! ## Every outcome -/

section Outcomes

variable {σ : Type} {env : Env σ} {w w' : World σ} {c : ConnID} {a : Agent} {cfg : Config} {str : Bytes → String}

def AllDecodable (env : Env σ) (a : Agent) (c : ConnID) (w : World σ) : Prop :=
  ∀ ls w', Run (World.step env) (fun _ _ => True) w ls w' → Decodable a (w'.sent c)

theorem AllDecodable.now (h : AllDecodable env a c w) : Decodable a (w.sent c) := h [] w .nil

theorem AllDecodable.run (h : AllDecodable env a c w) (r : Role) (fate : Fate) (hr : (w.pc c r).runnable = true)
    (ha : (w.gateway (w.home c)).crashed = false) : AllDecodable env a c (w.ran env c r fate) := by
  intro ls w' hrun
  refine h (.run c r fate :: ls) w' ?_
  have hfirst : Run (World.step env) (fun _ _ => True) w [.run c r fate] (w.ran env c r fate) :=
    .snoc .nil trivial (step_ran env rfl hr ha)
  exact hfirst.append hrun

theorem AllDecodable.refused {status : ResumeStatus} {rest : List Frame} (h : AllDecodable env a c w)
    (hp : w.pc c .main = .refuse status rest) (hs : w.sent c = []) (ha : (w.gateway (w.home c)).crashed = false) :
    Decodable a ([.resumeResp status "" ""] ++ (fullAuth (env.config (w.home c)) false rest).2.toList) := by
  have hnow := (h.run .main .ok (by rw [hp]; rfl) ha).now
  have hsent : (w.ran env c .main .ok).sent c =
      w.sent c ++ [.resumeResp status "" ""] ++ (fullAuth (env.config (w.home c)) false rest).2.toList := by
    change (stepPc env w c .main .ok (w.pc c .main)).1.sent c = _
    rw [hp]
    simp only [stepPc, stepResume, if_true, sendOption_sent, send_sent]
  rwa [hsent, hs] at hnow

theorem AllDecodable.lookup {token : String} {rest : List Frame} (h : AllDecodable env a c w)
    (hp : w.pc c .main = .lookup token rest) (hs : w.sent c = []) (ha : (w.gateway (w.home c)).crashed = false) :
    Decodable a ([.resumeResp .expired "" ""] ++ (fullAuth (env.config (w.home c)) false rest).2.toList) := by
  have hran : w.ran env c .main .lost = w.setPc c .main (.refuse .expired rest) := by
    simp only [World.ran, hp, stepPc, stepResume]
  have h' := h.run .main .lost (by rw [hp]; rfl) ha
  rw [hran] at h'
  exact h'.refused (by simp) hs ha

/-- A connection whose goroutine has just read its first frames. -/
structure Opened (env : Env σ) (c : ConnID) (w : World σ) (o : Pc × Option Message) : Prop where
  base : Base env w
  mem : c ∈ w.conns
  alive : (w.gateway (w.home c)).crashed = false
  pc : w.pc c .main = o.1
  sent : w.sent c = o.2.toList

theorem Opened.of_replying {o : Pc × Option Message} (hf : Opened env c w o)
    (h : Replying (env.config (w.home c)) a o.2.toList o.1) : AllDecodable env a c w := by
  intro ls w' hrun
  refine run_replying hf.base hf.mem ?_ hrun
  rw [hf.sent, hf.pc]
  exact h

theorem Opened.failed {f : Failure} (hf : Opened env c w (.failed f, none)) : AllDecodable env a c w :=
  hf.of_replying ⟨rfl, decodable_nil a⟩

theorem Opened.version_iff (hf : Opened env c w (rejected .version .versionError)) :
    AllDecodable env a c w ↔ a.isV2 = false ∧ a.resume = none := by
  have hiff : Decodable a [.authResponse .versionError "" ""] ↔ a.isV2 = false ∧ a.resume = none := by
    rw [decodable_singleton_iff]
    cases hr : a.resume <;> cases hv : a.isV2 <;> simp [nextDecode, responseKind, Message.kind, hr, hv]
  constructor
  · intro h
    have hnow := h.now
    rw [hf.sent] at hnow
    exact hiff.1 hnow
  · exact fun h => hf.of_replying ⟨rfl, hiff.2 h⟩

theorem Opened.auth_iff {q : Bytes} (ha : a.auth.Fits) (hr : a.resume = none) (hq : q <+: a.auth.wire)
    (hf : Opened env c w (fullAuth (env.config (w.home c)) true (authPart str q))) :
    AllDecodable env a c w ↔ AnsweredInKind (env.config (w.home c)) str a q := by
  have ho := fullAuth_outcome (env.config (w.home c)) str true ha hq
  constructor
  · intro h
    by_contra hn
    obtain ⟨hv, f, he⟩ := ho.rejects hn
    have hnow := h.now
    rw [hf.sent, he] at hnow
    exact (awaits_nil hr).not_decodable hv hnow
  · intro h
    exact hf.of_replying (replying_of_answering (ho.answering (awaits_nil hr) h))

/-- A resume attempt is either looked up or refused; both lead to the authentication frame. -/
theorem Opened.resume_iff {q : Bytes} {token : String} (ha : a.auth.Fits) (hr : a.resume.isSome = true)
    (hq : q <+: a.auth.wire)
    (hf : Opened env c w (if (env.config (w.home c)).sessionRepo then .lookup token (authPart str q)
      else .refuse .notFound (authPart str q), none)) :
    AllDecodable env a c w ↔ AnsweredInKind (env.config (w.home c)) str a q := by
  have ho := fullAuth_outcome (env.config (w.home c)) str false ha hq
  constructor
  · intro h
    by_contra hn
    obtain ⟨hv, f, he⟩ := ho.rejects hn
    have hd : ∃ status, status ≠ ResumeStatus.resumed ∧ Decodable a ([.resumeResp status "" ""] ++
        (fullAuth (env.config (w.home c)) false (authPart str q)).2.toList) := by
      have hp := hf.pc
      dsimp only at hp
      split at hp
      · exact ⟨.expired, by simp, h.lookup hp hf.sent hf.alive⟩
      · exact ⟨.notFound, by simp, h.refused hp hf.sent hf.alive⟩
    obtain ⟨status, hs, hd⟩ := hd
    rw [he] at hd
    exact (awaits_refused hr hs).not_decodable hv hd
  · intro h
    have hafter : AfterRefusal (env.config (w.home c)) a (authPart str q) :=
      fun status hs => ho.answering (awaits_refused hr hs) h
    refine hf.of_replying ?_
    dsimp only
    split
    · exact ⟨hr, rfl, hafter⟩
    · exact ⟨hr, rfl, hafter, by simp⟩

/-- The resume attempt, if there is one, arrives whole, and a part of the authentication frame behind it. -/
theorem Opened.dispatch_iff {q : Bytes} (hresume : ∀ token, a.resume = some token → token.length ≤ maxResumeTokenLen)
    (ha : a.auth.Fits) (hq : q <+: a.auth.wire)
    (hf : Opened env c w (dispatch (env.config (w.home c))
      ((readAfterHello (resumeWire a.resume ++ q)).1.map (ControlFrame.toFrame str)))) :
    AllDecodable env a c w ↔ AnsweredInKind (env.config (w.home c)) str a q := by
  cases hr : a.resume with
  | none =>
    rw [hr, resumeWire, List.nil_append, dispatch_auth ha hq] at hf
    exact hf.auth_iff ha hr hq
  | some token =>
    rw [hr, dispatch_resume (hresume token hr)] at hf
    exact hf.resume_iff ha (by rw [hr]; rfl) hq

theorem Opened.dispatch_short {q : Bytes} (hresume : ∀ token, a.resume = some token → token.length ≤ maxResumeTokenLen)
    (hq : q <+: resumeWire a.resume) (hne : q ≠ resumeWire a.resume)
    (hf : Opened env c w (dispatch (env.config (w.home c)) ((readAfterHello q).1.map (ControlFrame.toFrame str)))) :
    AllDecodable env a c w := by
  cases hr : a.resume with
  | none =>
    rw [hr] at hq hne
    exact absurd (List.prefix_nil.1 hq) hne
  | some token =>
    rw [hr] at hq hne
    obtain ⟨f, he⟩ := dispatch_resume_short (env.config (w.home c)) str (hresume token hr) hq hne
    rw [he] at hf
    exact hf.failed

theorem answeredInKind_iff (cfg : Config) (str : Bytes → String) (a : Agent) (hello q : Bytes) :
    AnsweredInKind cfg str a q ↔ a.isV2 = false ∨
      (hello ++ (resumeWire a.resume ++ q)).length ≤ (hello ++ resumeWire a.resume).length ∨
      (hello ++ (resumeWire a.resume ++ q) = hello ++ (resumeWire a.resume ++ a.auth.wire) ∧
        (cfg.authenticate (str a.token)).isSome = true) := by
  have hnil : (hello ++ (resumeWire a.resume ++ q)).length ≤ (hello ++ resumeWire a.resume).length ↔ q = [] := by
    rw [← List.length_eq_zero_iff]
    simp only [List.length_append]
    omega
  rw [hnil, AnsweredInKind, Accepted, Agent.auth_token, List.append_cancel_left_eq, List.append_cancel_left_eq]

theorem prefix_append_cases {q x y : Bytes} (h : q <+: x ++ y) :
    (q.length < x.length ∧ q <+: x ∧ q ≠ x) ∨ ∃ q', q = x ++ q' ∧ q' <+: y := by
  rcases Nat.lt_or_ge q.length x.length with hlt | hge
  · exact .inl ⟨hlt, List.prefix_of_prefix_length_le h (List.prefix_append x y) (Nat.le_of_lt hlt),
      fun he => by simp [he] at hlt⟩
  · obtain ⟨q', rfl⟩ := List.prefix_of_prefix_length_le (List.prefix_append x y) h hge
    exact .inr ⟨q', rfl, (List.prefix_append_right_inj x).1 h⟩

/-- For an agent of any protocol version and any part of its stream that arrives, the agent decodes every reply in
every run exactly if: it sends V1 without a resume attempt; or its Hello does not arrive whole; or its version is the
gateway's and it sends V1, or none of its AuthV2 frame arrives, or all of it with a token that the gateway takes. -/
theorem replies_decodable_iff (env : Env σ) (start : Time) (store : σ) (ls : List Label) (w w' : World σ)
    (hrun : Run (World.step env) (fun _ _ => True) (.init env start store) ls w)
    (a : Agent) (version : UInt16) (clientVersion stream received : Bytes) (str : Bytes → String)
    (hs : a.stream version clientVersion = .ok stream) (hpre : received <+: stream) (c : ConnID) (g : String)
    (hacc : w.step env (.accept c g (framesOf str received)) = some w') :
    AllDecodable env a c w' ↔
      (a.isV2 = false ∧ a.resume = none) ∨ received.length < (helloFrame version clientVersion).length ∨
        (version = Transport.protocolVersion ∧ (a.isV2 = false ∨
          received.length ≤ (helloFrame version clientVersion ++ resumeWire a.resume).length ∨
          (received = stream ∧ ((env.config g).authenticate (str a.token)).isSome = true))) := by
  obtain ⟨hc, hcr, hgw, hmem, rfl, hpc, hsent⟩ := accept_spec hacc
  rw [run_sent_nil hrun hc, List.nil_append] at hsent
  have hf : Opened env c w' (handleAgentConnection (env.config (w'.home c)) (framesOf str received)) :=
    ⟨base_step (run_base hrun) hacc, hmem, by rw [hgw]; exact hcr, hpc, hsent⟩
  obtain ⟨hresume, hauth, rfl⟩ := controlBytes_eq_ok hs
  rcases prefix_append_cases hpre with ⟨hlt, hpre, hne⟩ | ⟨q, rfl, hq⟩
  · -- the Hello does not arrive whole
    obtain ⟨f, he⟩ := opening_short (env.config (w'.home c)) str hpre hne
    rw [he] at hf
    exact iff_of_true hf.failed (.inr (.inl hlt))
  have hlen : ¬ (helloFrame version clientVersion ++ q).length < (helloFrame version clientVersion).length := by
    simp
  rw [opening_hello] at hf
  by_cases hver : version = Transport.protocolVersion
  swap
  · rw [if_pos hver] at hf
    simp only [hlen, hver, false_and, or_false]
    exact hf.version_iff
  rw [if_neg (not_not.2 hver)] at hf
  rcases prefix_append_cases hq with ⟨hlt, hq, hne⟩ | ⟨q, rfl, hqa⟩
  · -- the resume attempt does not arrive whole
    refine iff_of_true (hf.dispatch_short hresume hq hne) (.inr (.inr ⟨hver, .inr (.inl ?_)⟩))
    rw [List.length_append, List.length_append]
    omega
  rw [← answeredInKind_iff, hf.dispatch_iff hresume hauth hqa]
  constructor
  · exact fun h => .inr (.inr ⟨hver, h⟩)
  · rintro (h | h | h)
    · exact .inl h.1
    · exact absurd h hlen
    · exact h.2

/-- The text of bytes below 128. -/
def ascii (b : Bytes) : String := String.ofList (b.map fun x => Char.ofNat x.toNat)

/-- An agent with one tunnel and a token that the gateways take. -/
theorem replies_decodable_known_token :
    ∃ w', World.step (demo Memory.repo false) (.init (demo Memory.repo false) 0 ∅) (.accept 0 "g" (framesOf ascii
        [0, 0, 3, 0, 0, 6, 0, 1, 107, 1, 1, 97, 0, 0, 0, 0])) = some w' ∧
      AllDecodable (demo Memory.repo false) { token := [107], tunnels := [⟨[97], [], []⟩] } 0 w' :=
  ⟨_, rfl, (replies_decodable_iff (demo Memory.repo false) 0 ∅ [] _ _ .nil
    { token := [107], tunnels := [⟨[97], [], []⟩] } 3 [] [0, 0, 3, 0, 0, 6, 0, 1, 107, 1, 1, 97, 0, 0, 0, 0] _ ascii
    (by rfl) (List.prefix_refl _) 0 "g" rfl).2 (.inr (.inr ⟨rfl, .inr (.inr ⟨rfl, by decide +kernel⟩)⟩))⟩

/-- An agent with one tunnel and a token that the gateway does not take is answered with an AuthResponse, which
`DecodeAuthV2Response` refuses for its type byte. -/
theorem unknown_token_reply_not_decodable :
    ({ token := [98], tunnels := [⟨[97], [], []⟩] } : Agent).stream 3 [] =
        .ok [0, 0, 3, 0, 0, 6, 0, 1, 98, 1, 1, 97, 0, 0, 0, 0] ∧
      (∃ w', World.step (demo Memory.repo false) (.init (demo Memory.repo false) 0 ∅) (.accept 0 "g" (framesOf ascii
          [0, 0, 3, 0, 0, 6, 0, 1, 98, 1, 1, 97, 0, 0, 0, 0])) = some w' ∧
        w'.sent 0 = [.authResponse .error "" ""] ∧
        ¬ Decodable { token := [98], tunnels := [⟨[97], [], []⟩] } (w'.sent 0)) ∧
      encodeAuthResponse authStatusError [] [] = .ok [2, 1, 0, 0, 0, 0] ∧
      decodeAuthV2Response [2, 1, 0, 0, 0, 0] = .error (.unexpectedType "auth v2 response type 0x07" 2) := by
  have hd : ¬ Decodable { token := [98], tunnels := [⟨[97], [], []⟩] } [.authResponse .error "" ""] := by
    rw [decodable_singleton_iff]
    decide
  exact ⟨by rfl, ⟨_, rfl, by decide +kernel, hd⟩, by rfl, by rfl⟩

end Outcomes

end TunnelEdge.Gateway
