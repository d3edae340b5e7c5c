import TunnelEdge.Gateway.Reach
/-!
# Handshakes that fail

A handshake changes the router, the lease table, the tunnel map and the registry
one after the other, and undoes what it did, by tunnel id, where a later step
fails. A second connection of an agent works on the same tunnel id as the first,
so its undoing meets what the first one owns. The handshake is run alone here:
`Stage` says for each program counter what it has done to the tunnel so far.
-/

namespace TunnelEdge.Gateway

open GoLib Store Registry

variable {env : Env Memory} {w₀ w w' : World Memory} {g t : String} {c c₁ : ConnID} {frames : List Frame}
  {fates : List Fate} {fate : Fate}

def World.resolves (w : World Memory) (g t host : String) : Prop :=
  ((w.gateway g).router.lookupWithLabel host).map Prod.fst = some t

/-- Tunnel `t` is still the one of connection `c₁`, with every host it had in `w₀`, a live lease and a session. -/
structure Intact (w₀ w : World Memory) (g t : String) (c₁ : ConnID) : Prop where
  conn : ((w.gateway g).tunnels.lookup t).bind ActiveTunnel.conn = some c₁
  hosts : ∀ host, w₀.resolves g t host → w.resolves g t host
  lease : ∃ l, w.server.coord.Holds t l ∧ l.relayID = g ∧ ¬ l.expiresAt < w.now
  session : w.server.store.lookup t ≠ none

structure Active (w : World Memory) (g t : String) (c₁ : ConnID) : Prop extends Intact w w g t c₁ where
  known : c₁ ∈ w.conns
  routed : ∃ host, w.resolves g t host
  table : w.server.coord.Inv

/-- Connection `c` is accepted with these frames and runs its handshake alone, its steps meeting these fates. -/
def World.handshake (env : Env Memory) (w : World Memory) (c : ConnID) (g : String) (frames : List Frame)
    (fates : List Fate) : Option (World Memory) :=
  exec (World.step env) w (.accept c g frames :: fates.map (.run c .main ·))

def afterHello : List Frame → List Frame
  | .hello _ :: rest => rest
  | frames => frames

def authFrames (frames : List Frame) : List Frame :=
  match afterHello frames with
  | .resume _ :: rest => rest
  | rest => rest

theorem afterHello_subset {frames : List Frame} {f : Frame} (h : f ∈ afterHello frames) : f ∈ frames := by
  unfold afterHello at h
  split at h
  · exact List.mem_cons_of_mem _ h
  · exact h

theorem authFrames_subset {frames : List Frame} {f : Frame} (h : f ∈ authFrames frames) : f ∈ frames := by
  unfold authFrames at h
  split at h
  · rename_i hf
    exact afterHello_subset (hf ▸ List.mem_cons_of_mem _ h)
  · exact afterHello_subset h

def asksV1 (frames : List Frame) : Bool :=
  match authFrames frames with
  | .auth _ :: _ => true
  | _ => false

/-- The connection presents a resume token that the gateway looks up and finds. -/
def resumes (env : Env Memory) (w : World Memory) (g : String) (frames : List Frame) (fates : List Fate) : Bool :=
  match afterHello frames, fates with
  | .resume token :: _, .ok :: _ =>
    (env.config g).sessionRepo && (env.repo.getResumable w.server.store w.now token).toBool
  | _, _ => false

/-- Whoever the frames authenticate or resume has tunnel `t`. -/
structure SameAgent (env : Env Memory) (w : World Memory) (g t : String) (frames : List Frame) : Prop where
  auth : ∀ token agentID, .auth token ∈ frames ∨ (∃ tunnels, .authV2 token tunnels ∈ frames) →
    (env.config g).authenticate token = some agentID → newTunnelID agentID = t
  resume : ∀ token sess, .resume token ∈ frames → env.repo.getResumable w.server.store w.now token = .ok sess →
    sess.tunnelID = t

/-- The default host of the tunnel is one of its hosts. -/
def usesDefault (w : World Memory) (g t : String) : Prop :=
  w.resolves g t (TunnelRouter.hostnameForTunnel (w.gateway g).router.domain t)

/-- When a failed handshake spares the tunnel: always before the first change, and after a refused resume; after a
refused lease, unless a V1 handshake has undone the default host of the tunnel; after a failed response, only a V1
handshake of a tunnel without default host whose `ReleaseLease`, its last request, is lost; never after `addTunnel`. -/
def Spared (env : Env Memory) (w : World Memory) (g t : String) (frames : List Frame) (fates : List Fate) :
    Failure → Prop
  | .resumeReply => resumes env w g frames fates = false
  | .lease => asksV1 frames = true → ¬ usesDefault w g t
  | .write => asksV1 frames = true ∧ ¬ usesDefault w g t ∧ fates.getLast? = some .lost
  | .register => False
  | _ => True

/-! ## Stages of the handshake -/

section Stage

variable (env w₀ g t c c₁ frames)

/-- Only the default host may lead elsewhere than in `w₀`. -/
def DefaultOnly (w : World Memory) : Prop :=
  (w.gateway g).router.domain = (w₀.gateway g).router.domain ∧
    ∀ host, host ≠ TunnelRouter.hostnameForTunnel (w₀.gateway g).router.domain t →
      (w.gateway g).router.lookupWithLabel host = (w₀.gateway g).router.lookupWithLabel host

structure Unbegun (w : World Memory) : Prop where
  intact : Intact w₀ w g t c₁
  table : w.server.coord.Inv
  routes : (w.gateway g).router = (w₀.gateway g).router

/-- An authenticated handshake that has taken nothing away yet. -/
structure Asked (w : World Memory) (a : Auth) : Prop where
  intact : Intact w₀ w g t c₁
  table : w.server.coord.Inv
  tunnel : a.tunnelID = t
  kind : asksV1 frames = !a.v2
  routes : a.v2 = false → DefaultOnly w₀ g t w

def Held (w : World Memory) (leaseID : String) : Prop := ∃ l, w.server.coord.Holds t l ∧ l.leaseID = leaseID

/-- What is known at each program counter of the handshake, after the steps that met `fates`. -/
def Stage (w : World Memory) (fates : List Fate) : Pc → Prop
  | .lookup token rest => fates = [] ∧ Unbegun w₀ g t c₁ w ∧ w.server.store = w₀.server.store ∧
      afterHello frames = .resume token :: rest ∧ (env.config g).sessionRepo = true
  | .refuse _ rest => Unbegun w₀ g t c₁ w ∧ authFrames frames = rest ∧
      ∀ more, resumes env w₀ g frames (fates ++ more) = false
  | .cancelTimer t' _ | .drawNew t' _ | .attach t' _ _ =>
    t' = t ∧ resumes env w₀ g frames fates = true ∧ (w.gateway g).tunnels.lookup t ≠ none
  | .storeNew t' _ | .reply t' _ => t' = t ∧ resumes env w₀ g frames fates = true ∧
      ((w.gateway g).tunnels.lookup t).bind ActiveTunnel.conn = some c
  | .quota a | .routeDefault a | .acquire a => Asked w₀ g t c₁ frames w a
  | .unrouteDefault a => Asked w₀ g t c₁ frames w a ∧ a.v2 = false
  | .routeLabels a leaseID _ => Asked w₀ g t c₁ frames w a ∧ Held t w leaseID ∧ a.v2 = true
  | .drawToken a leaseID | .respond a leaseID _ | .unroute a leaseID =>
    Asked w₀ g t c₁ frames w a ∧ Held t w leaseID
  | .unlease leaseID => w.server.coord.Inv ∧ Held t w leaseID ∧
      (Intact w₀ w g t c₁ ↔ asksV1 frames = true ∧ ¬ usesDefault w₀ g t)
  | .install a _ _ | .storeToken a _ | .register a => a.tunnelID = t
  | .take t' reason => t' = t ∧ reason = .registryError
  | .dropRoutes t' _ reason | .release t' _ reason | .deregister t' reason =>
    t' = t ∧ reason = .registryError ∧ (w.gateway g).tunnels.lookup t = none
  | .serving _ => True
  | .failed f => Intact w₀ w g t c₁ ↔ Spared env w₀ g t frames fates f
  | _ => False

end Stage

theorem Intact.of_eq (h : Intact w₀ w g t c₁) (hg : w'.gateway = w.gateway) (hs : w'.server = w.server)
    (hn : w'.now = w.now) : Intact w₀ w' g t c₁ := by
  refine ⟨hg ▸ h.conn, fun host hr => ?_, by rw [hs, hn]; exact h.lease, hs ▸ h.session⟩
  unfold World.resolves
  rw [hg]
  exact h.hosts host hr

theorem Stage.of_eq {p : Pc} (h : Stage env w₀ g t c c₁ frames w fates p) (hg : w'.gateway = w.gateway)
    (hs : w'.server = w.server) (hn : w'.now = w.now) : Stage env w₀ g t c c₁ frames w' fates p := by
  have hi : Intact w₀ w' g t c₁ ↔ Intact w₀ w g t c₁ :=
    ⟨fun h => h.of_eq hg.symm hs.symm hn.symm, fun h => h.of_eq hg hs hn⟩
  have hu : Unbegun w₀ g t c₁ w' ↔ Unbegun w₀ g t c₁ w := by
    constructor
    · exact fun h => ⟨hi.1 h.intact, hs ▸ h.table, hg ▸ h.routes⟩
    · exact fun h => ⟨hi.2 h.intact, hs ▸ h.table, hg ▸ h.routes⟩
  have ha : ∀ a, Asked w₀ g t c₁ frames w' a ↔ Asked w₀ g t c₁ frames w a := by
    have hd : DefaultOnly w₀ g t w' ↔ DefaultOnly w₀ g t w := by simp only [DefaultOnly, hg]
    intro a
    constructor
    · exact fun h => ⟨hi.1 h.intact, hs ▸ h.table, h.tunnel, h.kind, fun hv => hd.1 (h.routes hv)⟩
    · exact fun h => ⟨hi.2 h.intact, hs ▸ h.table, h.tunnel, h.kind, fun hv => hd.2 (h.routes hv)⟩
  revert h
  cases p <;> simp only [Stage, hi, hu, ha, Held, hg, hs, imp_self]

/-! ## The router -/

theorem resolves_iff {host : String} : w.resolves g t host ↔
    ∃ label, (w.gateway g).router.hostMap.lookup host = some ⟨t, label⟩ := by
  unfold World.resolves TunnelRouter.lookupWithLabel
  cases (w.gateway g).router.hostMap.lookup host with
  | none => simp
  | some key =>
    cases key
    simp [eq_comm]

theorem Intact.register (h : Intact w₀ w g t c₁) {f : Gateway → Gateway}
    (ht : (f (w.gateway g)).tunnels = (w.gateway g).tunnels)
    (hr : ∀ host, (f (w.gateway g)).router.hostMap.lookup host = (w.gateway g).router.hostMap.lookup host ∨
      ∃ label, (f (w.gateway g)).router.hostMap.lookup host = some ⟨t, label⟩) :
    Intact w₀ (w.updateGateway g f) g t c₁ := by
  refine ⟨by simpa [ht] using h.conn, fun host h0 => ?_, h.lease, h.session⟩
  obtain ⟨label, hl⟩ := resolves_iff.1 (h.hosts host h0)
  rw [resolves_iff]
  simp only [World.updateGateway_self]
  rcases hr host with h1 | h1
  · exact ⟨label, h1.trans hl⟩
  · exact h1

theorem deregister_hosts (h : DefaultOnly w₀ g t w) {router : TunnelRouter}
    (hr : router = (w.gateway g).router.deregister t) :
    (∀ host, w₀.resolves g t host → (w.updateGateway g fun gw => { gw with router }).resolves g t host) ↔
      ¬ usesDefault w₀ g t := by
  obtain ⟨hdom, hrest⟩ := h
  subst hr
  constructor
  · intro hall hd
    have h1 := resolves_iff.1 (hall _ hd)
    simp [hdom] at h1
  · intro hd host h0
    have hne : host ≠ TunnelRouter.hostnameForTunnel (w₀.gateway g).router.domain t := by
      rintro rfl
      exact hd h0
    have h1 := h0
    unfold World.resolves at h1 ⊢
    rw [← hrest host hne] at h1
    simpa [TunnelRouter.lookupWithLabel, hdom, hne] using h1

theorem deregisterAll_hosts (hr : ∃ host, w₀.resolves g t host) :
    ¬ ∀ host, w₀.resolves g t host →
      (w.updateGateway g fun gw => { gw with router := gw.router.deregisterAll t }).resolves g t host := by
  intro hall
  obtain ⟨host, h0⟩ := hr
  obtain ⟨label, hl⟩ := resolves_iff.1 (hall host h0)
  simp only [World.updateGateway_self, TunnelRouter.deregisterAll_hostMap, Option.filter_eq_some_iff] at hl
  simp at hl

/-! ## The lease table -/

theorem acquire_held {m : MemCoordinator} (hi : m.Inv) {l : Lease} {now : Time} (hl : m.Holds t l)
    (hrelay : l.relayID = g) (hlive : ¬ l.expiresAt < now) (fresh : String) (ttl : Duration) (httl : 0 ≤ ttl) :
    (m.acquireLease now fresh ⟨t, g, ttl⟩).1.Inv ∧
      (∃ l', (m.acquireLease now fresh ⟨t, g, ttl⟩).1.Holds t l' ∧ l'.relayID = g ∧ ¬ l'.expiresAt < now) ∧
      ∀ l', (m.acquireLease now fresh ⟨t, g, ttl⟩).2 = .ok l' →
        ∃ l'', (m.acquireLease now fresh ⟨t, g, ttl⟩).1.Holds t l'' ∧ l''.leaseID = l'.leaseID := by
  rcases hr : m.acquireLease now fresh ⟨t, g, ttl⟩ with ⟨m', res⟩
  have hc := MemCoordinator.acquireLease_cases hi now fresh ⟨t, g, ttl⟩
  rw [hr] at hc
  cases hc with
  | invalid => exact ⟨hi, ⟨l, hl, hrelay, hlive⟩, fun l' h => by cases h⟩
  | conflict l' _ hl' _ hne =>
    obtain rfl := hi.unique hl hl'
    exact absurd hrelay hne
  | extend l' _ hl' _ _ =>
    obtain rfl := hi.unique hl hl'
    have hnew : (m.putLease now (MemCoordinator.extended l now ⟨t, g, ttl⟩)).Holds t
        (MemCoordinator.extended l now ⟨t, g, ttl⟩) := ⟨by simp, hl.2⟩
    refine ⟨MemCoordinator.inv_extended hi hl now _, ⟨_, hnew, rfl, ?_⟩, fun l' h => ?_⟩
    · exact Int.not_lt.2 (Int.le_add_of_nonneg_right httl)
    · cases h
      exact ⟨_, hnew, rfl⟩
  | grant m' _ hm =>
    rcases hm with ⟨-, hn⟩ | ⟨l', hl', he, -⟩
    · exact absurd hl (hn l)
    · obtain rfl := hi.unique hl hl'
      exact absurd he hlive

theorem acquire_intact (h : Intact w₀ w g t c₁) (hi : w.server.coord.Inv) (n : Nat) (fate : Fate) (fresh : String)
    (ttl : Duration) {o : World Memory × Option Lease}
    (ho : o = World.request { w with drawn := n } fate (·.acquireLease w.now fresh ⟨t, g, ttl⟩)) :
    Intact w₀ o.1 g t c₁ ∧ o.1.server.coord.Inv ∧ (o.1.gateway g).router = (w.gateway g).router ∧
      ∀ l, o.2 = some l → Held t o.1 l.leaseID := by
  obtain ⟨l, hl, hrelay, hlive⟩ := h.lease
  have httl : 0 ≤ Server.wireTTL ttl := Int.le_trans (by decide) (Server.second_le_wireTTL ttl)
  obtain ⟨h1, h2, h3⟩ := acquire_held hi hl hrelay hlive fresh (Server.wireTTL ttl) httl
  cases fate with
  | lost =>
    subst ho
    exact ⟨h.of_eq rfl rfl rfl, hi, rfl, fun l h => by cases h⟩
  | replyLost =>
    subst ho
    exact ⟨⟨h.conn, h.hosts, h2, h.session⟩, h1, rfl, fun l h => by cases h⟩
  | ok =>
    subst ho
    refine ⟨⟨h.conn, h.hosts, h2, h.session⟩, h1, rfl, fun l hr => ?_⟩
    obtain ⟨-, hok⟩ := request_some hr
    simp only [Server.acquireLease] at hok
    cases hres : (w.server.coord.acquireLease w.now fresh ⟨t, g, Server.wireTTL ttl⟩).2 with
    | error e => rw [hres] at hok; cases hok
    | ok l' =>
      rw [hres] at hok
      cases hok
      exact h3 l' hres

theorem release_held {m : MemCoordinator} (hi : m.Inv) {l : Lease} (hl : m.Holds t l) (l' : Lease) :
    ¬ (m.releaseLease l.leaseID).1.Holds t l' := by
  rcases MemCoordinator.releaseLease_cases hi l.leaseID with ⟨_, -, hn⟩ | ⟨l₁, hl₁, hr⟩
  · rw [hl.1] at hn
    cases hn
  · rw [hr]
    rintro ⟨h1, h2⟩
    rw [MemCoordinator.drop_leases] at h1
    split at h1
    · cases h1
    · rename_i hne
      exact hne (congrArg Lease.leaseID (hi.unique ⟨h1, h2⟩ hl))

/-! ## One step -/

theorem resumes_append {more : List Fate} (h : resumes env w₀ g frames fates = true) :
    resumes env w₀ g frames (fates ++ more) = true := by
  unfold resumes at h ⊢
  split at h
  · rename_i hframes
    simpa [hframes] using h
  · cases h

theorem fullAuth_stage (hsame : SameAgent env w₀ g t frames) (hu : Unbegun w₀ g t c₁ w) (first : Bool) :
    Stage env w₀ g t c c₁ frames w fates (fullAuth (env.config g) first (authFrames frames)).1 := by
  have hasked : ∀ a : Auth, a.tunnelID = t → asksV1 frames = !a.v2 → Asked w₀ g t c₁ frames w a := by
    intro a ht hk
    refine ⟨hu.intact, hu.table, ht, hk, fun _ => ⟨by rw [hu.routes], fun host _ => by rw [hu.routes]⟩⟩
  have hfail : ∀ f, Spared env w₀ g t frames fates f → Stage env w₀ g t c c₁ frames w fates (.failed f) :=
    fun f hf => ⟨fun _ => hf, fun _ => hu.intact⟩
  rcases hfs : authFrames frames with _ | ⟨f, rest⟩
  · exact hfail .read trivial
  · have hf : f ∈ frames := authFrames_subset (by simp [hfs])
    cases f with
    | authV2 token tunnels =>
      simp only [fullAuth]
      split
      · rename_i agentID ha
        exact hasked _ (hsame.auth token agentID (.inr ⟨tunnels, hf⟩) ha) (by simp [asksV1, hfs])
      · exact hfail .unauthorized trivial
    | auth token =>
      simp only [fullAuth]
      split
      · rename_i agentID ha
        exact hasked _ (hsame.auth token agentID (.inl hf) ha) (by simp [asksV1, hfs])
      · exact hfail .unauthorized trivial
    | malformed kind =>
      cases kind <;> cases first <;> exact hfail _ trivial
    | hello version => cases first <;> exact hfail .unknownType trivial
    | resume token => cases first <;> exact hfail .unknownType trivial
    | unknown => cases first <;> exact hfail .unknownType trivial

theorem routeNext_stage {a : Auth} {leaseID : String} (h : Asked w₀ g t c₁ frames w a) (hheld : Held t w leaseID)
    (hv : a.v2 = true) (rest : List TunnelRoute) :
    Stage env w₀ g t c c₁ frames w fates (routeNext (env.config g) a leaseID rest) := by
  unfold routeNext
  split
  · split <;> exact ⟨h, hheld⟩
  · exact ⟨h, hheld, hv⟩

theorem acquire_stage {a : Auth} (hhome : w.home c = g) (h : Asked w₀ g t c₁ frames w a) :
    Stage env w₀ g t c c₁ frames (stepPc env w c .main fate (.acquire a)).1 (fates ++ [fate])
      (stepPc env w c .main fate (.acquire a)).2 := by
  simp only [stepPc, stepHandshake, hhome, h.tunnel]
  generalize ho : World.request { w with drawn := w.drawn + 1 } fate
    (·.acquireLease w.now (env.uuid w.drawn) ⟨t, g, (env.config g).leaseTTL⟩) = o
  obtain ⟨h1, h2, h3, h4⟩ := acquire_intact h.intact h.table _ fate _ _ ho.symm
  have hasked : Asked w₀ g t c₁ frames o.1 a :=
    ⟨h1, h2, h.tunnel, h.kind, fun hv => by
      have hd := h.routes hv
      unfold DefaultOnly at hd ⊢
      rw [h3]
      exact hd⟩
  cases hr : o.2 with
  | some l =>
    refine Stage.of_eq (w := o.1) ?_ rfl rfl rfl
    cases hv : a.v2 with
    | true => exact routeNext_stage hasked (h4 l hr) hv a.routes
    | false => exact ⟨hasked, h4 l hr⟩
  | none =>
    cases hv : a.v2 with
    | true =>
      have hk := h.kind
      rw [hv] at hk
      refine ⟨fun _ hv1 => ?_, fun _ => h1.of_eq rfl rfl rfl⟩
      rw [hk] at hv1
      cases hv1
    | false =>
      simp only [Bool.false_eq_true, if_false]
      exact Stage.of_eq (w := o.1) (p := .unrouteDefault a) ⟨hasked, hv⟩ rfl rfl rfl

theorem not_intact_of_none (h : (w.gateway g).tunnels.lookup t = none) : ¬ Intact w₀ w g t c₁ := by
  intro hi
  have := hi.conn
  rw [h] at this
  cases this

theorem unregistered_intact_iff {a : Auth} (h : Asked w₀ g t c₁ frames w a) (hv : a.v2 = false) :
    Intact w₀ (w.updateGateway g fun gw => { gw with router := gw.router.deregister t }) g t c₁ ↔
      ¬ usesDefault w₀ g t := by
  have hworld : (w.updateGateway g fun gw => { gw with router := gw.router.deregister t }) =
      w.updateGateway g fun gw => { gw with router := (w.gateway g).router.deregister t } := rfl
  rw [hworld, ← deregister_hosts (h.routes hv) rfl]
  constructor
  · exact fun hi => hi.hosts
  · exact fun hall => ⟨by simpa using h.intact.conn, hall, h.intact.lease, h.intact.session⟩

theorem unroute_stage {a : Auth} {leaseID : String} (hact : Active w₀ g t c₁) (hhome : w.home c = g)
    (h : Asked w₀ g t c₁ frames w a) (hheld : Held t w leaseID) :
    Stage env w₀ g t c c₁ frames (stepPc env w c .main fate (.unroute a leaseID)).1 (fates ++ [fate])
      (.unlease leaseID) := by
  have hk := h.kind
  simp only [stepPc, stepHandshake, hhome, h.tunnel]
  refine ⟨h.table, hheld, ?_⟩
  cases hv : a.v2 with
  | true =>
    rw [hv] at hk
    simp only [hk, Bool.not_true, Bool.false_eq_true, false_and, iff_false]
    exact fun hi' => deregisterAll_hosts hact.routed hi'.hosts
  | false =>
    rw [hv] at hk
    simp only [hk, Bool.not_false, true_and]
    exact unregistered_intact_iff h hv

theorem unlease_stage {leaseID : String} (h : Stage env w₀ g t c c₁ frames w fates (.unlease leaseID)) :
    Stage env w₀ g t c c₁ frames (stepPc env w c .main fate (.unlease leaseID)).1 (fates ++ [fate])
      (.failed .write) := by
  obtain ⟨htable, ⟨l, hl, rfl⟩, hiff⟩ := h
  have hgone : fate ≠ .lost → ¬ Intact w₀ (stepPc env w c .main fate (.unlease l.leaseID)).1 g t c₁ := by
    intro hf hi
    obtain ⟨l', hl', -⟩ := hi.lease
    cases fate with
    | lost => exact hf rfl
    | ok | replyLost => exact release_held htable hl l' hl'
  simp only [Stage, Spared, List.getLast?_append, List.getLast?_singleton, Option.some_or, Option.some.injEq]
  by_cases hf : fate = .lost
  · subst hf
    simp only [and_true]
    exact hiff
  · simp only [hf, and_false, iff_false]
    exact hgone hf

theorem lookup_stage (hsame : SameAgent env w₀ g t frames) (hnow : w.now = w₀.now) {token : String}
    {rest : List Frame} (h : Stage env w₀ g t c c₁ frames w fates (.lookup token rest)) :
    Stage env w₀ g t c c₁ frames (stepPc env w c .main fate (.lookup token rest)).1 (fates ++ [fate])
      (stepPc env w c .main fate (.lookup token rest)).2 := by
  obtain ⟨rfl, hu, hstore, hframes, hrepo⟩ := h
  have hrest : authFrames frames = rest := by simp [authFrames, hframes]
  have hmem : Frame.resume token ∈ frames := afterHello_subset (by simp [hframes])
  have hrefused : (∀ more, resumes env w₀ g frames (fate :: more) = false) →
      Stage env w₀ g t c c₁ frames w [fate] (.refuse .expired rest) := fun hres => ⟨hu, hrest, hres⟩
  simp only [stepPc, stepResume, hstore, hnow]
  cases hget : env.repo.getResumable w₀.server.store w₀.now token with
  | error e =>
    have hres : ∀ more, resumes env w₀ g frames (fate :: more) = false := by
      intro more
      cases fate <;> simp [resumes, hframes, hget, Except.toBool]
    cases fate <;> exact hrefused hres
  | ok sess =>
    cases fate with
    | lost => exact hrefused fun more => by simp [resumes, hframes]
    | replyLost => exact hrefused fun more => by simp [resumes, hframes]
    | ok =>
      refine ⟨hsame.resume token sess hmem hget, by simp [resumes, hframes, hrepo, hget, Except.toBool], ?_⟩
      intro hl
      exact not_intact_of_none hl hu.intact

theorem refuse_stage (hsame : SameAgent env w₀ g t frames) (hhome : w.home c = g) {status : ResumeStatus}
    {rest : List Frame} (h : Stage env w₀ g t c c₁ frames w fates (.refuse status rest)) :
    Stage env w₀ g t c c₁ frames (stepPc env w c .main fate (.refuse status rest)).1 (fates ++ [fate])
      (stepPc env w c .main fate (.refuse status rest)).2 := by
  obtain ⟨hu, hrest, hres⟩ := h
  simp only [stepPc, stepResume, hhome]
  split
  · rw [← hrest]
    exact (fullAuth_stage hsame hu false).of_eq (by simp [World.send]) (by simp [World.send]) (by simp [World.send])
  · exact ⟨fun _ => hres [fate], fun _ => hu.intact⟩

/-- By the time the resume reply fails, the entry holds the new connection. -/
theorem reply_stage (hne : c ≠ c₁) {t' token : String}
    (h : Stage env w₀ g t c c₁ frames w fates (.reply t' token)) :
    Stage env w₀ g t c c₁ frames (stepPc env w c .main fate (.reply t' token)).1 (fates ++ [fate])
      (stepPc env w c .main fate (.reply t' token)).2 := by
  obtain ⟨rfl, hres, hl⟩ := h
  simp only [stepPc, stepResume]
  split
  · trivial
  · simp only [Stage, Spared, resumes_append hres, Bool.true_eq_false, iff_false]
    intro hi
    have := hl.symm.trans hi.conn
    exact hne (Option.some.inj this)

theorem routeDefault_stage (hhome : w.home c = g) {a : Auth} (h : Asked w₀ g t c₁ frames w a) :
    Stage env w₀ g t c c₁ frames (stepPc env w c .main fate (.routeDefault a)).1 (fates ++ [fate])
      (stepPc env w c .main fate (.routeDefault a)).2 := by
  obtain ⟨hi, htable, ht, hk, hroutes⟩ := h
  simp only [stepPc, stepHandshake, hhome, ht]
  refine ⟨hi.register rfl fun host => ?_, htable, ht, hk, fun hv => ?_⟩
  · simp only [TunnelRouter.register_hostMap]
    split
    · exact .inr ⟨_, rfl⟩
    · exact .inl rfl
  · obtain ⟨hdom, hrest⟩ := hroutes hv
    refine ⟨by simpa [TunnelRouter.register] using hdom, fun host hh => ?_⟩
    rw [← hrest host hh]
    simp [TunnelRouter.lookupWithLabel, hdom, hh]

theorem routeLabels_stage (hhome : w.home c = g) {a : Auth} {leaseID : String} {rest : List TunnelRoute}
    (h : Asked w₀ g t c₁ frames w a) (hheld : Held t w leaseID) (hv : a.v2 = true) :
    Stage env w₀ g t c c₁ frames (stepPc env w c .main fate (.routeLabels a leaseID rest)).1 (fates ++ [fate])
      (stepPc env w c .main fate (.routeLabels a leaseID rest)).2 := by
  obtain ⟨hi, htable, ht, hk, hroutes⟩ := h
  cases rest with
  | nil =>
    simp only [stepPc, stepHandshake, hhome]
    exact routeNext_stage ⟨hi, htable, ht, hk, hroutes⟩ hheld hv []
  | cons r rest =>
    simp only [stepPc, stepHandshake, hhome, ht]
    refine routeNext_stage ⟨hi.register rfl fun host => ?_, htable, ht, hk, fun hv' => ?_⟩ hheld hv rest
    · simp only [TunnelRouter.registerLabel_hostMap]
      split
      · exact .inr ⟨_, rfl⟩
      · exact .inl rfl
    · rw [hv] at hv'
      cases hv'

theorem unrouteDefault_stage (hhome : w.home c = g) {a : Auth} (h : Asked w₀ g t c₁ frames w a) (hv : a.v2 = false) :
    Stage env w₀ g t c c₁ frames (stepPc env w c .main fate (.unrouteDefault a)).1 (fates ++ [fate])
      (stepPc env w c .main fate (.unrouteDefault a)).2 := by
  have hk := h.kind
  rw [hv] at hk
  simp only [stepPc, stepHandshake, hhome, h.tunnel, Stage, Spared, hk, Bool.not_false, forall_const]
  exact unregistered_intact_iff h hv

/-- `removeTunnel` after a failed `RegisterTunnel`: the entry goes first. -/
theorem take_stage (hhome : w.home c = g) {t' : String} {reason : Reason}
    (h : Stage env w₀ g t c c₁ frames w fates (.take t' reason)) :
    Stage env w₀ g t c c₁ frames (stepPc env w c .main fate (.take t' reason)).1 (fates ++ [fate])
      (stepPc env w c .main fate (.take t' reason)).2 := by
  obtain ⟨rfl, rfl⟩ := h
  have hgone := take_lookup env w c .main fate t' .registryError
  rw [hhome] at hgone
  subst hhome
  cases hl : (w.gateway (w.home c)).tunnels.lookup t' with
  | none =>
    simp only [stepPc, stepRemoval, hl]
    exact ⟨fun hi => not_intact_of_none hl hi, False.elim⟩
  | some at_ =>
    simp only [stepPc, stepRemoval, hl] at hgone ⊢
    exact ⟨rfl, rfl, hgone⟩

theorem stage_step {p : Pc} (hact : Active w₀ g t c₁) (hsame : SameAgent env w₀ g t frames)
    (hne : c ≠ c₁) (hhome : w.home c = g) (hnow : w.now = w₀.now)
    (hp : p.runnable = true) (h : Stage env w₀ g t c c₁ frames w fates p) :
    Stage env w₀ g t c c₁ frames (stepPc env w c .main fate p).1 (fates ++ [fate])
      (stepPc env w c .main fate p).2 := by
  cases p with
  | lookup token rest => exact lookup_stage hsame hnow h
  | refuse status rest => exact refuse_stage hsame hhome h
  | cancelTimer t' rest =>
    obtain ⟨rfl, hres, hl⟩ := h
    exact ⟨rfl, resumes_append hres, by simpa [stepPc, stepResume] using hl⟩
  | drawNew t' rest =>
    obtain ⟨rfl, hres, hl⟩ := h
    exact ⟨rfl, resumes_append hres, by simpa [stepPc, stepResume] using hl⟩
  | attach t' token rest =>
    obtain ⟨rfl, hres, hl⟩ := h
    subst hhome
    obtain ⟨at_, hl⟩ := Option.ne_none_iff_exists'.1 hl
    simp only [stepPc, stepResume, hl]
    split
    · exact ⟨rfl, resumes_append hres, by simp [World.note]⟩
    · exact ⟨rfl, resumes_append hres, by simp [World.note]⟩
  | storeNew t' token =>
    obtain ⟨rfl, hres, hl⟩ := h
    exact ⟨rfl, resumes_append hres, by simpa [stepPc, stepResume, World.setResumable] using hl⟩
  | reply t' token => exact reply_stage hne h
  | quota a =>
    simp only [stepPc, stepHandshake]
    split
    · exact ⟨fun _ => trivial, fun _ => h.intact.of_eq rfl rfl rfl⟩
    · split
      · exact h
      · exact ⟨fun _ => trivial, fun _ => h.intact.of_eq rfl rfl rfl⟩
  | routeDefault a => exact routeDefault_stage hhome h
  | acquire a => exact acquire_stage hhome h
  | unrouteDefault a => exact unrouteDefault_stage hhome h.1 h.2
  | routeLabels a leaseID rest => exact routeLabels_stage hhome h.1 h.2.1 h.2.2
  | drawToken a leaseID =>
    exact Stage.of_eq (w := w) (p := .respond a leaseID _) h (token_gateway ..) (token_server ..) (token_now ..)
  | respond a leaseID token =>
    simp only [stepPc, stepHandshake]
    split
    · exact h.1.tunnel
    · exact h
  | unroute a leaseID => exact unroute_stage hact hhome h.1 h.2
  | unlease leaseID => exact unlease_stage h
  | install a leaseID token =>
    -- from here on nothing but the end of the handshake matters: the entry is overwritten
    simp only [stepPc, stepHandshake]
    split
    · exact h
    · exact h
  | storeToken a token => exact h
  | register a =>
    simp only [stepPc, stepHandshake]
    split
    · trivial
    · exact ⟨h, rfl⟩
  | take t' reason => exact take_stage hhome h
  | dropRoutes t' leaseID reason =>
    obtain ⟨rfl, rfl, hl⟩ := h
    subst hhome
    simp only [stepPc, stepRemoval]
    split
    · exact ⟨rfl, rfl, by simpa using hl⟩
    · exact ⟨rfl, rfl, by simpa using hl⟩
  | release t' leaseID reason =>
    obtain ⟨rfl, rfl, hl⟩ := h
    exact ⟨rfl, rfl, by simpa [stepPc, stepRemoval] using hl⟩
  | deregister t' reason =>
    obtain ⟨rfl, rfl, hl⟩ := h
    refine ⟨fun hi => absurd hi (not_intact_of_none (by simpa [stepPc, stepRemoval] using hl)), False.elim⟩
  | idle | serving | waiting | done | failed => cases hp
  | _ => exact h.elim

/-! ## The whole handshake -/

theorem dispatch_stage (hact : Active w₀ g t c₁) (hsame : SameAgent env w₀ g t frames) :
    Stage env w₀ g t c c₁ frames w₀ [] (dispatch (env.config g) (afterHello frames)).1 := by
  have hu : Unbegun w₀ g t c₁ w₀ := ⟨hact.toIntact, hact.table, rfl⟩
  unfold dispatch
  split
  · rename_i token rest hframes
    split
    · rename_i hrepo
      exact ⟨rfl, hu, rfl, hframes, hrepo⟩
    · rename_i hrepo
      refine ⟨hu, by simp [authFrames, hframes], fun more => ?_⟩
      simp only [resumes, hframes, Bool.not_eq_true _ ▸ hrepo, Bool.false_and]
      split <;> rfl
  · exact ⟨fun _ => trivial, fun _ => hu.intact⟩
  · rename_i hnot _
    have hfs : authFrames frames = afterHello frames := by
      unfold authFrames
      split
      · rename_i token rest hframes
        exact absurd hframes (hnot token rest)
      · rfl
    rw [← hfs]
    exact fullAuth_stage hsame hu true

theorem handleAgentConnection_stage (hact : Active w₀ g t c₁) (hsame : SameAgent env w₀ g t frames) :
    Stage env w₀ g t c c₁ frames w₀ [] (handleAgentConnection (env.config g) frames).1 := by
  have hd := dispatch_stage (c := c) hact hsame
  unfold handleAgentConnection
  split
  · split
    · exact ⟨fun _ => trivial, fun _ => hact.toIntact⟩
    · exact hd
  · exact ⟨fun _ => trivial, fun _ => hact.toIntact⟩
  · rename_i hnot _
    have hfs : afterHello frames = frames := by
      unfold afterHello
      split
      · exact absurd rfl (hnot _ _)
      · rfl
    rw [hfs] at hd
    exact hd

theorem accept_stage (hact : Active w₀ g t c₁) (hsame : SameAgent env w₀ g t frames)
    (h : w₀.step env (.accept c g frames) = some w) :
    c ≠ c₁ ∧ w.home c = g ∧ w.now = w₀.now ∧ Stage env w₀ g t c c₁ frames w [] (w.pc c .main) := by
  simp only [World.step] at h
  split at h
  · rename_i hc
    cases h
    refine ⟨fun he => hc.1 (he ▸ hact.known), by simp [World.setPc], by simp [World.setPc], ?_⟩
    rw [World.setPc_self]
    exact (handleAgentConnection_stage hact hsame).of_eq (by simp [World.setPc]) (by simp [World.setPc])
      (by simp [World.setPc])
  · cases h

theorem handshake_stage (hact : Active w₀ g t c₁) (hsame : SameAgent env w₀ g t frames)
    (h : w₀.handshake env c g frames fates = some w) :
    c ≠ c₁ ∧ w.home c = g ∧ w.now = w₀.now ∧ Stage env w₀ g t c c₁ frames w fates (w.pc c .main) := by
  unfold World.handshake at h
  induction fates using List.reverseRecOn generalizing w with
  | nil =>
    obtain ⟨w₁, h1, h2⟩ := Option.bind_eq_some_iff.1 h
    cases h2
    exact accept_stage hact hsame h1
  | append_singleton fates fate ih =>
    rw [List.map_append, ← List.cons_append, exec_append] at h
    obtain ⟨w₁, h1, h2⟩ := Option.bind_eq_some_iff.1 h
    obtain ⟨w₂, h3, h4⟩ := Option.bind_eq_some_iff.1 h2
    cases h4
    obtain ⟨hne, hhome, hnow, hs⟩ := ih h1
    obtain ⟨hr, rfl⟩ := run_step h3
    obtain ⟨k1, -, k2, -⟩ := ran_keeps env w₁ c .main fate
    refine ⟨hne, by rw [k2, hhome], k1.trans hnow, ?_⟩
    unfold World.ran
    rw [World.setPc_self]
    exact (stage_step hact hsame hne hhome hnow hr hs).of_eq rfl rfl rfl

/-- What a failed handshake of a second connection leaves of an established tunnel of the same agent. -/
theorem failed_handshake_intact_iff (hact : Active w g t c₁) (hsame : SameAgent env w g t frames)
    (hrun : w.handshake env c g frames fates = some w') {f : Failure} (hfail : w'.pc c .main = .failed f) :
    Intact w w' g t c₁ ↔ Spared env w g t frames fates f := by
  obtain ⟨-, -, -, hs⟩ := handshake_stage hact hsame hrun
  rw [hfail] at hs
  exact hs

theorem connect_active {P : World Memory → Prop} [DecidablePred P]
    (h : (exec (World.step (demo Memory.repo false)) (.init (demo Memory.repo false) 0 ∅) (connect 0 "g1")).any
      (fun w => decide ((((w.gateway "g1").tunnels.lookup "t-a").bind ActiveTunnel.conn = some 0 ∧
        w.server.coord.leasesByID.lookup "u" = some ⟨"u", "t-a", "g1", 45000000000, 1⟩ ∧ w.now = 0 ∧
        (w.server.store.lookup "t-a").isSome ∧ 0 ∈ w.conns ∧
        (w.gateway "g1").router.lookupWithLabel "a.x" = some ("t-a", "default")) ∧ P w)) = true) :
    ∃ w, Active w "g1" "t-a" 0 ∧ P w := by
  obtain ⟨w, hr, ⟨h1, h2, h3, h4, h5, h6⟩, hp⟩ := run_any h
  have hlease : ∃ l, w.server.coord.Holds "t-a" l ∧ l.relayID = "g1" ∧ ¬ l.expiresAt < w.now := by
    refine ⟨⟨"u", "t-a", "g1", 45000000000, 1⟩, ⟨h2, rfl⟩, rfl, ?_⟩
    rw [h3]
    decide
  refine ⟨w, ⟨⟨h1, fun _ h => h, hlease, ?_⟩, h5, ⟨"a.x", ?_⟩, (run_base hr).leases.inv⟩, hp⟩
  · intro hn
    rw [hn] at h4
    cases h4
  · unfold World.resolves
    rw [h6]
    rfl

/-- A second connection asks for V2 and its lease request is lost. -/
theorem failed_handshake_intact_lost_lease :
    ∃ w w', Active w "g1" "t-a" 0 ∧
      w.handshake (demo Memory.repo false) 1 "g1" [.authV2 "k" [⟨"web", "", ""⟩]] [.ok, .lost] = some w' ∧
      w'.pc 1 .main = .failed .lease ∧ Intact w w' "g1" "t-a" 0 := by
  obtain ⟨w, hact, h⟩ := connect_active (P := fun w =>
    (w.handshake (demo Memory.repo false) 1 "g1" [.authV2 "k" [⟨"web", "", ""⟩]] [.ok, .lost]).any (fun w' =>
      w'.pc 1 .main = .failed .lease) = true) (by decide +kernel)
  obtain ⟨w', hrun, hfail⟩ := (Option.any_eq_true _ _).1 h
  have hsame : SameAgent (demo Memory.repo false) w "g1" "t-a" [.authV2 "k" [⟨"web", "", ""⟩]] := by
    refine ⟨fun token agentID h ha => ?_, fun token sess h => by simp at h⟩
    obtain rfl : token = "k" := by simpa using h
    obtain rfl : "a" = agentID := by simpa [demo] using ha
    rfl
  have hfail := of_decide_eq_true hfail
  exact ⟨w, w', hact, hrun, hfail, (failed_handshake_intact_iff hact hsame hrun hfail).2 (fun h => by cases h)⟩

/-- A second connection authenticates; `RegisterTunnel` answers that the tunnel is already registered. -/
theorem failed_handshake_removes_tunnel :
    ∃ w w', Active w "g1" "t-a" 0 ∧ SameAgent (demo Memory.repo false) w "g1" "t-a" [.auth "k"] ∧
      w.handshake (demo Memory.repo false) 1 "g1" [.auth "k"] (List.replicate 9 .ok) = some w' ∧
      w'.pc 1 .main = .failed .register ∧ ¬ Intact w w' "g1" "t-a" 0 := by
  obtain ⟨w, hact, h⟩ := connect_active (P := fun w =>
    (w.handshake (demo Memory.repo false) 1 "g1" [.auth "k"] (List.replicate 9 .ok)).any (fun w' =>
      w'.pc 1 .main = .failed .register ∧ ((w'.gateway "g1").tunnels.lookup "t-a").isNone) = true)
    (by decide +kernel)
  obtain ⟨w', hrun, hend⟩ := (Option.any_eq_true _ _).1 h
  obtain ⟨hfail, hgone⟩ := of_decide_eq_true hend
  refine ⟨w, w', hact, ⟨fun token agentID h ha => ?_, fun token sess h => by simp at h⟩, hrun, hfail,
    not_intact_of_none (by simpa using hgone)⟩
  obtain rfl : token = "k" := by simpa using h
  obtain rfl : "a" = agentID := by simpa [demo] using ha
  rfl

end TunnelEdge.Gateway
