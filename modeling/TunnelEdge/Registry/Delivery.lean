import TunnelEdge.Registry.LeaseMirror
/-!
# Which removals a filtered watch sees

An event gets to the client of a `Watch` when it finds room in the channel and
passes the filters. `DeregisterTunnel` publishes a session with nothing but its
tunnel id, so no filter on a relay lets it through, whoever owned the tunnel.
The lease operations of the `MemCoordinator` publish the lease as it was, so a
watch that was told of the lease is told of its end. Each of them publishes in a
goroutine of its own: where the one of the release overtakes that of an earlier
renewal, the watch hears of the end first and takes the lease for a live one.
-/

namespace TunnelEdge.Registry

open GoLib Store

/-! ## Events on their way -/

namespace Hub

/-- What watch `k` has sent since it was `w`, with the same filters. -/
def Since (k : Nat) (w : Watch) (h : Hub) (P : Watch → List RegistryEvent → Prop) : Prop :=
  ∃ w' news, h.watches[k]? = some w' ∧ w'.tunnelFilter = w.tunnelFilter ∧ w'.relayFilter = w.relayFilter ∧
    w'.sent = w.sent ++ news ∧ P w' news

/-- The event has been sent since then, or it is on its way. -/
def OnTheWay (k : Nat) (w : Watch) (ev : RegistryEvent) (h : Hub) : Prop :=
  h.Since k w fun w' news => ev ∈ news ∨ ev ∈ w'.queue ∨ ev ∈ h.pending.flatten

variable {k : Nat} {w : Watch} {ev : RegistryEvent} {h h' : Hub} {l : HubLabel}

theorem since_self {P : Watch → List RegistryEvent → Prop} (hk : h.watches[k]? = some w) (hp : P w []) :
    h.Since k w P := ⟨w, [], hk, rfl, rfl, (List.append_nil _).symm, hp⟩

theorem mem_offer {w : Watch} {ev ev' : RegistryEvent} (h : ev ∈ w.queue) : ev ∈ (w.offer ev').queue := by
  simp only [Watch.offer, GoLib.offer]
  split
  · exact List.mem_append_left _ h
  · exact h

theorem Since.step (hs : h.step l = some h') (hw : h.Since k w fun _ _ => True) : h'.Since k w fun _ _ => True := by
  obtain ⟨u, news, hu, htf, hrf, hsent, -⟩ := hw
  obtain ⟨u', hu', hmove⟩ := step_move hs hu
  cases hmove with
  | snapshot events => exact ⟨_, news ++ events, hu', htf, hrf, by simp [hsent], trivial⟩
  | recv record ev' rest =>
    simp only [Watch.send] at hu'
    split at hu'
    · exact ⟨_, news ++ [ev'.reread record], hu', htf, hrf, by simp [hsent], trivial⟩
    · exact ⟨_, news, hu', htf, hrf, hsent, trivial⟩
  | _ => exact ⟨_, news, hu', htf, hrf, hsent, trivial⟩

/-- With room in the channel, an event that passes the filters is not lost. -/
theorem OnTheWay.step (hs : h.step l = some h') (hr : h.roomy k l = true) (ht : ev.type ≠ .tunnelUpserted)
    (hm : matchesDomainEvent ev w.tunnelFilter w.relayFilter = true) (ho : h.OnTheWay k w ev) : h'.OnTheWay k w ev := by
  obtain ⟨u, news, hu, htf, hrf, hsent, ho⟩ := ho
  obtain ⟨u', hu', hmove⟩ := step_move hs hu
  cases hmove with
  | spawn events hp =>
    refine ⟨u, news, hu', htf, hrf, hsent, ho.imp_right fun ho => ho.imp_right fun ho => ?_⟩
    rw [hp, List.flatten_append]
    exact List.mem_append_left _ ho
  | publish i ev' hn =>
    refine ⟨_, news, hu', htf, hrf, hsent, ho.imp_right fun ho => ?_⟩
    rcases ho with ho | ho
    · exact .inl (mem_offer ho)
    · rcases (mem_of_next hn).1 ho with rfl | ho
      · refine .inl ?_
        simp only [roomy, hu, Option.all_some, decide_eq_true_eq] at hr
        rw [Watch.offer, offer_of_lt hr]
        exact List.mem_append_right _ (List.mem_singleton_self _)
      · exact .inr ho
  | broadcast ev' hp =>
    refine ⟨_, news, hu', htf, hrf, hsent, ho.imp_right fun ho => ?_⟩
    exact ho.imp mem_offer fun ho => hp ▸ ho
  | snapshot events hready hp =>
    exact ⟨_, news ++ events, hu', htf, hrf, by simp [hsent], ho.imp (List.mem_append_left _) fun ho => hp ▸ ho⟩
  | recv record ev' rest hq hp =>
    rw [hq, List.mem_cons] at ho
    by_cases he : ev = ev'
    · -- the event is read now, and sent
      subst he
      rw [RegistryEvent.reread_of_ne ht] at hu'
      refine ⟨_, news ++ [ev], hu', htf, hrf, ?_, .inl (List.mem_append_right _ (List.mem_singleton_self _))⟩
      simp [Watch.send, htf, hrf, hm, hsent]
    · have ho' : ev ∈ news ∨ ev ∈ rest ∨ ev ∈ h'.pending.flatten := by
        rw [hp]
        simpa [he] using ho
      simp only [Watch.send] at hu'
      split at hu'
      · exact ⟨_, news ++ [ev'.reread record], hu', htf, hrf, by simp [hsent], ho'.imp_left (List.mem_append_left _)⟩
      · exact ⟨_, news, hu', htf, hrf, hsent, ho'⟩
  | other _ _ hp => exact ⟨u, news, hu', htf, hrf, hsent, by rwa [hp]⟩

theorem OnTheWay.run {ls : List HubLabel} (ho : h.OnTheWay k w ev) (ht : ev.type ≠ .tunnelUpserted)
    (hm : matchesDomainEvent ev w.tunnelFilter w.relayFilter = true)
    (hrun : Run Hub.step (fun h l => h.roomy k l = true) h ls h') : h'.OnTheWay k w ev :=
  hrun.inv (fun h => h.OnTheWay k w ev) ho fun _ _ _ ho hr hs => ho.step hs hr ht hm

theorem OnTheWay.delivered {p : RegistryEvent → Prop} (ho : h'.OnTheWay k w ev) (hk : h.watches[k]? = some w)
    (hi : h'.Idle k) (hp : p ev) : h.Delivered k p h' := by
  obtain ⟨w', news, hw', -, -, hsent, ho⟩ := ho
  refine ⟨w, w', news, hk, hw', hsent, ev, ?_, hp⟩
  rw [hi.drained w' hw', hi.published] at ho
  simpa using ho

theorem Delivered.sent {p : RegistryEvent → Prop} (hd : h.Delivered k p h') (hs : h'.Since k w fun _ _ => True) :
    ∃ w' ∈ h'.watches, w'.tunnelFilter = w.tunnelFilter ∧ w'.relayFilter = w.relayFilter ∧ ∃ ev ∈ w'.sent, p ev := by
  obtain ⟨w₀, w', news, hw₀, hw', hnews, ev, hev, hp⟩ := hd
  obtain ⟨w₁, -, hw₁, htf, hrf, -⟩ := hs
  rw [hw'] at hw₁
  cases hw₁
  exact ⟨w', List.mem_of_getElem? hw', htf, hrf, ev, hnews ▸ List.mem_append_right _ hev, hp⟩

/-! ## What is true of every event in a hub -/

/-- `P` holds for all that is still to be published, waits in a channel or has been sent. -/
structure All (P : RegistryEvent → Prop) (h : Hub) : Prop where
  pending : ∀ ev ∈ h.pending.flatten, P ev
  queue : ∀ w ∈ h.watches, ∀ ev ∈ w.queue, P ev
  sent : ∀ w ∈ h.watches, ∀ ev ∈ w.sent, P ev

def Filtered (h : Hub) : Prop :=
  ∀ w ∈ h.watches, ∀ ev ∈ w.sent, matchesDomainEvent ev w.tunnelFilter w.relayFilter = true

theorem all_empty (P : RegistryEvent → Prop) : ({} : Hub).All P where
  pending ev h := by simp at h
  queue w hw := by simp at hw
  sent w hw := by simp at hw

theorem All.mono {P Q : RegistryEvent → Prop} (ha : h.All P) (hPQ : ∀ {ev}, P ev → Q ev) : h.All Q where
  pending ev hev := hPQ (ha.pending ev hev)
  queue w hw ev hev := hPQ (ha.queue w hw ev hev)
  sent w hw ev hev := hPQ (ha.sent w hw ev hev)

theorem filtered_empty : ({} : Hub).Filtered := fun w hw => by simp at hw

theorem mem_of_offer {w : Watch} {ev ev' : RegistryEvent} (h : ev ∈ (w.offer ev').queue) : ev ∈ w.queue ∨ ev = ev' := by
  simp only [Watch.offer, GoLib.offer] at h
  split at h
  · simpa using h
  · exact .inl h

theorem mem_of_send {w : Watch} {ev ev' : RegistryEvent} {rest : List RegistryEvent} (h : ev ∈ (w.send ev' rest).sent) :
    ev ∈ w.sent ∨ (ev = ev' ∧ matchesDomainEvent ev' w.tunnelFilter w.relayFilter = true) := by
  simp only [Watch.send] at h
  split at h
  · rcases List.mem_append.1 h with h | h
    · exact .inl h
    · exact .inr ⟨List.mem_singleton.1 h, ‹_›⟩
  · exact .inl h

theorem watch_of_step (hs : h.step l = some h') {u : Watch} (hk : h'.watches[k]? = some u) :
    (∃ w, h.watches[k]? = some w ∧ Move h h' k w l u) ∨ (u.queue = [] ∧ u.sent = []) := by
  cases hw : h.watches[k]? with
  | some w =>
    obtain ⟨w', hw', hmove⟩ := step_move hs hw
    rw [hk] at hw'
    cases hw'
    exact .inl ⟨w, rfl, hmove⟩
  | none =>
    -- only a subscription adds a watch
    have hlen : h.watches.length ≤ k := List.getElem?_eq_none_iff.1 hw
    have hlt := (List.getElem?_eq_some_iff.1 hk).1
    cases l with
    | subscribe tf rf inc =>
      cases hs
      have hkl : k = h.watches.length := by
        rw [List.length_append, List.length_singleton] at hlt
        omega
      rw [hkl, List.getElem?_concat_length] at hk
      cases hk
      exact .inr ⟨rfl, rfl⟩
    | spawn events =>
      cases hs
      exact absurd hlt (Nat.not_lt.2 hlen)
    | publish i =>
      obtain ⟨r, -, rfl⟩ := Option.map_eq_some_iff.1 hs
      exact absurd (List.length_map .. ▸ hlt) (Nat.not_lt.2 hlen)
    | broadcast ev =>
      cases hs
      exact absurd (List.length_map .. ▸ hlt) (Nat.not_lt.2 hlen)
    | snapshot j events =>
      simp only [step] at hs
      split at hs
      · cases hs
      · split at hs <;> cases hs
        exact absurd (List.length_set .. ▸ hlt) (Nat.not_lt.2 hlen)
    | recv j record =>
      simp only [step] at hs
      split at hs
      · cases hs
      · obtain ⟨w', -, rfl⟩ := Option.map_eq_some_iff.1 hs
        exact absurd (List.length_set .. ▸ hlt) (Nat.not_lt.2 hlen)

theorem watch_of_snapshot {events : List RegistryEvent} (hs : h.step (.snapshot k events) = some h') :
    ∃ w, h.watches[k]? = some w := by
  simp only [step] at hs
  split at hs
  · cases hs
  · exact ⟨_, ‹_›⟩

theorem pending_cases (hs : h.step l = some h') :
    (∃ i ev, l = .publish i ∧ next h.pending i = some (ev, h'.pending)) ∨
      h'.pending.flatten = h.pending.flatten ++ l.spawned := by
  cases l with
  | spawn events =>
    cases hs
    exact .inr (by simp [HubLabel.spawned])
  | publish i =>
    obtain ⟨⟨ev, pending⟩, hn, rfl⟩ := Option.map_eq_some_iff.1 hs
    exact .inl ⟨i, ev, rfl, hn⟩
  | broadcast ev' => cases hs; exact .inr (List.append_nil _).symm
  | subscribe tf rf inc => cases hs; exact .inr (List.append_nil _).symm
  | snapshot j events =>
    simp only [step] at hs
    split at hs
    · cases hs
    · split at hs <;> cases hs
      exact .inr (List.append_nil _).symm
  | recv j record =>
    simp only [step] at hs
    split at hs
    · cases hs
    · obtain ⟨w', -, rfl⟩ := Option.map_eq_some_iff.1 hs
      exact .inr (List.append_nil _).symm

theorem pending_of_step (hs : h.step l = some h') (hev : ev ∈ h'.pending.flatten) :
    ev ∈ h.pending.flatten ∨ ev ∈ l.spawned := by
  rcases pending_cases hs with ⟨i, ev', -, hn⟩ | he
  · exact .inl ((mem_of_next hn).2 (.inr hev))
  · exact List.mem_append.1 (he ▸ hev)

theorem spawned_subset (l : HubLabel) : l.spawned ⊆ l.events := by
  cases l with
  | spawn events => exact List.Subset.refl events
  | _ => exact List.nil_subset _

theorem Move.filters {w w' : Watch} (hm : Move h h' k w l w') :
    w'.tunnelFilter = w.tunnelFilter ∧ w'.relayFilter = w.relayFilter := by
  cases hm <;> exact ⟨rfl, rfl⟩

theorem Move.mem_queue {w w' : Watch} (hm : Move h h' k w l w') (hev : ev ∈ w'.queue) :
    ev ∈ w.queue ∨ ev ∈ h.pending.flatten ∨ ev ∈ l.events := by
  cases hm with
  | publish i ev' hn => exact (mem_of_offer hev).imp_right fun he => .inl ((mem_of_next hn).2 (.inl he))
  | broadcast ev' => exact (mem_of_offer hev).imp_right fun he => .inr (List.mem_singleton.2 he)
  | recv record ev' rest hq => exact .inl (hq ▸ List.mem_cons_of_mem _ hev)
  | _ => exact .inl hev

theorem Move.mem_sent {w w' : Watch} (hm : Move h h' k w l w') (hev : ev ∈ w'.sent) :
    ev ∈ w.sent ∨ (∃ events, l = .snapshot k events ∧ ev ∈ events) ∨
      ∃ ev' ∈ w.queue, ∃ record, ev = ev'.reread record ∧
        matchesDomainEvent ev w.tunnelFilter w.relayFilter = true := by
  cases hm with
  | snapshot events => exact (List.mem_append.1 hev).imp_right fun hev => .inl ⟨events, rfl, hev⟩
  | recv record ev' rest hq =>
    rcases mem_of_send hev with hev | ⟨rfl, hm⟩
    · exact .inl hev
    · exact .inr (.inr ⟨ev', hq ▸ List.mem_cons_self .., record, rfl, hm⟩)
  | _ => exact .inl hev

theorem Move.all {P : RegistryEvent → Prop} {w w' : Watch} (hm : Move h h' k w l w')
    (hre : ∀ ev record, P ev → P (ev.reread record)) (hpending : ∀ ev ∈ h.pending.flatten, P ev)
    (hnew : ∀ ev ∈ l.events, P ev) (hw : ∀ ev ∈ w.queue ++ w.sent, P ev) : ∀ ev ∈ w'.queue ++ w'.sent, P ev := by
  simp only [List.mem_append] at hw ⊢
  intro ev hev
  rcases hev with hev | hev
  · rcases hm.mem_queue hev with hev | hev | hev
    · exact hw ev (.inl hev)
    · exact hpending ev hev
    · exact hnew ev hev
  · rcases hm.mem_sent hev with hev | ⟨events, rfl, hev⟩ | ⟨ev', hev', record, rfl, -⟩
    · exact hw ev (.inr hev)
    · exact hnew ev hev
    · exact hre ev' record (hw ev' (.inl hev'))

theorem All.step {P : RegistryEvent → Prop} (hre : ∀ ev record, P ev → P (ev.reread record))
    (hnew : ∀ ev ∈ l.events, P ev) (ha : h.All P) (hs : h.step l = some h') : h'.All P := by
  have hwatch : ∀ u ∈ h'.watches, ∀ ev ∈ u.queue ++ u.sent, P ev := by
    intro u hu
    obtain ⟨k, hk⟩ := List.mem_iff_getElem?.1 hu
    rcases watch_of_step hs hk with ⟨w, hw, hmove⟩ | ⟨hq, hsent⟩
    · have hmem : w ∈ h.watches := List.mem_of_getElem? hw
      refine hmove.all hre ha.pending hnew fun ev hev => ?_
      exact (List.mem_append.1 hev).elim (ha.queue w hmem ev) (ha.sent w hmem ev)
    · simp [hq, hsent]
  refine ⟨fun ev hev => ?_, fun u hu ev hev => hwatch u hu ev (List.mem_append_left _ hev),
    fun u hu ev hev => hwatch u hu ev (List.mem_append_right _ hev)⟩
  rcases pending_of_step hs hev with hev | hev
  · exact ha.pending ev hev
  · exact hnew ev (spawned_subset l hev)

theorem Filtered.step (hf : h.Filtered) (hs : h.step l = some h')
    (hsnap : ∀ k events w, l = .snapshot k events → h.watches[k]? = some w →
      ∀ ev ∈ events, matchesDomainEvent ev w.tunnelFilter w.relayFilter = true) : h'.Filtered := by
  intro u hu ev hev
  obtain ⟨k, hk⟩ := List.mem_iff_getElem?.1 hu
  rcases watch_of_step hs hk with ⟨w, hw, hmove⟩ | ⟨-, hq⟩
  · obtain ⟨htf, hrf⟩ := hmove.filters
    rw [htf, hrf]
    rcases hmove.mem_sent hev with hev | ⟨events, rfl, hev⟩ | ⟨ev', -, record, -, hm⟩
    · exact hf w (List.mem_of_getElem? hw) ev hev
    · exact hsnap k events w rfl hw ev hev
    · exact hm
  · rw [hq] at hev
    cases hev

end Hub

/-! ## What comes after an event -/

/-- Every event with `p` is followed by one with `q`. -/
def Followed (p q : RegistryEvent → Prop) (events : List RegistryEvent) : Prop :=
  ∀ pre ev post, events = pre ++ ev :: post → p ev → ∃ ev' ∈ post, q ev'

theorem followed_of_mark {p q : RegistryEvent → Prop} {ev : RegistryEvent} {front rest events : List RegistryEvent}
    (he : events = front ++ ev :: rest) (hq : q ev) (hp : ¬ p ev) (hrest : ∀ e ∈ rest, ¬ p e) :
    Followed p q events := by
  intro pre e post hsplit hpe
  rcases List.append_eq_append_iff.1 (he.symm.trans hsplit) with ⟨mid, -, hmid⟩ | ⟨mid, -, hmid⟩
  · -- not after the mark
    cases mid with
    | nil =>
      cases hmid
      exact absurd hpe hp
    | cons x mid =>
      cases hmid
      exact absurd hpe (hrest e (by simp))
  · cases mid with
    | nil =>
      cases hmid
      exact absurd hpe hp
    | cons x mid =>
      cases hmid
      exact ⟨ev, by simp, hq⟩

namespace Watch

/-- The watch has sent the event or has it in its channel, and what comes after it is `good`. -/
def Marked (ev : RegistryEvent) (good : RegistryEvent → Prop) (w : Watch) : Prop :=
  (∃ front rest, w.queue = front ++ ev :: rest ∧ ∀ e ∈ rest, good e) ∨
    (w.ready = true ∧ (∀ e ∈ w.queue, good e) ∧ ∃ front rest, w.sent = front ++ ev :: rest ∧ ∀ e ∈ rest, good e)

variable {w w' : Watch} {ev : RegistryEvent} {good : RegistryEvent → Prop} {h h' : Hub} {k : Nat} {l : HubLabel}

theorem marked_offered (hr : w.queue.length < capacity) : (w.offer ev).Marked ev good :=
  .inl ⟨w.queue, [], offer_of_lt hr, fun _ he => by cases he⟩

theorem Marked.mono {good' : RegistryEvent → Prop} (hm : w.Marked ev good) (himp : ∀ e, good e → good' e) :
    w.Marked ev good' := by
  rcases hm with ⟨front, rest, hq, hrest⟩ | ⟨hready, hqueue, front, rest, hs, hrest⟩
  · exact .inl ⟨front, rest, hq, fun e he => himp e (hrest e he)⟩
  · exact .inr ⟨hready, fun e he => himp e (hqueue e he), front, rest, hs, fun e he => himp e (hrest e he)⟩

theorem Marked.offer {e : RegistryEvent} (hm : w.Marked ev good) (he : good e) : (w.offer e).Marked ev good := by
  have hgood : ∀ {es : List RegistryEvent}, (∀ x ∈ es, good x) → ∀ x ∈ es ++ [e], good x := by
    intro es hes x hx
    rcases List.mem_append.1 hx with hx | hx
    · exact hes x hx
    · exact List.mem_singleton.1 hx ▸ he
  by_cases hr : w.queue.length < capacity
  · have hoffer : (w.offer e).queue = w.queue ++ [e] := offer_of_lt hr
    rcases hm with ⟨front, rest, hq, hrest⟩ | ⟨hready, hqueue, hsent⟩
    · exact .inl ⟨front, rest ++ [e], by rw [hoffer, hq, List.append_assoc, List.cons_append], hgood hrest⟩
    · exact .inr ⟨hready, hoffer ▸ hgood hqueue, hsent⟩
  · have hoffer : w.offer e = w := by rw [Watch.offer, GoLib.offer, if_neg hr]
    rwa [hoffer]

theorem Marked.move (hm : w.Marked ev good) (hmove : Hub.Move h h' k w l w') (ht : ev.type ≠ .tunnelUpserted)
    (hpass : matchesDomainEvent ev w.tunnelFilter w.relayFilter = true)
    (hre : ∀ e record, good e → good (e.reread record)) (hpending : ∀ e ∈ h.pending.flatten, good e)
    (hnow : ∀ e, l = .broadcast e → good e) : w'.Marked ev good := by
  cases hmove with
  | spawn | other => exact hm
  | publish i e hn => exact hm.offer (hpending e ((mem_of_next hn).2 (.inl rfl)))
  | broadcast e => exact hm.offer (hnow e rfl)
  | snapshot events hr =>
    -- a snapshot comes before all that waits in the channel
    rcases hm with hq | ⟨hready, -⟩
    · exact .inl hq
    · rw [hr] at hready
      cases hready
  | recv record e rest hqueue _ hr =>
    rcases hm with ⟨front, after, hq, hafter⟩ | ⟨hready, hgood, front, after, hs, hafter⟩
    · cases front with
      | nil =>
        -- the event itself is sent
        cases hqueue.symm.trans hq
        rw [RegistryEvent.reread_of_ne ht]
        exact .inr ⟨hr, hafter, w.sent, [], by simp [Watch.send, hpass], fun _ he => by cases he⟩
      | cons x front =>
        cases hqueue.symm.trans hq
        exact .inl ⟨front, after, rfl, hafter⟩
    · rw [hqueue] at hgood
      refine .inr ⟨hready, fun e' he' => hgood e' (List.mem_cons_of_mem _ he'), front, ?_⟩
      simp only [Watch.send]
      split
      · refine ⟨after ++ [e.reread record], by rw [hs, List.append_assoc, List.cons_append], fun e' he' => ?_⟩
        rcases List.mem_append.1 he' with he' | he'
        · exact hafter e' he'
        · exact List.mem_singleton.1 he' ▸ hre e record (hgood e (List.mem_cons_self ..))
      · exact ⟨after, hs, hafter⟩

theorem Marked.followed {p q : RegistryEvent → Prop} (hm : w.Marked ev fun e => ¬ p e) (hempty : w.queue = [])
    (hq : q ev) (hp : ¬ p ev) : Followed p q w.sent := by
  rcases hm with ⟨front, rest, hqueue, -⟩ | ⟨-, -, front, rest, hs, hrest⟩
  · rw [hempty] at hqueue
    simp at hqueue
  · exact followed_of_mark hs hq hp hrest

end Watch

/-! ## The events of a running process -/

namespace RegistryEvent

def Upserts (t : String) (ev : RegistryEvent) : Prop :=
  ev.type = .tunnelUpserted ∧ ev.tunnel.map Session.tunnelID = some t

def Deletes (t : String) (ev : RegistryEvent) : Prop :=
  ev.type = .tunnelDeleted ∧ ev.tunnel.map Session.tunnelID = some t

def Acquires (id : String) (ev : RegistryEvent) : Prop :=
  ev.type = .leaseAcquired ∧ ev.lease.map Lease.leaseID = some id

def Releases (id : String) (ev : RegistryEvent) : Prop :=
  ev.type = .leaseReleased ∧ ev.lease.map Lease.leaseID = some id

instance (t : String) (ev : RegistryEvent) : Decidable (ev.Upserts t) := inferInstanceAs (Decidable (_ ∧ _))

instance (id : String) (ev : RegistryEvent) : Decidable (ev.Acquires id) := inferInstanceAs (Decidable (_ ∧ _))

instance (id : String) (ev : RegistryEvent) : Decidable (ev.Releases id) := inferInstanceAs (Decidable (_ ∧ _))

theorem acquires_reread {id : String} {ev : RegistryEvent} (record : Option Session) :
    (ev.reread record).Acquires id ↔ ev.Acquires id := by
  rw [Acquires, reread_type, reread_lease]
  rfl

/-- A `tunnel_deleted` names no relay. -/
def Bare (ev : RegistryEvent) : Prop :=
  ev.type = .tunnelDeleted → ∀ sess, ev.tunnel = some sess → sess.ownerRelayID = ""

theorem Bare.reread {ev : RegistryEvent} (h : ev.Bare) (record : Option Session) : (ev.reread record).Bare := by
  intro ht
  rw [reread_type] at ht
  rw [reread_of_ne (by rw [ht]; exact RegistryEventType.noConfusion)]
  exact h ht

end RegistryEvent

theorem passes_bare {rf : String} : passes rf "" = true ↔ rf = "" := by
  unfold passes
  rw [Bool.or_eq_true, decide_eq_true_eq, decide_eq_true_eq, eq_comm (a := ""), or_self]

theorem relayFilter_of_bare {ev : RegistryEvent} {t tf rf : String} (hb : ev.Bare) (hd : ev.Deletes t)
    (hm : matchesDomainEvent ev tf rf = true) : rf = "" := by
  obtain ⟨sess, hs, -⟩ := Option.map_eq_some_iff.1 hd.2
  rw [matches_tunnel tf rf hs (.inr hd.1), hb hd.1 sess hs, Bool.and_eq_true] at hm
  exact passes_bare.1 hm.2

theorem passes_of_upserts {ev : RegistryEvent} {t tf rf : String} (hu : ev.Upserts t)
    (hm : matchesDomainEvent ev tf rf = true) : passes tf t = true := by
  obtain ⟨sess, hs, rfl⟩ := Option.map_eq_some_iff.1 hu.2
  rw [matches_tunnel tf rf hs (.inl hu.1), Bool.and_eq_true] at hm
  exact hm.1

/-- A watch that was told of a tunnel, and to which the news of its end is on the
way if they pass its filters, is told of the end only if it does not filter by
relay. -/
theorem Hub.deleted_delivered_iff {h h' : Hub} {k : Nat} {w : Watch} {t : String} (hw : h.watches[k]? = some w)
    (hf : h.Filtered) (hsent : ∃ ev ∈ w.sent, ev.Upserts t) (hf' : h'.Filtered) (hb : h'.All RegistryEvent.Bare)
    (hs : h'.Since k w fun _ _ => True) (hi : h'.Idle k)
    (hway : matchesDomainEvent (.deleted t) w.tunnelFilter w.relayFilter = true → h'.OnTheWay k w (.deleted t)) :
    h.Delivered k (RegistryEvent.Deletes t) h' ↔ w.relayFilter = "" := by
  constructor
  · intro hd
    obtain ⟨w', hw', -, hrf, ev, hev, hdel⟩ := hd.sent hs
    rw [← hrf]
    exact relayFilter_of_bare (hb.sent w' hw' ev hev) hdel (hf' w' hw' ev hev)
  · intro hr
    obtain ⟨ev, hev, hup⟩ := hsent
    refine (hway ?_).delivered hw hi ⟨rfl, rfl⟩
    rw [matches_tunnel _ _ rfl (.inr rfl), hr, passes_empty, Bool.and_true]
    exact passes_of_upserts hup (hf w (List.mem_of_getElem? hw) ev hev)

namespace Hub

variable {h h' : Hub} {l : HubLabel} {k : Nat} {lease : Lease}

/-- No `lease_acquired` of the lease is left to publish, and a watch that lets its `lease_released` through has no
`lease_acquired` after it. -/
structure Closed (lease : Lease) (k : Nat) (h : Hub) : Prop where
  pending : ∀ ev ∈ h.pending.flatten, ¬ ev.Acquires lease.leaseID
  watch : ∀ w, h.watches[k]? = some w →
    matchesDomainEvent (.released lease) w.tunnelFilter w.relayFilter = true →
    w.Marked (.released lease) (fun ev => ¬ ev.Acquires lease.leaseID) ∨
      ∀ ev ∈ w.queue ++ w.sent, ¬ ev.Acquires lease.leaseID

theorem closed_of_publish {i : Nat} (hs : h.step (.publish i) = some h') (hr : h.roomy k (.publish i) = true)
    {pending : List (List RegistryEvent)} (hn : next h.pending i = some (.released lease, pending))
    (hlast : ∀ ev ∈ pending.flatten, ¬ ev.Acquires lease.leaseID) : h'.Closed lease k := by
  simp only [step, hn, Option.map_some, Option.some.injEq] at hs
  subst hs
  refine ⟨hlast, fun u hu _ => ?_⟩
  rw [List.getElem?_map] at hu
  obtain ⟨w, hw, rfl⟩ := Option.map_eq_some_iff.1 hu
  simp only [roomy, hw, Option.all_some, decide_eq_true_eq] at hr
  exact .inl (Watch.marked_offered hr)

theorem Closed.step (hc : h.Closed lease k) (hs : h.step l = some h')
    (hnew : ∀ ev ∈ l.events, ¬ ev.Acquires lease.leaseID) : h'.Closed lease k := by
  have hre : ∀ e record, ¬ RegistryEvent.Acquires lease.leaseID e →
      ¬ RegistryEvent.Acquires lease.leaseID (e.reread record) :=
    fun e record he => (RegistryEvent.acquires_reread record).not.2 he
  refine ⟨fun ev hev => ?_, fun u hu hpass => ?_⟩
  · rcases pending_of_step hs hev with hev | hev
    · exact hc.pending ev hev
    · exact hnew ev (spawned_subset l hev)
  · rcases watch_of_step hs hu with ⟨w, hw, hmove⟩ | ⟨hq, hsent⟩
    · obtain ⟨htf, hrf⟩ := hmove.filters
      rw [htf, hrf] at hpass
      rcases hc.watch w hw hpass with hm | hnone
      · refine .inl (hm.move hmove (by exact RegistryEventType.noConfusion) hpass hre hc.pending ?_)
        rintro e rfl
        exact hnew e (List.mem_singleton_self e)
      · exact .inr (hmove.all hre hc.pending hnew hnone)
    · exact .inr (by simp [hq, hsent])

end Hub

namespace MemCoordinator

theorem currentLease_subset {m : MemCoordinator} {now : Time} {t id : String} {l : Lease}
    (h : (m.currentLease now t).1.leasesByID.lookup id = some l) : m.leasesByID.lookup id = some l := by
  unfold currentLease currentLeaseLocked at h
  split at h
  · exact h
  · split at h
    · exact h
    · split at h
      · rw [GoMap.lookup_erase_ite] at h
        split at h
        · cases h
        · exact h
      · exact h

end MemCoordinator

namespace Node

variable {σ : Type} {repo : SessionRepository σ} {sessionTTL : Duration} {ids : UUIDs} {n n' : Node σ} {l : NodeLabel}

abbrev table (n : Node σ) : GoMap String Lease := n.server.coord.leasesByID

/-- A lease keeps its tunnel and its relay, and a new lease has an id not drawn before. -/
structure Evolves (ids : UUIDs) (n n' : Node σ) : Prop where
  drawn : n.drawn ≤ n'.drawn
  table : ∀ id l', n'.table.lookup id = some l' →
    (∃ l, n.table.lookup id = some l ∧ l'.tunnelID = l.tunnelID ∧ l'.relayID = l.relayID) ∨
    ∃ k, n.drawn ≤ k ∧ ids.draw k = id

theorem evolves_of_subset (hd : n'.drawn = n.drawn)
    (h : ∀ id l, n'.table.lookup id = some l → n.table.lookup id = some l) : Evolves ids n n' :=
  ⟨Nat.le_of_eq hd.symm, fun id l' hl => .inl ⟨l', h id l' hl, rfl, rfl⟩⟩

theorem coordOp_evolves (hb : n.Base ids) (op : CoordOp) : Evolves ids n (n.coordOp ids op).1 := by
  have hi := hb.leases.inv
  cases op with
  | acquireLease now req =>
    refine ⟨Nat.le_succ _, fun id l' hl => ?_⟩
    rcases hr : n.server.coord.acquireLease now (ids.draw n.drawn) req with ⟨m₁, r⟩
    have hl : m₁.leasesByID.lookup id = some l' := by simpa [coordOp, hr, setCoord] using hl
    have hc := MemCoordinator.acquireLease_cases hi now (ids.draw n.drawn) req
    rw [hr] at hc
    cases hc with
    | invalid => exact .inl ⟨l', hl, rfl, rfl⟩
    | conflict => exact .inl ⟨l', hl, rfl, rfl⟩
    | extend l _ hh _ hrel =>
      rw [MemCoordinator.putLease_leases] at hl
      split at hl
      · rename_i hid
        cases hl
        exact .inl ⟨l, hid ▸ hh.1, rfl, hrel.symm⟩
      · exact .inl ⟨l', hl, rfl, rfl⟩
    | grant m' _ hm =>
      rw [MemCoordinator.putLease_leases] at hl
      split at hl
      · rename_i hid
        exact .inr ⟨n.drawn, Nat.le_refl _, hid.symm⟩
      · rcases (MemCoordinator.grant_purged hi hm).2.2 id with he | ⟨he, -⟩
        · exact .inl ⟨l', he ▸ hl, rfl, rfl⟩
        · rw [he] at hl
          cases hl
  | renewLease now id ttl =>
    refine ⟨Nat.le_refl _, fun id' l' hl => .inl ?_⟩
    rcases MemCoordinator.renewLease_cases hi now id ttl with ⟨s, hr, -⟩ | ⟨l, hl₀, -, hr⟩
    · simp only [coordOp, hr] at hl
      exact ⟨l', hl, rfl, rfl⟩
    · simp only [coordOp, hr, setCoord, table, GoMap.lookup_insert_ite] at hl
      split at hl
      · rename_i hid
        cases hl
        exact ⟨l, hid ▸ hl₀, rfl, rfl⟩
      · exact ⟨l', hl, rfl, rfl⟩
  | releaseLease id =>
    refine evolves_of_subset rfl fun id' l' hl => ?_
    rcases MemCoordinator.releaseLease_cases hi id with ⟨s, hr, -⟩ | ⟨l, -, hr⟩
    · simp only [coordOp, hr] at hl
      exact hl
    · simp only [coordOp, hr, setCoord, table, MemCoordinator.drop_leases] at hl
      split at hl
      · cases hl
      · exact hl
  | currentLease now t => exact evolves_of_subset rfl fun id l' hl => MemCoordinator.currentLease_subset hl
  | reportRelayHealth now r addr health =>
    simp only [coordOp]
    split <;> exact evolves_of_subset rfl fun _ _ hl => hl
  | releaseExpiredLeases now =>
    refine evolves_of_subset rfl fun id l' hl => ?_
    have hl : (n.server.coord.releaseExpiredLeases now).1.leasesByID.lookup id = some l' := hl
    rw [(MemCoordinator.releaseExpiredLeases_spec hi now).2] at hl
    exact (Option.filter_eq_some_iff.1 hl).1

theorem effect_evolves (hb : n.Base ids) (l : NodeLabel) : Evolves ids n (n.effect repo sessionTTL ids l) := by
  have hsub : ∀ m now t, (∀ id l', m.leasesByID.lookup id = some l' → n.table.lookup id = some l') →
      ∀ id l', (MemCoordinator.currentLease m now t).1.leasesByID.lookup id = some l' →
        n.table.lookup id = some l' :=
    fun m now t hm id l' hl => hm id l' (MemCoordinator.currentLease_subset hl)
  cases l with
  | tunnel op =>
    refine evolves_of_subset rfl ?_
    exact Server.tunnelOp_coord (P := fun m => ∀ id l', m.leasesByID.lookup id = some l' →
      n.table.lookup id = some l') hsub op fun _ _ hl => hl
  | coord op => exact coordOp_evolves hb op
  | snapshot k now =>
    refine evolves_of_subset rfl ?_
    exact Server.refreshAll_coord (P := fun m => ∀ id l', m.leasesByID.lookup id = some l' →
      n.table.lookup id = some l') (fun m t => hsub m now t) _ fun _ _ hl => hl
  | watch => exact evolves_of_subset rfl fun _ _ hl => hl
  | publish => exact evolves_of_subset rfl fun _ _ hl => hl
  | recv => exact evolves_of_subset rfl fun _ _ hl => hl

theorem coordOp_lease (hb : n.Base ids) (op : CoordOp) {ev : RegistryEvent} {l : Lease}
    (hev : ev ∈ (n.coordOp ids op).2) (hl : ev.lease = some l) :
    n.table.lookup l.leaseID = some l ∨ (n.coordOp ids op).1.table.lookup l.leaseID = some l := by
  have hi := hb.leases.inv
  cases op with
  | acquireLease now req =>
    rcases hr : n.server.coord.acquireLease now (ids.draw n.drawn) req with ⟨m₁, r⟩
    simp only [coordOp, hr] at hev ⊢
    have hc := MemCoordinator.acquireLease_cases hi now (ids.draw n.drawn) req
    rw [hr] at hc
    cases hc with
    | invalid => cases hev
    | conflict => cases hev
    | extend =>
      cases List.mem_singleton.1 hev
      cases hl
      exact .inr ((MemCoordinator.putLease_leases _ now _ _).trans (if_pos rfl))
    | grant =>
      cases List.mem_singleton.1 hev
      cases hl
      exact .inr ((MemCoordinator.putLease_leases _ now _ _).trans (if_pos rfl))
  | renewLease now id ttl =>
    rcases MemCoordinator.renewLease_cases hi now id ttl with ⟨s, hr, -⟩ | ⟨l₀, hl₀, -, hr⟩ <;>
      simp only [coordOp, hr] at hev ⊢
    · cases hev
    · cases List.mem_singleton.1 hev
      cases hl
      refine .inr ?_
      simp only [setCoord, table, GoMap.lookup_insert_ite]
      rw [if_pos (hi.ids id l₀ hl₀).1]
  | releaseLease id =>
    rcases MemCoordinator.releaseLease_cases hi id with ⟨s, hr, -⟩ | ⟨l₀, hl₀, hr⟩ <;>
      simp only [coordOp, hr] at hev ⊢
    · cases hev
    · cases List.mem_singleton.1 hev
      cases hl
      exact .inl (hi.holds hl₀).1
  | currentLease now t => cases hev
  | reportRelayHealth now r addr health =>
    simp only [coordOp] at hev
    split at hev
    · cases hev
    · cases List.mem_singleton.1 hev
      cases hl
  | releaseExpiredLeases now =>
    obtain ⟨l', hl', rfl⟩ := List.mem_map.1 hev
    cases hl
    exact .inl ((MemCoordinator.mem_releaseExpiredLeases hi).1 hl').1

theorem snapshot_event (hb : n.Base ids) {k : Nat} {now : Time} {ev : RegistryEvent}
    (hev : ev ∈ (n.snapshotFor repo k now).2) :
    (∃ sess, ev = .upserted sess) ∨ (∃ l, ev = .acquired l ∧ n.table.lookup l.leaseID = some l) ∨
      (∃ relay, ev = .relayUpserted relay) ∨ ∃ relay health, ev = .healthUpdated relay health := by
  unfold snapshotFor at hev
  rw [Server.sendSnapshot_events hb.leases, MemCoordinator.snapshot] at hev
  simp only [List.mem_append, List.mem_map] at hev
  rcases hev with ⟨sess, -, rfl⟩ | (⟨l, hl, rfl⟩ | ⟨relay, -, rfl⟩) | ⟨e, -, rfl⟩
  · exact .inl ⟨sess, rfl⟩
  · obtain ⟨id, hid, -⟩ := (GoMap.mem_values_iff _ _ _).1 hl
    exact .inr (.inl ⟨l, rfl, (hb.leases.inv.holds hid).1⟩)
  · exact .inr (.inr (.inl ⟨relay, rfl⟩))
  · exact .inr (.inr (.inr ⟨_, _, rfl⟩))

/-- The lease of an event was drawn, and while it is in the table it has the event's tunnel and relay. -/
def LeaseKnown (ids : UUIDs) (n : Node σ) (ev : RegistryEvent) : Prop :=
  ∀ l, ev.lease = some l → (∃ k < n.drawn, ids.draw k = l.leaseID) ∧
    ∀ l', n.table.lookup l.leaseID = some l' → l'.tunnelID = l.tunnelID ∧ l'.relayID = l.relayID

theorem LeaseKnown.evolves {ev : RegistryEvent} (he : Evolves ids n n') (h : n.LeaseKnown ids ev) :
    n'.LeaseKnown ids ev := by
  intro l hl
  obtain ⟨⟨k, hk, hdraw⟩, htab⟩ := h l hl
  refine ⟨⟨k, Nat.lt_of_lt_of_le hk he.drawn, hdraw⟩, fun l' hl' => ?_⟩
  rcases he.table _ l' hl' with ⟨l₀, hl₀, ht, hr⟩ | ⟨j, hj, hdraw'⟩
  · obtain ⟨ht₀, hr₀⟩ := htab l₀ hl₀
    exact ⟨ht.trans ht₀, hr.trans hr₀⟩
  · have := ids.inj (hdraw.trans hdraw'.symm)
    omega

theorem leaseKnown_of_table (hb : n.Base ids) {ev : RegistryEvent}
    (h : ∀ l, ev.lease = some l → n.table.lookup l.leaseID = some l) : n.LeaseKnown ids ev := by
  intro l hl
  refine ⟨hb.leases.drawn _ l (h l hl), fun l' hl' => ?_⟩
  rw [h l hl] at hl'
  cases hl'
  exact ⟨rfl, rfl⟩

structure Told (ids : UUIDs) (n : Node σ) : Prop where
  base : n.Base ids
  filtered : n.hub.Filtered
  ordinary : n.hub.All RegistryEvent.Ordinary
  bare : n.hub.All RegistryEvent.Bare
  known : n.hub.All (n.LeaseKnown ids)

theorem told_new (ids : UUIDs) (store : σ) : (new store).Told ids where
  base := base_new ids store
  filtered := Hub.filtered_empty
  ordinary := Hub.all_empty _
  bare := Hub.all_empty _
  known := Hub.all_empty _

theorem hubLabel_events (hb : n.Base ids) {ev : RegistryEvent}
    (hev : ev ∈ (n.hubLabel repo sessionTTL ids l).events) :
    ev.Ordinary ∧ ev.Bare ∧ ∀ lease, ev.lease = some lease → n.table.lookup lease.leaseID = some lease ∨
      (n.effect repo sessionTTL ids l).table.lookup lease.leaseID = some lease := by
  cases l with
  | tunnel op =>
    rcases Server.tunnelOp_events op hev with ⟨sess, rfl⟩ | ⟨t, rfl⟩
    · exact ⟨⟨fun h => (by cases h), fun _ => rfl⟩, fun h => (by cases h), fun _ h => (by cases h)⟩
    · exact ⟨⟨fun _ h => (by cases h), fun h => (by cases h)⟩, fun _ sess hs => (by cases hs; rfl),
        fun _ h => (by cases h)⟩
  | coord op =>
    obtain ⟨hk, hord⟩ := coordOp_events n op ev hev
    refine ⟨hord, fun ht sess hs => ?_, fun lease hl => coordOp_lease hb op hev hl⟩
    simp [RegistryEvent.tunnelKey, ht, hs] at hk
  | snapshot k now =>
    rcases snapshot_event hb hev with ⟨sess, rfl⟩ | ⟨l, rfl, hl⟩ | ⟨relay, rfl⟩ | ⟨relay, health, rfl⟩
    · exact ⟨⟨fun h => (by cases h), fun _ => rfl⟩, fun h => (by cases h), fun _ h => (by cases h)⟩
    · exact ⟨⟨fun h => (by cases h), fun h => (by cases h)⟩, fun h => (by cases h),
        fun _ h => (by cases h; exact .inl hl)⟩
    · exact ⟨⟨fun h => (by cases h), fun h => (by cases h)⟩, fun h => (by cases h), fun _ h => (by cases h)⟩
    · exact ⟨⟨fun h => (by cases h), fun h => (by cases h)⟩, fun h => (by cases h), fun _ h => (by cases h)⟩
  | watch => cases hev
  | publish => cases hev
  | recv => cases hev

theorem Told.step (h : n.Told ids) (hs : n.step repo sessionTTL ids l = some n') : n'.Told ids := by
  have hb' := h.base.step hs
  obtain ⟨hub, hh, rfl⟩ := step_eq_some _ _ _ hs
  have he : Evolves ids n { n.effect repo sessionTTL ids l with hub } :=
    ⟨(effect_evolves h.base l).drawn, (effect_evolves h.base l).table⟩
  refine ⟨hb', ?_, ?_, ?_, ?_⟩
  · refine h.filtered.step hh fun k events w hl hw ev hev => ?_
    cases l with
    | snapshot j now =>
      cases hl
      simp only [snapshotFor, hw, Option.getD_some] at hev
      exact Server.sendSnapshot_matches h.base.leases h.base.relays hev
    | _ => cases hl
  · exact h.ordinary.step (fun _ record hp => hp.reread record) (fun ev hev => (hubLabel_events h.base hev).1) hh
  · exact h.bare.step (fun _ record hp => hp.reread record) (fun ev hev => (hubLabel_events h.base hev).2.1) hh
  · refine (h.known.mono (.evolves he)).step (fun ev record hp lease hl => ?_) (fun ev hev lease hl => ?_) hh
    · rw [RegistryEvent.reread_lease] at hl
      exact hp lease hl
    · have hsome : ∀ lease', ev.lease = some lease' → lease' = lease := fun lease' hl' =>
        (Option.some.inj (hl.symm.trans hl')).symm
      rcases (hubLabel_events h.base hev).2.2 lease hl with ho | hn
      · exact (leaseKnown_of_table h.base fun lease' hl' => hsome lease' hl' ▸ ho).evolves he lease hl
      · exact leaseKnown_of_table hb' (fun lease' hl' => hsome lease' hl' ▸ hn) lease hl

theorem run_told {ok : Node σ → NodeLabel → Prop} (h0 : n.Told ids) {ls : List NodeLabel}
    (h : Run (step repo sessionTTL ids) ok n ls n') : n'.Told ids :=
  h.inv (Told ids) h0 fun _ _ _ ht _ hs => ht.step hs

theorem sent_ordinary {ok : Node σ → NodeLabel → Prop} {store : σ} {ls : List NodeLabel}
    (h : Run (step repo sessionTTL ids) ok (new store) ls n) {w : Watch} (hw : w ∈ n.hub.watches) {ev : RegistryEvent}
    (hev : ev ∈ w.sent) : ev.Ordinary :=
  (run_told (told_new ids store) h).ordinary.sent w hw ev hev

/-! ## Deregistered tunnels and released leases -/

theorem hub_step (hs : n.step repo sessionTTL ids l = some n') :
    n.hub.step (n.hubLabel repo sessionTTL ids l) = some n'.hub := by
  obtain ⟨hub, hh, rfl⟩ := step_eq_some _ _ _ hs
  exact hh

theorem hubLabel_publish {i : Nat} (h : n.hubLabel repo sessionTTL ids l = .publish i) : l = .publish i := by
  cases l with
  | publish j =>
    cases h
    rfl
  | _ => cases h

theorem hub_roomy {k : Nat} (h : n.roomy k l = true) : n.hub.roomy k (n.hubLabel repo sessionTTL ids l) = true := by
  cases l with
  | publish i => exact h
  | _ => rfl

theorem hub_run {k : Nat} {ok : Node σ → NodeLabel → Bool} {ls : List NodeLabel}
    (h : Run (step repo sessionTTL ids) (fun n l => n.roomy k l && ok n l) n ls n') :
    ∃ ms, Run Hub.step (fun h l => h.roomy k l = true) n.hub ms n'.hub :=
  h.project Node.hub fun _ _ _ hr hs => .inr ⟨_, hub_roomy (Bool.and_eq_true_iff.1 hr).1, hub_step hs⟩

theorem hub_since {ok : Node σ → NodeLabel → Prop} {k : Nat} {w : Watch} {ls : List NodeLabel}
    (h : Run (step repo sessionTTL ids) ok n ls n') (hs : n.hub.Since k w fun _ _ => True) :
    n'.hub.Since k w fun _ _ => True :=
  h.inv (fun n => n.hub.Since k w fun _ _ => True) hs fun _ _ _ hs _ hst => hs.step (hub_step hst)

/-- The `lease_released` of the lease is published when no `lease_acquired` of it is left to publish. -/
def releasesLast (id : String) (n : Node σ) : NodeLabel → Bool
  | .publish i => (next n.hub.pending i).all fun r => ¬ r.1.Releases id ∨ ∀ ev ∈ r.2.flatten, ¬ ev.Acquires id
  | _ => true

/-- In a state that a process reaches the label fires, and then anything that meets `ok` happens
until nothing is left to publish or to read, with room for watch `k` all the time. -/
structure Settles (repo : SessionRepository σ) (sessionTTL : Duration) (ids : UUIDs) (store : σ) (k : Nat)
    (ok : Node σ → NodeLabel → Bool) (l : NodeLabel) (n n₁ n₂ : Node σ) : Prop where
  reached : ∃ ls, Run (step repo sessionTTL ids) (fun _ _ => True) (new store) ls n
  fired : n.step repo sessionTTL ids l = some n₁
  settled : ∃ ls, Run (step repo sessionTTL ids) (fun n l => n.roomy k l && ok n l) n₁ ls n₂
  idle : n₂.hub.Idle k

section Removals

variable {store : σ} {n₁ n₂ : Node σ} {k : Nat} {w : Watch} {ok : Node σ → NodeLabel → Bool}

theorem onTheWay_of_spawn {ev : RegistryEvent} (hs : n.step repo sessionTTL ids l = some n₁)
    (hw : n.hub.watches[k]? = some w) {events : List RegistryEvent}
    (hl : n.hubLabel repo sessionTTL ids l = .spawn events) (hev : ev ∈ events) : n₁.hub.OnTheWay k w ev := by
  have hh := hub_step hs
  simp only [hl, Hub.step, Option.some.injEq] at hh
  rw [← hh]
  exact Hub.since_self hw (.inr (.inr (by simpa using .inr hev)))

theorem Settles.onTheWay (h : Settles repo sessionTTL ids store k ok l n n₁ n₂) {ev : RegistryEvent}
    (hw : n.hub.watches[k]? = some w) {events : List RegistryEvent}
    (hl : n.hubLabel repo sessionTTL ids l = .spawn events) (hev : ev ∈ events) (ht : ev.type ≠ .tunnelUpserted)
    (hm : matchesDomainEvent ev w.tunnelFilter w.relayFilter = true) : n₂.hub.OnTheWay k w ev := by
  obtain ⟨ls, hrest⟩ := h.settled
  obtain ⟨ms, hms⟩ := hub_run hrest
  exact Hub.OnTheWay.run (onTheWay_of_spawn h.fired hw hl hev) ht hm hms

theorem deleted_delivered_iff {now : Time} {t : String}
    (h : Settles repo sessionTTL ids store k ok (.tunnel (.deregisterTunnel now t)) n n₁ n₂)
    (hw : n.hub.watches[k]? = some w) (hsent : ∃ ev ∈ w.sent, ev.Upserts t)
    (hok : (n.server.deregisterTunnel repo now t).2 = .ok ()) :
    n.hub.Delivered k (RegistryEvent.Deletes t) n₂.hub ↔ w.relayFilter = "" := by
  obtain ⟨ls, hrun⟩ := h.reached
  obtain ⟨ls', hrest⟩ := h.settled
  have htold := run_told (told_new ids store) hrun
  have htold₂ := run_told (htold.step h.fired) hrest
  have hsince := hub_since hrest ((Hub.since_self hw trivial).step (hub_step h.fired))
  refine Hub.deleted_delivered_iff hw htold.filtered hsent htold₂.filtered htold₂.bare hsince h.idle fun hm => ?_
  have hev : RegistryEvent.deleted t ∈ (n.server.tunnelOp repo sessionTTL (.deregisterTunnel now t)).2 := by
    rcases hd : n.server.deregisterTunnel repo now t with ⟨s, r⟩
    rw [hd] at hok
    cases hok
    simp only [Server.tunnelOp, hd, List.mem_singleton]
  exact h.onTheWay hw rfl hev (by exact RegistryEventType.noConfusion) hm

theorem released_of_removed (hb : n.Base ids) {op : CoordOp} {id : String} {l : Lease}
    (hop : op = .releaseLease id ∨ ∃ now, op = .releaseExpiredLeases now) (hin : n.table.lookup id = some l)
    (hout : (n.coordOp ids op).1.table.lookup id = none) : RegistryEvent.released l ∈ (n.coordOp ids op).2 := by
  have hi := hb.leases.inv
  rcases hop with rfl | ⟨now, rfl⟩
  · rcases MemCoordinator.releaseLease_cases hi id with ⟨s, -, hn⟩ | ⟨l', hl', hr⟩
    · rw [show n.server.coord.leasesByID.lookup id = some l from hin] at hn
      cases hn
    · rw [show n.server.coord.leasesByID.lookup id = some l from hin] at hl'
      cases hl'
      simp [coordOp, hr, Except.toOption]
  · have hout : (n.server.coord.releaseExpiredLeases now).1.leasesByID.lookup id = none := hout
    rw [(MemCoordinator.releaseExpiredLeases_spec hi now).2, hin, Option.filter_some] at hout
    split at hout
    · cases hout
    · rename_i he
      refine List.mem_map_of_mem ((MemCoordinator.mem_releaseExpiredLeases hi).2 ⟨(hi.holds hin).1, ?_⟩)
      exact Decidable.byContradiction fun hne => he (decide_eq_true hne)

/-- The lease is gone for good, all events of it name its tunnel and its relay, and its `lease_released` is still to
be published or is the last of them. -/
structure Closing (ids : UUIDs) (lease : Lease) (k : Nat) (n : Node σ) : Prop where
  told : n.Told ids
  gone : n.table.lookup lease.leaseID = none
  drawn : ∃ j < n.drawn, ids.draw j = lease.leaseID
  same : n.hub.All fun ev => ∀ l', ev.lease = some l' → l'.leaseID = lease.leaseID →
    l'.tunnelID = lease.tunnelID ∧ l'.relayID = lease.relayID
  released : .released lease ∈ n.hub.pending.flatten ∨ n.hub.Closed lease k

theorem Closing.step {lease : Lease} (hc : n.Closing ids lease k) (hr : n.roomy k l = true)
    (hlast : n.releasesLast lease.leaseID l = true) (hs : n.step repo sessionTTL ids l = some n') :
    n'.Closing ids lease k := by
  have hh := hub_step hs
  obtain ⟨j, hj, hdraw⟩ := hc.drawn
  have hevolves : Evolves ids n (n.effect repo sessionTTL ids l) := effect_evolves hc.told.base l
  -- no later lease has its id
  have hgone : (n.effect repo sessionTTL ids l).table.lookup lease.leaseID = none := by
    refine Option.eq_none_iff_forall_ne_some.2 fun l' hl' => ?_
    rcases hevolves.table _ l' hl' with ⟨l₀, hl₀, -⟩ | ⟨i, hi, hdraw'⟩
    · rw [hc.gone] at hl₀
      cases hl₀
    · have := ids.inj (hdraw.trans hdraw'.symm)
      omega
  have hnew : ∀ ev ∈ (n.hubLabel repo sessionTTL ids l).events, ∀ l', ev.lease = some l' →
      l'.leaseID ≠ lease.leaseID := by
    intro ev hev l' hl' hid
    rcases (hubLabel_events hc.told.base hev).2.2 l' hl' with ho | hn
    · rw [hid, hc.gone] at ho
      cases ho
    · rw [hid, hgone] at hn
      cases hn
  have hacquires : ∀ ev ∈ (n.hubLabel repo sessionTTL ids l).events, ¬ ev.Acquires lease.leaseID := by
    rintro ev hev ⟨-, hl'⟩
    obtain ⟨l', hl', hid⟩ := Option.map_eq_some_iff.1 hl'
    exact hnew ev hev l' hl' hid
  refine ⟨hc.told.step hs, ?_, ⟨j, ?_, hdraw⟩, ?_, ?_⟩
  · obtain ⟨hub, -, rfl⟩ := step_eq_some _ _ _ hs
    exact hgone
  · obtain ⟨hub, -, rfl⟩ := step_eq_some _ _ _ hs
    exact Nat.lt_of_lt_of_le hj hevolves.drawn
  · refine hc.same.step (fun ev record hp l' hl' => hp l' (RegistryEvent.reread_lease ev record ▸ hl'))
      (fun ev hev l' hl' hid => absurd hid (hnew ev hev l' hl')) hh
  · rcases hc.released with hpending | hclosed
    · rcases Hub.pending_cases hh with ⟨i, ev, hl, hn⟩ | he
      · obtain rfl := hubLabel_publish hl
        rcases (mem_of_next hn).1 hpending with rfl | hrest
        · -- it is published now, after all the others
          simp only [releasesLast, hn, Option.all_some, decide_eq_true_eq] at hlast
          exact .inr (Hub.closed_of_publish hh hr hn (hlast.resolve_left fun hnot => hnot ⟨rfl, rfl⟩))
        · exact .inl hrest
      · exact .inl (he ▸ List.mem_append_left _ hpending)
    · exact .inr (hclosed.step hh hacquires)

/-- A lease is released or swept: it is not to come back, and its `lease_released` is to be published. -/
theorem closing_of_removed (ht : n.Told ids) {op : CoordOp} {id : String} {lease : Lease}
    (hop : op = .releaseLease id ∨ ∃ now, op = .releaseExpiredLeases now) (hin : n.table.lookup id = some lease)
    (hs : n.step repo sessionTTL ids (.coord op) = some n') (hout : n'.table.lookup id = none) :
    n'.Closing ids lease k := by
  obtain ⟨hheld, rfl⟩ : n.table.lookup lease.leaseID = some lease ∧ lease.leaseID = id :=
    ⟨(ht.base.leases.inv.holds hin).1, (ht.base.leases.inv.ids id lease hin).1⟩
  have hh := hub_step hs
  obtain ⟨j, hj, hdraw⟩ := ht.base.leases.drawn _ _ hheld
  have heffect : (n.coordOp ids op).1.table = n'.table ∧ (n.coordOp ids op).1.drawn = n'.drawn := by
    obtain ⟨hub, -, rfl⟩ := step_eq_some _ _ _ hs
    exact ⟨rfl, rfl⟩
  refine ⟨ht.step hs, hout, ⟨j, ?_, hdraw⟩, ?_, .inl ?_⟩
  · exact heffect.2 ▸ Nat.lt_of_lt_of_le hj (coordOp_evolves ht.base op).drawn
  · refine Hub.All.step (fun ev record hp l' hl' => hp l' (RegistryEvent.reread_lease ev record ▸ hl'))
      (fun ev hev l' hl' hid => ?_) (ht.known.mono fun hk l' hl' hid => ?_) hh
    · rcases coordOp_lease ht.base op hev hl' with ho | hn
      · cases (hid ▸ ho).symm.trans hheld
        exact ⟨rfl, rfl⟩
      · rw [heffect.1, hid, hout] at hn
        cases hn
    · -- what was told of the lease before names what the table had for it
      obtain ⟨htunnel, hrelay⟩ := (hk l' hl').2 lease (hid ▸ hheld)
      exact ⟨htunnel.symm, hrelay.symm⟩
  · have hev := released_of_removed ht.base hop hin (heffect.1 ▸ hout)
    simp only [hubLabel, Hub.step, Option.some.injEq] at hh
    rw [← hh]
    simpa using .inr hev

/-- Every `lease_acquired` of a lease that is released or swept is followed by its `lease_released`, whatever the
filters of the watch, if the events of the lease are published in order. -/
theorem acquired_followed {op : CoordOp} {id : String}
    (h : Settles repo sessionTTL ids store k (releasesLast id) (.coord op) n n₁ n₂)
    (hop : op = .releaseLease id ∨ ∃ now, op = .releaseExpiredLeases now) (hin : n.table.lookup id ≠ none)
    (hout : n₁.table.lookup id = none) (hw : n₂.hub.watches[k]? = some w) :
    Followed (RegistryEvent.Acquires id) (RegistryEvent.Releases id) w.sent := by
  obtain ⟨ls, hrun⟩ := h.reached
  obtain ⟨ls', hrest⟩ := h.settled
  obtain ⟨lease, hlease⟩ := Option.ne_none_iff_exists'.1 hin
  have htold := run_told (told_new ids store) hrun
  obtain rfl : lease.leaseID = id := (htold.base.leases.inv.ids id lease hlease).1
  have hc : n₂.Closing ids lease k := by
    refine hrest.inv (Closing ids lease k) (closing_of_removed htold hop hlease h.fired hout) ?_
    intro n l n' hc hok hs
    obtain ⟨hroomy, hlast⟩ := Bool.and_eq_true_iff.1 hok
    exact hc.step hroomy hlast hs
  have hmem := List.mem_of_getElem? hw
  have hclosed : n₂.hub.Closed lease k := hc.released.resolve_left fun hev => by
    rw [h.idle.published] at hev
    cases hev
  have hnone (hno : ∀ ev ∈ w.sent, ¬ ev.Acquires lease.leaseID) :
      Followed (RegistryEvent.Acquires lease.leaseID) (RegistryEvent.Releases lease.leaseID) w.sent :=
    fun pre ev post he hev => absurd hev (hno ev (by simp [he]))
  by_cases hpass : matchesDomainEvent (.released lease) w.tunnelFilter w.relayFilter = true
  · rcases hclosed.watch w hw hpass with hm | hno
    · exact hm.followed (h.idle.drained w hw) ⟨rfl, rfl⟩ fun hev => by cases hev.1
    · exact hnone fun ev hev => hno ev (List.mem_append_right _ hev)
  · -- the filters read the tunnel and the relay, which all events of the lease share
    refine hnone fun ev hev hacq => hpass ?_
    obtain ⟨l', hl', hid⟩ := Option.map_eq_some_iff.1 hacq.2
    obtain ⟨htunnel, hrelay⟩ := hc.same.sent w hmem ev hev l' hl' hid
    have hm := hc.told.filtered w hmem ev hev
    rw [matches_lease _ _ hl' (.inl hacq.1), htunnel, hrelay] at hm
    rwa [matches_lease _ _ rfl (.inr rfl)]

end Removals

end Node

end TunnelEdge.Registry
