import TunnelEdge.Lib.Runs
import TunnelEdge.Registry.Wire
/-!
# Scores of relays

`RelayScorer` (`internal/gateway/relay_scorer.go`) and the part of
`DistributedRouter.handleEvent` that feeds it. The scorer keeps a score, a region
and an address under a key, and three branches of the handler choose the key: two
take the id of the relay, the third the address in the health report, which the
messages of the registry do not carry.

What makes up a score, how it is smoothed and how scores compare is left open.
-/

namespace TunnelEdge.Gateway

open GoLib Registry

/-- `computeScore`, `alpha*newScore + (1-alpha)*prev` and `>` on scores. -/
structure Scoring (α : Type) where
  computeScore : RelayHealth → α
  smooth : α → α → α
  above : α → α → Bool

structure RelayScorer (α : Type) where
  scores : GoMap String α := ∅
  regions : GoMap String String := ∅
  addrs : GoMap String String := ∅

variable {α : Type} (sc : Scoring α)

/-- The first report makes the score, later ones are smoothed in. -/
def Scoring.ewma (newScore : α) : Option α → α
  | some prev => sc.smooth newScore prev
  | none => newScore

namespace RelayScorer

def update (rs : RelayScorer α) (relayID : String) (h : RelayHealth) : RelayScorer α :=
  let newScore := sc.computeScore h
  { scores := rs.scores.insert relayID (sc.ewma newScore (rs.scores.lookup relayID))
    regions := if h.region ≠ "" then rs.regions.insert relayID h.region else rs.regions
    addrs := if h.advertiseAddr ≠ "" then rs.addrs.insert relayID h.advertiseAddr else rs.addrs }

def region (rs : RelayScorer α) (relayID : String) : String := (rs.regions.lookup relayID).getD ""

def addr (rs : RelayScorer α) (relayID : String) : String := (rs.addrs.lookup relayID).getD ""

/-- The address and the score of a relay that is in the region and has an address. -/
def candidate (rs : RelayScorer α) (region relayID : String) : Option (String × α) :=
  (rs.scores.lookup relayID).bind fun score =>
    if region ≠ "" ∧ rs.region relayID ≠ region then none
    else if rs.addr relayID ≠ "" then some (rs.addr relayID, score)
    else none

/-- `order` is the order in which the loop ranges over the scores; it also
decides between equal scores, for which `sort.Slice` promises nothing. -/
def bestRelaysForRegion (rs : RelayScorer α) (order : List String) (region : String) (n : Nat) : List String :=
  let candidates := order.filterMap (rs.candidate region)
  ((candidates.mergeSort fun a b => !sc.above b.2 a.2).take n).map Prod.fst

/-- The health snapshot that the handler makes of relay metadata. -/
def snapshot (relay : RelayInfo) : RelayHealth := { advertiseAddr := relay.advertiseAddr, region := relay.region }

/-- What `DistributedRouter.handleEvent` does to the scorer. -/
def handleEvent (rs : RelayScorer α) (event : RegistryEvent) : RelayScorer α :=
  match event.type with
  | .relayUpserted =>
    match event.relay with
    | none => rs
    | some relay => if relay.advertiseAddr ≠ "" then rs.update sc relay.relayID (snapshot relay) else rs
  | .relayHealthUpdated =>
    match event.health, event.relay with
    -- the key is the address in the report, not the id of the relay
    | some health, _ => rs.update sc health.advertiseAddr health
    | none, some relay => rs.update sc relay.relayID (snapshot relay)
    | none, none => rs
  | .tunnelUpserted | .tunnelDeleted | .leaseAcquired | .leaseReleased => rs

end RelayScorer

/-- The events that a `Watch` of the client delivers for the messages of its stream. -/
def delivered (msgs : List Pb.WatchResponse) : List RegistryEvent := msgs.filterMap registryEventFromProto

def scorerAfter (events : List RegistryEvent) : RelayScorer α := events.foldl (RelayScorer.handleEvent sc) {}

/-! ## Scores per relay -/

def subject (event : RegistryEvent) : Option String :=
  match event.type with
  | .relayUpserted | .relayHealthUpdated => event.relay.map RelayInfo.relayID
  | .tunnelUpserted | .tunnelDeleted | .leaseAcquired | .leaseReleased => none

@[ext] structure Entry (α : Type) where
  score : Option α := none
  region : String := ""
  addr : String := ""

def RelayScorer.entry (rs : RelayScorer α) (relayID : String) : Entry α :=
  { score := rs.scores.lookup relayID, region := rs.region relayID, addr := rs.addr relayID }

/-- There is one entry for each relay; it is the one that the events about the
relay alone make, and a health report about the relay is folded into it. -/
structure PerRelay (events : List RegistryEvent) : Prop where
  entries : ∀ relayID, relayID ∈ (scorerAfter sc events).scores ↔ ∃ event ∈ events, subject event = some relayID
  own : ∀ relayID, (scorerAfter sc events).entry relayID =
    (scorerAfter sc (events.filter fun event => subject event = some relayID)).entry relayID
  folded : ∀ pre event post relayID health, events = pre ++ event :: post → event.type = .relayHealthUpdated →
    subject event = some relayID → event.health = some health →
    (scorerAfter sc (pre ++ [event])).scores.lookup relayID =
      some (sc.ewma (sc.computeScore health) ((scorerAfter sc pre).scores.lookup relayID))

/-- No two relays are announced with one address. -/
def DistinctAddrs (events : List RegistryEvent) : Prop :=
  ∀ event ∈ events, ∀ event' ∈ events, ∀ relay ∈ event.relay, ∀ relay' ∈ event'.relay,
    relay.advertiseAddr ≠ "" → relay.advertiseAddr = relay'.advertiseAddr → relay.relayID = relay'.relayID

/-- A health report is about the relay without an id, if there is one, and every
relay that is mentioned is so with its address or in a health update. -/
structure Attributed (events : List RegistryEvent) : Prop where
  reports : ∀ event ∈ events, event.type = .relayHealthUpdated → event.health ≠ none → subject event = some ""
  announced : ∀ event ∈ events, ∀ relayID, subject event = some relayID →
    ∃ event' ∈ events, subject event' = some relayID ∧
      (event'.type = .relayHealthUpdated ∨ ∃ relay ∈ event'.relay, relay.advertiseAddr ≠ "")

/-! ## One entry -/

/-- The report that an event folds into the entry under a key. -/
def reportTo (key : String) (event : RegistryEvent) : Option RelayHealth :=
  match event.type with
  | .relayUpserted =>
    (event.relay.filter fun relay => relay.advertiseAddr ≠ "" ∧ relay.relayID = key).map RelayScorer.snapshot
  | .relayHealthUpdated =>
    match event.health with
    | some health => if health.advertiseAddr = key then some health else none
    | none => (event.relay.filter fun relay => relay.relayID = key).map RelayScorer.snapshot
  | .tunnelUpserted | .tunnelDeleted | .leaseAcquired | .leaseReleased => none

def Entry.update (e : Entry α) (h : RelayHealth) : Entry α :=
  { score := some (sc.ewma (sc.computeScore h) e.score)
    region := if h.region ≠ "" then h.region else e.region
    addr := if h.advertiseAddr ≠ "" then h.advertiseAddr else e.addr }

theorem RelayScorer.entry_update (rs : RelayScorer α) (key relayID : String) (h : RelayHealth) :
    (rs.update sc relayID h).entry key = if relayID = key then (rs.entry key).update sc h else rs.entry key := by
  by_cases hk : relayID = key
  · subst hk
    ext1
    · simp [entry, update, Entry.update]
    · by_cases hr : h.region = "" <;> simp [entry, region, update, Entry.update, hr]
    · by_cases ha : h.advertiseAddr = "" <;> simp [entry, addr, update, Entry.update, ha]
  · have hk' : key ≠ relayID := Ne.symm hk
    ext1
    · simp [entry, update, hk, hk']
    · by_cases hr : h.region = "" <;> simp [entry, region, update, hr, hk, hk']
    · by_cases ha : h.advertiseAddr = "" <;> simp [entry, addr, update, ha, hk, hk']

theorem RelayScorer.entry_handleEvent (rs : RelayScorer α) (key : String) (event : RegistryEvent) :
    (rs.handleEvent sc event).entry key =
      (reportTo key event).elim (rs.entry key) ((rs.entry key).update sc) := by
  obtain ⟨type, tunnel, lease, relay, health⟩ := event
  cases type with
  | relayUpserted =>
    cases relay with
    | none => rfl
    | some relay =>
      by_cases ha : relay.advertiseAddr = ""
      · simp [handleEvent, reportTo, Option.filter, ha]
      · by_cases hk : relay.relayID = key <;> simp [handleEvent, reportTo, Option.filter, ha, hk, entry_update]
  | relayHealthUpdated =>
    cases health with
    | some health => by_cases hk : health.advertiseAddr = key <;> simp [handleEvent, reportTo, hk, entry_update]
    | none =>
      cases relay with
      | none => rfl
      | some relay =>
        by_cases hk : relay.relayID = key <;> simp [handleEvent, reportTo, Option.filter, hk, entry_update]
  | tunnelUpserted | tunnelDeleted | leaseAcquired | leaseReleased => rfl

theorem entry_scorerAfter (events : List RegistryEvent) (key : String) :
    (scorerAfter sc events).entry key = (events.filterMap (reportTo key)).foldl (Entry.update sc) {} :=
  foldl_read (fun rs : RelayScorer α => rs.entry key) (reportTo key) (Entry.update sc)
    (fun rs event => rs.entry_handleEvent sc key event) {} events

theorem foldl_update_score (hs : List RelayHealth) :
    (hs.foldl (Entry.update sc) {}).score.isSome = true ↔ hs ≠ [] := by
  induction hs using List.reverseRecOn with
  | nil => simp
  | append_singleton hs h _ => simp [List.foldl_append, Entry.update]

theorem foldl_update_addr (hs : List RelayHealth) (ha : (hs.foldl (Entry.update sc) {}).addr ≠ "") :
    ∃ h ∈ hs, h.advertiseAddr ≠ "" ∧ (hs.foldl (Entry.update sc) {}).addr = h.advertiseAddr := by
  induction hs using List.reverseRecOn with
  | nil => exact absurd rfl ha
  | append_singleton hs h ih =>
    simp only [List.foldl_append, List.foldl_cons, List.foldl_nil, Entry.update] at ha ⊢
    by_cases hh : h.advertiseAddr = ""
    · simp only [hh, ne_eq, not_true_eq_false, if_false] at ha ⊢
      obtain ⟨h', hm, h'a, he⟩ := ih ha
      exact ⟨h', List.mem_append_left _ hm, h'a, he⟩
    · simp only [hh, ne_eq, not_false_eq_true, if_true]
      exact ⟨h, by simp, hh, rfl⟩

theorem mem_scores_iff (events : List RegistryEvent) (key : String) :
    key ∈ (scorerAfter sc events).scores ↔ ∃ event ∈ events, reportTo key event ≠ none := by
  have hscore : (scorerAfter sc events).scores.lookup key = ((scorerAfter sc events).entry key).score := rfl
  rw [← AList.lookup_isSome, hscore, entry_scorerAfter, foldl_update_score, Ne, List.filterMap_eq_nil_iff]
  simp only [not_forall, exists_prop, ne_eq]

theorem of_filterMap_filter {A B : Type} {f : A → Option B} {p : A → Bool} {l : List A}
    (h : l.filterMap f = (l.filter p).filterMap f) {a : A} (ha : a ∈ l) (hf : f a ≠ none) : p a = true := by
  by_contra hp
  -- the right side would be shorter by the image of `a`
  obtain ⟨b, hb⟩ := Option.ne_none_iff_exists'.1 hf
  obtain ⟨l₁, l₂, rfl⟩ := List.append_of_mem ha
  have hlen := congrArg List.length h
  have h₁ := ((List.filter_sublist (p := p) (l := l₁)).filterMap f).length_le
  have h₂ := ((List.filter_sublist (p := p) (l := l₂)).filterMap f).length_le
  simp only [List.filter_append, List.filter_cons, hp, if_false, List.filterMap_append, List.filterMap_cons,
     hb, List.length_append, List.length_cons] at hlen
  omega

/-! ## Events as the client delivers them -/

variable {events : List RegistryEvent}

/-- The reports of a stream carry no address. -/
def Unaddressed (events : List RegistryEvent) : Prop :=
  ∀ event ∈ events, ∀ health ∈ event.health, health.advertiseAddr = ""

theorem delivered_unaddressed (msgs : List Pb.WatchResponse) : Unaddressed (delivered msgs) := by
  intro event he health hh
  obtain ⟨msg, -, hmsg⟩ := List.mem_filterMap.1 he
  obtain ⟨type, -, rfl⟩ := Option.map_eq_some_iff.1 hmsg
  obtain ⟨pb, -, rfl⟩ := Option.map_eq_some_iff.1 hh
  rfl

/-- A report under a key is made of the metadata of that relay, or is a health report and the key is empty. -/
theorem reportTo_cases (hu : Unaddressed events) {event : RegistryEvent} (he : event ∈ events) {key : String}
    {h : RelayHealth} (hr : reportTo key event = some h) :
    (∃ relay ∈ event.relay, relay.relayID = key ∧ h = RelayScorer.snapshot relay ∧ subject event = some key ∧
      (event.type = .relayHealthUpdated ∨ relay.advertiseAddr ≠ "")) ∨
    (event.type = .relayHealthUpdated ∧ event.health = some h ∧ h.advertiseAddr = "" ∧ key = "") := by
  have hnone := hu event he
  obtain ⟨type, tunnel, lease, relay, health⟩ := event
  cases type with
  | relayUpserted =>
    left
    obtain ⟨relay, hf, rfl⟩ := Option.map_eq_some_iff.1 hr
    obtain ⟨rfl, hp⟩ := Option.filter_eq_some_iff.1 hf
    obtain ⟨ha, hk⟩ := of_decide_eq_true hp
    exact ⟨relay, rfl, hk, rfl, congrArg some hk, .inr ha⟩
  | relayHealthUpdated =>
    cases health with
    | some health =>
      right
      have ha : health.advertiseAddr = "" := hnone health rfl
      simp only [reportTo, ha] at hr
      split at hr
      · cases hr
        exact ⟨rfl, rfl, ha, Eq.symm ‹_›⟩
      · cases hr
    | none =>
      left
      obtain ⟨relay, hf, rfl⟩ := Option.map_eq_some_iff.1 hr
      obtain ⟨rfl, hp⟩ := Option.filter_eq_some_iff.1 hf
      have hk := of_decide_eq_true hp
      exact ⟨relay, rfl, hk, rfl, congrArg some hk, .inl rfl⟩
  | tunnelUpserted | tunnelDeleted | leaseAcquired | leaseReleased => cases hr

theorem reportTo_health (hu : Unaddressed events) {event : RegistryEvent} (he : event ∈ events)
    (ht : event.type = .relayHealthUpdated) {h : RelayHealth} (hh : event.health = some h) :
    reportTo "" event = some h := by
  have ha : h.advertiseAddr = "" := hu event he h hh
  simp [reportTo, ht, hh, ha]

/-! ## Attribution -/

theorem Attributed.subject_of_report (ha : Attributed events) (hu : Unaddressed events) {event : RegistryEvent}
    (he : event ∈ events) {key : String} {h : RelayHealth} (hr : reportTo key event = some h) :
    subject event = some key := by
  rcases reportTo_cases hu he hr with ⟨relay, -, -, -, hs, -⟩ | ⟨ht, hh, -, rfl⟩
  · exact hs
  · exact ha.reports event he ht (by rw [hh]; exact Option.some_ne_none _)

theorem Attributed.report_of_announced (ha : Attributed events) (hu : Unaddressed events) {event : RegistryEvent}
    (he : event ∈ events) {key : String} (hs : subject event = some key)
    (hann : event.type = .relayHealthUpdated ∨ ∃ relay ∈ event.relay, relay.advertiseAddr ≠ "") :
    reportTo key event ≠ none := by
  have hrep := ha.reports event he
  have hempty := fun ht (h : RelayHealth) => reportTo_health hu he ht (h := h)
  obtain ⟨type, tunnel, lease, relay, health⟩ := event
  cases type with
  | relayUpserted =>
    obtain ⟨r, rfl, hid⟩ := Option.map_eq_some_iff.1 hs
    have haddr : r.advertiseAddr ≠ "" := by simpa using hann
    simp [reportTo, Option.filter, hid, haddr]
  | relayHealthUpdated =>
    cases health with
    | some h =>
      have hkey : some key = some "" := hs.symm.trans (hrep rfl (Option.some_ne_none h))
      cases hkey
      rw [hempty rfl h rfl]
      exact Option.some_ne_none h
    | none =>
      obtain ⟨r, rfl, hid⟩ := Option.map_eq_some_iff.1 hs
      simp [reportTo, Option.filter, hid]
  | tunnelUpserted | tunnelDeleted | leaseAcquired | leaseReleased => cases hs

theorem perRelay_of_attributed (ha : Attributed events) (hu : Unaddressed events) : PerRelay sc events := by
  refine ⟨fun relayID => ?_, fun relayID => ?_, ?_⟩
  · rw [mem_scores_iff]
    constructor
    · rintro ⟨event, he, hr⟩
      obtain ⟨h, hr⟩ := Option.ne_none_iff_exists'.1 hr
      exact ⟨event, he, ha.subject_of_report hu he hr⟩
    · rintro ⟨event, he, hs⟩
      obtain ⟨event', he', hs', hann⟩ := ha.announced event he relayID hs
      exact ⟨event', he', ha.report_of_announced hu he' hs' hann⟩
  · rw [entry_scorerAfter, entry_scorerAfter, List.filterMap_filter]
    congr 1
    refine List.filterMap_congr fun event he => ?_
    -- an event that reports under the id is about the relay
    split
    · rfl
    · rename_i hs
      by_contra hr
      obtain ⟨h, hr⟩ := Option.ne_none_iff_exists'.1 hr
      exact hs (by simpa using ha.subject_of_report hu he hr)
  · intro pre event post relayID health hev ht hs hh
    have he : event ∈ events := by simp [hev]
    have hid : relayID = "" := by
      have := ha.reports event he ht (by rw [hh]; exact Option.some_ne_none _)
      exact Option.some.inj (hs.symm.trans this)
    subst hid
    have hentry := (scorerAfter sc pre).entry_handleEvent sc "" event
    rw [reportTo_health hu he ht hh] at hentry
    rw [scorerAfter, List.foldl_append]
    exact congrArg Entry.score hentry

def Scoring.reports : Scoring (List RelayHealth) :=
  { computeScore := fun h => [h], smooth := fun newScore prev => prev ++ newScore, above := fun _ _ => false }

theorem foldl_update_reports (hs : List RelayHealth) :
    (hs.foldl (Entry.update .reports) {}).score.getD [] = hs := by
  induction hs using List.reverseRecOn with
  | nil => rfl
  | append_singleton hs h ih =>
    rw [List.foldl_append]
    show Scoring.ewma .reports [h] _ = _
    cases hsc : (hs.foldl (Entry.update .reports) {}).score with
    | none =>
      rw [hsc] at ih
      rw [← ih]
      rfl
    | some prev =>
      rw [hsc] at ih
      rw [← ih]
      rfl

theorem PerRelay.subject_of_report (hp : PerRelay .reports events) {event : RegistryEvent} (he : event ∈ events)
    {key : String} (hr : reportTo key event ≠ none) : subject event = some key := by
  -- the score tells the reports, so the two runs have folded the same ones into the entry
  have hown := congrArg (fun e : Entry (List RelayHealth) => e.score.getD []) (hp.own key)
  simp only [entry_scorerAfter, foldl_update_reports] at hown
  exact of_decide_eq_true (of_filterMap_filter hown he hr)

theorem attributed_of_perRelay (hp : PerRelay .reports events) (hu : Unaddressed events) : Attributed events := by
  constructor
  · intro event he ht hh
    obtain ⟨h, hh⟩ := Option.ne_none_iff_exists'.1 hh
    refine hp.subject_of_report he ?_
    rw [reportTo_health hu he ht hh]
    exact Option.some_ne_none h
  · intro event he relayID hs
    obtain ⟨event', he', hr⟩ := (mem_scores_iff .reports events relayID).1 ((hp.entries relayID).2 ⟨event, he, hs⟩)
    refine ⟨event', he', hp.subject_of_report he' hr, ?_⟩
    obtain ⟨h, hr⟩ := Option.ne_none_iff_exists'.1 hr
    rcases reportTo_cases hu he' hr with ⟨relay, hm, -, -, -, hann⟩ | ⟨ht, -⟩
    · exact hann.imp_right fun ha => ⟨relay, hm, ha⟩
    · exact .inl ht

/-! ## The best relays -/

theorem addr_scorerAfter (hu : Unaddressed events) {key : String} (ha : (scorerAfter sc events).addr key ≠ "") :
    ∃ event ∈ events, ∃ relay ∈ event.relay, relay.relayID = key ∧
      (scorerAfter sc events).addr key = relay.advertiseAddr := by
  have haddr : (scorerAfter sc events).addr key = ((scorerAfter sc events).entry key).addr := rfl
  rw [haddr, entry_scorerAfter] at ha
  obtain ⟨h, hm, hne, heq⟩ := foldl_update_addr sc _ ha
  obtain ⟨event, he, hr⟩ := List.mem_filterMap.1 hm
  rcases reportTo_cases hu he hr with ⟨relay, hrel, hid, rfl, -⟩ | ⟨-, -, hempty, -⟩
  · exact ⟨event, he, relay, hrel, hid, by rw [haddr, entry_scorerAfter]; exact heq⟩
  · exact absurd hempty hne

theorem RelayScorer.candidate_addr {rs : RelayScorer α} {region relayID a : String}
    (h : (rs.candidate region relayID).map Prod.fst = some a) : rs.addr relayID = a ∧ a ≠ "" := by
  obtain ⟨⟨a', score⟩, hc, rfl⟩ := Option.map_eq_some_iff.1 h
  obtain ⟨score', -, hif⟩ := Option.bind_eq_some_iff.1 hc
  split at hif
  · cases hif
  · split at hif
    · cases hif
      exact ⟨rfl, ‹_›⟩
    · cases hif

theorem RelayScorer.nodup_bestRelaysForRegion {rs : RelayScorer α}
    (hrs : ∀ k k', rs.addr k ≠ "" → rs.addr k = rs.addr k' → k = k') {order : List String} (ho : order.Nodup)
    (region : String) (n : Nat) : (rs.bestRelaysForRegion sc order region n).Nodup := by
  have hcands : ((order.filterMap (rs.candidate region)).map Prod.fst).Nodup := by
    rw [List.map_filterMap]
    refine ho.filterMap fun k k' a hk hk' => ?_
    obtain ⟨ha, hne⟩ := candidate_addr hk
    obtain ⟨ha', -⟩ := candidate_addr hk'
    exact hrs k k' (ha ▸ hne) (ha.trans ha'.symm)
  have hsorted := ((List.mergeSort_perm (order.filterMap (rs.candidate region)) fun a b => !sc.above b.2 a.2).map
    Prod.fst).nodup_iff.2 hcands
  exact hsorted.sublist ((List.take_sublist n _).map Prod.fst)

/-- For any stream of messages: the scores are per relay, whatever a score is,
exactly when the health reports among the events are about the relay without an id,
and every relay is mentioned with its address or in a health update. The best relays
are listed once in any case. -/
theorem scores_per_relay_iff (msgs : List Pb.WatchResponse) :
    ((∀ (α : Type) (sc : Scoring α), PerRelay sc (delivered msgs)) ↔ Attributed (delivered msgs)) ∧
    (DistinctAddrs (delivered msgs) → ∀ (α : Type) (sc : Scoring α) (order : List String) (region : String) (n : Nat),
      order.Perm (scorerAfter sc (delivered msgs)).scores.keys →
        ((scorerAfter sc (delivered msgs)).bestRelaysForRegion sc order region n).Nodup) := by
  have hu := delivered_unaddressed msgs
  refine ⟨⟨fun h => attributed_of_perRelay (h _ .reports) hu, fun ha α sc => perRelay_of_attributed sc ha hu⟩, ?_⟩
  intro hd α sc order region n hperm
  refine RelayScorer.nodup_bestRelaysForRegion sc ?_ (hperm.nodup_iff.2 (AList.keys_nodup _)) region n
  intro k k' hne heq
  obtain ⟨event, he, relay, hr, rfl, ha⟩ := addr_scorerAfter sc hu hne
  obtain ⟨event', he', relay', hr', rfl, ha'⟩ := addr_scorerAfter sc hu (heq ▸ hne)
  exact hd event he event' he' relay hr relay' hr' (ha ▸ hne) (ha.symm.trans (heq.trans ha'))

def upsertedMsg (relayId advertiseAddr : String) : Pb.WatchResponse :=
  { eventType := .relayUpserted, relay := some ⟨relayId, advertiseAddr, "active", 0, 0, 0⟩ }

def healthMsg (relayId advertiseAddr : String) (rttMillis : Int) : Pb.WatchResponse :=
  { eventType := .relayHealthUpdated
    relay := some ⟨relayId, advertiseAddr, "active", 0, 0, 0⟩
    health := some ⟨rttMillis, 0, 0, 0, 0, 0, 0, 0, 0⟩ }

theorem scores_per_relay_upserted :
    PerRelay .reports (delivered [upsertedMsg "r1" "a:443", upsertedMsg "r2" "b:443"]) := by
  have hmem : ∀ event ∈ delivered [upsertedMsg "r1" "a:443", upsertedMsg "r2" "b:443"],
      event.type = .relayUpserted ∧ ∃ relay ∈ event.relay, relay.advertiseAddr ≠ "" := by decide +kernel
  refine (scores_per_relay_iff _).1.2 ⟨fun event he ht => ?_, fun event he relayID hs => ?_⟩ _ .reports
  · cases (hmem event he).1.symm.trans ht
  · exact ⟨event, he, hs, .inr (hmem event he).2⟩

/-- Two relays are announced and report their health: the reports of both are folded into one entry without a relay. -/
theorem health_scored_under_no_relay :
    let events := delivered
      [upsertedMsg "r1" "a:443", upsertedMsg "r2" "b:443", healthMsg "r1" "a:443" 900, healthMsg "r2" "b:443" 100]
    events.map subject = [some "r1", some "r2", some "r1", some "r2"] ∧
      ((scorerAfter .reports events).scores.lookup "").map (List.map RelayHealth.rttMillis) = some [900, 100] ∧
      (scorerAfter .reports events).scores.lookup "r1" =
        (scorerAfter .reports (events.take 2)).scores.lookup "r1" ∧
      ¬ PerRelay .reports events := by
  refine ⟨by decide +kernel, by decide +kernel, by decide +kernel, fun h => ?_⟩
  have hnone := (h.entries "").1 (by decide +kernel)
  revert hnone
  decide +kernel

end TunnelEdge.Gateway
