import Mathlib.Data.List.Sort
import TunnelEdge.Lib.GoMap
import TunnelEdge.Lib.PubSub
/-!
# Fan-out to subscribers that come and go

A table of subscribers under a read-write lock. A publisher holds the read lock
while it offers its message to the channels in the table, one after another, so
several publishers may be at it at once. A subscriber makes its channel, enters
the table under the write lock, and when it is cancelled leaves the table under
the write lock and closes the channel outside of it.

Sending on a closed channel and closing one twice panic. Nothing is assumed
about the keys of the table: two subscribers may even have the same.
-/

namespace GoLib.FanOut

variable {M K T : Type}

/-- A `Publish` call, as history keeps it: the message, and the calls that had
returned when this one took the lock. -/
structure Call (M : Type) where
  msg : M
  after : List Nat
deriving DecidableEq, Repr

inductive Phase
  | opened | listed | removed | closed
deriving DecidableEq, Repr

/-- A subscriber; its channel and what was taken from it hold the numbers of the
calls whose messages they are. `since` counts the calls before it was listed. -/
structure Sub (K T : Type) where
  key : K
  topic : T
  phase : Phase := .opened
  cancelled : Bool := false
  closes : Nat := 0
  since : Nat := 0
  queue : List Nat := []
  received : List Nat := []
deriving DecidableEq, Repr

def Sub.seen (sub : Sub K T) : List Nat := sub.received ++ sub.queue

/-- The calls in the order in which they began, the running ones with the
channels they still have to visit, the table, and all subscribers ever. -/
structure State (M K T : Type) [DecidableEq K] where
  log : List (Call M) := []
  running : GoMap Nat (List Nat) := ∅
  table : GoMap K Nat := ∅
  subs : List (Sub K T) := []
  panicked : Bool := false

/-- What publishers, subscribers and their contexts do by themselves. -/
inductive Move
  | insert (k : Nat)
  | cancel (k : Nat)
  | remove (k : Nat)
  | close (k : Nat)
  | send (n k : Nat)
  | finish (n : Nat)
  | recv (k : Nat)
deriving DecidableEq, Repr

inductive Label (M K T : Type)
  | subscribe (key : K) (topic : T)
  | publish (msg : M)
  | move (m : Move)
deriving DecidableEq, Repr

section Step

variable [DecidableEq K] (wants : T → M → Bool) (capacity : T → Nat)

namespace State

def quiet (s : State M K T) : Bool := s.running.entries.isEmpty

def targets (s : State M K T) (msg : M) : List Nat :=
  GoMap.values (fun _ k => (s.subs[k]?).any fun sub => wants sub.topic msg) s.table

def ended (s : State M K T) : List Nat := (List.range s.log.length).filter fun n => (s.running.lookup n).isNone

def modify (s : State M K T) (k : Nat) (f : Sub K T → Sub K T) : State M K T := { s with subs := s.subs.modify k f }

def move (s : State M K T) : Move → Option (State M K T)
  | .insert k =>
    (s.subs[k]?).bind fun sub =>
      if sub.phase = .opened ∧ s.quiet then
        some { s.modify k fun sub => { sub with phase := .listed, since := s.log.length } with
          table := s.table.insert sub.key k }
      else none
  | .cancel k => (s.subs[k]?).map fun _ => s.modify k fun sub => { sub with cancelled := true }
  | .remove k =>
    (s.subs[k]?).bind fun sub =>
      if sub.phase = .listed ∧ sub.cancelled ∧ s.quiet then
        some { s.modify k fun sub => { sub with phase := .removed } with table := s.table.erase sub.key }
      else none
  | .close k =>
    (s.subs[k]?).bind fun sub =>
      if sub.phase = .removed then
        some { s.modify k fun sub => { sub with phase := .closed, closes := sub.closes + 1 } with
          panicked := s.panicked || sub.closes != 0 }
      else none
  | .send n k =>
    (s.running.lookup n).bind fun ahead => (s.subs[k]?).bind fun sub =>
      if k ∈ ahead then
        some { s.modify k fun sub => { sub with queue := offer (capacity sub.topic) n sub.queue } with
          running := s.running.insert n (ahead.erase k)
          panicked := s.panicked || sub.closes != 0 }
      else none
  | .finish n =>
    (s.running.lookup n).bind fun ahead => if ahead = [] then some { s with running := s.running.erase n } else none
  | .recv k =>
    (s.subs[k]?).map fun _ =>
      s.modify k fun sub => { sub with received := sub.received ++ sub.queue.take 1, queue := sub.queue.drop 1 }

def step (s : State M K T) : Label M K T → Option (State M K T)
  | .subscribe key topic => some { s with subs := s.subs ++ [{ key, topic }] }
  | .publish msg =>
    some { s with
      log := s.log ++ [⟨msg, s.ended⟩]
      running := s.running.insert s.log.length (s.targets wants msg) }
  | .move m => s.move capacity m

end State

end Step

/-! ## What holds of one subscriber -/

/-- Call `a` had returned when call `b` began. -/
def Precedes (log : List (Call M)) (a b : Nat) : Prop := ∃ c, log[b]? = some c ∧ a ∈ c.after

/-- Every call began after the earlier ones had returned. -/
def Sequential (log : List (Call M)) : Prop := ∀ a b, a < b → b < log.length → Precedes log a b

def messages (log : List (Call M)) (ns : List Nat) : List M := ns.filterMap fun n => (log[n]?).map Call.msg

/-- A subscriber that was treated well: each call is in its channel at most once,
if it is of its topic and began after the subscriber was listed, and not behind
a call that began after its return. -/
structure Sub.Ok (wants : T → M → Bool) (log : List (Call M)) (sub : Sub K T) : Prop where
  closes : sub.closes = if sub.phase = .closed then 1 else 0
  blank : sub.phase = .opened → sub.seen = []
  since : sub.since ≤ log.length
  nodup : sub.seen.Nodup
  entitled : ∀ n ∈ sub.seen, sub.since ≤ n ∧ ∃ c, log[n]? = some c ∧ wants sub.topic c.msg = true
  order : sub.seen.Pairwise fun a b => ¬ Precedes log b a

section Ok

variable {wants : T → M → Bool} {log : List (Call M)} {sub : Sub K T}

theorem getElem?_snoc {n : Nat} {c : Call M} (h : log[n]? = some c) (c' : Call M) : (log ++ [c'])[n]? = some c := by
  obtain ⟨hn, -⟩ := List.getElem?_eq_some_iff.1 h
  rw [List.getElem?_append_left hn, h]

theorem Sub.Ok.snoc (h : sub.Ok wants log) (c : Call M) : sub.Ok wants (log ++ [c]) := by
  refine ⟨h.closes, h.blank, ?_, h.nodup, fun n hn => ?_, h.order.imp_of_mem fun {a b} ha _ hab hp => hab ?_⟩
  · rw [List.length_append]
    exact Nat.le_add_right_of_le h.since
  · obtain ⟨hsince, c', hc', hw⟩ := h.entitled n hn
    exact ⟨hsince, c', getElem?_snoc hc' c, hw⟩
  · obtain ⟨-, c', hc', -⟩ := h.entitled a ha
    obtain ⟨c'', hc'', hb⟩ := hp
    rw [getElem?_snoc hc' c] at hc''
    cases hc''
    exact ⟨c', hc', hb⟩

theorem Sub.Ok.congr (h : sub.Ok wants log) {sub' : Sub K T} (hp : sub'.phase = sub.phase)
    (hc : sub'.closes = sub.closes) (ht : sub'.topic = sub.topic) (hs : sub'.since = sub.since)
    (hseen : sub'.seen = sub.seen) : sub'.Ok wants log := by
  refine ⟨?_, ?_, ?_, ?_, ?_, ?_⟩
  · rw [hc, hp, h.closes]
  · rw [hp, hseen]
    exact h.blank
  · rw [hs]
    exact h.since
  · rw [hseen]
    exact h.nodup
  · rw [hseen, hs, ht]
    exact h.entitled
  · rw [hseen]
    exact h.order

/-- The message of a running call arrives, or is dropped at a full channel. -/
theorem Sub.Ok.send (h : sub.Ok wants log) {n : Nat} {c : Call M} (hphase : sub.phase = .listed) (hn : n ∉ sub.seen)
    (hc : log[n]? = some c) (hsince : sub.since ≤ n) (hw : wants sub.topic c.msg = true)
    (hrun : ∀ a, ¬ Precedes log n a) (cap : Nat) :
    { sub with queue := offer cap n sub.queue }.Ok wants log := by
  unfold offer
  split
  · have hseen : { sub with queue := sub.queue ++ [n] }.seen = sub.seen ++ [n] := by simp [Sub.seen]
    refine ⟨h.closes, fun ho => ?_, h.since, ?_, ?_, ?_⟩
    · exact absurd (hphase.symm.trans ho) (by decide)
    · rw [hseen]
      exact List.nodup_append.2 ⟨h.nodup, List.nodup_singleton n, fun a ha b hb hab => hn (by simp_all)⟩
    · rw [hseen]
      intro m hm
      rcases List.mem_append.1 hm with hm | hm
      · exact h.entitled m hm
      · rw [List.mem_singleton.1 hm]
        exact ⟨hsince, c, hc, hw⟩
    · rw [hseen]
      refine List.pairwise_append.2 ⟨h.order, List.pairwise_singleton .., fun a _ b hb => ?_⟩
      rw [List.mem_singleton.1 hb]
      exact hrun a
  · exact h

end Ok

/-! ## What a subscriber gets -/

section Gets

variable {wants : T → M → Bool} {log : List (Call M)} {sub : Sub K T}

theorem messages_range (log : List (Call M)) (since : Nat) :
    messages log (List.range' since (log.length - since)) = (log.drop since).map Call.msg := by
  generalize hk : log.length - since = k
  induction k generalizing since with
  | zero =>
    rw [List.drop_eq_nil_of_le (by omega)]
    rfl
  | succ k ih =>
    have hlt : since < log.length := by omega
    rw [List.drop_eq_getElem_cons hlt, List.map_cons, ← ih (since + 1) (by omega), List.range'_succ]
    simp [messages, List.getElem?_eq_getElem hlt]

theorem Sub.Ok.subperm_range (h : sub.Ok wants log) :
    sub.seen.Subperm (List.range' sub.since (log.length - sub.since)) := by
  refine List.subperm_of_subset h.nodup fun n hn => ?_
  obtain ⟨hsince, c, hc, -⟩ := h.entitled n hn
  have hlt := (List.getElem?_eq_some_iff.1 hc).1
  rw [List.mem_range'_1]
  omega

theorem Sub.Ok.filter_messages (h : sub.Ok wants log) :
    (messages log sub.seen).filter (wants sub.topic) = messages log sub.seen := by
  refine List.filter_eq_self.2 fun m hm => ?_
  obtain ⟨n, hn, hm⟩ := List.mem_filterMap.1 hm
  obtain ⟨-, c, hc, hw⟩ := h.entitled n hn
  rw [hc] at hm
  cases hm
  exact hw

/-- A subscriber gets messages of its topic that were published after it was listed, each once. -/
theorem Sub.Ok.subperm (h : sub.Ok wants log) :
    (messages log sub.seen).Subperm (((log.drop sub.since).map Call.msg).filter (wants sub.topic)) := by
  obtain ⟨ns, hperm, hsub⟩ := h.subperm_range
  rw [← h.filter_messages, ← messages_range]
  refine List.Subperm.filter _ ⟨messages log ns, hperm.filterMap _, ?_⟩
  exact hsub.filterMap _

/-- And in the order of publication, if no two calls overlapped. -/
theorem Sub.Ok.sublist (h : sub.Ok wants log) (hseq : Sequential log) :
    (messages log sub.seen).Sublist (((log.drop sub.since).map Call.msg).filter (wants sub.topic)) := by
  have hlt : sub.seen.Pairwise (· < ·) := by
    refine (h.order.and h.nodup).imp_of_mem fun {a b} ha hb hab => ?_
    obtain ⟨-, c, hc, -⟩ := h.entitled a ha
    have hlen := (List.getElem?_eq_some_iff.1 hc).1
    by_contra hle
    exact hab.1 (hseq b a (by omega) hlen)
  have hsub := List.sublist_of_subperm_of_pairwise h.subperm_range hlt List.pairwise_lt_range'
  rw [← h.filter_messages, ← messages_range]
  exact (hsub.filterMap _).filter _

end Gets

/-! ## What holds of the whole -/

variable [DecidableEq K] {wants : T → M → Bool} {capacity : T → Nat}

/-- Subscriber `k` is listed and has still to get the message of call `n`. -/
def Owed (wants : T → M → Bool) (s : State M K T) (n : Nat) (c : Call M) (k : Nat) : Prop :=
  ∃ sub, s.subs[k]? = some sub ∧ sub.phase = .listed ∧ sub.since ≤ n ∧ wants sub.topic c.msg = true ∧ n ∉ sub.seen

/-- A channel in the table or ahead of a running call belongs to a subscriber
that is still listed, so it is not closed. -/
structure Sound (wants : T → M → Bool) (s : State M K T) : Prop where
  calm : s.panicked = false
  listed : ∀ key k, s.table.lookup key = some k → ∃ sub, s.subs[k]? = some sub ∧ sub.phase = .listed ∧ sub.key = key
  ahead : ∀ n ks, s.running.lookup n = some ks →
    ks.Nodup ∧ ∃ c, s.log[n]? = some c ∧ ∀ k ∈ ks, Owed wants s n c k
  past : ∀ (n : Nat) (c : Call M) (m : Nat), s.log[n]? = some c → m ∈ c.after →
    s.running.lookup m = none ∧ m < s.log.length
  ok : ∀ (k : Nat) (sub : Sub K T), s.subs[k]? = some sub → sub.Ok wants s.log

section Sound

variable {s s' : State M K T}

theorem subs_modify (k j : Nat) (f : Sub K T → Sub K T) :
    (s.modify k f).subs[j]? = (s.subs[j]?).map fun sub => if k = j then f sub else sub :=
  List.getElem?_modify f k s.subs j

theorem lookup_of_quiet (h : s.quiet = true) (n : Nat) : s.running.lookup n = none := by
  cases hl : s.running.lookup n with
  | none => rfl
  | some ks =>
    have hm := (GoMap.mem_entries_iff s.running n ks).2 hl
    rw [List.isEmpty_iff.1 h] at hm
    cases hm

theorem Sound.ahead_of_quiet (hq : s.quiet = true) : ∀ n ks, s.running.lookup n = some ks →
    ks.Nodup ∧ ∃ c, s.log[n]? = some c ∧ ∀ k ∈ ks, Owed wants s n c k := by
  intro n ks hn
  rw [lookup_of_quiet hq n] at hn
  cases hn

theorem ok_modify (h : Sound wants s) {k : Nat} {f : Sub K T → Sub K T}
    (hf : ∀ sub, s.subs[k]? = some sub → (f sub).Ok wants s.log) :
    ∀ (j : Nat) (sub : Sub K T), (s.modify k f).subs[j]? = some sub → sub.Ok wants s.log := by
  intro j sub hj
  rw [subs_modify] at hj
  obtain ⟨sub₀, hsub₀, rfl⟩ := Option.map_eq_some_iff.1 hj
  split
  · rename_i hkj
    exact hf sub₀ (hkj ▸ hsub₀)
  · exact h.ok j sub₀ hsub₀

/-- Two keys never lead to one channel, so a call visits no channel twice. -/
theorem Sound.targets (h : Sound wants s) (msg : M) :
    (s.targets wants msg).Nodup ∧ ∀ k ∈ s.targets wants msg,
      ∃ sub, s.subs[k]? = some sub ∧ sub.phase = .listed ∧ wants sub.topic msg = true := by
  constructor
  · refine GoMap.nodup_values _ fun key key' k hk hk' => ?_
    obtain ⟨sub, hsub, -, rfl⟩ := h.listed key k hk
    obtain ⟨sub', hsub', -, rfl⟩ := h.listed key' k hk'
    rw [hsub] at hsub'
    cases hsub'
    rfl
  · intro k hk
    obtain ⟨key, hkey, hw⟩ := (GoMap.mem_values_iff _ _ _).1 hk
    obtain ⟨sub, hsub, hphase, -⟩ := h.listed key k hkey
    rw [hsub] at hw
    exact ⟨sub, hsub, hphase, hw⟩

theorem Sound.modify (h : Sound wants s) {k : Nat} {f : Sub K T → Sub K T}
    (hf : ∀ sub, s.subs[k]? = some sub → (f sub).phase = sub.phase ∧ (f sub).key = sub.key ∧
      (f sub).closes = sub.closes ∧ (f sub).topic = sub.topic ∧ (f sub).since = sub.since ∧ (f sub).seen = sub.seen) :
    Sound wants (s.modify k f) := by
  have hkeep : ∀ (j : Nat) (sub : Sub K T), s.subs[j]? = some sub → ∃ sub', (s.modify k f).subs[j]? = some sub' ∧
      sub'.phase = sub.phase ∧ sub'.key = sub.key ∧ sub'.topic = sub.topic ∧ sub'.since = sub.since ∧
      sub'.seen = sub.seen := by
    intro j sub hj
    refine ⟨if k = j then f sub else sub, by rw [subs_modify, hj]; rfl, ?_⟩
    split
    · rename_i hkj
      obtain ⟨hp, hk, -, ht, hs, hn⟩ := hf sub (hkj ▸ hj)
      exact ⟨hp, hk, ht, hs, hn⟩
    · exact ⟨rfl, rfl, rfl, rfl, rfl⟩
  refine ⟨h.calm, fun key j hj => ?_, fun n ks hn => ?_, h.past, ok_modify h fun sub hsub => ?_⟩
  · obtain ⟨sub, hsub, hphase, hkey⟩ := h.listed key j hj
    obtain ⟨sub', hsub', hp, hk, -⟩ := hkeep j sub hsub
    exact ⟨sub', hsub', hp.trans hphase, hk.trans hkey⟩
  · obtain ⟨hnodup, c, hc, howed⟩ := h.ahead n ks hn
    refine ⟨hnodup, c, hc, fun j hj => ?_⟩
    obtain ⟨sub, hsub, hphase, hsince, hw, hnot⟩ := howed j hj
    obtain ⟨sub', hsub', hp, -, ht, hs, hseen⟩ := hkeep j sub hsub
    exact ⟨sub', hsub', hp.trans hphase, hs ▸ hsince, ht ▸ hw, hseen ▸ hnot⟩
  · obtain ⟨hp, -, hc, ht, hs, hn⟩ := hf sub hsub
    exact (h.ok k sub hsub).congr hp hc ht hs hn

theorem subs_modify_ne {k j : Nat} (hkj : k ≠ j) (f : Sub K T → Sub K T) :
    (s.modify k f).subs[j]? = s.subs[j]? := by
  rw [subs_modify]
  simp [hkj]

theorem subs_modify_self {k : Nat} {sub : Sub K T} (hk : s.subs[k]? = some sub) (f : Sub K T → Sub K T) :
    (s.modify k f).subs[k]? = some (f sub) := by
  rw [subs_modify, hk]
  simp

theorem Sound.subscribe (h : Sound wants s) (key : K) (topic : T) :
    Sound wants { s with subs := s.subs ++ [({ key, topic } : Sub K T)] } := by
  have hkeep : ∀ (j : Nat) (sub : Sub K T), s.subs[j]? = some sub →
      (s.subs ++ [({ key, topic } : Sub K T)])[j]? = some sub := by
    intro j sub hj
    obtain ⟨hlt, -⟩ := List.getElem?_eq_some_iff.1 hj
    rw [List.getElem?_append_left hlt, hj]
  refine ⟨h.calm, fun key' j hj => ?_, fun n ks hn => ?_, h.past, fun j sub hj => ?_⟩
  · obtain ⟨sub, hsub, hrest⟩ := h.listed key' j hj
    exact ⟨sub, hkeep j sub hsub, hrest⟩
  · obtain ⟨hnodup, c, hc, howed⟩ := h.ahead n ks hn
    refine ⟨hnodup, c, hc, fun j hj => ?_⟩
    obtain ⟨sub, hsub, hrest⟩ := howed j hj
    exact ⟨sub, hkeep j sub hsub, hrest⟩
  · rcases List.mem_append.1 (List.mem_of_getElem? hj) with hm | hm
    · obtain ⟨j', hj'⟩ := List.mem_iff_getElem?.1 hm
      exact h.ok j' sub hj'
    · rw [List.mem_singleton.1 hm]
      exact ⟨rfl, fun _ => rfl, Nat.zero_le _, List.nodup_nil, fun n hn => (by cases hn), List.Pairwise.nil⟩

theorem mem_ended {n : Nat} : n ∈ s.ended ↔ n < s.log.length ∧ s.running.lookup n = none := by
  simp [State.ended]

theorem Sound.publish (h : Sound wants s) (msg : M) :
    Sound wants { s with
      log := s.log ++ [⟨msg, s.ended⟩]
      running := s.running.insert s.log.length (s.targets wants msg) } := by
  refine ⟨h.calm, h.listed, fun n ks hn => ?_, fun n c m hc hm => ?_, fun k sub hk => (h.ok k sub hk).snoc _⟩
  · simp only [GoMap.lookup_insert_ite] at hn
    split at hn
    · rename_i hlen
      cases hn
      obtain ⟨hnodup, hw⟩ := h.targets msg
      refine ⟨hnodup, ⟨msg, s.ended⟩, by rw [hlen, List.getElem?_concat_length], fun k hk => ?_⟩
      obtain ⟨sub, hsub, hphase, hwants⟩ := hw k hk
      refine ⟨sub, hsub, hphase, hlen ▸ (h.ok k sub hsub).since, hwants, fun hn => ?_⟩
      obtain ⟨-, c, hc, -⟩ := (h.ok k sub hsub).entitled n hn
      exact Nat.lt_irrefl _ (hlen ▸ (List.getElem?_eq_some_iff.1 hc).1)
    · obtain ⟨hnodup, c, hc, howed⟩ := h.ahead n ks hn
      exact ⟨hnodup, c, getElem?_snoc hc _, howed⟩
  · have hbound : s.running.lookup m = none ∧ m < s.log.length := by
      rcases List.mem_append.1 (List.mem_of_getElem? hc) with hc' | hc'
      · obtain ⟨n', hn'⟩ := List.mem_iff_getElem?.1 hc'
        exact h.past n' c m hn' hm
      · rw [List.mem_singleton.1 hc'] at hm
        exact (mem_ended.1 hm).symm
    refine ⟨?_, ?_⟩
    · simp only [GoMap.lookup_insert_ite, if_neg (Nat.ne_of_lt hbound.2), hbound.1]
    · rw [List.length_append]
      exact Nat.lt_add_right _ hbound.2

/-- Under the write lock no call is running, and a listed subscriber is not the one that enters. -/
theorem Sound.insert (h : Sound wants s) {k : Nat} {sub : Sub K T} (hk : s.subs[k]? = some sub)
    (hphase : sub.phase = .opened) (hq : s.quiet = true) :
    Sound wants { s.modify k fun sub => { sub with phase := .listed, since := s.log.length } with
      table := s.table.insert sub.key k } := by
  refine ⟨h.calm, fun key j hj => ?_, Sound.ahead_of_quiet hq, h.past, ok_modify h fun sub' hk' => ?_⟩
  · simp only [GoMap.lookup_insert_ite] at hj
    split at hj
    · rename_i hkey
      cases hj
      exact ⟨_, subs_modify_self hk _, rfl, hkey.symm⟩
    · obtain ⟨sub', hsub', hphase', hkey'⟩ := h.listed key j hj
      have hkj : k ≠ j := by
        rintro rfl
        rw [hk] at hsub'
        cases hsub'
        exact absurd (hphase.symm.trans hphase') (by decide)
      exact ⟨sub', (subs_modify_ne hkj _).trans hsub', hphase', hkey'⟩
  · rw [hk] at hk'
    cases hk'
    have hok := h.ok k sub hk
    have hcloses := hok.closes
    rw [hphase] at hcloses
    refine ⟨hcloses, fun ho => absurd ho (by simp), Nat.le_refl _, hok.nodup, fun n hn => ?_, hok.order⟩
    have hn : n ∈ sub.seen := hn
    rw [hok.blank hphase] at hn
    cases hn

theorem Sound.remove (h : Sound wants s) {k : Nat} {sub : Sub K T} (hk : s.subs[k]? = some sub)
    (hphase : sub.phase = .listed) (hq : s.quiet = true) :
    Sound wants { s.modify k fun sub => { sub with phase := .removed } with table := s.table.erase sub.key } := by
  refine ⟨h.calm, fun key j hj => ?_, Sound.ahead_of_quiet hq, h.past, ok_modify h fun sub' hk' => ?_⟩
  · simp only [GoMap.lookup_erase_ite] at hj
    split at hj
    · cases hj
    · rename_i hkey
      obtain ⟨sub', hsub', hphase', hkey'⟩ := h.listed key j hj
      have hkj : k ≠ j := by
        rintro rfl
        rw [hk] at hsub'
        cases hsub'
        exact hkey hkey'.symm
      exact ⟨sub', (subs_modify_ne hkj _).trans hsub', hphase', hkey'⟩
  · rw [hk] at hk'
    cases hk'
    have hok := h.ok k sub hk
    have hcloses := hok.closes
    rw [hphase] at hcloses
    exact ⟨hcloses, fun ho => absurd ho (by simp), hok.since, hok.nodup, hok.entitled, hok.order⟩

theorem Sound.close (h : Sound wants s) {k : Nat} {sub : Sub K T} (hk : s.subs[k]? = some sub)
    (hphase : sub.phase = .removed) :
    Sound wants { s.modify k fun sub => { sub with phase := .closed, closes := sub.closes + 1 } with
      panicked := s.panicked || sub.closes != 0 } := by
  have hok := h.ok k sub hk
  have hcloses : sub.closes = 0 := by
    rw [hok.closes, hphase]
    rfl
  have hother : ∀ (j : Nat) (sub' : Sub K T), s.subs[j]? = some sub' → sub'.phase = .listed → k ≠ j := by
    rintro j sub' hj hl rfl
    rw [hk] at hj
    cases hj
    exact absurd (hphase.symm.trans hl) (by decide)
  refine ⟨?_, fun key j hj => ?_, fun n ks hn => ?_, h.past, ok_modify h fun sub' hk' => ?_⟩
  · rw [h.calm, hcloses]
    rfl
  · obtain ⟨sub', hsub', hphase', hkey'⟩ := h.listed key j hj
    exact ⟨sub', (subs_modify_ne (hother j sub' hsub' hphase') _).trans hsub', hphase', hkey'⟩
  · obtain ⟨hnodup, c, hc, howed⟩ := h.ahead n ks hn
    refine ⟨hnodup, c, hc, fun j hj => ?_⟩
    obtain ⟨sub', hsub', hphase', hrest⟩ := howed j hj
    exact ⟨sub', (subs_modify_ne (hother j sub' hsub' hphase') _).trans hsub', hphase', hrest⟩
  · rw [hk] at hk'
    cases hk'
    exact ⟨by rw [hcloses]; rfl, fun ho => absurd ho (by simp), hok.since, hok.nodup, hok.entitled, hok.order⟩

theorem subs_send {n k j : Nat} {sub : Sub K T} (hj : s.subs[j]? = some sub) : ∃ sub',
    (s.modify k fun sub => { sub with queue := offer (capacity sub.topic) n sub.queue }).subs[j]? = some sub' ∧
    sub'.phase = sub.phase ∧ sub'.key = sub.key ∧ sub'.topic = sub.topic ∧ sub'.since = sub.since ∧
    ∀ m, m ∈ sub'.seen → m ∈ sub.seen ∨ m = n ∧ j = k := by
  by_cases hkj : k = j
  · subst hkj
    refine ⟨_, subs_modify_self hj _, rfl, rfl, rfl, rfl, fun m => ?_⟩
    simp only [Sub.seen, offer]
    split
    · simp [or_assoc]
    · exact .inl
  · exact ⟨sub, (subs_modify_ne hkj _).trans hj, rfl, rfl, rfl, rfl, fun m hm => .inl hm⟩

theorem Owed.send {n k m j : Nat} {c : Call M} (h : Owed wants s m c j) (hne : m = n → j ≠ k) :
    Owed wants (s.modify k fun sub => { sub with queue := offer (capacity sub.topic) n sub.queue }) m c j := by
  obtain ⟨sub, hsub, hphase, hsince, hw, hnot⟩ := h
  obtain ⟨sub', hsub', hp, -, ht, hs, hseen⟩ := subs_send hsub
  refine ⟨sub', hsub', hp.trans hphase, hs ▸ hsince, ht ▸ hw, fun hmem => ?_⟩
  rcases hseen m hmem with hin | ⟨hmn, hjk⟩
  · exact hnot hin
  · exact hne hmn hjk

/-- The channel of a running call belongs to a listed subscriber, so the send is one on an open channel. -/
theorem Sound.send (h : Sound wants s) {n k : Nat} {sub : Sub K T} {ahead : List Nat}
    (hn : s.running.lookup n = some ahead) (hk : s.subs[k]? = some sub) (hmem : k ∈ ahead) :
    Sound wants { s.modify k fun sub => { sub with queue := offer (capacity sub.topic) n sub.queue } with
      running := s.running.insert n (ahead.erase k)
      panicked := s.panicked || sub.closes != 0 } := by
  have hok := h.ok k sub hk
  obtain ⟨hnodup, c, hc, howed⟩ := h.ahead n ahead hn
  obtain ⟨sub', hk', hphase, hsince, hw, hnot⟩ := howed k hmem
  rw [hk] at hk'
  cases hk'
  have hrun : ∀ a, ¬ Precedes s.log n a := by
    rintro a ⟨c', hc', hafter⟩
    rw [(h.past a c' n hc' hafter).1] at hn
    cases hn
  refine ⟨?_, fun key j hj => ?_, fun m ks hm => ?_, fun m c' a hc' ha => ?_, ok_modify h fun sub' hk' => ?_⟩
  · rw [h.calm, hok.closes, hphase]
    rfl
  · obtain ⟨sub₁, hsub₁, hphase₁, hkey₁⟩ := h.listed key j hj
    obtain ⟨sub₂, hsub₂, hp, hkey₂, -⟩ := subs_send hsub₁
    exact ⟨sub₂, hsub₂, hp.trans hphase₁, hkey₂.trans hkey₁⟩
  · simp only [GoMap.lookup_insert_ite] at hm
    split at hm
    · rename_i hmn
      cases hm
      refine ⟨hnodup.erase k, c, hmn ▸ hc, fun j hj => ?_⟩
      have hjk : j ≠ k := ((List.Nodup.mem_erase_iff hnodup).1 hj).1
      exact Owed.send (hmn ▸ howed j (List.mem_of_mem_erase hj)) fun _ => hjk
    · rename_i hmn
      obtain ⟨hnodup', c', hc', howed'⟩ := h.ahead m ks hm
      exact ⟨hnodup', c', hc', fun j hj => (howed' j hj).send fun he => absurd he hmn⟩
  · have hpast := h.past m c' a hc' ha
    refine ⟨?_, hpast.2⟩
    have han : a ≠ n := by
      rintro rfl
      exact hrun m ⟨c', hc', ha⟩
    simp only [GoMap.lookup_insert_ite, if_neg han, hpast.1]
  · rw [hk] at hk'
    cases hk'
    exact hok.send hphase hnot hc hsince hw hrun _

theorem Sound.finish (h : Sound wants s) (n : Nat) : Sound wants { s with running := s.running.erase n } := by
  refine ⟨h.calm, h.listed, fun m ks hm => ?_, fun m c a hc ha => ?_, h.ok⟩
  · simp only [GoMap.lookup_erase_ite] at hm
    split at hm
    · cases hm
    · exact h.ahead m ks hm
  · obtain ⟨hnone, hlt⟩ := h.past m c a hc ha
    refine ⟨?_, hlt⟩
    simp only [GoMap.lookup_erase_ite, hnone, ite_self]

theorem Sound.step (h : Sound wants s) {l : Label M K T} (hs : s.step wants capacity l = some s') : Sound wants s' := by
  cases l with
  | subscribe key topic =>
    cases hs
    exact h.subscribe key topic
  | publish msg =>
    cases hs
    exact h.publish msg
  | move m =>
    change s.move capacity m = some s' at hs
    cases m with
    | cancel k =>
      obtain ⟨sub, hk, rfl⟩ := Option.map_eq_some_iff.1 hs
      exact h.modify fun _ _ => ⟨rfl, rfl, rfl, rfl, rfl, rfl⟩
    | recv k =>
      obtain ⟨sub, hk, rfl⟩ := Option.map_eq_some_iff.1 hs
      refine h.modify fun sub _ => ⟨rfl, rfl, rfl, rfl, rfl, ?_⟩
      rw [Sub.seen, Sub.seen, List.append_assoc, List.take_append_drop]
    | insert k =>
      obtain ⟨sub, hk, hs⟩ := Option.bind_eq_some_iff.1 hs
      obtain ⟨⟨hphase, hq⟩, rfl⟩ := Option.ite_some_none_eq_some.1 hs
      exact h.insert hk hphase hq
    | remove k =>
      obtain ⟨sub, hk, hs⟩ := Option.bind_eq_some_iff.1 hs
      obtain ⟨⟨hphase, -, hq⟩, rfl⟩ := Option.ite_some_none_eq_some.1 hs
      exact h.remove hk hphase hq
    | close k =>
      obtain ⟨sub, hk, hs⟩ := Option.bind_eq_some_iff.1 hs
      obtain ⟨hphase, rfl⟩ := Option.ite_some_none_eq_some.1 hs
      exact h.close hk hphase
    | send n k =>
      obtain ⟨ahead, hn, hs⟩ := Option.bind_eq_some_iff.1 hs
      obtain ⟨sub, hk, hs⟩ := Option.bind_eq_some_iff.1 hs
      obtain ⟨hmem, rfl⟩ := Option.ite_some_none_eq_some.1 hs
      exact h.send hn hk hmem
    | finish n =>
      obtain ⟨ahead, hn, hs⟩ := Option.bind_eq_some_iff.1 hs
      obtain ⟨-, rfl⟩ := Option.ite_some_none_eq_some.1 hs
      exact h.finish n

theorem Sound.init : Sound wants ({} : State M K T) :=
  ⟨rfl, fun _ _ h => (by cases h), fun _ _ h => (by cases h), fun _ _ _ h => (by cases h), fun _ _ h => (by cases h)⟩

end Sound

end GoLib.FanOut
