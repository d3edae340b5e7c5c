import Mathlib.Data.List.Perm.Basic
import TunnelEdge.Lib.Runs
import TunnelEdge.Stream.Manager
/-!
# What the stream manager keeps track of

Calls of a `Manager` one after another, as its lock orders them, with a record of
what was opened and of every `Close` of a raw stream. The map holds exactly the
streams that were opened and not closed, as long as no `Close(id)` runs into a raw
stream that does not close. Such a call returns its error between the state flag
and the deletion, and leaves a closed stream in the map.
-/

namespace TunnelEdge.Streams

open GoLib

inductive ManagerCall
  | openStream (tunnelID : String)
  /-- `rawFails`: closing the raw stream fails, if the call comes to it. -/
  | close (id : String) (rawFails : Bool)
  | closeByTunnel (tunnelID : String)
  | closeAll
deriving DecidableEq, Repr

/-- `Stream.Close` calls the raw `Close` of a stream that is not closed yet. -/
def Stream.closesRaw (s : Stream) : Bool := s.state = .stateOpen

def ManagerCall.targets (id : String) (s : Stream) : ManagerCall → Bool
  | .openStream _ => false
  | .close id' _ => id = id'
  | .closeByTunnel tunnelID => s.tunnelID = tunnelID
  | .closeAll => true

namespace Manager

/-- The streams whose raw stream the call closes, successfully or not. -/
def rawCloses (m : Manager) (call : ManagerCall) : List String :=
  (m.streams.entries.filter fun e => call.targets e.1 e.2 && e.2.closesRaw).map (·.1)

/-- The map after a call, with the id that `generateStreamID` would draw next. -/
def after (m : Manager) (id : String) : ManagerCall → Manager
  | .openStream tunnelID => m.openStream id tunnelID
  | .close id rawFails => m.close id rawFails
  | .closeByTunnel tunnelID => m.closeByTunnel tunnelID
  | .closeAll => m.closeAll

end Manager

/-- The manager with what has happened: the streams that were opened, with their tunnels, and the raw streams that
were closed, each by the id of its stream. -/
structure Tracker where
  manager : Manager := {}
  drawn : Nat := 0
  opened : List (String × String) := []
  rawClosed : List String := []

namespace Tracker

/-- A call; `uuid` gives the ids that `generateStreamID` draws. -/
def step (uuid : Nat → String) (s : Tracker) (call : ManagerCall) : Tracker where
  manager := s.manager.after (uuid s.drawn) call
  drawn := match call with
    | .openStream _ => s.drawn + 1
    | _ => s.drawn
  opened := match call with
    | .openStream tunnelID => (uuid s.drawn, tunnelID) :: s.opened
    | _ => s.opened
  rawClosed := s.manager.rawCloses call ++ s.rawClosed

def stillOpen (s : Tracker) (tunnelID : String) : List (String × String) :=
  s.opened.filter fun o => o.2 = tunnelID ∧ o.1 ∉ s.rawClosed

structure Exact (s : Tracker) : Prop where
  stateOpen : ∀ id st, s.manager.streams.lookup id = some st → st.state = .stateOpen
  once : s.rawClosed.Nodup
  count : ∀ tunnelID, s.manager.countByTunnel tunnelID = (s.stillOpen tunnelID).length

/-- What a call should do to the streams in the map: those it is to close disappear, the others stay as they are
and are not closed. -/
def ActsOn (s : Tracker) (call : ManagerCall) (s' : Tracker) : Prop :=
  ∀ id st, s.manager.streams.lookup id = some st →
    if call.targets id st then s'.manager.streams.lookup id = none
    else s'.manager.streams.lookup id = some st ∧ id ∉ s.manager.rawCloses call

/-- The call does not run into an open stream whose raw stream fails to close. -/
def closesCleanly (s : Tracker) : ManagerCall → Bool
  | .close id true => (s.manager.streams.lookup id).all fun st => !st.closesRaw
  | _ => true

/-! ## The map and the record -/

/-- The map has exactly the streams that were opened and not closed, all of them open. -/
structure Sound (uuid : Nat → String) (s : Tracker) : Prop where
  live : ∀ id st, s.manager.streams.lookup id = some st ↔
    st.state = .stateOpen ∧ (id, st.tunnelID) ∈ s.opened ∧ id ∉ s.rawClosed
  fresh : ∀ k, s.drawn ≤ k → (∀ o ∈ s.opened, o.1 ≠ uuid k) ∧ uuid k ∉ s.rawClosed
  nodup : (s.opened.map (·.1)).Nodup
  once : s.rawClosed.Nodup

variable {uuid : Nat → String} {s : Tracker} {call : ManagerCall} {id : String} {st : Stream}

theorem mem_rawCloses (m : Manager) (call : ManagerCall) (id : String) :
    id ∈ m.rawCloses call ↔
      ∃ st, m.streams.lookup id = some st ∧ call.targets id st = true ∧ st.state = .stateOpen := by
  simp only [Manager.rawCloses, List.mem_map, List.mem_filter, Bool.and_eq_true, Stream.closesRaw, decide_eq_true_eq]
  constructor
  · rintro ⟨⟨id', st⟩, ⟨hm, ht⟩, rfl⟩
    exact ⟨st, (GoMap.mem_entries_iff _ _ _).1 hm, ht⟩
  · rintro ⟨st, hl, ht⟩
    exact ⟨⟨id, st⟩, ⟨(GoMap.mem_entries_iff _ _ _).2 hl, ht⟩, rfl⟩

theorem nodup_rawCloses (m : Manager) (call : ManagerCall) : (m.rawCloses call).Nodup :=
  List.Nodup.sublist (List.filter_sublist.map _) m.streams.nodupKeys

theorem Sound.mem_rawCloses (h : Sound uuid s) (hl : s.manager.streams.lookup id = some st) :
    id ∈ s.manager.rawCloses call ↔ call.targets id st = true := by
  rw [Tracker.mem_rawCloses, hl]
  constructor
  · rintro ⟨st', he, ht, -⟩
    cases he
    exact ht
  · intro ht
    exact ⟨st, rfl, ht, ((h.live id st).1 hl).1⟩

theorem lookup_after (h : Sound uuid s) (hc : s.closesCleanly call = true) (hopen : ∀ t, call ≠ .openStream t)
    (uid id : String) : (s.manager.after uid call).streams.lookup id =
      (s.manager.streams.lookup id).filter fun st => !call.targets id st := by
  cases call with
  | openStream t => exact absurd rfl (hopen t)
  | closeAll => cases hl : s.manager.streams.lookup id <;> rfl
  | closeByTunnel t =>
    simp only [Manager.after, Manager.closeByTunnel, GoMap.lookup_filter]
    cases s.manager.streams.lookup id <;> rfl
  | close id' rawFails =>
    cases hl : s.manager.streams.lookup id' with
    | none =>
      simp only [Manager.after, Manager.close, hl, ManagerCall.targets]
      cases hl' : s.manager.streams.lookup id with
      | none => rfl
      | some st =>
        have hid : id ≠ id' := by
          rintro rfl
          rw [hl] at hl'
          cases hl'
        simp [hid, Option.filter_some]
    | some st =>
      have hstate : st.state = .stateOpen := ((h.live id' st).1 hl).1
      have hok : rawFails = false := by
        cases rawFails with
        | false => rfl
        | true => simp [closesCleanly, hl, Stream.closesRaw, hstate] at hc
      subst hok
      simp only [Manager.after, Manager.close, hl, Bool.and_false, Bool.false_eq_true, if_false,
        GoMap.lookup_erase_ite, ManagerCall.targets]
      by_cases hid : id = id'
      · subst hid
        simp [hl]
      · cases s.manager.streams.lookup id <;> simp [hid, Option.filter_some]

/-! ## One call -/

theorem Sound.openStream (h : Sound uuid s) (hinj : Function.Injective uuid) (tunnelID : String) :
    Sound uuid (s.step uuid (.openStream tunnelID)) := by
  obtain ⟨hnew, hraw⟩ := h.fresh s.drawn (Nat.le_refl _)
  have hcloses : s.manager.rawCloses (.openStream tunnelID) = [] := by
    simp [Manager.rawCloses, ManagerCall.targets]
  refine ⟨fun id st => ?_, fun k hk => ?_, ?_, ?_⟩
  · simp only [step, Manager.after, Manager.openStream, hcloses, List.nil_append, GoMap.lookup_insert_ite,
      List.mem_cons, Prod.mk.injEq]
    by_cases hid : id = uuid s.drawn
    · subst hid
      rw [if_pos rfl]
      constructor
      · rintro he
        cases he
        exact ⟨rfl, .inl ⟨rfl, rfl⟩, hraw⟩
      · rintro ⟨hstate, ⟨-, ht⟩ | hold, -⟩
        · obtain ⟨t, state⟩ := st
          cases hstate
          cases ht
          rfl
        · exact absurd rfl (hnew _ hold)
    · rw [if_neg hid, h.live]
      simp [hid]
  · have hlt : s.drawn < k := hk
    obtain ⟨hold, hraw'⟩ := h.fresh k (Nat.le_of_lt hlt)
    refine ⟨?_, by simpa only [step, hcloses, List.nil_append] using hraw'⟩
    intro o ho
    rcases List.mem_cons.1 ho with rfl | ho
    · exact fun he => absurd (hinj he) (Nat.ne_of_lt hlt)
    · exact hold o ho
  · refine List.nodup_cons.2 ⟨fun hmem => ?_, h.nodup⟩
    obtain ⟨o, ho, he⟩ := List.mem_map.1 hmem
    exact hnew o ho he
  · simpa only [step, hcloses, List.nil_append] using h.once

theorem Sound.close (h : Sound uuid s) (hc : s.closesCleanly call = true) (hopen : ∀ t, call ≠ .openStream t) :
    Sound uuid (s.step uuid call) := by
  have hsame : (s.step uuid call).opened = s.opened ∧ (s.step uuid call).drawn = s.drawn := by
    cases call with
    | openStream t => exact absurd rfl (hopen t)
    | _ => exact ⟨rfl, rfl⟩
  have hclosed : ∀ id ∈ s.manager.rawCloses call, ∃ st, s.manager.streams.lookup id = some st := by
    intro id hid
    obtain ⟨st, hl, -⟩ := (Tracker.mem_rawCloses _ _ _).1 hid
    exact ⟨st, hl⟩
  refine ⟨fun id st => ?_, fun k hk => ?_, ?_, ?_⟩
  · rw [hsame.1]
    simp only [step, lookup_after h hc hopen, Option.filter_eq_some_iff, List.mem_append, not_or]
    constructor
    · rintro ⟨hl, ht⟩
      obtain ⟨hstate, hin, hraw⟩ := (h.live id st).1 hl
      exact ⟨hstate, hin, by simpa [h.mem_rawCloses hl] using ht, hraw⟩
    · rintro ⟨hstate, hin, hnot, hraw⟩
      have hl := (h.live id st).2 ⟨hstate, hin, hraw⟩
      exact ⟨hl, by simpa [h.mem_rawCloses hl] using hnot⟩
  · rw [hsame.2] at hk
    obtain ⟨hnew, hraw⟩ := h.fresh k hk
    refine ⟨by rw [hsame.1]; exact hnew, ?_⟩
    simp only [step, List.mem_append, not_or]
    refine ⟨fun hid => ?_, hraw⟩
    obtain ⟨st, hl⟩ := hclosed _ hid
    exact hnew _ ((h.live _ st).1 hl).2.1 rfl
  · rw [hsame.1]
    exact h.nodup
  · refine List.nodup_append.2 ⟨nodup_rawCloses _ _, h.once, ?_⟩
    rintro id hid id' hid' rfl
    obtain ⟨st, hl⟩ := hclosed _ hid
    exact ((h.live id st).1 hl).2.2 hid'

theorem Sound.step (h : Sound uuid s) (hinj : Function.Injective uuid) (hc : s.closesCleanly call = true) :
    Sound uuid (s.step uuid call) := by
  by_cases hopen : ∃ t, call = .openStream t
  · obtain ⟨t, rfl⟩ := hopen
    exact h.openStream hinj t
  · exact h.close hc fun t ht => hopen ⟨t, ht⟩

/-- The entries of the map for a tunnel are the streams of that tunnel that are still open. -/
theorem Sound.countByTunnel (h : Sound uuid s) (tunnelID : String) :
    s.manager.countByTunnel tunnelID = (s.stillOpen tunnelID).length := by
  let entries := s.manager.streams.entries.filter fun e => e.2.tunnelID = tunnelID
  have hperm : (entries.map fun e => (e.1, e.2.tunnelID)).Perm (s.stillOpen tunnelID) := by
    refine (List.perm_ext_iff_of_nodup ?_ ?_).2 fun o => ?_
    · refine List.Nodup.of_map (·.1) ?_
      rw [List.map_map]
      exact List.Nodup.sublist (List.filter_sublist.map _) s.manager.streams.nodupKeys
    · exact (List.Nodup.of_map _ h.nodup).filter _
    · simp only [entries, stillOpen, List.mem_map, List.mem_filter, decide_eq_true_eq]
      constructor
      · rintro ⟨⟨id, st⟩, ⟨hm, ht⟩, rfl⟩
        obtain ⟨-, hin, hraw⟩ := (h.live id st).1 ((GoMap.mem_entries_iff _ _ _).1 hm)
        exact ⟨hin, ht, hraw⟩
      · rintro ⟨hin, ht, hraw⟩
        have hl := (h.live o.1 ⟨o.2, .stateOpen⟩).2 ⟨rfl, hin, hraw⟩
        exact ⟨⟨o.1, ⟨o.2, .stateOpen⟩⟩, ⟨(GoMap.mem_entries_iff _ _ _).2 hl, ht⟩, rfl⟩
  rw [← hperm.length_eq, List.length_map]
  exact List.countP_eq_length_filter

theorem Sound.exact (h : Sound uuid s) : s.Exact :=
  ⟨fun id st hl => ((h.live id st).1 hl).1, h.once, h.countByTunnel⟩

theorem Sound.actsOn (h : Sound uuid s) (hc : s.closesCleanly call = true) : s.ActsOn call (s.step uuid call) := by
  intro id st hl
  by_cases hopen : ∃ t, call = .openStream t
  · obtain ⟨t, rfl⟩ := hopen
    have hne : id ≠ uuid s.drawn := (h.fresh s.drawn (Nat.le_refl _)).1 _ ((h.live id st).1 hl).2.1
    simp [ManagerCall.targets, Tracker.step, Manager.after, Manager.openStream, hne, hl, Manager.rawCloses]
  · have hlook := lookup_after h hc (fun t ht => hopen ⟨t, ht⟩) (uuid s.drawn) id
    rw [hl, Option.filter_some] at hlook
    split
    · rename_i ht
      simpa [ht, Tracker.step] using hlook
    · rename_i ht
      exact ⟨by simpa [ht, Tracker.step] using hlook, by rwa [h.mem_rawCloses hl]⟩

theorem closesCleanly_of_actsOn (h : s.ActsOn call (s.step uuid call)) : s.closesCleanly call = true := by
  unfold closesCleanly
  split
  · rename_i id
    cases hl : s.manager.streams.lookup id with
    | none => rfl
    | some st =>
      by_contra hc
      have hraw : st.state = .stateOpen := by simpa [Stream.closesRaw] using hc
      have hgone := h id st hl
      simp [ManagerCall.targets, Tracker.step, Manager.after, Manager.close, hl, hraw] at hgone
  · rfl

end Tracker

/-- The manager tracks exactly the open streams through every sequence of calls, exactly if no `Close(id)` meets an
open stream whose raw stream fails to close. -/
theorem manager_tracks_iff {uuid : Nat → String} (hinj : Function.Injective uuid) (calls : List ManagerCall) :
    Along (Tracker.step uuid) (fun s call => s.ActsOn call (s.step uuid call) ∧ (s.step uuid call).Exact) {} calls ↔
      Along (Tracker.step uuid) (fun s call => s.closesCleanly call = true) {} calls := by
  refine along_iff (D := fun _ _ => True) (Tracker.Sound uuid) (fun s call h _ => ?_) (fun s call h _ hc => ?_) ?_ ?_
  · exact ⟨fun hp => Tracker.closesCleanly_of_actsOn hp.1, fun hc => ⟨h.actsOn hc, (h.step hinj hc).exact⟩⟩
  · exact h.step hinj hc
  · exact ⟨fun _ _ => by simp, fun _ _ => by simp, List.nodup_nil, List.nodup_nil⟩
  · exact along_true _ _

def wordIDs (n : Nat) : String := String.ofList (List.replicate (n + 1) 'u')

/-- Streams of two tunnels; the raw stream of the second is closed with the others, so its error does not matter. -/
def twoTunnels : List ManagerCall :=
  [.openStream "t-a", .openStream "t-b", .close "u" false, .close "u" true, .openStream "t-a", .closeByTunnel "t-b"]

theorem manager_tracks_twoTunnels :
    Along (Tracker.step wordIDs) (fun s call => s.closesCleanly call = true) {} twoTunnels ∧
      Along (Tracker.step wordIDs)
        (fun s call => s.ActsOn call (s.step wordIDs call) ∧ (s.step wordIDs call).Exact) {} twoTunnels :=
  have h : Along (Tracker.step wordIDs) (fun s call => s.closesCleanly call = true) {} twoTunnels := by decide +kernel
  ⟨h, (manager_tracks_iff (ofList_replicate_injective 'u') twoTunnels).2 h⟩

def failingClose : List ManagerCall := [.openStream "t-a", .close "u" true]

theorem failed_close_stays :
    (failingClose.foldl (Tracker.step wordIDs) {}).manager.streams.lookup "u" = some ⟨"t-a", .stateClosed⟩ ∧
      (failingClose.foldl (Tracker.step wordIDs) {}).manager.countByTunnel "t-a" = 1 ∧
      (failingClose.foldl (Tracker.step wordIDs) {}).stillOpen "t-a" = [] ∧
      ¬ (failingClose.foldl (Tracker.step wordIDs) {}).Exact :=
  have hl : (failingClose.foldl (Tracker.step wordIDs) {}).manager.streams.lookup "u" =
      some ⟨"t-a", .stateClosed⟩ := by decide +kernel
  ⟨hl, by decide +kernel, by decide +kernel, fun h => absurd (h.stateOpen "u" _ hl) (by decide)⟩

end TunnelEdge.Streams
