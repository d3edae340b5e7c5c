import TunnelEdge.Lib.FanOut
import TunnelEdge.Lib.Runs
import TunnelEdge.Registry.Events
/-!
# Subscribers that come and go

`Subscribe`, `SubscribeHealth`, `Publish` and `publishHealth`, which
`MemCoordinator` and `EtcdCoordinator` have in the same words: two maps of
channels under `subMu`, a counter for their keys, and one goroutine a
subscriber that waits for its context.

A step is one locked section, one send of a publisher that holds the read lock,
or one of the actions outside the lock: drawing a key, `close(ch)`, a receive.
-/

namespace TunnelEdge.Registry

open GoLib FanOut

/-- What a channel is for; a health channel may be for one relay. -/
inductive Topic
  | events
  | health (relayID : String)
deriving DecidableEq, Repr

inductive Notice
  | event (event : RegistryEvent)
  | health (relayID : String) (health : RelayHealth)
deriving DecidableEq, Repr

namespace Topic

/-- `Publish` goes to all of `eventSubs`, `publishHealth` to those of
`healthSubs` that named the relay or none. -/
def wants : Topic → Notice → Bool
  | .events, .event _ => true
  | .health relayID, .health relayID' _ => relayID = "" || relayID = relayID'
  | _, _ => false

def capacity : Topic → Nat
  | .events => 64
  | .health _ => 32

end Topic

/-- Which of the two maps a key is for. -/
inductive SubMap
  | eventSubs | healthSubs
deriving DecidableEq, Repr

/-- The part of a coordinator that `subMu` guards, with `nextID`. -/
structure Subscribers where
  nextID : Int64 := 0
  out : FanOut.State Notice (SubMap × Int64) Topic := {}

inductive SubLabel
  | subscribe
  | subscribeHealth (relayID : String)
  | publish (event : RegistryEvent)
  | publishHealth (relayID : String) (health : Option RelayHealth)
  | go (m : FanOut.Move)
deriving DecidableEq, Repr

namespace Subscribers

def lift (s : Subscribers) (l : FanOut.Label Notice (SubMap × Int64) Topic) : Option Subscribers :=
  (s.out.step Topic.wants Topic.capacity l).map fun out => { s with out }

/-- `nextID.Add(1)` wraps around; a call of `publishHealth` without health returns at once. -/
def step (s : Subscribers) : SubLabel → Option Subscribers
  | .subscribe => { s with nextID := s.nextID + 1 }.lift (.subscribe (.eventSubs, s.nextID + 1) .events)
  | .subscribeHealth relayID =>
    { s with nextID := s.nextID + 1 }.lift (.subscribe (.healthSubs, s.nextID + 1) (.health relayID))
  | .publish event => s.lift (.publish (.event event))
  | .publishHealth relayID health =>
    match health with
    | none => some s
    | some health => s.lift (.publish (.health relayID health))
  | .go m => s.lift (.move m)

/-- The messages that were put into a subscriber's channel, in order. -/
def got (s : Subscribers) (sub : Sub (SubMap × Int64) Topic) : List Notice := messages s.out.log sub.seen

/-- The messages for a subscriber that were published after its subscription, in the order in which the calls began. -/
def published (s : Subscribers) (sub : Sub (SubMap × Int64) Topic) : List Notice :=
  ((s.out.log.drop sub.since).map FanOut.Call.msg).filter sub.topic.wants

theorem lift_sound {s s' : Subscribers} {l : FanOut.Label Notice (SubMap × Int64) Topic} (h : Sound Topic.wants s.out)
    (hs : s.lift l = some s') : Sound Topic.wants s'.out := by
  obtain ⟨out, hout, rfl⟩ := Option.map_eq_some_iff.1 hs
  exact h.step hout

theorem step_sound {s s' : Subscribers} {l : SubLabel} (h : Sound Topic.wants s.out) (hs : s.step l = some s') :
    Sound Topic.wants s'.out := by
  cases l with
  | subscribe | subscribeHealth relayID => exact lift_sound (s := { s with nextID := s.nextID + 1 }) h hs
  | publish event | go m => exact lift_sound h hs
  | publishHealth relayID health =>
    cases health with
    | none => cases hs; exact h
    | some health => exact lift_sound h hs

theorem run_sound {ls : List SubLabel} {s : Subscribers} (h : Run step (fun _ _ => True) {} ls s) :
    Sound Topic.wants s.out :=
  h.inv (fun s => Sound Topic.wants s.out) Sound.init fun _ _ _ hs _ hstep => step_sound hs hstep

/-- No send and no close ever meets a closed channel; each channel is closed at
most once, and what comes out of it was published for it after the subscription:
each call's message at most once, not behind that of a call which began later
and after its return, and so in the order of publication when no calls overlap. -/
theorem subscribers_safe {ls : List SubLabel} {s : Subscribers} (h : Run step (fun _ _ => True) {} ls s) :
    s.out.panicked = false ∧ ∀ (k : Nat) sub, s.out.subs[k]? = some sub →
      sub.closes ≤ 1 ∧ (s.got sub).Subperm (s.published sub) ∧
      sub.seen.Pairwise (fun a b => ¬ Precedes s.out.log b a) ∧
      (Sequential s.out.log → (s.got sub).Sublist (s.published sub)) := by
  have hsound := run_sound h
  refine ⟨hsound.calm, fun k sub hk => ?_⟩
  have hok := hsound.ok k sub hk
  refine ⟨?_, hok.subperm, hok.order, hok.sublist⟩
  rw [hok.closes]
  split
  · exact Nat.le_refl 1
  · exact Nat.zero_le 1

/-- A subscriber takes one event, is cancelled while the next is published, and closes its channel. -/
def farewell : List SubLabel :=
  [.subscribe, .go (.insert 0), .publish (.deleted "t-a"), .go (.send 0 0), .go (.finish 0), .go (.recv 0),
    .publish (.deleted "t-b"), .go (.cancel 0), .go (.send 1 0), .go (.finish 1), .go (.remove 0),
    .publish (.deleted "t-c"), .go (.close 0), .go (.finish 2)]

theorem subscribers_safe_farewell :
    ∃ s, Run step (fun _ _ => True) {} farewell s ∧
      ((s.out.subs[0]?).map fun sub => (sub.closes, s.got sub)) =
        some (1, [.event (.deleted "t-a"), .event (.deleted "t-b")]) ∧
      s.out.panicked = false ∧ ∀ (k : Nat) sub, s.out.subs[k]? = some sub → (s.got sub).Subperm (s.published sub) := by
  have hends : ∃ s, Run step (fun _ _ => True) {} farewell s ∧
      ((s.out.subs[0]?).map fun sub => (sub.closes, s.got sub)) =
        some (1, [.event (.deleted "t-a"), .event (.deleted "t-b")]) := run_any (by decide +kernel)
  obtain ⟨s, hrun, hsub⟩ := hends
  obtain ⟨hcalm, hsubs⟩ := subscribers_safe hrun
  exact ⟨s, hrun, hsub, hcalm, fun k sub hk => (hsubs k sub hk).2.1⟩

end Subscribers

end TunnelEdge.Registry
