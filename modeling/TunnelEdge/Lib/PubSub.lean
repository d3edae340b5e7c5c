import Mathlib.Data.List.Basic
import Mathlib.Logic.Function.Basic
/-!
# Publishing to buffered channels

A publisher sends its events one after another, without blocking: an event that
finds a buffer full is lost for that subscriber. The publishers still at work
are a list of the events each has ahead of it, in the order in which their
operations ran; which of them sends next is up to the scheduler.

A subscriber that keeps the last value of each key (`replay`) is not troubled
by that freedom as long as the events of one key are sent in the order of their
operations (`inOrder`): what it has seen, what waits in its buffer and what is
still to be sent then replay to the same map after every send.
-/

namespace GoLib

variable {E K V : Type}

/-! ## Channels and publishers -/

/-- `select { case ch <- e: default: }` on a channel of capacity `cap`. -/
def offer (cap : Nat) (e : E) (queue : List E) : List E := if queue.length < cap then queue ++ [e] else queue

theorem offer_of_lt {cap : Nat} {e : E} {queue : List E} (h : queue.length < cap) :
    offer cap e queue = queue ++ [e] := if_pos h

/-- Publisher `i` sends: its next event, and what is ahead of the publishers then. -/
def next (pending : List (List E)) (i : Nat) : Option (E × List (List E)) :=
  match pending[i]? with
  | some (e :: es) => some (e, pending.set i es)
  | _ => none

theorem next_eq_some {pending pending' : List (List E)} {i : Nat} {e : E} (h : next pending i = some (e, pending')) :
    ∃ es post, pending = pending.take i ++ (e :: es) :: post ∧ pending' = pending.take i ++ es :: post := by
  unfold next at h
  split at h
  · rename_i e' es hi
    cases h
    obtain ⟨hlt, he⟩ := List.getElem?_eq_some_iff.1 hi
    refine ⟨es, pending.drop (i + 1), ?_, List.set_eq_take_append_cons_drop.trans (if_pos hlt)⟩
    rw [← he, List.getElem_cons_drop, List.take_append_drop]
  · cases h

theorem mem_of_next {pending pending' : List (List E)} {i : Nat} {e e' : E}
    (h : next pending i = some (e, pending')) : e' ∈ pending.flatten ↔ e' = e ∨ e' ∈ pending'.flatten := by
  obtain ⟨es, post, hp, hp'⟩ := next_eq_some h
  rw [hp, hp']
  simp only [List.flatten_append, List.flatten_cons, List.mem_append, List.mem_cons]
  tauto

/-! ## Replaying -/

variable [DecidableEq K]

/-- The subscriber's map after the events: each sets its key. -/
def replay (key : E → Option K) (val : E → V) (m : K → V) (es : List E) : K → V :=
  es.foldl (fun m e => (key e).elim m fun k => Function.update m k (val e)) m

section Replay

variable {key : E → Option K} {val : E → V} {m m' : K → V} {k : K}

@[simp] theorem replay_nil : replay key val m [] = m := rfl

theorem replay_append (es es' : List E) : replay key val m (es ++ es') = replay key val (replay key val m es) es' :=
  List.foldl_append ..

theorem replay_cons (e : E) (es : List E) :
    replay key val m (e :: es) = replay key val (replay key val m [e]) es := replay_append [e] es

theorem replay_singleton (e : E) (k : K) : replay key val m [e] k = if key e = some k then val e else m k := by
  cases h : key e with
  | none => simp [replay, h]
  | some k' =>
    by_cases hk : k' = k
    · subst hk
      simp [replay, h]
    · simp [replay, h, hk, Function.update_of_ne (Ne.symm hk)]

theorem replay_set {e : E} {k' : K} (h : key e = some k') (k : K) :
    replay key val m [e] k = if k = k' then val e else m k := by
  rw [replay_singleton, h]
  exact if_congr (Option.some_inj.trans eq_comm) rfl rfl

theorem replay_congr (es : List E) (h : m k = m' k) : replay key val m es k = replay key val m' es k := by
  induction es generalizing m m' with
  | nil => exact h
  | cons e es ih =>
    rw [replay_cons (m := m), replay_cons (m := m')]
    refine ih ?_
    rw [replay_singleton, replay_singleton, h]

theorem replay_filter (es : List E) :
    replay key val m (es.filter fun e => key e = some k) k = replay key val m es k := by
  induction es generalizing m with
  | nil => rfl
  | cons e es ih =>
    rw [replay_cons e, ← ih]
    by_cases he : key e = some k
    · rw [List.filter_cons_of_pos (by simpa using he), replay_cons]
    · rw [List.filter_cons_of_neg (by simpa using he)]
      exact replay_congr _ (by rw [replay_singleton, if_neg he])

theorem replay_of_none {es : List E} (h : ∀ e ∈ es, key e ≠ some k) : replay key val m es k = m k := by
  rw [← replay_filter, List.filter_eq_nil_iff.2 (by simpa using h), replay_nil]

theorem replay_of_all {es : List E} {v : V} (hv : ∀ e ∈ es, val e = v) (he : ∃ e ∈ es, key e = some k) :
    replay key val m es k = v := by
  induction es generalizing m with
  | nil => simp at he
  | cons e es ih =>
    rw [replay_cons]
    by_cases hes : ∃ e' ∈ es, key e' = some k
    · exact ih (fun e' h => hv e' (List.mem_cons_of_mem e h)) hes
    · have hk : key e = some k := by
        obtain ⟨e', hm, hk⟩ := he
        rcases List.mem_cons.1 hm with rfl | hm
        · exact hk
        · exact absurd ⟨e', hm, hk⟩ hes
      rw [replay_of_none (by simpa using hes), replay_singleton, if_pos hk]
      exact hv e (List.mem_cons_self ..)

end Replay

/-! ## Sending in order -/

/-- No publisher before `i` has an event of the key that publisher `i` sends next. -/
def inOrder (key : E → Option K) (pending : List (List E)) (i : Nat) : Bool :=
  (next pending i).all fun r => (key r.1).all fun k => (pending.take i).flatten.all fun e => key e ≠ some k

/-- A send in order moves an event from what is ahead to what is in the buffer,
and the subscriber will end with the same map. -/
theorem replay_next {key : E → Option K} {val : E → V} {m : K → V} {pending pending' : List (List E)} {i : Nat} {e : E}
    (h : next pending i = some (e, pending')) (ho : inOrder key pending i = true) :
    replay key val m (e :: pending'.flatten) = replay key val m pending.flatten := by
  obtain ⟨es, post, hp, hp'⟩ := next_eq_some h
  funext k
  have hfront : key e = some k → ((pending.take i).flatten.filter fun e => key e = some k) = [] := by
    intro hk
    simp only [inOrder, h, hk, Option.all_some, List.all_eq_true, decide_eq_true_eq] at ho
    exact List.filter_eq_nil_iff.2 fun e' he' => by simpa using ho e' he'
  generalize hpre : pending.take i = pre at hp hp' hfront
  have hf : (e :: pending'.flatten).filter (fun e => key e = some k) =
      pending.flatten.filter fun e => key e = some k := by
    rw [hp, hp']
    simp only [List.flatten_append, List.flatten_cons, List.filter_append]
    by_cases hk : key e = some k
    · simp only [List.filter_cons, hk, hfront hk, List.filter_append, decide_true, if_true, List.nil_append,
        List.cons_append]
    · simp only [List.filter_cons, hk, List.filter_append, decide_false, Bool.false_eq_true, if_false]
  rw [← replay_filter, hf, replay_filter]

end GoLib
