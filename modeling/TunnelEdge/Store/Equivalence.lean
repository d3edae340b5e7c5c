import TunnelEdge.Lib.Runs
import TunnelEdge.Store.Tokens
/-!
# The two session stores side by side

The same calls to `MemorySessionRepository` and `PGSessionRepository`. To compare a
map with a table of rows, both are read as one thing: for each tunnel the entries
that an operation can still see, each active or suspended with a deadline ahead.
Every operation changes these entries in one way in both stores, as long as it is
not one that the stores treat differently: a second `Register` of a tunnel, a call
for a tunnel that is suspended, a clean-up that catches one.
-/

namespace TunnelEdge.Store

open GoLib

/-! ## Column sizes -/

namespace Table

/-- The `size` tags of `TunnelSessionModel`. -/
def columnsFit (sess : Session) : Bool :=
  sess.tunnelID.length ≤ 128 && sess.agentID.length ≤ 128 && sess.ownerRelayID.length ≤ 128 &&
    sess.leaseID.length ≤ 128 && sess.publicAddr.length ≤ 256 && sess.localAddr.length ≤ 256 &&
    sess.remoteAddr.length ≤ 256

def resumeTokenSize : Nat := 512

/-- `Create` refuses a value that is too long for its column. -/
def registerSized (s : Table) (now : Time) (sess : Session) : Table × Except String Session :=
  if sess.tunnelID ≠ "" && !columnsFit sess then (s, .error "tunnel already registered") else register s now sess

/-- So does `Updates`, where there is a row to write it to. -/
def setResumableSized (s : Table) (tunnelID token : String) (deadline : Time) : Table × Except String Unit :=
  if s.any (activeOf tunnelID) && resumeTokenSize < token.length then (s, .error "value too long")
  else setResumable s tunnelID token deadline

end Table

/-! ## Calls -/

inductive Call
  | register (sess : Session)
  | deregister (tunnelID : String)
  | get (tunnelID : String)
  | list
  | heartbeat (tunnelID : String)
  | cleanupExpired (ttl : Duration)
  | setResumable (tunnelID token : String) (deadline : Time)
  | getResumable (token : String)
  /-- Time passes. -/
  | advance (d : Nat)

def Call.after (now : Time) : Call → Time
  | .advance d => now + d
  | _ => now

/-- The fields of a session that say whose it is and where it goes. -/
structure SessionKey where
  tunnelID : String
  agentID : String
  ownerRelayID : String
  leaseID : String
  publicAddr : String
  localAddr : String
  remoteAddr : String
deriving DecidableEq, Repr

def key (sess : Session) : SessionKey :=
  ⟨sess.tunnelID, sess.agentID, sess.ownerRelayID, sess.leaseID, sess.publicAddr, sess.localAddr, sess.remoteAddr⟩

/-- What a caller sees. -/
inductive Answer
  | success (ok : Bool)
  | session (found : Option SessionKey)
  | tunnels (ids : List String)
deriving DecidableEq, Repr

/-- The same success, the same session, the same set of tunnel ids. -/
def Answer.agrees : Answer → Answer → Bool
  | .success ok, .success ok' => ok = ok'
  | .session found, .session found' => found = found'
  | .tunnels ids, .tunnels ids' => ids.all (· ∈ ids') && ids'.all (· ∈ ids)
  | _, _ => false

def found (r : Except String Session) : Answer := .session (r.toOption.map key)

def Memory.answer (s : Memory) (now : Time) : Call → Memory × Answer
  | .register sess => ((s.register now sess).1, .success (s.register now sess).2.toBool)
  | .deregister t => ((s.deregister t).1, .success (s.deregister t).2.toBool)
  | .get t => (s, found (s.get t))
  | .list => (s, .tunnels (s.list.map (·.tunnelID)))
  | .heartbeat t => ((s.heartbeat now t).1, .success (s.heartbeat now t).2.toBool)
  | .cleanupExpired ttl => ((s.cleanupExpired now ttl).1, .success true)
  | .setResumable t token deadline => ((s.setResumable t token deadline).1,
      .success (s.setResumable t token deadline).2.toBool)
  | .getResumable token => (s, found (s.getResumable now token))
  | .advance _ => (s, .success true)

def Table.answer (s : Table) (now : Time) : Call → Table × Answer
  | .register sess => ((s.registerSized now sess).1, .success (s.registerSized now sess).2.toBool)
  | .deregister t => ((s.deregister t).1, .success (s.deregister t).2.toBool)
  | .get t => (s, found (s.get t))
  | .list => (s, .tunnels (s.list.map (·.tunnelID)))
  | .heartbeat t => ((s.heartbeat now t).1, .success (s.heartbeat now t).2.toBool)
  | .cleanupExpired ttl => ((s.cleanupExpired now ttl).1, .success true)
  | .setResumable t token deadline => ((s.setResumableSized t token deadline).1,
      .success (s.setResumableSized t token deadline).2.toBool)
  | .getResumable token => (s, found (s.getResumable now token))
  | .advance _ => (s, .success true)

structure Stores where
  now : Time
  mem : Memory := ∅
  pg : Table := []

namespace Stores

def next (s : Stores) (call : Call) : Stores where
  now := call.after s.now
  mem := (s.mem.answer s.now call).1
  pg := (s.pg.answer s.now call).1

def Agree (s : Stores) (call : Call) : Prop := ((s.mem.answer s.now call).2.agrees (s.pg.answer s.now call).2) = true

instance (s : Stores) (call : Call) : Decidable (s.Agree call) := inferInstanceAs (Decidable (_ = true))

def suspended (s : Stores) (t : String) : Bool := (s.mem.lookup t).any fun sess => sess.resumeDeadline.isSome

/-- Calls that do not tell the stores apart. -/
def alike (s : Stores) : Call → Bool
  | .register sess => sess.tunnelID = "" ||
      ((s.mem.lookup sess.tunnelID).isNone && Table.columnsFit sess &&
        (sess.lastHeartbeat = 0 || sess.lastHeartbeat = s.now) && sess.resumeDeadline.isNone)
  | .deregister t | .get t | .heartbeat t => !s.suspended t
  | .list => GoMap.values (fun _ sess => sess.resumeDeadline.isSome) s.mem = []
  | .cleanupExpired ttl => GoMap.values (fun _ sess => Memory.isExpired sess s.now ttl &&
      sess.resumeDeadline.any fun deadline => s.now < deadline) s.mem = []
  | .setResumable t token _ => (s.mem.lookup t).isNone || (!s.suspended t && token.length ≤ Table.resumeTokenSize &&
      (token = "" || GoMap.values (fun _ sess => Memory.resumable token s.now sess) s.mem = []))
  | .getResumable _ | .advance _ => true

end Stores

/-! ## One view of both stores -/

inductive Life
  | active (lastHeartbeat : Time)
  | suspended (token : String) (deadline : Time)
deriving DecidableEq, Repr

/-- What is left of a session for the operations: who it is, and its life. -/
structure Entry where
  key : SessionKey
  life : Life
deriving DecidableEq, Repr

/-- A suspended session counts until its deadline. -/
def entry (now : Time) (sess : Session) : Option Entry :=
  match sess.resumeDeadline with
  | none => some ⟨key sess, .active sess.lastHeartbeat⟩
  | some deadline => if now < deadline then some ⟨key sess, .suspended sess.resumeToken deadline⟩ else none

/-- A row counts while it is active or disconnecting. -/
def rowEntry (now : Time) (row : TunnelSessionModel) : Option Entry :=
  match row.status with
  | .active | .disconnecting => entry now row.session
  | .closed | .expired => none

def Memory.entries (s : Memory) (now : Time) (t : String) : List Entry := ((s.lookup t).bind (entry now)).toList

def Table.entries (s : Table) (now : Time) (t : String) : List Entry :=
  s.filterMap fun row => if row.session.tunnelID = t then rowEntry now row else none

def Entry.isActive (e : Entry) : Bool :=
  match e.life with
  | .active _ => true
  | .suspended .. => false

def Entry.isSuspended (token : String) (e : Entry) : Bool :=
  match e.life with
  | .active _ => false
  | .suspended token' _ => token' = token

/-- What a call does to the entries of tunnel `u`, unless it registers one. -/
def effect (now : Time) (call : Call) (u : String) (e : Entry) : Option Entry :=
  match call, e.life with
  | .deregister t, .active _ => if u = t then none else some e
  | .heartbeat t, .active _ => if u = t then some ⟨e.key, .active now⟩ else some e
  | .cleanupExpired ttl, .active lastHeartbeat => if now - lastHeartbeat > ttl then none else some e
  | .setResumable t token deadline, .active _ =>
    if u = t then if now < deadline then some ⟨e.key, .suspended token deadline⟩ else none else some e
  | .advance d, .suspended _ deadline => if now + d < deadline then some e else none
  | _, _ => some e

def Call.registers : Call → Bool
  | .register _ => true
  | _ => false

theorem entry_eq_some {now : Time} {sess : Session} {e : Entry} (h : entry now sess = some e) :
    (sess.resumeDeadline = none ∧ e = ⟨key sess, .active sess.lastHeartbeat⟩) ∨
      ∃ deadline, sess.resumeDeadline = some deadline ∧ now < deadline ∧
        e = ⟨key sess, .suspended sess.resumeToken deadline⟩ := by
  unfold entry at h
  split at h
  · cases h
    exact .inl ⟨‹_›, rfl⟩
  · split at h
    · cases h
      exact .inr ⟨_, ‹_›, ‹_›, rfl⟩
    · cases h

theorem entry_active {now : Time} {sess : Session} (h : sess.resumeDeadline = none) :
    entry now sess = some ⟨key sess, .active sess.lastHeartbeat⟩ := by
  simp only [entry, h]

theorem entry_suspended {now deadline : Time} {sess : Session} (h : sess.resumeDeadline = some deadline) :
    entry now sess = if now < deadline then some ⟨key sess, .suspended sess.resumeToken deadline⟩ else none := by
  simp only [entry, h]

theorem entry_advance (now : Time) (d : Nat) (sess : Session) (u : String) :
    entry (now + d) sess = (entry now sess).bind (effect now (.advance d) u) := by
  cases hd : sess.resumeDeadline with
  | none => rw [entry_active hd, entry_active hd]; rfl
  | some deadline =>
    rw [entry_suspended hd, entry_suspended hd]
    by_cases hlt : now < deadline
    · rw [if_pos hlt]
      rfl
    · have hle := Int.le_add_of_nonneg_right (a := now) (Int.natCast_nonneg d)
      have : ¬ now + d < deadline := fun h => hlt (Int.lt_of_le_of_lt hle h)
      rw [if_neg hlt, if_neg this]
      rfl

namespace Memory

variable {s s' : Memory} {now now' : Time} {t u : String}

theorem entries_of_bind {g : Entry → Option Entry}
    (h : (s'.lookup u).bind (entry now') = ((s.lookup u).bind (entry now)).bind g) :
    entries s' now' u = (entries s now u).filterMap g := by
  rw [entries, entries, h]
  cases (s.lookup u).bind (entry now) with
  | none => rfl
  | some e => cases hg : g e <;> simp [hg]

end Memory

namespace Table

/-- Active rows have no deadline, disconnecting rows have one. -/
def Clean (s : Table) : Prop :=
  ∀ row ∈ s, (row.status = .active → row.session.resumeDeadline = none) ∧
    (row.status = .disconnecting → row.session.resumeDeadline ≠ none)

theorem entries_update {s : Table} {p : TunnelSessionModel → Bool} {f : TunnelSessionModel → TunnelSessionModel}
    {now now' : Time} {t : String} (g : Entry → Option Entry)
    (hid : ∀ row, (f row).session.tunnelID = row.session.tunnelID)
    (hg : ∀ row ∈ s, row.session.tunnelID = t →
      rowEntry now' (if p row then f row else row) = (rowEntry now row).bind g) :
    entries (update s p f).1 now' t = (entries s now t).filterMap g := by
  simp only [entries, update, List.filterMap_filterMap, List.filterMap_map]
  refine List.filterMap_congr fun row hrow => ?_
  have ht : (if p row then f row else row).session.tunnelID = row.session.tunnelID := by
    split
    · exact hid row
    · rfl
  simp only [Function.comp, ht]
  split
  · rename_i h
    exact hg row hrow h
  · rfl

theorem Clean.row_cases {s : Table} (hc : Clean s) {row : TunnelSessionModel} (hrow : row ∈ s) (now : Time) :
    (row.status = .active ∧ rowEntry now row = some ⟨key row.session, .active row.session.lastHeartbeat⟩) ∨
      (row.status ≠ .active ∧ ∀ e, rowEntry now row = some e → e.isActive = false) := by
  obtain ⟨hact, hdis⟩ := hc row hrow
  cases hs : row.status with
  | active => exact .inl ⟨rfl, by simp only [rowEntry, hs, entry_active (hact hs)]⟩
  | disconnecting =>
    refine .inr ⟨by simp, fun e he => ?_⟩
    simp only [rowEntry, hs] at he
    rcases entry_eq_some he with ⟨hn, -⟩ | ⟨deadline, -, -, rfl⟩
    · exact absurd hn (hdis hs)
    · rfl
  | closed => exact .inr ⟨by simp, fun e he => by simp [rowEntry, hs] at he⟩
  | expired => exact .inr ⟨by simp, fun e he => by simp [rowEntry, hs] at he⟩

theorem Clean.entries_update {s : Table} {p : TunnelSessionModel → Bool} {f : TunnelSessionModel → TunnelSessionModel}
    {now : Time} {u : String} {g : Entry → Option Entry} (hc : Clean s)
    (hp : ∀ row, p row = true → row.status = .active)
    (hid : ∀ row, (f row).session.tunnelID = row.session.tunnelID)
    (hother : ∀ e : Entry, e.isActive = false → g e = some e)
    (hg : ∀ row, row.session.tunnelID = u → row.status = .active → row.session.resumeDeadline = none →
      g ⟨key row.session, .active row.session.lastHeartbeat⟩ =
        if p row then rowEntry now (f row) else some ⟨key row.session, .active row.session.lastHeartbeat⟩) :
    entries (update s p f).1 now u = (entries s now u).filterMap g := by
  refine Table.entries_update g hid fun row hrow hu => ?_
  rcases hc.row_cases hrow now with ⟨hact, he⟩ | ⟨hact, he⟩
  · rw [he, Option.bind_some, hg row hu hact ((hc row hrow).1 hact)]
    split
    · rfl
    · exact he
  · rw [if_neg fun h => hact (hp row h)]
    cases hr : rowEntry now row with
    | none => rfl
    | some e => exact (hother e (he e hr)).symm

theorem Clean.update {s : Table} {p : TunnelSessionModel → Bool} {f : TunnelSessionModel → TunnelSessionModel}
    (hc : Clean s) (hf : ∀ row, row.status = .active → row.session.resumeDeadline = none →
      ((f row).status = .active → (f row).session.resumeDeadline = none) ∧
        ((f row).status = .disconnecting → (f row).session.resumeDeadline ≠ none))
    (hp : ∀ row, p row = true → row.status = .active) : Clean (update s p f).1 := by
  intro row hrow
  obtain ⟨old, hold, rfl⟩ := mem_update.1 hrow
  split
  · rename_i h
    exact hf old (hp old h) ((hc old hold).1 (hp old h))
  · exact hc old hold

theorem activeOf_active (t : String) (row : TunnelSessionModel) (h : activeOf t row = true) : row.status = .active :=
  (status_of_activeOf h).2

theorem activeOf_eq {t u : String} {row : TunnelSessionModel} (hu : row.session.tunnelID = u)
    (ha : row.status = .active) : activeOf t row = decide (u = t) := by
  simp [activeOf, hu, ha]

end Table

/-! ## The same effect in both stores -/

theorem lt_cutoff_iff (now lastHeartbeat ttl : Int) : lastHeartbeat < now - ttl ↔ now - lastHeartbeat > ttl := by
  omega

theorem effect_of_suspended {now : Time} {call : Call} {u : String} {e : Entry} (hadv : ∀ d, call ≠ .advance d)
    (he : e.isActive = false) : effect now call u e = some e := by
  obtain ⟨k, life⟩ := e
  cases life with
  | active => cases he
  | suspended token deadline =>
    cases call with
    | advance d => exact absurd rfl (hadv d)
    | _ => rfl

/-- The calls that leave both stores as they are. -/
def Call.reads : Call → Bool
  | .get _ | .list | .getResumable _ => true
  | _ => false

theorem effect_of_read {now : Time} {call : Call} {u : String} (hc : call.reads = true) :
    effect now call u = some := by
  funext e
  obtain ⟨k, life⟩ := e
  cases call with
  | get | list | getResumable => cases life <;> rfl
  | _ => cases hc

namespace Table

variable {s : Table} {now : Time} {u : String}

theorem entries_advance (s : Table) (now : Time) (d : Nat) (u : String) :
    entries s (now + d) u = (entries s now u).filterMap (effect now (.advance d) u) := by
  simp only [entries, List.filterMap_filterMap]
  refine List.filterMap_congr fun row _ => ?_
  split
  · unfold rowEntry
    split
    · exact entry_advance now d row.session u
    · exact entry_advance now d row.session u
    · rfl
    · rfl
  · rfl

theorem entries_answer (hc : Clean s) {call : Call} (hreg : call.registers = false)
    (hsize : ∀ t token deadline, call = .setResumable t token deadline → s.any (activeOf t) = true →
      token.length ≤ resumeTokenSize) :
    entries (s.answer now call).1 (call.after now) u = (entries s now u).filterMap (effect now call u) := by
  cases call with
  | register => cases hreg
  | get | list | getResumable => rw [effect_of_read rfl, List.filterMap_some]; rfl
  | advance d => exact entries_advance s now d u
  | deregister t =>
    simp only [answer, deregister_store, Call.after]
    refine hc.entries_update (activeOf_active t) (fun _ => rfl) (fun e => effect_of_suspended (by simp))
      fun row hu ha _ => ?_
    simp only [activeOf_eq hu ha, decide_eq_true_eq, effect]
    rfl
  | heartbeat t =>
    simp only [answer, heartbeat_store, Call.after]
    refine hc.entries_update (activeOf_active t) (fun _ => rfl) (fun e => effect_of_suspended (by simp))
      fun row hu ha hd => ?_
    simp only [activeOf_eq hu ha, decide_eq_true_eq, effect, rowEntry, ha, entry, hd]
    rfl
  | cleanupExpired ttl =>
    refine hc.entries_update (fun row h => ?_) (fun _ => rfl) (fun e => effect_of_suspended (by simp))
      fun row hu ha _ => ?_
    · rw [Bool.and_eq_true, decide_eq_true_eq] at h
      exact h.1
    · simp only [ha, decide_true, Bool.true_and, decide_eq_true_eq, effect]
      exact if_congr (lt_cutoff_iff ..).symm rfl rfl
  | setResumable t token deadline =>
    have hs : (s.answer now (.setResumable t token deadline)).1 = (update s (activeOf t) (stamp token deadline)).1 := by
      rw [← setResumable_store]
      simp only [answer, setResumableSized]
      split
      · rename_i h
        simp only [Bool.and_eq_true, decide_eq_true_eq] at h
        exact absurd (hsize t token deadline rfl h.1) (Nat.not_le.2 h.2)
      · rfl
    rw [hs]
    refine hc.entries_update (activeOf_active t) (fun _ => rfl) (fun e => effect_of_suspended (by simp))
      fun row hu ha _ => ?_
    simp only [activeOf_eq hu ha, decide_eq_true_eq, effect, Call.after]
    rfl

theorem clean_answer (hc : Clean s) (call : Call) : Clean (s.answer now call).1 := by
  cases call with
  | get | list | getResumable | advance => exact hc
  | register sess =>
    simp only [answer, registerSized, register]
    split
    · exact hc
    · split
      · exact hc
      · intro row hrow
        rcases List.mem_append.1 hrow with h | h
        · exact hc row h
        · rw [List.mem_singleton.1 h]
          exact ⟨fun _ => rfl, fun h => by cases h⟩
  | deregister t =>
    simp only [answer, deregister_store]
    exact hc.update (fun row _ _ => ⟨fun h => (by cases h), fun h => by cases h⟩) (activeOf_active t)
  | heartbeat t =>
    simp only [answer, heartbeat_store]
    exact hc.update (fun row ha hd => ⟨fun _ => hd, fun h => by rw [ha] at h; cases h⟩) (activeOf_active t)
  | cleanupExpired ttl =>
    refine hc.update (fun row _ _ => ⟨fun h => (by cases h), fun h => by cases h⟩) fun row h => ?_
    rw [Bool.and_eq_true, decide_eq_true_eq] at h
    exact h.1
  | setResumable t token deadline =>
    simp only [answer, setResumableSized]
    split
    · exact hc
    · rw [setResumable_store]
      exact hc.update (fun row _ _ => ⟨fun h => (by cases h), fun _ h => by cases h⟩) (activeOf_active t)

theorem entries_append (s : Table) (row : TunnelSessionModel) : entries (s ++ [row]) now u =
    entries s now u ++ if row.session.tunnelID = u then (rowEntry now row).toList else [] := by
  rw [entries, List.filterMap_append]
  congr 1
  by_cases h : row.session.tunnelID = u
  · cases he : rowEntry now row <;> simp [h, he]
  · simp [h]

theorem entries_register {sess : Session} (ht : sess.tunnelID ≠ "") (hfit : columnsFit sess = true) :
    entries (s.answer now (.register sess)).1 now u =
      entries s now u ++ if sess.tunnelID = u then [⟨key sess, .active now⟩] else [] := by
  simp only [answer, registerSized, hfit, Bool.not_true, Bool.and_false, Bool.false_eq_true, if_false, register, ht,
    entries_append]
  rfl

end Table

namespace Stores

variable {s : Stores} {call : Call} {t u : String}

theorem lookup_of_not_suspended (h : s.suspended t = false) :
    s.mem.lookup t = none ∨ ∃ sess, s.mem.lookup t = some sess ∧ sess.resumeDeadline = none := by
  unfold suspended at h
  cases hl : s.mem.lookup t with
  | none => exact .inl rfl
  | some sess =>
    rw [hl] at h
    exact .inr ⟨sess, rfl, by simpa using h⟩

theorem not_suspended_of_alike {token : String} {deadline : Time}
    (h : s.alike (.setResumable t token deadline) = true) :
    s.suspended t = false ∧ (s.mem.lookup t = none ∨ token.length ≤ Table.resumeTokenSize) := by
  simp only [alike, Bool.or_eq_true, Bool.and_eq_true, Bool.not_eq_true', Option.isNone_iff_eq_none,
    decide_eq_true_eq] at h
  rcases h with hl | h
  · exact ⟨by simp [suspended, hl], .inl hl⟩
  · exact ⟨h.1.1, .inr h.1.2⟩

theorem effect_other (now : Time) (hne : u ≠ t) (token : String) (deadline : Time) :
    effect now (.deregister t) u = some ∧ effect now (.heartbeat t) u = some ∧
      effect now (.setResumable t token deadline) u = some := by
  refine ⟨?_, ?_, ?_⟩ <;>
  · funext e
    obtain ⟨k, life⟩ := e
    cases life <;> simp [effect, hne]

theorem mem_entries_change {s' : Memory} {g : String → Entry → Option Entry} (h : s.suspended t = false)
    (hother : ∀ u, u ≠ t → s'.lookup u = s.mem.lookup u ∧ g u = some)
    (hnone : s.mem.lookup t = none → s'.lookup t = none)
    (hsome : ∀ sess, s.mem.lookup t = some sess → sess.resumeDeadline = none →
      (s'.lookup t).bind (entry s.now) = g t ⟨key sess, .active sess.lastHeartbeat⟩) :
    s'.entries s.now u = (s.mem.entries s.now u).filterMap (g u) := by
  refine Memory.entries_of_bind ?_
  by_cases hu : u = t
  · subst hu
    rcases lookup_of_not_suspended h with hl | ⟨sess, hl, hd⟩
    · rw [hl, hnone hl]
      rfl
    · rw [hsome sess hl hd, hl, Option.bind_some, entry_active hd, Option.bind_some]
  · rw [(hother u hu).1, (hother u hu).2, Option.bind_fun_some]

theorem mem_entries_cleanup {ttl : Duration} (h : s.alike (.cleanupExpired ttl) = true) :
    (s.mem.cleanupExpired s.now ttl).1.entries s.now u =
      (s.mem.entries s.now u).filterMap (effect s.now (.cleanupExpired ttl) u) := by
  refine Memory.entries_of_bind ?_
  simp only [Memory.cleanupExpired, GoMap.lookup_filter]
  cases hl : s.mem.lookup u with
  | none => rfl
  | some sess =>
    cases hd : sess.resumeDeadline with
    | none =>
      rw [Option.bind_some, entry_active hd]
      by_cases hexp : s.now - sess.lastHeartbeat > ttl
      · simp [Option.filter, Memory.isExpired, effect, hexp]
      · simp [Option.filter, Memory.isExpired, effect, hexp, entry_active hd]
    | some deadline =>
      simp only [alike, decide_eq_true_eq, GoMap.values_eq_nil_iff] at h
      have hspare := h u sess hl
      rw [hd, Option.any_some, Bool.and_eq_false_iff, decide_eq_false_iff_not] at hspare
      rw [Option.bind_some, entry_suspended hd]
      rcases hspare with hexp | hpast
      · simp only [Option.filter, hexp, Bool.not_false, if_true, Option.bind_some, entry_suspended hd]
        split <;> rfl
      · rw [if_neg hpast]
        cases hexp : Memory.isExpired sess s.now ttl with
        | true => simp [Option.filter, hexp]
        | false => simp [Option.filter, hexp, entry_suspended hd, hpast]

theorem mem_entries_answer (h : s.alike call = true) (hreg : call.registers = false) :
    (s.mem.answer s.now call).1.entries (call.after s.now) u =
      (s.mem.entries s.now u).filterMap (effect s.now call u) := by
  cases call with
  | register => cases hreg
  | get | list | getResumable => rw [effect_of_read rfl, List.filterMap_some]; rfl
  | advance d =>
    refine Memory.entries_of_bind ?_
    cases hl : s.mem.lookup u with
    | none => simp [Memory.answer, hl]
    | some sess => simpa [Memory.answer, hl, Call.after] using entry_advance s.now d sess u
  | cleanupExpired ttl => exact mem_entries_cleanup h
  | deregister t =>
    refine mem_entries_change (t := t) (by simpa [alike] using h) (fun v hv => ?_) (fun hl => ?_) fun sess hl hd => ?_
    · refine ⟨?_, (effect_other s.now hv "" 0).1⟩
      simp only [Memory.answer, Memory.deregister]
      split <;> simp [hv]
    · simp [Memory.answer, Memory.deregister, hl]
    · simp [Memory.answer, Memory.deregister, hl, effect]
  | heartbeat t =>
    refine mem_entries_change (t := t) (by simpa [alike] using h) (fun v hv => ?_) (fun hl => ?_) fun sess hl hd => ?_
    · refine ⟨?_, (effect_other s.now hv "" 0).2.1⟩
      simp only [Memory.answer, Memory.heartbeat]
      split <;> simp [hv]
    · simp [Memory.answer, Memory.heartbeat, hl]
    · simp [Memory.answer, Memory.heartbeat, hl, effect, entry, hd, key]
  | setResumable t token deadline =>
    refine mem_entries_change (not_suspended_of_alike h).1 (fun v hv => ?_) (fun hl => ?_) fun sess hl hd => ?_
    · refine ⟨?_, (effect_other s.now hv token deadline).2.2⟩
      simp only [Memory.answer, Memory.setResumable]
      split <;> simp [hv]
    · simp [Memory.answer, Memory.setResumable, hl]
    · simp [Memory.answer, Memory.setResumable, hl, effect, entry, key]

theorem mem_entries_register {sess : Session} (h : s.alike (.register sess) = true) (ht : sess.tunnelID ≠ "") :
    (s.mem.answer s.now (.register sess)).1.entries s.now u =
      s.mem.entries s.now u ++ if sess.tunnelID = u then [⟨key sess, .active s.now⟩] else [] := by
  simp only [alike, ht, decide_false, Bool.false_or, Bool.and_eq_true, Bool.or_eq_true, decide_eq_true_eq,
    Option.isNone_iff_eq_none] at h
  obtain ⟨⟨⟨hl, -⟩, hbeat⟩, hd⟩ := h
  have hnow : (if sess.lastHeartbeat = 0 then s.now else sess.lastHeartbeat) = s.now := by
    rcases hbeat with hb | hb
    · rw [if_pos hb]
    · rw [hb, ite_self]
  simp only [Memory.answer, Memory.register, ht, if_false, hl, hnow]
  by_cases hu : u = sess.tunnelID
  · subst hu
    simp [Memory.entries, hl, entry, hd, key]
  · simp [Memory.entries, hu, Ne.symm hu]

/-! ## The simulation -/

/-- Both stores show the same entries, and no two of them have a token in common. -/
structure Sim (s : Stores) : Prop where
  view : ∀ u, s.mem.entries s.now u = s.pg.entries s.now u
  keyed : ∀ t sess, s.mem.lookup t = some sess → sess.tunnelID = t
  clean : s.pg.Clean
  unique : ∀ token u u' e e', token ≠ "" → e ∈ s.mem.entries s.now u → e' ∈ s.mem.entries s.now u' →
    e.isSuspended token = true → e'.isSuspended token = true → e = e'

theorem sim_empty (start : Time) : Sim ⟨start, ∅, []⟩ := by
  refine ⟨fun u => rfl, fun t sess h => ?_, fun row h => ?_, fun token u u' e e' _ h => ?_⟩
  · simp at h
  · cases h
  · simp [Memory.entries] at h

theorem mem_entries_iff {e : Entry} : e ∈ s.mem.entries s.now u ↔ ∃ sess, s.mem.lookup u = some sess ∧
    entry s.now sess = some e := by
  rw [Memory.entries, Option.mem_toList, Option.bind_eq_some_iff]

theorem isSome_lookup (h : s.suspended t = false) :
    (s.mem.lookup t).isSome = (s.mem.entries s.now t).any Entry.isActive := by
  rcases lookup_of_not_suspended h with hl | ⟨sess, hl, hd⟩
  · simp [Memory.entries, hl]
  · simp [Memory.entries, hl, entry_active hd, Entry.isActive]

end Stores

namespace Table

variable {s : Table} {now : Time} {t : String}

theorem find_activeOf (hc : Clean s) (now : Time) (t : String) :
    (s.find? (activeOf t)).map (fun row => key row.session) =
      ((entries s now t).find? Entry.isActive).map Entry.key := by
  induction s with
  | nil => rfl
  | cons row s ih =>
    have ih := ih fun row hrow => hc row (by simp [hrow])
    have hcons : entries (row :: s) now t =
        (if row.session.tunnelID = t then (rowEntry now row).toList else []) ++ entries s now t := by
      simp only [entries, List.filterMap_cons]
      by_cases ht : row.session.tunnelID = t
      · cases hr : rowEntry now row <;> simp [ht]
      · simp [ht]
    rw [hcons, List.find?_cons]
    by_cases ht : row.session.tunnelID = t
    · rcases hc.row_cases List.mem_cons_self now with ⟨hact, he⟩ | ⟨hact, he⟩
      · simp [activeOf, ht, hact, he, show Entry.isActive ⟨_, .active _⟩ = true from rfl]
      · have hnot : activeOf t row = false := by simp [activeOf, hact]
        rw [hnot, if_pos ht]
        cases hr : rowEntry now row with
        | none => simpa using ih
        | some e => simpa [he e hr] using ih
    · have hnot : activeOf t row = false := by simp [activeOf, ht]
      rw [hnot, if_neg ht]
      exact ih

theorem any_activeOf (hc : Clean s) : s.any (activeOf t) = (entries s now t).any Entry.isActive := by
  have h := congrArg Option.isSome (find_activeOf hc now t)
  rw [Option.isSome_map, Option.isSome_map, Bool.eq_iff_iff, List.find?_isSome, List.find?_isSome] at h
  rwa [Bool.eq_iff_iff, List.any_eq_true, List.any_eq_true]

theorem toBool_of_count {p : TunnelSessionModel → Bool} {e : String} {r : Except String Unit}
    (h : r = if s.countP p = 0 then .error e else .ok ()) : r.toBool = s.any p := by
  rw [h]
  by_cases h0 : s.countP p = 0
  · have hany : s.any p = false := List.any_eq_false.2 fun row hrow => List.countP_eq_zero.1 h0 row hrow
    rw [if_pos h0, hany]
    rfl
  · rw [if_neg h0]
    rw [← ne_eq, ← Nat.pos_iff_ne_zero, List.countP_pos_iff] at h0
    exact (List.any_eq_true.2 h0).symm

theorem deregister_toBool (s : Table) (t : String) : (s.deregister t).2.toBool = s.any (activeOf t) := by
  refine toBool_of_count (e := "tunnel " ++ t ++ " not found") ?_
  unfold deregister
  split <;> simp_all [update]

theorem heartbeat_toBool (s : Table) (t : String) : (s.heartbeat now t).2.toBool = s.any (activeOf t) := by
  refine toBool_of_count (e := "tunnel " ++ t ++ " not found") ?_
  unfold heartbeat
  split <;> simp_all [update]

theorem setResumable_toBool (s : Table) (t token : String) (deadline : Time) :
    (s.setResumable t token deadline).2.toBool = s.any (activeOf t) := by
  refine toBool_of_count (e := "session " ++ t ++ " not found or not active") ?_
  unfold setResumable
  split <;> simp_all [update]

theorem entry_of_resumable (hc : Clean s) {row : TunnelSessionModel} (hrow : row ∈ s) {token : String}
    (h : resumable token now row = true) :
    ∃ e ∈ entries s now row.session.tunnelID, e.key = key row.session ∧ e.isSuspended token = true := by
  simp only [resumable, Bool.and_eq_true, Bool.or_eq_true, decide_eq_true_eq, Option.any_eq_true] at h
  obtain ⟨⟨htok, deadline, hd, hlt⟩, hst⟩ := h
  have hstatus : row.status = .disconnecting := by
    refine hst.resolve_left fun ha => ?_
    rw [(hc row hrow).1 ha] at hd
    cases hd
  refine ⟨⟨key row.session, .suspended token deadline⟩, ?_, rfl, by simp [Entry.isSuspended]⟩
  refine List.mem_filterMap.2 ⟨row, hrow, ?_⟩
  rw [if_pos rfl]
  simp only [rowEntry, hstatus, entry_suspended hd, if_pos hlt, htok]

theorem resumable_of_entry {token : String} {e : Entry} (he : e ∈ entries s now t) (h : e.isSuspended token = true) :
    ∃ row ∈ s, resumable token now row = true := by
  obtain ⟨row, hrow, hr⟩ := List.mem_filterMap.1 he
  refine ⟨row, hrow, ?_⟩
  split at hr
  · have hst : row.status = .active ∨ row.status = .disconnecting := by
      cases hs : row.status <;> simp_all [rowEntry]
    have hent : entry now row.session = some e := by
      rcases hst with hs | hs <;> simpa only [rowEntry, hs] using hr
    rcases entry_eq_some hent with ⟨-, rfl⟩ | ⟨deadline, hd, hlt, rfl⟩
    · cases h
    · simp only [Entry.isSuspended, decide_eq_true_eq] at h
      simp [resumable, h, hd, hlt, hst]
  · cases hr

end Table

namespace Stores

variable {s : Stores} {call : Call} {t u : String}

/-! ## The answers -/

theorem Sim.any_active (h : Sim s) : s.pg.any (Table.activeOf t) = (s.mem.entries s.now t).any Entry.isActive := by
  rw [Table.any_activeOf h.clean, h.view]

theorem Sim.agree_success (h : Sim s) (hs : s.suspended t = false) :
    (Answer.success (s.mem.lookup t).isSome).agrees (.success (s.pg.any (Table.activeOf t))) = true := by
  rw [isSome_lookup hs, h.any_active]
  simp [Answer.agrees]

theorem Sim.agree_get (h : Sim s) (hs : s.suspended t = false) : s.Agree (.get t) := by
  have hpg : found (s.pg.get t) = .session (((s.pg.entries s.now t).find? Entry.isActive).map Entry.key) := by
    rw [← Table.find_activeOf h.clean]
    unfold Table.get found
    cases s.pg.find? (Table.activeOf t) <;> rfl
  have hmem : found (s.mem.get t) = .session (((s.mem.entries s.now t).find? Entry.isActive).map Entry.key) := by
    rcases lookup_of_not_suspended hs with hl | ⟨sess, hl, hd⟩
    · simp [Memory.get, hl, found, Memory.entries, Except.toOption]
    · simp [Memory.get, hl, found, Memory.entries, Except.toOption, entry_active hd,
        show Entry.isActive ⟨_, .active _⟩ = true from rfl]
  simp only [Agree, Memory.answer, Table.answer, hpg, hmem, h.view, Answer.agrees, decide_true]

theorem Sim.agree_list (h : Sim s) (hs : s.alike .list = true) : s.Agree .list := by
  simp only [alike, decide_eq_true_eq, GoMap.values_eq_nil_iff] at hs
  have hsus : ∀ t, s.suspended t = false := by
    intro t
    unfold suspended
    cases hl : s.mem.lookup t with
    | none => rfl
    | some sess => exact hs t sess hl
  have hmem : ∀ t, t ∈ s.mem.list.map (·.tunnelID) ↔ (s.mem.lookup t).isSome = true := by
    intro t
    simp only [List.mem_map, Memory.list, GoMap.mem_values_iff, and_true, Option.isSome_iff_exists]
    constructor
    · rintro ⟨sess, ⟨k, hl⟩, rfl⟩
      exact ⟨sess, h.keyed k sess hl ▸ hl⟩
    · rintro ⟨sess, hl⟩
      exact ⟨sess, ⟨t, hl⟩, h.keyed t sess hl⟩
  have hpg : ∀ t, t ∈ s.pg.list.map (·.tunnelID) ↔ s.pg.any (Table.activeOf t) = true := by
    intro t
    simp only [Table.list, List.map_map, List.mem_map, List.mem_filter, List.any_eq_true, Table.activeOf,
      Bool.and_eq_true, decide_eq_true_eq, Function.comp, Table.toSession]
    constructor
    · rintro ⟨row, ⟨hrow, ha⟩, ht⟩
      exact ⟨row, hrow, ht, ha⟩
    · rintro ⟨row, hrow, ht, ha⟩
      exact ⟨row, ⟨hrow, ha⟩, ht⟩
  have hiff : ∀ t, t ∈ s.mem.list.map (·.tunnelID) ↔ t ∈ s.pg.list.map (·.tunnelID) := by
    intro t
    rw [hmem, hpg, isSome_lookup (hsus t), h.any_active]
  simp only [Agree, Memory.answer, Table.answer, Answer.agrees, Bool.and_eq_true, List.all_eq_true, decide_eq_true_eq]
  exact ⟨fun t ht => (hiff t).1 ht, fun t ht => (hiff t).2 ht⟩

theorem mem_entry_of_resumable {k token : String} {sess : Session} (hl : s.mem.lookup k = some sess)
    (h : Memory.resumable token s.now sess = true) :
    ∃ e ∈ s.mem.entries s.now k, e.key = key sess ∧ e.isSuspended token = true := by
  simp only [Memory.resumable, Bool.and_eq_true, decide_eq_true_eq, Option.any_eq_true] at h
  obtain ⟨htok, deadline, hd, hlt⟩ := h
  refine ⟨⟨key sess, .suspended token deadline⟩, mem_entries_iff.2 ⟨sess, hl, ?_⟩, rfl, by simp [Entry.isSuspended]⟩
  rw [entry_suspended hd, if_pos hlt, htok]

theorem mem_resumable_of_entry {k token : String} {e : Entry} (he : e ∈ s.mem.entries s.now k)
    (h : e.isSuspended token = true) :
    ∃ sess, s.mem.lookup k = some sess ∧ Memory.resumable token s.now sess = true := by
  obtain ⟨sess, hl, hent⟩ := mem_entries_iff.1 he
  refine ⟨sess, hl, ?_⟩
  rcases entry_eq_some hent with ⟨-, rfl⟩ | ⟨deadline, hd, hlt, rfl⟩
  · cases h
  · simp only [Entry.isSuspended, decide_eq_true_eq] at h
    simp [Memory.resumable, h, hd, hlt]

theorem Sim.agree_getResumable (h : Sim s) (token : String) : s.Agree (.getResumable token) := by
  suffices hf : found (s.mem.getResumable s.now token) = found (s.pg.getResumable s.now token) by
    simp only [found, Answer.session.injEq] at hf
    simp only [Agree, Memory.answer, Table.answer, found, Answer.agrees, decide_eq_true_eq]
    exact hf
  unfold Memory.getResumable Table.getResumable
  by_cases htok : token = ""
  · rw [if_pos htok, if_pos htok]
  rw [if_neg htok, if_neg htok]
  cases hv : GoMap.values (fun _ sess => Memory.resumable token s.now sess) s.mem with
  | nil =>
    have hnone : s.pg.find? (Table.resumable token s.now) = none := by
      refine List.find?_eq_none.2 fun row hrow hr => ?_
      obtain ⟨e, he, -, hsus⟩ := Table.entry_of_resumable h.clean hrow hr
      rw [← h.view] at he
      obtain ⟨sess, hl, hres⟩ := mem_resumable_of_entry he hsus
      rw [(GoMap.values_eq_nil_iff _ _).1 hv _ sess hl] at hres
      cases hres
    rw [hnone]
  | cons sess rest =>
    have hm : sess ∈ GoMap.values (fun _ sess => Memory.resumable token s.now sess) s.mem := by simp [hv]
    obtain ⟨k, hl, hres⟩ := (GoMap.mem_values_iff _ _ _).1 hm
    obtain ⟨e, he, hkey, hsus⟩ := mem_entry_of_resumable hl hres
    cases hf : s.pg.find? (Table.resumable token s.now) with
    | none =>
      rw [h.view] at he
      obtain ⟨row, hrow, hr⟩ := Table.resumable_of_entry he hsus
      exact absurd hr (List.find?_eq_none.1 hf row hrow)
    | some row =>
      obtain ⟨e', he', hkey', hsus'⟩ := Table.entry_of_resumable h.clean (List.mem_of_find?_eq_some hf)
        (List.find?_some hf)
      rw [← h.view] at he'
      have := h.unique token k _ e e' htok he he' hsus hsus'
      subst this
      simp only [found, Except.toOption, Option.map_some, ← hkey, ← hkey']

theorem mem_toBool (s : Memory) (now : Time) (t token : String) (deadline : Time) :
    (s.deregister t).2.toBool = (s.lookup t).isSome ∧ (s.heartbeat now t).2.toBool = (s.lookup t).isSome ∧
      (s.setResumable t token deadline).2.toBool = (s.lookup t).isSome := by
  unfold Memory.deregister Memory.heartbeat Memory.setResumable
  cases s.lookup t with
  | none => exact ⟨rfl, rfl, rfl⟩
  | some sess => exact ⟨rfl, rfl, rfl⟩

/-- A row found active belongs to a session, so the token fits. -/
theorem Sim.token_fits (h : Sim s) {token : String} {deadline : Time}
    (ha : s.alike (.setResumable t token deadline) = true) (hact : s.pg.any (Table.activeOf t) = true) :
    token.length ≤ Table.resumeTokenSize := by
  obtain ⟨hsus, hl | hfit⟩ := not_suspended_of_alike ha
  · rw [h.any_active, ← isSome_lookup hsus, hl] at hact
    cases hact
  · exact hfit

theorem Sim.setResumableSized_eq (h : Sim s) {token : String} {deadline : Time}
    (ha : s.alike (.setResumable t token deadline) = true) :
    s.pg.setResumableSized t token deadline = s.pg.setResumable t token deadline := by
  unfold Table.setResumableSized
  split
  · rename_i hc
    simp only [Bool.and_eq_true, decide_eq_true_eq] at hc
    exact absurd (h.token_fits ha hc.1) (Nat.not_le.2 hc.2)
  · rfl

theorem Sim.agree_register {sess : Session} (ha : s.alike (.register sess) = true) : s.Agree (.register sess) := by
  by_cases ht : sess.tunnelID = ""
  · simp [Agree, Memory.answer, Table.answer, Memory.register, Table.registerSized, Table.register, ht, Answer.agrees]
  · simp only [alike, ht, decide_false, Bool.false_or, Bool.and_eq_true, Option.isNone_iff_eq_none] at ha
    simp [Agree, Memory.answer, Table.answer, Memory.register, Table.registerSized, Table.register, ht, ha.1.1.1,
      ha.1.1.2, Answer.agrees]
    rfl

/-- While the stores show the same entries, a call that does not tell them apart has one outcome. -/
theorem Sim.agree (h : Sim s) (ha : s.alike call = true) : s.Agree call := by
  cases call with
  | get t => exact h.agree_get (by simpa [alike] using ha)
  | list => exact h.agree_list ha
  | getResumable token => exact h.agree_getResumable token
  | cleanupExpired ttl => rfl
  | advance d => rfl
  | register sess => exact agree_register ha
  | deregister t =>
    simp only [Agree, Memory.answer, Table.answer, (mem_toBool s.mem s.now t "" 0).1, Table.deregister_toBool]
    exact h.agree_success (by simpa [alike] using ha)
  | heartbeat t =>
    simp only [Agree, Memory.answer, Table.answer, (mem_toBool s.mem s.now t "" 0).2.1, Table.heartbeat_toBool]
    exact h.agree_success (by simpa [alike] using ha)
  | setResumable t token deadline =>
    simp only [Agree, Memory.answer, Table.answer, (mem_toBool s.mem s.now t token deadline).2.2,
      h.setResumableSized_eq ha, Table.setResumable_toBool]
    exact h.agree_success (not_suspended_of_alike ha).1

/-! ## The simulation goes on -/

theorem Sim.view_next (h : Sim s) (ha : s.alike call = true) (u : String) :
    (s.next call).mem.entries (s.next call).now u = (s.next call).pg.entries (s.next call).now u := by
  cases hreg : call.registers with
  | false =>
    rw [next, mem_entries_answer ha hreg, h.view, Table.entries_answer h.clean hreg]
    rintro t token deadline rfl hact
    exact h.token_fits ha hact
  | true =>
    cases call with
    | register sess =>
      by_cases ht : sess.tunnelID = ""
      · simpa [next, Memory.answer, Table.answer, Memory.register, Table.registerSized, Table.register, ht,
          Call.after] using h.view u
      · have hfit : Table.columnsFit sess = true := by
          simp only [alike, ht, decide_false, Bool.false_or, Bool.and_eq_true] at ha
          exact ha.1.1.2
        change (s.mem.answer s.now (.register sess)).1.entries s.now u =
          (s.pg.answer s.now (.register sess)).1.entries s.now u
        rw [mem_entries_register ha ht, Table.entries_register ht hfit, h.view]
    | _ => cases hreg

theorem keyed_replace {m : Memory} (hk : ∀ t sess, m.lookup t = some sess → sess.tunnelID = t) {t' : String}
    {old new : Session} (hold : m.lookup t' = some old) (hid : new.tunnelID = old.tunnelID) {t : String}
    {sess : Session} (h : (m.insert t' new).lookup t = some sess) : sess.tunnelID = t := by
  rw [GoMap.lookup_insert_ite] at h
  split at h
  · rename_i he
    cases h
    rw [he, hid]
    exact hk t' old hold
  · exact hk t sess h

theorem keyed_answer (hk : ∀ t sess, s.mem.lookup t = some sess → sess.tunnelID = t) (call : Call) (t : String)
    (sess : Session) (h : (s.mem.answer s.now call).1.lookup t = some sess) : sess.tunnelID = t := by
  cases call with
  | get | list | getResumable | advance => exact hk t sess h
  | cleanupExpired ttl =>
    simp only [Memory.answer, Memory.cleanupExpired, GoMap.lookup_filter, Option.filter_eq_some_iff] at h
    exact hk t sess h.1
  | register new =>
    simp only [Memory.answer, Memory.register] at h
    split at h
    · exact hk t sess h
    · split at h
      · exact hk t sess h
      · rw [GoMap.lookup_insert_ite] at h
        split at h
        · cases h
          exact Eq.symm ‹_›
        · exact hk t sess h
  | deregister t' =>
    simp only [Memory.answer, Memory.deregister] at h
    split at h
    · exact hk t sess h
    · rw [GoMap.lookup_erase_ite] at h
      split at h
      · cases h
      · exact hk t sess h
  | heartbeat t' =>
    simp only [Memory.answer, Memory.heartbeat] at h
    split at h
    · exact hk t sess h
    · rename_i old hold
      refine keyed_replace hk hold ?_ h
      rfl
  | setResumable t' token deadline =>
    simp only [Memory.answer, Memory.setResumable] at h
    split at h
    · exact hk t sess h
    · rename_i old hold
      refine keyed_replace hk hold ?_ h
      rfl

theorem effect_isSuspended {now : Time} {e e' : Entry} {token : String} (h : effect now call u e = some e')
    (hs : e'.isSuspended token = true) : e = e' ∨ ∃ deadline, call = .setResumable u token deadline := by
  obtain ⟨k, life⟩ := e
  cases life with
  | suspended token' deadline' =>
    left
    cases call with
    | advance d =>
      simp only [effect] at h
      split at h
      · exact Option.some.inj h
      · cases h
    | _ => exact Option.some.inj h
  | active hb =>
    cases call with
    | setResumable t token' deadline =>
      simp only [effect] at h
      split at h
      · rename_i hu
        split at h
        · cases h
          simp only [Entry.isSuspended, decide_eq_true_eq] at hs
          exact .inr ⟨deadline, by rw [hu, hs]⟩
        · cases h
      · exact .inl (Option.some.inj h)
    | deregister t | cleanupExpired ttl =>
      simp only [effect] at h
      split at h
      · cases h
      · exact .inl (Option.some.inj h)
    | heartbeat t =>
      simp only [effect] at h
      split at h
      · cases h
        cases hs
      · exact .inl (Option.some.inj h)
    | _ => exact .inl (Option.some.inj h)

theorem suspended_next {e : Entry} {token : String} (ha : s.alike call = true)
    (he : e ∈ (s.next call).mem.entries (s.next call).now u) (hs : e.isSuspended token = true) :
    e ∈ s.mem.entries s.now u ∨ ∃ deadline e₀, call = .setResumable u token deadline ∧
      e₀ ∈ s.mem.entries s.now u ∧ effect s.now call u e₀ = some e := by
  cases hreg : call.registers with
  | false =>
    rw [next, mem_entries_answer ha hreg] at he
    obtain ⟨e₀, he₀, heff⟩ := List.mem_filterMap.1 he
    rcases effect_isSuspended heff hs with rfl | ⟨deadline, hcall⟩
    · exact .inl he₀
    · exact .inr ⟨deadline, e₀, hcall, he₀, heff⟩
  | true =>
    cases call with
    | register sess =>
      left
      by_cases ht : sess.tunnelID = ""
      · simpa [next, Memory.answer, Memory.register, ht, Call.after] using he
      · change e ∈ (s.mem.answer s.now (.register sess)).1.entries s.now u at he
        rw [mem_entries_register ha ht, List.mem_append] at he
        refine he.resolve_right fun hnew => ?_
        split at hnew
        · rw [List.mem_singleton.1 hnew] at hs
          cases hs
        · cases hnew
    | _ => cases hreg

theorem Sim.unique_next (h : Sim s) (ha : s.alike call = true) (token u u' : String) (e e' : Entry)
    (htok : token ≠ "") (he : e ∈ (s.next call).mem.entries (s.next call).now u)
    (he' : e' ∈ (s.next call).mem.entries (s.next call).now u') (hs : e.isSuspended token = true)
    (hs' : e'.isSuspended token = true) : e = e' := by
  -- a token that is given now was on no entry before
  have hnew : ∀ v deadline, call = .setResumable v token deadline → ∀ v' x, x ∈ s.mem.entries s.now v' →
      x.isSuspended token = true → s.mem.entries s.now v = [] := by
    rintro v deadline rfl v' x hx hxs
    simp only [alike, Bool.or_eq_true, Bool.and_eq_true, Option.isNone_iff_eq_none, decide_eq_true_eq, htok,
      false_or, GoMap.values_eq_nil_iff] at ha
    rcases ha with hl | ha
    · simp [Memory.entries, hl]
    · obtain ⟨sess, hl, hres⟩ := mem_resumable_of_entry hx hxs
      rw [ha.2 v' sess hl] at hres
      cases hres
  rcases suspended_next ha he hs with hold | ⟨deadline, e₀, hcall, he₀, heff⟩
  · rcases suspended_next ha he' hs' with hold' | ⟨deadline, e₀, hcall, he₀, -⟩
    · exact h.unique token u u' e e' htok hold hold' hs hs'
    · rw [hnew u' deadline hcall u e hold hs] at he₀
      cases he₀
  · rcases suspended_next ha he' hs' with hold' | ⟨deadline', e₀', hcall', he₀', heff'⟩
    · rw [hnew u deadline hcall u' e' hold' hs'] at he₀
      cases he₀
    · obtain ⟨rfl, -⟩ : u = u' ∧ deadline = deadline' := by
        rw [hcall] at hcall'
        cases hcall'
        exact ⟨rfl, rfl⟩
      obtain ⟨sess, hl, hent⟩ := mem_entries_iff.1 he₀
      obtain ⟨sess', hl', hent'⟩ := mem_entries_iff.1 he₀'
      rw [hl] at hl'
      cases hl'
      rw [hent] at hent'
      cases hent'
      rw [heff] at heff'
      exact Option.some.inj heff'

theorem Sim.next (h : Sim s) (ha : s.alike call = true) : Sim (s.next call) :=
  ⟨h.view_next ha, keyed_answer h.keyed call, Table.clean_answer h.clean call, h.unique_next ha⟩

/-- In every sequence of calls none of which tells the stores apart, each call has the same outcome in both. -/
theorem stores_agree_along (start : Time) (calls : List Call)
    (h : Along Stores.next (fun s call => s.alike call = true) ⟨start, ∅, []⟩ calls) :
    Along Stores.next Stores.Agree ⟨start, ∅, []⟩ calls :=
  along_of_inv Sim (fun _ _ hs ha => ⟨hs.agree ha, hs.next ha⟩) (sim_empty start) h

/-- A session is registered, suspended, resumed, left to its deadline, cleaned up and registered again. -/
theorem stores_agree_suspend_resume :
    Along Stores.next Stores.Agree ⟨100, ∅, []⟩ [.register { tunnelID := "t", agentID := "a" }, .heartbeat "t", .list,
      .setResumable "t" "r" 130, .getResumable "r", .advance 60, .getResumable "r", .cleanupExpired 50,
      .register { tunnelID := "t", agentID := "a" }, .get "t"] :=
  stores_agree_along 100 _ (by decide +kernel)

/-- A tunnel that is registered twice: the map refuses it, the table takes a second row. -/
theorem second_register_disagrees : ¬ Along Stores.next Stores.Agree ⟨100, ∅, []⟩
    [.register { tunnelID := "t", agentID := "a" }, .register { tunnelID := "t", agentID := "a" }] := by
  decide +kernel

end Stores

end TunnelEdge.Store
