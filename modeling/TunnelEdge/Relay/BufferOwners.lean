import TunnelEdge.Relay.Bidirectional
/-!
# Each buffer has one owner

Who has a buffer of the pool in a run of `relayOneWay`: the reader, the queue or the
writer, and never two of them, nor one of them and the pool. A `Ledger` lists the buffers
that the relay takes and returns, so that a return can be matched with its take.
-/

namespace TunnelEdge.Relay

open GoLib

/-! ## Takes and returns -/

/-- The buffer that the next step of the goroutine gives to `releaseRelayBuffer`. -/
def ReaderPc.returning : ReaderPc → List Nat
  | .recycle buf _ | .stopped buf _ | .expired buf => [buf]
  | _ => []

def WriterPc.returning : WriterPc → List Nat
  | .release chunk _ => [chunk.buf]
  | _ => []

def Direction.returning (d : Direction) : Move → List Nat
  | .reader => d.reader.returning
  | .writer => d.writer.returning
  | _ => []

/-- The buffers that a move has taken from the pool, from where it leads to. -/
def Direction.taken (d' : Direction) : Move → List Nat
  | .get _ => d'.reader.held
  | _ => []

def Direction.inUse (d : Direction) : List RelayChunk := d.writer.chunk ++ d.chunks

structure Ledger where
  taken : List Nat := []
  returned : List Nat := []

def OneWay.returning (s : OneWay) : OneWayLabel → List Nat
  | .move m => s.dir.returning m
  | _ => []

def OneWay.taken (s' : OneWay) : OneWayLabel → List Nat
  | .move m => s'.dir.taken m
  | _ => []

def Ledger.note (s : OneWay) (l : OneWayLabel) (s' : OneWay) (g : Ledger) : Ledger :=
  { taken := s'.taken l ++ g.taken, returned := s.returning l ++ g.returned }

variable {opts : RelayOptions} {sh sh' : Shared} {d d' : Direction} {m : Move}

/-- What a move does to the pool: it takes one buffer, or puts back those it returns. -/
inductive PoolMove (p p' : BufferPool) : (taken returned : List Nat) → Prop
  | took {choice : Option Nat} {buf : Nat} (hg : p.get choice = some (p', buf)) : PoolMove p p' [buf] []
  | put {bufs : List Nat} (hf : p'.free = bufs ++ p.free) : PoolMove p p' [] bufs

theorem step_pool (hsize : opts.bufferSize = defaultRelayBufferSize) (h : d.Step opts sh m sh' d') :
    PoolMove sh.pool sh'.pool (d'.taken m) (d.returning m) := by
  have hput : ∀ buf, (releaseRelayBuffer opts sh.pool buf).free = buf :: sh.pool.free := by
    intro buf
    rw [releaseRelayBuffer, if_pos hsize]
    rfl
  cases h with
  | get hr hg => exact .took hg
  | recycle hr | dropStopped hr | dropExpired _ hr =>
    exact .put (by simp [Direction.returning, hr, ReaderPc.returning, hput])
  | release hw => exact .put (by simp [Direction.returning, hw, WriterPc.returning, hput])
  | observe hr | next hr | ended hr | close hr | reported hr =>
    exact .put (by simp [Direction.returning, hr, ReaderPc.returning])
  | account hw | writeFailed _ hw | closeWrite hw | writerReported hw =>
    exact .put (by simp [Direction.returning, hw, WriterPc.returning])
  | _ => exact .put rfl

theorem step_ledger (h : d.Step opts sh m sh' d') : (d'.taken m ++ d.held).Perm (d.returning m ++ d'.held) := by
  cases h with
  | get hr =>
    simp only [Direction.taken, Direction.returning, Direction.held, hr, ReaderPc.held, List.append_nil,
      List.nil_append]
    exact List.perm_append_comm
  | recycle hr | dropStopped hr | dropExpired _ hr =>
    simp only [Direction.taken, Direction.returning, Direction.held, hr, ReaderPc.held, ReaderPc.returning,
      List.append_nil, List.nil_append]
    exact List.perm_append_comm
  | release hw => simp [Direction.taken, Direction.returning, Direction.held, hw, WriterPc.held, WriterPc.returning]
  | data _ hr | noData _ hr | observe hr | send hr | expire hr | stop hr | next hr | ended hr | close hr
  | reported hr =>
    simp [Direction.taken, Direction.returning, Direction.held, hr, ReaderPc.held, ReaderPc.returning]
  | handoff hr hw hq =>
    simp [Direction.taken, Direction.returning, Direction.held, hr, hw, hq, ReaderPc.held, WriterPc.held]
  | recv hw hq => simp [Direction.taken, Direction.returning, Direction.held, hw, hq, WriterPc.held]
  | drained hw | cancelled hw | writePart hw | writeAll hw | writeErr _ hw | account hw | writeFailed _ hw
  | closeWrite hw | writerReported hw =>
    simp [Direction.taken, Direction.returning, Direction.held, hw, WriterPc.held, WriterPc.returning]

theorem step_inUse (h : d.Step opts sh m sh' d') (hne : d.returning m ≠ []) : d'.inUse = d.inUse := by
  cases h with
  | recycle hr | dropStopped hr | dropExpired _ hr => rfl
  | release hw => simp [Direction.inUse, hw, WriterPc.chunk]
  | observe hr | next hr | ended hr | close hr | reported hr =>
    exact absurd (by simp [Direction.returning, hr, ReaderPc.returning]) hne
  | account hw | writeFailed _ hw | closeWrite hw | writerReported hw =>
    exact absurd (by simp [Direction.returning, hw, WriterPc.returning]) hne
  | _ => exact absurd rfl hne

/-! ## How many -/

/-- The queue is a channel of capacity `q`. -/
structure Bounds (q : Nat) (sh : Shared) (d : Direction) : Prop where
  queue : d.chunks.length ≤ q
  depth : sh.stats.maxQueueDepth ≤ q + 1

theorem Bounds.step (hb : Bounds opts.queueSize sh d) (h : d.Step opts sh m sh' d') : Bounds opts.queueSize sh' d' := by
  obtain ⟨queue, depth⟩ := hb
  cases h with
  | send hr hq =>
    -- a send that does not find a waiting writer needs room in the channel
    refine ⟨?_, depth⟩
    rw [List.length_append, List.length_singleton]
    omega
  | recv hw hq =>
    refine ⟨?_, depth⟩
    rw [hq, List.length_cons] at queue
    exact Nat.le_of_succ_le queue
  | observe hr =>
    -- the chunk on offer counts as well, also in front of a full queue
    refine ⟨queue, ?_⟩
    unfold Stats.observeQueueDepth
    split
    · show d.chunks.length + 1 ≤ opts.queueSize + 1
      omega
    · exact depth
  | dropExpired stats hr hs => exact ⟨queue, by rw [hs]; exact depth⟩
  | writeFailed stats hw hs =>
    refine ⟨queue, ?_⟩
    rw [hs]
    split <;> exact depth
  | reported hr | writerReported hw => exact ⟨by simpa using queue, depth⟩
  | _ => exact ⟨queue, depth⟩

theorem ReaderPc.length_held (pc : ReaderPc) : pc.held.length ≤ 1 := by
  cases pc <;> simp [ReaderPc.held]

theorem WriterPc.length_held (pc : WriterPc) : pc.held.length ≤ 1 := by
  cases pc <;> simp [WriterPc.held]

theorem Bounds.length_held {q : Nat} (hb : Bounds q sh d) : d.held.length ≤ q + 2 := by
  have hr := d.reader.length_held
  have hw := d.writer.length_held
  have hq := hb.queue
  simp only [Direction.held, List.length_append, List.length_map]
  omega

/-! ## Every run -/

variable {s s' : OneWay} {l : OneWayLabel}

theorem OneWay.returning_of_not_move (hl : ∀ m, l ≠ .move m) : s.returning l = [] := by
  cases l with
  | move m => exact absurd rfl (hl m)
  | _ => rfl

theorem OneWay.taken_of_not_move (hl : ∀ m, l ≠ .move m) : s.taken l = [] := by
  cases l with
  | move m => exact absurd rfl (hl m)
  | _ => rfl

theorem OneWay.bounds_step (hb : Bounds opts.queueSize s.shared s.dir) (h : s.step opts l = some s') :
    Bounds opts.queueSize s'.shared s'.dir := by
  cases OneWay.stepped h with
  | move hm => exact hb.step hm
  | cancel e => exact ⟨hb.queue, hb.depth⟩
  | other hl hu => exact ⟨hb.queue, hb.depth⟩

theorem OneWay.ledger_step (h : s.step opts l = some s') :
    (s'.taken l ++ s.dir.held).Perm (s.returning l ++ s'.dir.held) := by
  cases OneWay.stepped h with
  | move hm => exact step_ledger hm
  | cancel e => exact .refl _
  | other hl hu =>
    rw [OneWay.returning_of_not_move hl, OneWay.taken_of_not_move hl]

structure Accounted (opts : RelayOptions) (s : OneWay × Ledger) : Prop where
  inv : s.1.dir.Inv s.1.others s.1.shared.pool
  bounds : Bounds opts.queueSize s.1.shared s.1.dir
  ledger : s.2.taken.Perm (s.2.returned ++ s.1.dir.held)

theorem Accounted.step {t t' : OneWay × Ledger} (ha : Accounted opts t)
    (h : tracked (OneWay.step opts) Ledger.note t l = some t') : Accounted opts t' := by
  obtain ⟨hst, hnote⟩ := tracked_some h
  refine ⟨OneWay.inv_step ha.inv hst, OneWay.bounds_step ha.bounds hst, ?_⟩
  rw [hnote]
  -- the new takes and what was held before turn into the new returns and what is held now
  calc List.Perm _ (t'.1.taken l ++ (t.2.returned ++ t.1.dir.held)) := ha.ledger.append_left _
    List.Perm _ (t.2.returned ++ (t'.1.taken l ++ t.1.dir.held)) := List.perm_append_comm_assoc ..
    List.Perm _ (t.2.returned ++ (t.1.returning l ++ t'.1.dir.held)) := (OneWay.ledger_step hst).append_left _
    List.Perm _ (t.1.returning l ++ (t.2.returned ++ t'.1.dir.held)) := List.perm_append_comm_assoc ..
    _ = t.1.returning l ++ t.2.returned ++ t'.1.dir.held := (List.append_assoc ..).symm

theorem accounted_start (opts : RelayOptions) {p : BufferPool} {others : List Nat} (ho : p.Owns others) :
    Accounted opts ({ shared := { pool := p }, others }, {}) :=
  ⟨inv_start ho, ⟨Nat.zero_le _, Nat.zero_le _⟩, .refl _⟩

theorem OneWay.returns_unused (ho : s.dir.Owned s.others s.shared.pool) (h : s.step opts l = some s') {buf : Nat}
    (hb : buf ∈ s.returning l) :
    buf ∈ s.dir.held ∧ buf ∉ s'.dir.held ∧ ∀ c ∈ s.dir.inUse ++ s'.dir.inUse, c.buf ≠ buf := by
  cases OneWay.stepped h with
  | cancel e => cases hb
  | other hl hu =>
    rw [OneWay.returning_of_not_move hl] at hb
    cases hb
  | @move m shared dir hm =>
    have hsame : dir.inUse = s.dir.inUse := step_inUse hm (List.ne_nil_of_mem hb)
    have htaken : dir.taken m = [] := by
      cases m with
      | get choice => cases hb
      | _ => rfl
    have hperm : s.dir.held.Perm (s.dir.returning m ++ dir.held) := by
      have := step_ledger hm
      rwa [htaken] at this
    have hnodup : (s.dir.returning m ++ dir.held).Nodup :=
      hperm.nodup_iff.1 (List.nodup_append.1 (List.nodup_append.1 ho.owns.nodup).2.1).2.1
    have hgone : buf ∉ dir.held := List.disjoint_of_nodup_append hnodup hb
    -- every chunk in use is in a buffer that is still held
    refine ⟨hperm.symm.subset (List.mem_append_left _ hb), hgone, ?_⟩
    rintro c hc rfl
    rw [hsame, List.mem_append, or_self, ← hsame] at hc
    exact hgone (onWay_held (List.mem_append_left _ hc))

/-- The relay keeps each buffer to one owner, whatever `src` and `dst` do and however
the goroutines interleave. A buffer has been returned as often as it was taken,
less one while it is held; it is held by one of reader, queue and writer, and not
by others nor free. A step that returns a buffer gives it up, and no chunk in it is
queued or being written. No step changes what lies in a chunk on the way, from the read to the end of the write. -/
theorem relay_buffers_one_owner (q : Nat) {p : BufferPool} {others : List Nat} (ho : p.Owns others)
    {ls : List OneWayLabel} {s : OneWay × Ledger}
    (h : Run (tracked (OneWay.step { queueSize := q }) Ledger.note) (fun _ _ => True)
      ({ shared := { pool := p }, others }, {}) ls s) :
    (∀ buf, s.2.taken.count buf = s.2.returned.count buf + s.1.dir.held.count buf) ∧
      (s.1.shared.pool.free ++ (s.1.others ++ s.1.dir.held)).Nodup ∧
      s.1.dir.held.length ≤ q + 2 ∧ s.1.shared.stats.maxQueueDepth ≤ q + 1 ∧
      ∀ l s', s.1.step { queueSize := q } l = some s' →
        (∀ m, l = .move m → PoolMove s.1.shared.pool s'.shared.pool (s'.taken l) (s.1.returning l)) ∧
        (∀ buf ∈ s.1.returning l,
          buf ∈ s.1.dir.held ∧ buf ∉ s'.dir.held ∧ ∀ c ∈ s.1.dir.inUse ++ s'.dir.inUse, c.buf ≠ buf) ∧
        ∀ c ∈ s.1.dir.onWay, s'.shared.pool.data c.buf = s.1.shared.pool.data c.buf := by
  have ha : Accounted { queueSize := q } s :=
    h.inv (Accounted { queueSize := q }) (accounted_start _ ho) fun _ _ _ ha _ hst => ha.step hst
  have howned := ha.inv.owned
  refine ⟨fun buf => ?_, howned.owns.nodup, ha.bounds.length_held, ha.bounds.depth, fun l s' hst => ⟨?_, ?_, ?_⟩⟩
  · rw [ha.ledger.count_eq, List.count_append]
  · rintro m rfl
    cases OneWay.stepped hst with
    | move hm => exact step_pool rfl hm
    | other hl hu => exact absurd rfl (hl m)
  · exact fun buf hb => OneWay.returns_unused howned hst hb
  · exact fun c hc => OneWay.step_keeps howned hst hc

theorem relay_buffers_one_owner_cleanRun :
    ∃ s : OneWay × Ledger, Run (tracked (OneWay.step { queueSize := 16 }) Ledger.note) (fun _ _ => True) ({}, {})
        cleanRun s ∧ s.2.taken = [2, 0] ∧ s.2.returned = [2, 0] ∧ s.1.dir.held.count 2 = 0 := by
  have hrun : ∃ s : OneWay × Ledger, Run (tracked (OneWay.step { queueSize := 16 }) Ledger.note) (fun _ _ => True)
      ({}, {}) cleanRun s ∧ (s.2.taken = [2, 0] ∧ s.2.returned = [2, 0]) := run_any (by decide +kernel)
  obtain ⟨s, hr, ht, hret⟩ := hrun
  have hcount := (relay_buffers_one_owner 16 ⟨List.nodup_nil, fun i hi => absurd hi List.not_mem_nil⟩ hr).1 2
  rw [ht, hret] at hcount
  exact ⟨s, hr, ht, hret, Nat.left_eq_add.1 hcount⟩

/-! ## Both directions -/

end TunnelEdge.Relay
