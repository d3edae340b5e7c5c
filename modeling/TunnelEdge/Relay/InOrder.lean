import TunnelEdge.Relay.OneWay
/-!
# What a direction delivers

The bytes between `src` and `dst` are on the way in three places: the chunk that
the reader offers, the queue, and what is left of the chunk that the writer
writes. Together with what is written they are the bytes received, in order, as
long as neither goroutine has given up. That needs the ownership of buffers: a
chunk is a buffer of the pool, and nobody may fill it before it is written.
-/

namespace TunnelEdge.Relay

open GoLib

/-! ## Who holds which buffer -/

def ReaderPc.held : ReaderPc → List Nat
  | .read buf | .recycle buf _ | .stopped buf _ | .expired buf => [buf]
  | .observe chunk _ | .offer chunk _ => [chunk.buf]
  | _ => []

def WriterPc.held : WriterPc → List Nat
  | .write chunk _ | .release chunk _ => [chunk.buf]
  | _ => []

def ReaderPc.chunk : ReaderPc → List RelayChunk
  | .observe chunk _ | .offer chunk _ => [chunk]
  | _ => []

def WriterPc.chunk : WriterPc → List RelayChunk
  | .write chunk _ => [chunk]
  | _ => []

namespace Direction

def held (d : Direction) : List Nat := d.writer.held ++ d.chunks.map RelayChunk.buf ++ d.reader.held

/-- The chunks that are still to be written, in order. -/
def onWay (d : Direction) : List RelayChunk := d.writer.chunk ++ d.chunks ++ d.reader.chunk

/-- The direction owns its buffers, next to those that `rest` lists, and its chunks lie within their buffers. -/
structure Owned (rest : List Nat) (p : BufferPool) (d : Direction) : Prop where
  owns : p.Owns (rest ++ d.held)
  sizes : ∀ c ∈ d.onWay, 0 < c.n ∧ c.n ≤ (p.data c.buf).length

end Direction

theorem releaseRelayBuffer_data (opts : RelayOptions) (p : BufferPool) (buf : Nat) :
    (releaseRelayBuffer opts p buf).data = p.data := by
  unfold releaseRelayBuffer
  split <;> rfl

theorem owns_releaseRelayBuffer {opts : RelayOptions} {p : BufferPool} {buf : Nat} {held : List Nat}
    (h : p.Owns (buf :: held)) : (releaseRelayBuffer opts p buf).Owns held := by
  unfold releaseRelayBuffer
  split
  · exact h.put
  · exact h.forget

variable {opts : RelayOptions} {sh sh' : Shared} {d d' : Direction} {m : Move} {rest : List Nat}

@[simp] theorem record_fields (d : Direction) (r : Option RelayErr) :
    (d.record r).reader = d.reader ∧ (d.record r).writer = d.writer ∧ (d.record r).chunks = d.chunks ∧
      (d.record r).closed = d.closed ∧ (d.record r).received = d.received ∧ (d.record r).written = d.written ∧
      (d.record r).counted = d.counted ∧ (d.record r).readErr = d.readErr := by
  cases r <;> simp [Direction.record]

/-- A move keeps the buffers, takes one from the pool, or gives one back. -/
inductive HeldMove (opts : RelayOptions) (p p' : BufferPool) (held held' : List Nat) : Prop
  | same (hf : p'.free = p.free) (hn : p'.next = p.next) (h : held' = held)
  | took {choice : Option Nat} {buf : Nat} (hg : p.get choice = some (p', buf)) (h : held'.Perm (buf :: held))
  | gave {buf : Nat} (hp : p' = releaseRelayBuffer opts p buf) (h : held.Perm (buf :: held'))

theorem step_held (h : d.Step opts sh m sh' d') : HeldMove opts sh.pool sh'.pool d.held d'.held := by
  cases h with
  | get hr hg =>
    refine .took hg ?_
    simp only [Direction.held, hr, ReaderPc.held, List.append_nil]
    exact List.perm_append_comm
  | data err hr | noData err hr | observe hr | send hr | expire hr | stop hr | next hr | ended hr | close hr
  | reported hr => exact .same rfl rfl (by simp [Direction.held, hr, ReaderPc.held])
  | handoff hr hw hq => exact .same rfl rfl (by simp [Direction.held, hr, hw, hq, ReaderPc.held, WriterPc.held])
  | recycle hr | dropStopped hr | dropExpired _ hr =>
    refine .gave rfl ?_
    simp only [Direction.held, hr, ReaderPc.held, List.append_nil]
    exact List.perm_append_comm
  | recv hw hq => exact .same rfl rfl (by simp [Direction.held, hw, hq, WriterPc.held])
  | drained hw | cancelled hw | writePart hw | writeAll hw | writeErr _ hw | account hw | writeFailed _ hw
  | closeWrite hw | writerReported hw => exact .same rfl rfl (by simp [Direction.held, hw, WriterPc.held])
  | release hw =>
    refine .gave rfl ?_
    simp [Direction.held, hw, WriterPc.held]

theorem WriterPc.chunk_held {pc : WriterPc} {c : RelayChunk} (h : c ∈ pc.chunk) : c.buf ∈ pc.held := by
  cases pc with
  | write chunk k =>
    rw [List.mem_singleton.1 h]
    exact List.mem_singleton.2 rfl
  | _ => cases h

/-- Only a read changes the contents of a buffer, and that buffer is in the reader's hands. -/
theorem step_data (h : d.Step opts sh m sh' d') :
    sh'.pool.data = sh.pool.data ∨ ∃ buf bytes, d.reader = .read buf ∧ sh'.pool = sh.pool.fill buf bytes := by
  cases h with
  | get hr hg => exact .inl (BufferPool.get_data hg)
  | data err hr hb => exact .inr ⟨_, _, hr, rfl⟩
  | noData err hr => exact .inr ⟨_, _, hr, rfl⟩
  | recycle | dropStopped | dropExpired | release => exact .inl (releaseRelayBuffer_data _ _ _)
  | _ => exact .inl rfl

theorem step_keeps (ho : d.Owned rest sh.pool) (h : d.Step opts sh m sh' d') {i : Nat}
    (hi : i ∈ rest ∨ ∃ c ∈ d.onWay, c.buf = i) : sh'.pool.data i = sh.pool.data i := by
  rcases step_data h with he | ⟨buf, bytes, hr, he⟩
  · rw [he]
  · rw [he]
    refine BufferPool.fill_data_ne _ _ ?_
    rintro rfl
    -- the buffer being read into is the last one held, and no other
    have hown := ho.owns
    simp only [Direction.held, hr, ReaderPc.held] at hown
    rw [← List.append_assoc] at hown
    have hfree : i ∉ rest ++ (d.writer.held ++ d.chunks.map RelayChunk.buf) :=
      (hown.perm (List.perm_append_singleton i _)).not_mem
    refine hfree (List.mem_append.2 ?_)
    rcases hi with hi | ⟨c, hc, rfl⟩
    · exact .inl hi
    · simp only [Direction.onWay, hr, ReaderPc.chunk, List.append_nil, List.mem_append] at hc
      refine .inr (List.mem_append.2 ?_)
      exact hc.imp WriterPc.chunk_held List.mem_map_of_mem

theorem step_onWay (h : d.Step opts sh m sh' d') {c : RelayChunk} (hc : c ∈ d'.onWay) :
    c ∈ d.onWay ∨ ∃ bytes, bytes ≠ [] ∧ c.n = bytes.length ∧ sh'.pool = sh.pool.fill c.buf bytes := by
  cases h with
  | data err hr hb =>
    simp only [Direction.onWay, ReaderPc.chunk, List.mem_append, List.mem_singleton] at hc
    rcases hc with hc | rfl
    · exact .inl (by simpa [Direction.onWay, hr, ReaderPc.chunk] using hc)
    · exact .inr ⟨_, hb, rfl, rfl⟩
  | get hr | noData _ hr | observe hr | send hr | recycle hr | next hr | ended hr | dropStopped hr | dropExpired _ hr
  | close hr | reported hr =>
    left
    simpa [Direction.onWay, hr, ReaderPc.chunk] using hc
  | expire hr | stop hr =>
    left
    have hc : c ∈ d.writer.chunk ++ d.chunks := by simpa [Direction.onWay, ReaderPc.chunk] using hc
    exact List.mem_append_left _ hc
  | handoff hr hw hq =>
    left
    simp_all [Direction.onWay, ReaderPc.chunk, WriterPc.chunk]
  | recv hw hq =>
    left
    simp_all [Direction.onWay, WriterPc.chunk]
  | drained hw | cancelled hw | writePart hw | writeAll hw | writeErr _ hw | release hw | account hw
  | writeFailed _ hw | closeWrite hw | writerReported hw =>
    left
    simp_all [Direction.onWay, WriterPc.chunk]

theorem Direction.Owned.step (ho : d.Owned rest sh.pool) (h : d.Step opts sh m sh' d') : d'.Owned rest sh'.pool := by
  constructor
  · cases step_held h with
    | same hf hn he => exact ⟨by rw [hf, he]; exact ho.owns.nodup, by rw [hf, hn, he]; exact ho.owns.known⟩
    | took hg hp =>
      exact (ho.owns.get hg).perm (List.perm_middle.symm.trans (hp.symm.append_left rest))
    | gave hp hperm =>
      rw [hp]
      exact owns_releaseRelayBuffer (ho.owns.perm ((hperm.append_left rest).trans List.perm_middle))
  · intro c hc
    rcases step_onWay h hc with hold | ⟨bytes, hne, hn, he⟩
    · rw [step_keeps ho h (.inr ⟨c, hold, rfl⟩)]
      exact ho.sizes c hold
    · rw [he, hn]
      exact ⟨List.length_pos_iff.2 hne, by simp [BufferPool.fill]⟩

/-! ## The bytes on the way -/

/-- The goroutine ends with an error, or will. -/
def ReaderPc.failed : ReaderPc → Bool
  | .stopped .. | .expired _ => true
  | .close result | .report result | .done result => result.isSome
  | _ => false

def WriterPc.failed : WriterPc → Bool
  | .release _ err | .account _ err | .closeWrite err | .report err | .done err => err.isSome
  | _ => false

def contents (p : BufferPool) (cs : List RelayChunk) : List UInt8 := cs.flatMap fun c => p.front c.buf c.n

/-- What is left to write of the chunk in the writer's hands. -/
def WriterPc.unwritten (p : BufferPool) : WriterPc → List UInt8
  | .write chunk k => (p.front chunk.buf chunk.n).drop k
  | _ => []

def Direction.inFlight (p : BufferPool) (d : Direction) : List UInt8 :=
  d.writer.unwritten p ++ contents p (d.chunks ++ d.reader.chunk)

theorem contents_congr {p p' : BufferPool} {cs : List RelayChunk} (h : ∀ c ∈ cs, p'.data c.buf = p.data c.buf) :
    contents p' cs = contents p cs := by
  refine List.flatMap_congr fun c hc => ?_
  rw [BufferPool.front, BufferPool.front, h c hc]

theorem inFlight_congr {p p' : BufferPool} (h : ∀ c ∈ d.onWay, p'.data c.buf = p.data c.buf) :
    d.inFlight p' = d.inFlight p := by
  simp only [Direction.onWay, List.append_assoc, List.mem_append] at h
  have hrest : d.writer.unwritten p' = d.writer.unwritten p := by
    cases hw : d.writer with
    | write chunk k =>
      have hd := h chunk (by simp [hw, WriterPc.chunk])
      simp only [WriterPc.unwritten, BufferPool.front, hd]
    | _ => rfl
  rw [Direction.inFlight, Direction.inFlight, hrest,
    contents_congr fun c hc => h c (.inr (List.mem_append.1 hc))]

/-- What a move does to the bytes: nothing, it adds some that were read, it
writes the foremost ones, or a goroutine gives up, the reader with the last
ones, the writer with all of them. -/
inductive FlowMove (p p' : BufferPool) (d d' : Direction) : Prop
  | same (hr : d'.received = d.received) (hw : d'.written = d.written) (hf : d'.inFlight p' = d.inFlight p)
      (hrf : d'.reader.failed = false → d.reader.failed = false)
      (hwf : d'.writer.failed = false → d.writer.failed = false)
  | read (x : List UInt8) (hr : d'.received = d.received ++ x) (hw : d'.written = d.written)
      (hf : d'.inFlight p' = d.inFlight p ++ x) (hrf : d.reader.failed = false) (hwf : d'.writer = d.writer)
  | wrote (x : List UInt8) (hr : d'.received = d.received) (hw : d'.written = d.written ++ x)
      (hf : d.inFlight p = x ++ d'.inFlight p') (hrf : d'.reader = d.reader) (hwf : d.writer.failed = false)
  | dropped (x : List UInt8) (hr : d'.received = d.received) (hw : d'.written = d.written)
      (hf : d.inFlight p = d'.inFlight p' ++ x) (hrf : d'.reader.failed = true) (hwf : d'.writer = d.writer)
  | gaveUp (x : List UInt8) (hr : d'.received = d.received) (hw : d'.written = d.written ++ x)
      (hx : x <+: d.inFlight p) (hwf : d.writer.failed = false) (hwf' : d'.writer.failed = true)

theorem step_flow (ho : d.Owned rest sh.pool) (h : d.Step opts sh m sh' d') : FlowMove sh.pool sh'.pool d d' := by
  have hkeep : d.inFlight sh'.pool = d.inFlight sh.pool :=
    inFlight_congr fun c hc => step_keeps ho h (.inr ⟨c, hc, rfl⟩)
  cases h with
  | data err hr hb =>
    refine .read _ rfl rfl ?_ (by simp [hr, ReaderPc.failed]) rfl
    rw [← hkeep]
    simp [Direction.inFlight, hr, ReaderPc.chunk, contents]
  | get hr | noData _ hr | observe hr | send hr | recycle hr | next hr | ended hr | dropStopped hr | dropExpired _ hr
  | close hr | reported hr =>
    refine .same (by simp) (by simp) ?_ (by simp [hr, ReaderPc.failed]) (by simp)
    rw [← hkeep]
    simp [Direction.inFlight, hr, ReaderPc.chunk]
  | handoff hr hw hq =>
    refine .same rfl rfl ?_ (by simp [hr, ReaderPc.failed]) (by simp [hw, WriterPc.failed])
    simp [Direction.inFlight, hr, hw, hq, ReaderPc.chunk, WriterPc.unwritten, contents]
  | @expire chunk _ hr | @stop chunk _ _ hr =>
    refine .dropped (contents sh.pool [chunk]) rfl rfl ?_ rfl rfl
    simp [Direction.inFlight, hr, ReaderPc.chunk, contents]
  | recv hw hq =>
    refine .same rfl rfl ?_ id (by simp [hw, WriterPc.failed])
    simp [Direction.inFlight, hw, hq, WriterPc.unwritten, contents]
  | drained hw | release hw | account hw | writeFailed _ hw | closeWrite hw | writerReported hw =>
    refine .same (by simp) (by simp) ?_ (by simp) (by simp [hw, WriterPc.failed])
    rw [← hkeep]
    simp [Direction.inFlight, hw, WriterPc.unwritten]
  | cancelled hw hc =>
    refine .gaveUp [] rfl (List.append_nil _).symm (List.nil_prefix) (by simp [hw, WriterPc.failed]) rfl
  | writePart hw hn =>
    refine .wrote _ rfl rfl ?_ rfl (by simp [hw, WriterPc.failed])
    simp only [Direction.inFlight, hw, WriterPc.unwritten, ← List.append_assoc, ← List.drop_drop,
      List.take_append_drop]
  | @writeAll chunk k n hw hn =>
    refine .wrote _ rfl rfl ?_ rfl (by simp [hw, WriterPc.failed])
    have hlen : ((sh.pool.front chunk.buf chunk.n).drop k).length ≤ n := by
      rw [List.length_drop, hn]
      exact Nat.sub_le_sub_right (List.length_take_le ..) k
    simp only [Direction.inFlight, hw, WriterPc.unwritten, List.take_of_length_le hlen, List.nil_append]
  | writeErr e hw hn =>
    refine .gaveUp _ rfl rfl ?_ (by simp [hw, WriterPc.failed]) rfl
    simp only [Direction.inFlight, hw, WriterPc.unwritten]
    exact (List.take_prefix ..).trans (List.prefix_append ..)

/-- What is written is the front of what was received; while the writer is at
work the bytes on the way come next, and they are all the rest while the reader is at work too. -/
structure Direction.Flow (p : BufferPool) (d : Direction) : Prop where
  sent : d.written <+: d.received
  ahead : d.writer.failed = false → d.written ++ d.inFlight p <+: d.received
  whole : d.writer.failed = false → d.reader.failed = false → d.written ++ d.inFlight p = d.received

theorem Direction.Flow.step {p p' : BufferPool} (hf : d.Flow p) (h : FlowMove p p' d d') : d'.Flow p' := by
  cases h with
  | same hr hw hi hrf hwf =>
    exact ⟨by rw [hr, hw]; exact hf.sent, fun h => by rw [hr, hw, hi]; exact hf.ahead (hwf h),
      fun h h' => by rw [hr, hw, hi]; exact hf.whole (hwf h) (hrf h')⟩
  | read x hr hw hi hrf hwf =>
    have hall : d.writer.failed = false → d'.written ++ d'.inFlight p' = d'.received := by
      intro h
      rw [hr, hw, hi, ← List.append_assoc, hf.whole h hrf]
    refine ⟨by rw [hr, hw]; exact hf.sent.trans (List.prefix_append ..), fun h => ?_, fun h _ => ?_⟩
    · rw [hwf] at h
      exact hall h ▸ List.prefix_rfl
    · rw [hwf] at h
      exact hall h
  | wrote x hr hw hi hrf hwf =>
    have hsame : d'.written ++ d'.inFlight p' = d.written ++ d.inFlight p := by rw [hw, hi, List.append_assoc]
    have hahead : d'.written ++ d'.inFlight p' <+: d'.received := by
      rw [hsame, hr]
      exact hf.ahead hwf
    refine ⟨(List.prefix_append ..).trans hahead, fun _ => hahead, fun _ h => ?_⟩
    rw [hsame, hr]
    exact hf.whole hwf (hrf ▸ h)
  | dropped x hr hw hi hrf hwf =>
    refine ⟨by rw [hr, hw]; exact hf.sent, fun h => ?_, fun _ h => absurd h (by simp [hrf])⟩
    rw [hwf] at h
    rw [hr, hw]
    refine List.IsPrefix.trans ?_ (hf.ahead h)
    rw [hi, ← List.append_assoc]
    exact List.prefix_append ..
  | gaveUp x hr hw hx hwf hwf' =>
    refine ⟨?_, fun h => absurd h (by simp [hwf']), fun h => absurd h (by simp [hwf'])⟩
    rw [hr, hw]
    exact ((List.prefix_append_right_inj _).2 hx).trans (hf.ahead hwf)

/-! ## The bytes counted -/

/-- What the writer has written of its chunk and not yet counted. -/
def WriterPc.uncounted : WriterPc → Nat
  | .write _ k => k
  | .release chunk none | .account chunk none => chunk.n
  | _ => 0

structure Direction.Counted (d : Direction) : Prop where
  le : d.counted ≤ d.written.length
  eq : d.writer.failed = false → d.counted + d.writer.uncounted = d.written.length
  /-- `writeChunk` has something left to write. -/
  loop : ∀ chunk k, d.writer = .write chunk k → k < chunk.n

theorem length_written {p : BufferPool} {chunk : RelayChunk} (hs : chunk.n ≤ (p.data chunk.buf).length) {k n : Nat}
    (hn : n ≤ chunk.n - k) : (((p.front chunk.buf chunk.n).drop k).take n).length = n := by
  have hfront : (p.front chunk.buf chunk.n).length = chunk.n := by
    rw [BufferPool.front, List.length_take, Nat.min_eq_left hs]
  rw [List.length_take, List.length_drop, hfront, Nat.min_eq_left hn]

theorem Direction.Counted.step (hc : d.Counted) (ho : d.Owned rest sh.pool) (h : d.Step opts sh m sh' d') :
    d'.Counted := by
  -- a chunk that the writer takes is not empty
  have hstart : ∀ chunk ∈ d.onWay, d.writer = .select → ∀ d₁ : Direction, d₁.counted = d.counted →
      d₁.written = d.written → d₁.writer = .write chunk 0 → d₁.Counted := by
    intro chunk hm hw d₁ h₁ h₂ h₃
    have heq := hc.eq (by simp [hw, WriterPc.failed])
    rw [hw] at heq
    refine ⟨by rw [h₁, h₂]; exact hc.le, fun _ => by rw [h₁, h₂, h₃]; exact heq, fun chunk' k hk => ?_⟩
    cases h₃.symm.trans hk
    exact (ho.sizes chunk hm).1
  cases h with
  | get | data | noData | observe | send | expire | stop | recycle | next | ended | dropStopped | dropExpired
  | close => exact ⟨hc.le, hc.eq, hc.loop⟩
  | reported hr => exact ⟨by simpa using hc.le, by simpa using hc.eq, by simpa using hc.loop⟩
  | handoff hr hw hq => exact hstart _ (by simp [Direction.onWay, hr, ReaderPc.chunk]) hw _ rfl rfl rfl
  | recv hw hq => exact hstart _ (by simp [Direction.onWay, hq]) hw _ rfl rfl rfl
  | drained hw =>
    refine ⟨hc.le, fun _ => ?_, fun _ _ h => by cases h⟩
    simpa [hw, WriterPc.uncounted] using hc.eq (by simp [hw, WriterPc.failed])
  | cancelled hw => exact ⟨hc.le, fun h => (by cases h), fun _ _ h => (by cases h)⟩
  | @writePart chunk k n hw hn =>
    have hlen := length_written (ho.sizes chunk (by simp [Direction.onWay, hw, WriterPc.chunk])).2
      (Nat.le_sub_of_add_le' (Nat.le_of_lt hn))
    have heq := hc.eq (by simp [hw, WriterPc.failed])
    rw [hw] at heq
    simp only [WriterPc.uncounted] at heq
    refine ⟨?_, fun _ => ?_, fun _ _ h => ?_⟩
    · simp only [List.length_append]
      exact Nat.le_add_right_of_le hc.le
    · simp only [List.length_append, hlen, WriterPc.uncounted]
      omega
    · cases h
      exact hn
  | @writeAll chunk k n hw hn =>
    have hlen := length_written (ho.sizes chunk (by simp [Direction.onWay, hw, WriterPc.chunk])).2 (Nat.le_of_eq hn)
    have heq := hc.eq (by simp [hw, WriterPc.failed])
    have hk := hc.loop chunk k hw
    rw [hw] at heq
    simp only [WriterPc.uncounted] at heq
    refine ⟨?_, fun _ => ?_, fun _ _ h => by cases h⟩
    · simp only [List.length_append]
      exact Nat.le_add_right_of_le hc.le
    · simp only [List.length_append, hlen, WriterPc.uncounted]
      omega
  | writeErr e hw hn =>
    refine ⟨?_, fun h => (by cases h), fun _ _ h => (by cases h)⟩
    simp only [List.length_append]
    exact Nat.le_add_right_of_le hc.le
  | @release chunk err hw =>
    refine ⟨hc.le, fun h => ?_, fun _ _ h => by cases h⟩
    cases err with
    | some e => cases h
    | none => simpa [hw, WriterPc.uncounted] using hc.eq (by simp [hw, WriterPc.failed])
  | account hw =>
    have heq := hc.eq (by simp [hw, WriterPc.failed])
    rw [hw] at heq
    exact ⟨Nat.le_of_eq heq, fun _ => heq, fun _ _ h => by cases h⟩
  | writeFailed stats hw => exact ⟨hc.le, fun h => (by cases h), fun _ _ h => (by cases h)⟩
  | closeWrite hw =>
    refine ⟨hc.le, fun h => ?_, fun _ _ h => by cases h⟩
    simpa [hw, WriterPc.uncounted] using hc.eq (by simpa [hw, WriterPc.failed] using h)
  | writerReported hw =>
    refine ⟨by simpa using hc.le, fun h => ?_, fun _ _ h => by cases h⟩
    simpa [hw, WriterPc.uncounted] using hc.eq (by simpa [hw, WriterPc.failed] using h)

/-! ## How the goroutines end -/

def ReaderPc.clean : ReaderPc → Bool
  | .close result | .report result | .done result => result.isNone
  | _ => false

def WriterPc.clean : WriterPc → Bool
  | .closeWrite result | .report result | .done result => result.isNone
  | _ => false

/-- The error that the reader still has to look at. -/
def ReaderPc.pending : ReaderPc → Option (Option RelayErr)
  | .observe _ err | .offer _ err | .recycle _ err | .check err => some err
  | _ => none

def ReaderPc.ended : ReaderPc → Bool
  | .report _ | .done _ => true
  | _ => false

structure Direction.Ends (d : Direction) : Prop where
  closed : d.closed = d.reader.ended
  drained : d.writer.clean = true → d.chunks = [] ∧ d.closed = true
  pending : ∀ err, d.reader.pending = some err → d.readErr = err
  eof : d.reader.clean = true → d.readErr = some .eof
  noted : ∀ e, (d.reader = .done (some e) ∨ d.writer = .done (some e)) → d.err ≠ none

theorem record_err (d : Direction) (r : Option RelayErr) : (d.record r).err = none ↔ r = none ∧ d.err = none := by
  cases r with
  | none => simp [Direction.record]
  | some e => cases hd : d.err <;> simp [Direction.record, hd]

theorem Direction.Ends.not_clean (he : d.Ends) (hr : d.reader.ended = false) : d.writer.clean = false := by
  cases hc : d.writer.clean with
  | false => rfl
  | true =>
    have hclosed := (he.drained hc).2
    rw [he.closed, hr] at hclosed
    cases hclosed

theorem Direction.Ends.reading (he : d.Ends) (hr : d.reader.ended = false) (hr' : d'.reader.ended = false)
    (hw : d'.writer = d.writer) (hc : d'.closed = d.closed) (herr : d'.err = d.err)
    (hp : ∀ err, d'.reader.pending = some err → d'.readErr = err)
    (heof : d'.reader.clean = true → d'.readErr = some .eof) : d'.Ends := by
  refine ⟨?_, fun h => ?_, hp, heof, ?_⟩
  · rw [hc, he.closed, hr, hr']
  · rw [hw, he.not_clean hr] at h
    cases h
  · rintro e (h | h)
    · rw [h] at hr'
      cases hr'
    · rw [herr]
      exact he.noted e (.inr (hw ▸ h))

theorem Direction.Ends.writing (he : d.Ends) (hr : d'.reader = d.reader) (hc : d'.closed = d.closed)
    (hre : d'.readErr = d.readErr) (hclean : d'.writer.clean = true → d'.chunks = [] ∧ d.closed = true)
    (hnoted : ∀ e, d'.writer = .done (some e) → d'.err ≠ none) (herr : d'.err = none → d.err = none) : d'.Ends := by
  refine ⟨?_, fun h => ?_, ?_, ?_, ?_⟩
  · rw [hc, hr]
    exact he.closed
  · rw [hc]
    exact hclean h
  · rw [hr, hre]
    exact he.pending
  · rw [hr, hre]
    exact he.eof
  · rintro e (h | h)
    · exact fun hn => he.noted e (.inl (hr ▸ h)) (herr hn)
    · exact hnoted e h

theorem Direction.Ends.step (he : d.Ends) (h : d.Step opts sh m sh' d') : d'.Ends := by
  cases h with
  | get hr | expire hr | stop hr | next hr | dropStopped hr | dropExpired _ hr =>
    exact he.reading (by rw [hr]; rfl) rfl rfl rfl rfl (fun _ h => by cases h) (fun h => by cases h)
  | data _ hr | noData _ hr =>
    exact he.reading (by rw [hr]; rfl) rfl rfl rfl rfl (fun _ h => Option.some.inj h) (fun h => by cases h)
  | observe hr | send hr | recycle hr =>
    -- the error of the read is handed on
    exact he.reading (by rw [hr]; rfl) rfl rfl rfl rfl (fun err h => he.pending err (by rw [hr]; exact h))
      (fun h => by cases h)
  | @ended e hr =>
    refine he.reading (by rw [hr]; rfl) rfl rfl rfl rfl (fun _ h => by cases h) (fun h => ?_)
    rw [he.pending (some e) (by rw [hr]; rfl)]
    by_cases heq : e = .eof
    · rw [heq]
    · simp [ReaderPc.clean, heq] at h
  | @handoff chunk err hr hw hq =>
    have hread : Direction.Ends { d with reader := .check err } :=
      he.reading (by rw [hr]; rfl) rfl rfl rfl rfl (fun err h => he.pending err (by rw [hr]; exact h))
        (fun h => by cases h)
    exact hread.writing rfl rfl rfl (fun h => by cases h) (fun _ h => by cases h) id
  | close hr =>
    refine ⟨rfl, fun h => ⟨(he.drained h).1, rfl⟩, fun _ h => (by cases h), fun h => he.eof (by rw [hr]; exact h), ?_⟩
    rintro e (h | h)
    · cases h
    · exact he.noted e (.inr h)
  | @reported result hr =>
    refine ⟨?_, fun h => ?_, fun _ h => (by cases h), fun h => ?_, ?_⟩
    · simpa [hr, ReaderPc.ended] using he.closed
    · simpa using he.drained (by simpa using h)
    · simpa using he.eof (by rw [hr]; exact h)
    · rintro e (h | h)
      · cases h
        simp [record_err]
      · have hd := he.noted e (.inr (by simpa using h))
        simp [record_err, hd]
  | recv hw | writePart hw | writeAll hw | writeErr _ hw | release hw | account hw | writeFailed _ hw
  | cancelled hw => exact he.writing rfl rfl rfl (fun h => by cases h) (fun _ h => by cases h) id
  | drained hw hq hc => exact he.writing rfl rfl rfl (fun _ => ⟨hq, hc⟩) (fun _ h => by cases h) id
  | closeWrite hw =>
    exact he.writing rfl rfl rfl (fun h => he.drained (by rw [hw]; exact h)) (fun _ h => by cases h) id
  | @writerReported result hw =>
    refine he.writing (by simp) (by simp) (by simp) (fun h => ?_) (fun e h => ?_) (fun h => ((record_err _ _).1 h).2)
    · simpa using he.drained (by rw [hw]; exact h)
    · cases h
      simp [record_err]

structure Direction.Inv (rest : List Nat) (p : BufferPool) (d : Direction) : Prop where
  owned : d.Owned rest p
  flow : d.Flow p
  counted : d.Counted
  ends : d.Ends

theorem Direction.Inv.step (hi : d.Inv rest sh.pool) (h : d.Step opts sh m sh' d') : d'.Inv rest sh'.pool :=
  ⟨hi.owned.step h, hi.flow.step (step_flow hi.owned h), hi.counted.step hi.owned h, hi.ends.step h⟩

theorem Direction.Inv.cancel {p : BufferPool} (hi : d.Inv rest p) (e : RelayErr) : (d.cancel e).Inv rest p :=
  ⟨⟨hi.owned.owns, hi.owned.sizes⟩, ⟨hi.flow.sent, hi.flow.ahead, hi.flow.whole⟩,
    ⟨hi.counted.le, hi.counted.eq, hi.counted.loop⟩,
    ⟨hi.ends.closed, hi.ends.drained, hi.ends.pending, hi.ends.eof, hi.ends.noted⟩⟩

/-- Another user of the pool keeps to its own buffers. -/
theorem Direction.Inv.frame {p p' : BufferPool} {rest' : List Nat} (hi : d.Inv rest p) (ho : p'.Owns (rest' ++ d.held))
    (hd : ∀ c ∈ d.onWay, p'.data c.buf = p.data c.buf) : d.Inv rest' p' := by
  refine ⟨⟨ho, fun c hc => ?_⟩, ⟨hi.flow.sent, ?_, ?_⟩, hi.counted, hi.ends⟩
  · rw [hd c hc]
    exact hi.owned.sizes c hc
  · rw [inFlight_congr hd]
    exact hi.flow.ahead
  · rw [inFlight_congr hd]
    exact hi.flow.whole

theorem ReaderPc.chunk_held {pc : ReaderPc} {c : RelayChunk} (h : c ∈ pc.chunk) : c.buf ∈ pc.held := by
  cases pc with
  | observe chunk err | offer chunk err =>
    rw [List.mem_singleton.1 h]
    exact List.mem_singleton.2 rfl
  | _ => cases h

theorem onWay_held {c : RelayChunk} (hc : c ∈ d.onWay) : c.buf ∈ d.held := by
  simp only [Direction.onWay, Direction.held, List.mem_append] at hc ⊢
  exact hc.imp (Or.imp WriterPc.chunk_held List.mem_map_of_mem) ReaderPc.chunk_held

theorem returned_done (h : d.returned = true) : ∃ r r', d.reader = .done r ∧ d.writer = .done r' := by
  unfold Direction.returned at h
  split at h
  · exact ⟨_, _, ‹_›, ‹_›⟩
  · cases h

/-- A direction whose goroutines both end with nil has passed on all it received. -/
theorem Direction.Inv.delivered {p : BufferPool} (hi : d.Inv rest p) (hr : d.returned = true) (he : d.err = none) :
    d.readErr = some .eof ∧ d.written = d.received ∧ d.counted = d.received.length := by
  obtain ⟨r, r', hreader, hwriter⟩ := returned_done hr
  -- an error of either would be the group's
  obtain rfl : r = none := by
    cases r with
    | none => rfl
    | some e => exact absurd he (hi.ends.noted e (.inl hreader))
  obtain rfl : r' = none := by
    cases r' with
    | none => rfl
    | some e => exact absurd he (hi.ends.noted e (.inr hwriter))
  have hw : d.writer.failed = false := by simp [hwriter, WriterPc.failed]
  have hempty : d.inFlight p = [] := by
    have hq := (hi.ends.drained (by simp [hwriter, WriterPc.clean])).1
    simp [Direction.inFlight, hreader, hwriter, hq, ReaderPc.chunk, WriterPc.unwritten, contents]
  have hall := hi.flow.whole hw (by simp [hreader, ReaderPc.failed])
  rw [hempty, List.append_nil] at hall
  have hcount := hi.counted.eq hw
  simp only [hwriter, WriterPc.uncounted, Nat.add_zero] at hcount
  exact ⟨hi.ends.eof (by simp [hreader, ReaderPc.clean]), hall, by rw [hcount, hall]⟩

/-! ## Every run of a call -/

theorem inv_start {p : BufferPool} {others : List Nat} (ho : p.Owns others) : ({} : Direction).Inv others p := by
  refine ⟨⟨by simpa [Direction.held, ReaderPc.held, WriterPc.held] using ho, by simp [Direction.onWay, ReaderPc.chunk,
    WriterPc.chunk]⟩, ⟨List.prefix_rfl, fun _ => ?_, fun _ _ => ?_⟩, ⟨Nat.le_refl _, fun _ => rfl, ?_⟩,
    ⟨rfl, ?_, ?_, ?_, ?_⟩⟩
  all_goals simp [Direction.inFlight, ReaderPc.chunk, WriterPc.unwritten, contents, WriterPc.clean, ReaderPc.pending,
    ReaderPc.clean]

theorem Direction.Owned.not_rest {p : BufferPool} (ho : d.Owned rest p) {c : RelayChunk} (hc : c ∈ d.onWay) :
    c.buf ∉ rest := by
  intro hm
  exact List.disjoint_of_nodup_append (List.nodup_append.1 ho.owns.nodup).2.1 hm (onWay_held hc)

/-- No step, of the relay or of others, changes what a chunk on the way holds. -/
theorem OneWay.step_keeps {s s' : OneWay} {l : OneWayLabel} (ho : s.dir.Owned s.others s.shared.pool)
    (h : s.step opts l = some s') {c : RelayChunk} (hc : c ∈ s.dir.onWay) :
    s'.shared.pool.data c.buf = s.shared.pool.data c.buf := by
  cases OneWay.stepped h with
  | move hm => exact Relay.step_keeps ho hm (.inr ⟨c, hc, rfl⟩)
  | cancel e => rfl
  | other hl hu => exact hu.data (ho.not_rest hc)

theorem OneWay.inv_step {s s' : OneWay} {l : OneWayLabel} (hi : s.dir.Inv s.others s.shared.pool)
    (h : s.step opts l = some s') : s'.dir.Inv s'.others s'.shared.pool := by
  cases OneWay.stepped h with
  | move hm => exact hi.step hm
  | cancel e => exact hi.cancel e
  | other hl hu => exact hi.frame (hu.owns hi.owned.owns) fun c hc => hu.data (hi.owned.not_rest hc)

/-- Whatever `src` and `dst` do and however the goroutines interleave: what `dst`
has got is at all times the front of what `src` has produced, no more is counted
than was written, and once `relayOneWay` has returned nil, `src` has reported EOF
and all its bytes are written and counted. -/
theorem relayOneWay_in_order (opts : RelayOptions) {p : BufferPool} {others : List Nat} (ho : p.Owns others)
    {ls : List OneWayLabel} {s : OneWay}
    (h : Run (OneWay.step opts) (fun _ _ => True) { shared := { pool := p }, others } ls s) :
    s.dir.written <+: s.dir.received ∧ s.dir.counted ≤ s.dir.written.length ∧
      (s.dir.returned = true → s.dir.err = none →
        s.dir.readErr = some .eof ∧ s.dir.written = s.dir.received ∧ s.dir.counted = s.dir.received.length) := by
  have hi : s.dir.Inv s.others s.shared.pool :=
    h.inv (fun s => s.dir.Inv s.others s.shared.pool) (inv_start ho) fun _ _ _ hi _ hst => OneWay.inv_step hi hst
  exact ⟨hi.flow.sent, hi.counted.le, hi.delivered⟩

/-- Two chunks, the second together with EOF; the first is written in two parts while another relay is at work. -/
def cleanRun : List OneWayLabel :=
  [.move (.get none), .move (.read [1, 2] none), .otherGet none, .move .reader, .move .send, .move .reader,
    .move (.get none), .otherFill 1 [9, 9], .move (.read [3] (some .eof)), .move .recv, .move (.write 1 none),
    .move .reader, .move .send, .move (.write 1 none), .move .writer, .move .writer, .otherPut 1, .move .reader,
    .move .reader, .move .recv, .move .reader, .move (.write 1 none), .move .writer, .move .writer, .move .recv,
    .move .writer, .move .writer]

theorem relayOneWay_in_order_cleanRun :
    ∃ s, Run (OneWay.step {}) (fun _ _ => True) {} cleanRun s ∧ s.dir.returned = true ∧ s.dir.err = none ∧
      s.dir.received = [1, 2, 3] ∧ s.dir.written = s.dir.received ∧ s.dir.counted = s.dir.received.length := by
  have hrun : ∃ s, Run (OneWay.step {}) (fun _ _ => True) {} cleanRun s ∧
      (s.dir.returned = true ∧ s.dir.err = none ∧ s.dir.received = [1, 2, 3]) := run_any (by decide +kernel)
  obtain ⟨s, hr, hret, herr, hrec⟩ := hrun
  have h := (relayOneWay_in_order {} ⟨List.nodup_nil, fun i hi => absurd hi List.not_mem_nil⟩ hr).2.2 hret herr
  exact ⟨s, hr, hret, herr, hrec, h.2⟩

end TunnelEdge.Relay
