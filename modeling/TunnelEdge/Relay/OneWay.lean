import TunnelEdge.Lib.BufferPool
import TunnelEdge.Lib.Runs
/-!
# One direction of a relay

`relayOneWay` (`internal/relay/relay.go`): a reader goroutine fills buffers of
the pool from `src` and queues them as chunks, a writer goroutine takes the
chunks out and writes them to `dst`. Both run in an `errgroup`, whose first error
cancels the other.

A `Move` is one step of one of the two goroutines. Where a `select` has several
cases ready, each of them is a move; what `Read` and `Write` return is part of
the move, so `src` and `dst` may do anything their interfaces allow. The pool
belongs to the whole process, and other relays take buffers from it too.
-/

namespace TunnelEdge.Relay

open GoLib

/-- The errors that the relay tells apart; `timeout` is a `net.Error` with `Timeout()`, and so is the
`DeadlineExceeded` of a context. -/
inductive RelayErr
  | eof | timeout | closed | canceled | backpressure | other
deriving DecidableEq, Repr

def defaultRelayBufferSize : Nat := 32 * 1024

def defaultRelayQueueSize : Nat := 16

/-- `relayOptions`; its two timeouts only say when a timer may fire. -/
structure RelayOptions where
  bufferSize : Nat := defaultRelayBufferSize
  queueSize : Nat := defaultRelayQueueSize

structure RelayChunk where
  buf : Nat
  n : Nat
deriving DecidableEq, Repr

/-- `Stats`, without the two byte counters, which are kept with their direction. -/
structure Stats where
  droppedFrames : Nat := 0
  queueTimeouts : Nat := 0
  writeTimeouts : Nat := 0
  maxQueueDepth : Nat := 0
deriving DecidableEq, Repr

def Stats.observeQueueDepth (s : Stats) (depth : Nat) : Stats :=
  if depth > s.maxQueueDepth then { s with maxQueueDepth := depth } else s

inductive ReaderPc
  | get
  | read (buf : Nat)
  | observe (chunk : RelayChunk) (err : Option RelayErr)
  /-- The `select` with the send, the context and the timer. -/
  | offer (chunk : RelayChunk) (err : Option RelayErr)
  /-- An empty read gives its buffer back. -/
  | recycle (buf : Nat) (err : Option RelayErr)
  | check (err : Option RelayErr)
  | stopped (buf : Nat) (err : RelayErr)
  | expired (buf : Nat)
  /-- The deferred `close(chunks)`. -/
  | close (result : Option RelayErr)
  | report (result : Option RelayErr)
  | done (result : Option RelayErr)
deriving DecidableEq, Repr

inductive WriterPc
  /-- The `select` with the context and the receive. -/
  | select
  /-- The loop of `writeChunk`. -/
  | write (chunk : RelayChunk) (written : Nat)
  | release (chunk : RelayChunk) (err : Option RelayErr)
  | account (chunk : RelayChunk) (err : Option RelayErr)
  /-- The deferred `closeWrite(dst)`. -/
  | closeWrite (result : Option RelayErr)
  | report (result : Option RelayErr)
  | done (result : Option RelayErr)
deriving DecidableEq, Repr

/-- What a call of `relayOneWay` holds, and what passed through it. -/
structure Direction where
  reader : ReaderPc := .get
  writer : WriterPc := .select
  chunks : List RelayChunk := []
  closed : Bool := false
  /-- `groupCtx.Err()` -/
  ctxErr : Option RelayErr := none
  /-- The first error of the group. -/
  err : Option RelayErr := none
  /-- The bytes that `src` has produced, and the error of its last `Read`. -/
  received : List UInt8 := []
  readErr : Option RelayErr := none
  /-- The bytes that `dst` has accepted. -/
  written : List UInt8 := []
  /-- The sum passed to `addBytes`. -/
  counted : Nat := 0
deriving DecidableEq, Repr

/-- What the directions of a call share. -/
structure Shared where
  pool : BufferPool := {}
  stats : Stats := {}

def getRelayBuffer (opts : RelayOptions) (pool : BufferPool) (choice : Option Nat) : Option (BufferPool × Nat) :=
  pool.get (if opts.bufferSize = defaultRelayBufferSize then choice else none)

/-- A buffer of another size is left to the garbage collector. -/
def releaseRelayBuffer (opts : RelayOptions) (pool : BufferPool) (buf : Nat) : BufferPool :=
  if opts.bufferSize = defaultRelayBufferSize then pool.put buf else pool

namespace Direction

/-- What `errgroup` does with the result of a goroutine: the first error cancels the group. -/
def record (d : Direction) : Option RelayErr → Direction
  | none => d
  | some e => { d with err := d.err.or (some e), ctxErr := d.ctxErr.or (some .canceled) }

def cancel (d : Direction) (e : RelayErr) : Direction := { d with ctxErr := d.ctxErr.or (some e) }

/-- `relayOneWay` returns the error of the group once both goroutines are done. -/
def returned (d : Direction) : Bool :=
  match d.reader, d.writer with
  | .done _, .done _ => true
  | _, _ => false

end Direction

inductive Move
  /-- `getRelayBuffer`: a buffer from the pool, or a new one. -/
  | get (choice : Option Nat)
  | read (bytes : List UInt8) (err : Option RelayErr)
  | send
  /-- A send to a writer that is waiting in its receive. -/
  | handoff
  | enqueueTimeout
  | readerCancelled
  /-- Any other step of the reader. -/
  | reader
  | recv
  | writerCancelled
  | write (n : Nat) (err : Option RelayErr)
  /-- Any other step of the writer. -/
  | writer
deriving DecidableEq, Repr

section Step

variable (opts : RelayOptions) (sh : Shared) (d : Direction)

/-- Steps of the reader that wait for nothing. -/
def stepReader : Option (Shared × Direction) :=
  match d.reader with
  | .observe chunk err =>
    some ({ sh with stats := sh.stats.observeQueueDepth (d.chunks.length + 1) }, { d with reader := .offer chunk err })
  | .recycle buf err =>
    some ({ sh with pool := releaseRelayBuffer opts sh.pool buf }, { d with reader := .check err })
  | .check none => some (sh, { d with reader := .get })
  | .check (some e) => some (sh, { d with reader := .close (if e = .eof then none else some e) })
  | .stopped buf e =>
    some ({ sh with pool := releaseRelayBuffer opts sh.pool buf }, { d with reader := .close (some e) })
  | .expired buf =>
    some ({ pool := releaseRelayBuffer opts sh.pool buf
            stats := { sh.stats with
              droppedFrames := sh.stats.droppedFrames + 1, queueTimeouts := sh.stats.queueTimeouts + 1 } },
      { d with reader := .close (some .backpressure) })
  | .close result => some (sh, { d with closed := true, reader := .report result })
  | .report result => some (sh, { d.record result with reader := .done result })
  | _ => none

/-- Steps of the writer that wait for nothing. -/
def stepWriter : Option (Shared × Direction) :=
  match d.writer with
  | .release chunk err =>
    some ({ sh with pool := releaseRelayBuffer opts sh.pool chunk.buf }, { d with writer := .account chunk err })
  | .account chunk none => some (sh, { d with counted := d.counted + chunk.n, writer := .select })
  | .account _ (some e) =>
    let stats := if e = .timeout then { sh.stats with writeTimeouts := sh.stats.writeTimeouts + 1 } else sh.stats
    some ({ sh with stats }, { d with writer := .closeWrite (some e) })
  | .closeWrite result => some (sh, { d with writer := .report result })
  | .report result => some (sh, { d.record result with writer := .done result })
  | _ => none

/-- Where a `Write` of `n` bytes leads. -/
def afterWrite (chunk : RelayChunk) (written : Nat) : Option RelayErr → WriterPc
  | some e => .release chunk (some e)
  | none => if written < chunk.n then .write chunk written else .release chunk none

def Direction.step : Move → Option (Shared × Direction)
  | .get choice =>
    match d.reader with
    | .get => (getRelayBuffer opts sh.pool choice).map fun (pool, buf) =>
        ({ sh with pool }, { d with reader := .read buf })
    | _ => none
  | .read bytes err =>
    match d.reader with
    | .read buf =>
      if bytes.length ≤ opts.bufferSize then
        some ({ sh with pool := sh.pool.fill buf bytes },
          { d with
            received := d.received ++ bytes
            readErr := err
            reader := if bytes = [] then .recycle buf err else .observe ⟨buf, bytes.length⟩ err })
      else none
    | _ => none
  | .send =>
    match d.reader with
    | .offer chunk err =>
      if d.chunks.length < opts.queueSize then
        some (sh, { d with chunks := d.chunks ++ [chunk], reader := .check err })
      else none
    | _ => none
  | .handoff =>
    match d.reader, d.writer, d.chunks with
    | .offer chunk err, .select, [] => some (sh, { d with reader := .check err, writer := .write chunk 0 })
    | _, _, _ => none
  | .enqueueTimeout =>
    match d.reader with
    | .offer chunk _ => some (sh, { d with reader := .expired chunk.buf })
    | _ => none
  | .readerCancelled =>
    match d.reader, d.ctxErr with
    | .offer chunk _, some e => some (sh, { d with reader := .stopped chunk.buf e })
    | _, _ => none
  | .reader => stepReader opts sh d
  | .recv =>
    match d.writer, d.chunks with
    | .select, chunk :: rest => some (sh, { d with writer := .write chunk 0, chunks := rest })
    | .select, [] => if d.closed then some (sh, { d with writer := .closeWrite none }) else none
    | _, _ => none
  | .writerCancelled =>
    match d.writer, d.ctxErr with
    | .select, some e => some (sh, { d with writer := .closeWrite (some e) })
    | _, _ => none
  | .write n err =>
    match d.writer with
    | .write chunk k =>
      if n ≤ chunk.n - k then
        some (sh, { d with
          written := d.written ++ ((sh.pool.front chunk.buf chunk.n).drop k).take n
          writer := afterWrite chunk (k + n) err })
      else none
    | _ => none
  | .writer => stepWriter opts sh d

end Step

/-! ## The call in its process -/

/-- A call of `relayOneWay`; `others` are the buffers that other relays have taken. -/
structure OneWay where
  shared : Shared := {}
  others : List Nat := []
  dir : Direction := {}

inductive OneWayLabel
  | move (m : Move)
  /-- The caller's context is done. -/
  | cancel (e : RelayErr)
  | otherGet (choice : Option Nat)
  | otherFill (buf : Nat) (bytes : List UInt8)
  | otherPut (buf : Nat)
deriving DecidableEq, Repr

def OneWay.step (opts : RelayOptions) (s : OneWay) : OneWayLabel → Option OneWay
  | .move m => (s.dir.step opts s.shared m).map fun (shared, dir) => { s with shared, dir }
  | .cancel e => some { s with dir := s.dir.cancel e }
  | .otherGet choice => (s.shared.pool.get choice).map fun (pool, buf) =>
      { s with shared := { s.shared with pool }, others := buf :: s.others }
  | .otherFill buf bytes =>
    if buf ∈ s.others then some { s with shared := { s.shared with pool := s.shared.pool.fill buf bytes } } else none
  | .otherPut buf =>
    if buf ∈ s.others then
      some { s with shared := { s.shared with pool := s.shared.pool.put buf }, others := s.others.erase buf }
    else none

/-! ## What a move does -/

inductive Direction.Step (opts : RelayOptions) (sh : Shared) (d : Direction) :
    Move → Shared → Direction → Prop
  | get {choice : Option Nat} {pool : BufferPool} {buf : Nat} (hr : d.reader = .get)
      (hg : getRelayBuffer opts sh.pool choice = some (pool, buf)) :
      Step opts sh d (.get choice) { sh with pool } { d with reader := .read buf }
  | data {buf : Nat} {bytes : List UInt8} (err : Option RelayErr) (hr : d.reader = .read buf) (hb : bytes ≠ []) :
      Step opts sh d (.read bytes err) { sh with pool := sh.pool.fill buf bytes }
        { d with received := d.received ++ bytes, readErr := err, reader := .observe ⟨buf, bytes.length⟩ err }
  | noData {buf : Nat} (err : Option RelayErr) (hr : d.reader = .read buf) :
      Step opts sh d (.read [] err) { sh with pool := sh.pool.fill buf [] }
        { d with readErr := err, reader := .recycle buf err }
  | observe {chunk : RelayChunk} {err : Option RelayErr} (hr : d.reader = .observe chunk err) :
      Step opts sh d .reader { sh with stats := sh.stats.observeQueueDepth (d.chunks.length + 1) }
        { d with reader := .offer chunk err }
  | send {chunk : RelayChunk} {err : Option RelayErr} (hr : d.reader = .offer chunk err)
      (hq : d.chunks.length < opts.queueSize) :
      Step opts sh d .send sh { d with chunks := d.chunks ++ [chunk], reader := .check err }
  | handoff {chunk : RelayChunk} {err : Option RelayErr} (hr : d.reader = .offer chunk err) (hw : d.writer = .select)
      (hq : d.chunks = []) : Step opts sh d .handoff sh { d with reader := .check err, writer := .write chunk 0 }
  | expire {chunk : RelayChunk} {err : Option RelayErr} (hr : d.reader = .offer chunk err) :
      Step opts sh d .enqueueTimeout sh { d with reader := .expired chunk.buf }
  | stop {chunk : RelayChunk} {err : Option RelayErr} {e : RelayErr} (hr : d.reader = .offer chunk err)
      (hc : d.ctxErr = some e) : Step opts sh d .readerCancelled sh { d with reader := .stopped chunk.buf e }
  | recycle {buf : Nat} {err : Option RelayErr} (hr : d.reader = .recycle buf err) :
      Step opts sh d .reader { sh with pool := releaseRelayBuffer opts sh.pool buf } { d with reader := .check err }
  | next (hr : d.reader = .check none) : Step opts sh d .reader sh { d with reader := .get }
  | ended {e : RelayErr} (hr : d.reader = .check (some e)) :
      Step opts sh d .reader sh { d with reader := .close (if e = .eof then none else some e) }
  | dropStopped {buf : Nat} {e : RelayErr} (hr : d.reader = .stopped buf e) :
      Step opts sh d .reader { sh with pool := releaseRelayBuffer opts sh.pool buf }
        { d with reader := .close (some e) }
  | dropExpired {buf : Nat} (stats : Stats) (hr : d.reader = .expired buf)
      (hs : stats = { sh.stats with
        droppedFrames := sh.stats.droppedFrames + 1, queueTimeouts := sh.stats.queueTimeouts + 1 }) :
      Step opts sh d .reader { pool := releaseRelayBuffer opts sh.pool buf, stats }
        { d with reader := .close (some .backpressure) }
  | close {result : Option RelayErr} (hr : d.reader = .close result) :
      Step opts sh d .reader sh { d with closed := true, reader := .report result }
  | reported {result : Option RelayErr} (hr : d.reader = .report result) :
      Step opts sh d .reader sh { d.record result with reader := .done result }
  | recv {chunk : RelayChunk} {rest : List RelayChunk} (hw : d.writer = .select) (hq : d.chunks = chunk :: rest) :
      Step opts sh d .recv sh { d with writer := .write chunk 0, chunks := rest }
  | drained (hw : d.writer = .select) (hq : d.chunks = []) (hc : d.closed = true) :
      Step opts sh d .recv sh { d with writer := .closeWrite none }
  | cancelled {e : RelayErr} (hw : d.writer = .select) (hc : d.ctxErr = some e) :
      Step opts sh d .writerCancelled sh { d with writer := .closeWrite (some e) }
  | writePart {chunk : RelayChunk} {k n : Nat} (hw : d.writer = .write chunk k) (hn : k + n < chunk.n) :
      Step opts sh d (.write n none) sh { d with
        written := d.written ++ ((sh.pool.front chunk.buf chunk.n).drop k).take n, writer := .write chunk (k + n) }
  | writeAll {chunk : RelayChunk} {k n : Nat} (hw : d.writer = .write chunk k) (hn : n = chunk.n - k) :
      Step opts sh d (.write n none) sh { d with
        written := d.written ++ ((sh.pool.front chunk.buf chunk.n).drop k).take n, writer := .release chunk none }
  | writeErr {chunk : RelayChunk} {k n : Nat} (e : RelayErr) (hw : d.writer = .write chunk k)
      (hn : n ≤ chunk.n - k) :
      Step opts sh d (.write n (some e)) sh { d with
        written := d.written ++ ((sh.pool.front chunk.buf chunk.n).drop k).take n, writer := .release chunk (some e) }
  | release {chunk : RelayChunk} {err : Option RelayErr} (hw : d.writer = .release chunk err) :
      Step opts sh d .writer { sh with pool := releaseRelayBuffer opts sh.pool chunk.buf }
        { d with writer := .account chunk err }
  | account {chunk : RelayChunk} (hw : d.writer = .account chunk none) :
      Step opts sh d .writer sh { d with counted := d.counted + chunk.n, writer := .select }
  | writeFailed {chunk : RelayChunk} {e : RelayErr} (stats : Stats) (hw : d.writer = .account chunk (some e))
      (hs : stats = if e = .timeout then { sh.stats with writeTimeouts := sh.stats.writeTimeouts + 1 } else sh.stats) :
      Step opts sh d .writer { sh with stats } { d with writer := .closeWrite (some e) }
  | closeWrite {result : Option RelayErr} (hw : d.writer = .closeWrite result) :
      Step opts sh d .writer sh { d with writer := .report result }
  | writerReported {result : Option RelayErr} (hw : d.writer = .report result) :
      Step opts sh d .writer sh { d.record result with writer := .done result }

variable {opts : RelayOptions} {sh sh' : Shared} {d d' : Direction}

theorem stepReader_cases (h : stepReader opts sh d = some (sh', d')) : d.Step opts sh .reader sh' d' := by
  unfold stepReader at h
  cases hr : d.reader with
  | observe chunk err => rw [hr] at h; cases h; exact .observe hr
  | recycle buf err => rw [hr] at h; cases h; exact .recycle hr
  | check err =>
    rw [hr] at h
    cases err with
    | none => cases h; exact .next hr
    | some e => cases h; exact .ended hr
  | stopped buf e => rw [hr] at h; cases h; exact .dropStopped hr
  | expired buf => rw [hr] at h; cases h; exact .dropExpired _ hr rfl
  | close result => rw [hr] at h; cases h; exact .close hr
  | report result => rw [hr] at h; cases h; exact .reported hr
  | get | read | offer | done => rw [hr] at h; cases h

theorem stepWriter_cases (h : stepWriter opts sh d = some (sh', d')) : d.Step opts sh .writer sh' d' := by
  unfold stepWriter at h
  cases hw : d.writer with
  | release chunk err => rw [hw] at h; cases h; exact .release hw
  | account chunk err =>
    rw [hw] at h
    cases err with
    | none => cases h; exact .account hw
    | some e => cases h; exact .writeFailed _ hw rfl
  | closeWrite result => rw [hw] at h; cases h; exact .closeWrite hw
  | report result => rw [hw] at h; cases h; exact .writerReported hw
  | select | write | done => rw [hw] at h; cases h

theorem step_cases {m : Move} (h : d.step opts sh m = some (sh', d')) : d.Step opts sh m sh' d' := by
  cases m with
  | reader => exact stepReader_cases h
  | writer => exact stepWriter_cases h
  | get choice =>
    simp only [Direction.step] at h
    split at h
    · obtain ⟨⟨pool, buf⟩, hg, he⟩ := Option.map_eq_some_iff.1 h
      cases he
      exact .get ‹_› hg
    · cases h
  | read bytes err =>
    simp only [Direction.step] at h
    split at h
    · split at h
      · cases h
        cases bytes with
        | nil => simpa using Direction.Step.noData err ‹_›
        | cons b bs => exact .data err ‹_› (by simp)
      · cases h
    · cases h
  | send =>
    simp only [Direction.step] at h
    split at h
    · split at h
      · cases h
        exact .send ‹_› ‹_›
      · cases h
    · cases h
  | handoff =>
    simp only [Direction.step] at h
    split at h
    · cases h
      exact .handoff ‹_› ‹_› ‹_›
    · cases h
  | enqueueTimeout =>
    simp only [Direction.step] at h
    split at h
    · cases h
      exact .expire ‹_›
    · cases h
  | readerCancelled =>
    simp only [Direction.step] at h
    split at h
    · cases h
      exact .stop ‹_› ‹_›
    · cases h
  | recv =>
    simp only [Direction.step] at h
    split at h
    · cases h
      exact .recv ‹_› ‹_›
    · split at h
      · cases h
        exact .drained ‹_› ‹_› ‹_›
      · cases h
    · cases h
  | writerCancelled =>
    simp only [Direction.step] at h
    split at h
    · cases h
      exact .cancelled ‹_› ‹_›
    · cases h
  | write n err =>
    simp only [Direction.step] at h
    split at h
    · split at h
      · rename_i chunk k hw hn
        cases h
        cases err with
        | some e => exact .writeErr e hw hn
        | none =>
          by_cases hlt : k + n < chunk.n
          · rw [show afterWrite chunk (k + n) none = .write chunk (k + n) from if_pos hlt]
            exact .writePart hw hlt
          · rw [show afterWrite chunk (k + n) none = .release chunk none from if_neg hlt]
            exact .writeAll hw (by omega)
      · cases h
    · cases h

inductive OneWay.Stepped (opts : RelayOptions) (s : OneWay) : OneWayLabel → OneWay → Prop
  | move {m : Move} {shared : Shared} {dir : Direction} (h : s.dir.Step opts s.shared m shared dir) :
      Stepped opts s (.move m) { s with shared, dir }
  | cancel (e : RelayErr) : Stepped opts s (.cancel e) { s with dir := s.dir.cancel e }
  | other {l : OneWayLabel} {pool : BufferPool} {others : List Nat} (hl : ∀ m, l ≠ .move m)
      (h : s.shared.pool.OtherUse s.others pool others) :
      Stepped opts s l { s with shared := { s.shared with pool }, others }

theorem OneWay.stepped {s s' : OneWay} {l : OneWayLabel} (h : s.step opts l = some s') : s.Stepped opts l s' := by
  cases l with
  | move m =>
    obtain ⟨⟨shared, dir⟩, hm, he⟩ := Option.map_eq_some_iff.1 h
    cases he
    exact .move (step_cases hm)
  | cancel e =>
    cases h
    exact .cancel e
  | otherGet choice =>
    obtain ⟨⟨pool, buf⟩, hg, he⟩ := Option.map_eq_some_iff.1 h
    cases he
    exact .other (fun _ h => by cases h) (.get hg)
  | otherFill buf bytes =>
    simp only [OneWay.step] at h
    split at h
    · cases h
      exact .other (fun _ h => by cases h) (.fill bytes ‹_›)
    · cases h
  | otherPut buf =>
    simp only [OneWay.step] at h
    split at h
    · cases h
      exact .other (fun _ h => by cases h) (.put ‹_›)
    · cases h

end TunnelEdge.Relay
