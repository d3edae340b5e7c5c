import TunnelEdge.Relay.InOrder
/-!
# Both directions

`bidirectionalWithOptions` (`internal/relay/relay.go`) runs `relayOneWay` in both
directions under an `errgroup` of its own: the first direction that returns an
error cancels the other. A timeout that comes out of this is taken for the idle
timeout and not reported, unless a write timed out.

Closing the two ends and moving their deadlines only changes what `Read` and
`Write` return, so it does not show in the moves.
-/

namespace TunnelEdge.Relay

open GoLib

/-- The names that the source gives to the directions: from `a` to `b`, and back. -/
inductive Side
  | sent | received
deriving DecidableEq, Repr

def Side.other : Side → Side
  | .sent => .received
  | .received => .sent

structure TwoWay where
  shared : Shared := {}
  /-- The buffers that other relays have taken. -/
  others : List Nat := []
  dir : Side → Direction := fun _ => {}
  /-- The directions whose result the group has. -/
  finished : Side → Bool := fun _ => false
  /-- The first error of the group. -/
  err : Option RelayErr := none
  /-- `ctx.Err()` of the caller's context. -/
  callerErr : Option RelayErr := none

inductive TwoWayLabel
  | move (side : Side) (m : Move)
  /-- The group gets the result of `relayOneWay`. -/
  | returned (side : Side)
  | cancel (e : RelayErr)
  | otherGet (choice : Option Nat)
  | otherFill (buf : Nat) (bytes : List UInt8)
  | otherPut (buf : Nat)
deriving DecidableEq, Repr

namespace TwoWay

/-- An error cancels the contexts of both directions. -/
def record (w : TwoWay) : Option RelayErr → TwoWay
  | none => w
  | some e => { w with err := w.err.or (some e), dir := fun side => (w.dir side).cancel .canceled }

def step (opts : RelayOptions) (w : TwoWay) : TwoWayLabel → Option TwoWay
  | .move side m => ((w.dir side).step opts w.shared m).map fun (shared, d) =>
      { w with shared, dir := Function.update w.dir side d }
  | .returned side =>
    if (w.dir side).returned ∧ ¬ w.finished side then
      some ({ w with finished := Function.update w.finished side true }.record (w.dir side).err)
    else none
  | .cancel e =>
    some { w with callerErr := w.callerErr.or (some e), dir := fun side => (w.dir side).cancel e }
  | .otherGet choice => (w.shared.pool.get choice).map fun (pool, buf) =>
      { w with shared := { w.shared with pool }, others := buf :: w.others }
  | .otherFill buf bytes =>
    if buf ∈ w.others then some { w with shared := { w.shared with pool := w.shared.pool.fill buf bytes } } else none
  | .otherPut buf =>
    if buf ∈ w.others then
      some { w with shared := { w.shared with pool := w.shared.pool.put buf }, others := w.others.erase buf }
    else none

/-- What the call returns, once both directions are over. -/
def result (w : TwoWay) : Option (Option RelayErr) :=
  if w.finished .sent && w.finished .received then
    let err := if w.err = some .timeout ∧ w.shared.stats.writeTimeouts = 0 then none else w.err
    some (if err = some .closed ∧ w.callerErr ≠ none then w.callerErr else err)
  else none

def delivered (w : TwoWay) : Bool :=
  (w.dir .sent).written = (w.dir .sent).received && (w.dir .received).written = (w.dir .received).received

def timedOut (w : TwoWay) : Bool :=
  (w.dir .sent).readErr = some .timeout || (w.dir .received).readErr = some .timeout

end TwoWay

variable {opts : RelayOptions} {sh sh' : Shared} {d d' : Direction} {m : Move}

/-! ## What a step does to a call -/

/-- The steps of a call of `bidirectionalWithOptions` in its process. -/
inductive TwoWay.Stepped (opts : RelayOptions) (w : TwoWay) : TwoWayLabel → TwoWay → Prop
  | move {side : Side} {m : Move} {shared : Shared} {d' : Direction}
      (h : (w.dir side).Step opts w.shared m shared d') :
      Stepped opts w (.move side m) { w with shared, dir := Function.update w.dir side d' }
  | returned {side : Side} (hr : (w.dir side).returned = true) :
      Stepped opts w (.returned side)
        ({ w with finished := Function.update w.finished side true }.record (w.dir side).err)
  | cancel (e : RelayErr) :
      Stepped opts w (.cancel e)
        { w with callerErr := w.callerErr.or (some e), dir := fun side => (w.dir side).cancel e }
  | other {l : TwoWayLabel} {pool : BufferPool} {others : List Nat} (hl : ∀ side m, l ≠ .move side m)
      (h : w.shared.pool.OtherUse w.others pool others) :
      Stepped opts w l { w with shared := { w.shared with pool }, others }

theorem TwoWay.stepped {w w' : TwoWay} {l : TwoWayLabel} (h : w.step opts l = some w') : w.Stepped opts l w' := by
  cases l with
  | move side m =>
    obtain ⟨⟨shared, d'⟩, hm, he⟩ := Option.map_eq_some_iff.1 h
    cases he
    exact .move (step_cases hm)
  | returned side =>
    simp only [TwoWay.step] at h
    split at h
    · rename_i hr
      cases h
      exact .returned hr.1
    · cases h
  | cancel e =>
    cases h
    exact .cancel e
  | otherGet choice =>
    obtain ⟨⟨pool, buf⟩, hg, he⟩ := Option.map_eq_some_iff.1 h
    cases he
    exact .other (fun _ _ h => by cases h) (.get hg)
  | otherFill buf bytes =>
    simp only [TwoWay.step] at h
    split at h
    · cases h
      exact .other (fun _ _ h => by cases h) (.fill bytes ‹_›)
    · cases h
  | otherPut buf =>
    simp only [TwoWay.step] at h
    split at h
    · cases h
      exact .other (fun _ _ h => by cases h) (.put ‹_›)
    · cases h

/-! ## Where a timeout comes from -/

/-- The error that the reader ends with, or will. -/
def ReaderPc.ending : ReaderPc → Option RelayErr
  | .stopped _ e => some e
  | .expired _ => some .backpressure
  | .close result | .report result | .done result => result
  | _ => none

def WriterPc.ending : WriterPc → Option RelayErr
  | .closeWrite result | .report result | .done result => result
  | _ => none

def ReaderPc.reading : ReaderPc → Bool
  | .get | .read _ => true
  | _ => false

/-- A timeout of a direction is that of a `Read`, which was its last, or a write timeout that is counted. -/
structure Direction.Timeouts (stats : Stats) (d : Direction) : Prop where
  reading : d.reader.reading = true → d.readErr = none
  ctx : d.ctxErr ≠ some .timeout
  reader : d.reader.ending = some .timeout → d.readErr = some .timeout
  writer : d.writer.ending = some .timeout → 0 < stats.writeTimeouts
  err : d.err = some .timeout → d.readErr = some .timeout ∨ 0 < stats.writeTimeouts

theorem step_stats (h : d.Step opts sh m sh' d') : sh.stats.writeTimeouts ≤ sh'.stats.writeTimeouts := by
  cases h with
  | observe hr =>
    simp only [Stats.observeQueueDepth]
    split <;> exact Nat.le_refl _
  | dropExpired stats hr hs =>
    exact Nat.le_of_eq (by rw [hs])
  | writeFailed stats hw hs =>
    rw [hs]
    dsimp only
    split
    · exact Nat.le_succ _
    · exact Nat.le_refl _
  | _ => exact Nat.le_refl _

theorem Direction.Timeouts.mono {stats stats' : Stats} (ht : d.Timeouts stats)
    (h : stats.writeTimeouts ≤ stats'.writeTimeouts) : d.Timeouts stats' :=
  ⟨ht.reading, ht.ctx, ht.reader, fun hw => Nat.lt_of_lt_of_le (ht.writer hw) h,
    fun he => (ht.err he).imp_right fun hw => Nat.lt_of_lt_of_le hw h⟩

theorem Direction.Timeouts.cancel {stats : Stats} (ht : d.Timeouts stats) : (d.cancel .canceled).Timeouts stats := by
  refine ⟨ht.reading, ?_, ht.reader, ht.writer, ht.err⟩
  have hctx := ht.ctx
  cases hc : d.ctxErr <;> simp_all [Direction.cancel]

theorem record_timeout (d : Direction) (r : Option RelayErr) (h : d.ctxErr ≠ some .timeout) :
    (d.record r).ctxErr ≠ some .timeout ∧
      ((d.record r).err = some .timeout → d.err = some .timeout ∨ r = some .timeout) := by
  cases r with
  | none => exact ⟨h, .inl⟩
  | some e =>
    cases hc : d.ctxErr <;> cases he : d.err <;> simp_all [Direction.record]

theorem step_readErr (ht : d.Timeouts sh.stats) (h : d.Step opts sh m sh' d') (he : d.readErr = some .timeout) :
    d'.readErr = some .timeout := by
  cases h with
  | data _ hr | noData _ hr =>
    have hnone := ht.reading (by rw [hr]; rfl)
    rw [he] at hnone
    cases hnone
  | reported | writerReported => simpa using he
  | _ => exact he

theorem Direction.Timeouts.moved {stats : Stats} (ht : d.Timeouts stats) (hctx : d'.ctxErr = d.ctxErr)
    (herr : d'.err = d.err) (hre : d.readErr = some .timeout → d'.readErr = some .timeout)
    (hreading : d'.reader.reading = true → d'.readErr = none)
    (hreader : d'.reader.ending = some .timeout → d'.readErr = some .timeout)
    (hwriter : d'.writer.ending = some .timeout → 0 < stats.writeTimeouts) : d'.Timeouts stats := by
  refine ⟨hreading, by rw [hctx]; exact ht.ctx, hreader, hwriter, fun h => ?_⟩
  rw [herr] at h
  exact (ht.err h).imp_left hre

theorem Direction.Timeouts.step (ht : d.Timeouts sh.stats) (he : d.Ends) (h : d.Step opts sh m sh' d') :
    d'.Timeouts sh'.stats := by
  have hre := step_readErr ht h
  have ht := ht.mono (step_stats h)
  cases h with
  | get hr =>
    exact ht.moved rfl rfl hre (fun _ => ht.reading (by rw [hr]; rfl)) (fun h => by cases h) ht.writer
  | data _ hr | noData _ hr | observe hr | send hr | recycle hr | expire hr | dropExpired _ hr =>
    exact ht.moved rfl rfl hre (fun h => by cases h) (fun h => by cases h) ht.writer
  | handoff hr hw =>
    exact ht.moved rfl rfl hre (fun h => by cases h) (fun h => by cases h) (fun h => by cases h)
  | next hr =>
    exact ht.moved rfl rfl hre (fun _ => he.pending none (by rw [hr]; rfl)) (fun h => by cases h) ht.writer
  | stop hr hc =>
    -- the error is that of the context
    exact ht.moved rfl rfl hre (fun h => by cases h) (fun h => absurd (hc.trans h) ht.ctx) ht.writer
  | @ended e hr =>
    refine ht.moved rfl rfl hre (fun h => by cases h) (fun h => ?_) ht.writer
    have hlast : d.readErr = some e := he.pending (some e) (by rw [hr]; rfl)
    by_cases heq : e = .eof
    · rw [ReaderPc.ending, if_pos heq] at h
      cases h
    · rw [ReaderPc.ending, if_neg heq] at h
      exact hlast.trans h
  | dropStopped hr | close hr =>
    exact ht.moved rfl rfl hre (fun h => by cases h) (fun h => ht.reader (by rw [hr]; exact h)) ht.writer
  | @reported result hr =>
    obtain ⟨hctx, herr⟩ := record_timeout d result ht.ctx
    have hlast : result = some .timeout → d.readErr = some .timeout := fun h => ht.reader (by rw [hr]; exact h)
    refine ⟨fun h => (by cases h), hctx, by simpa [ReaderPc.ending] using hlast, by simpa using ht.writer, fun h => ?_⟩
    simpa using (herr h).elim ht.err fun h => .inl (hlast h)
  | @writerReported result hw =>
    obtain ⟨hctx, herr⟩ := record_timeout d result ht.ctx
    have hcount : result = some .timeout → 0 < sh.stats.writeTimeouts := fun h => ht.writer (by rw [hw]; exact h)
    refine ⟨by simpa using ht.reading, hctx, by simpa using ht.reader, by simpa [WriterPc.ending] using hcount,
      fun h => ?_⟩
    simpa using (herr h).elim ht.err fun h => .inr (hcount h)
  | writeFailed stats hw hs =>
    refine ht.moved rfl rfl hre ht.reading ht.reader (fun h => ?_)
    rw [hs, if_pos (Option.some.inj h)]
    exact Nat.succ_pos _
  | recv hw | drained hw | writePart hw | writeAll hw | writeErr _ hw | release hw | account hw =>
    exact ht.moved rfl rfl hre ht.reading ht.reader (fun h => by cases h)
  | cancelled hw hc => exact ht.moved rfl rfl hre ht.reading ht.reader (fun h => absurd (hc.trans h) ht.ctx)
  | closeWrite hw => exact ht.moved rfl rfl hre ht.reading ht.reader (fun h => ht.writer (by rw [hw]; exact h))

/-! ## The two directions together -/

/-- The buffers that a direction has to share the pool with. -/
def TwoWay.rest (w : TwoWay) (side : Side) : List Nat := w.others ++ (w.dir side.other).held

structure TwoWay.Inv (w : TwoWay) : Prop where
  dirs : ∀ side, (w.dir side).Inv (w.rest side) w.shared.pool
  timeouts : ∀ side, (w.dir side).Timeouts w.shared.stats
  finished : ∀ side, w.finished side = true → (w.dir side).returned = true ∧ ((w.dir side).err ≠ none → w.err ≠ none)
  err : w.err = some .timeout → w.timedOut = true ∨ 0 < w.shared.stats.writeTimeouts
  caller : w.callerErr = none

theorem not_returned_of_step (h : d.Step opts sh m sh' d') : d.returned ≠ true := by
  intro hret
  obtain ⟨r, r', hreader, hwriter⟩ := returned_done hret
  cases h with
  | get hr | data _ hr | noData _ hr | observe hr | send hr | handoff hr | expire hr | stop hr | recycle hr | next hr
  | ended hr | dropStopped hr | dropExpired _ hr | close hr | reported hr => cases hreader.symm.trans hr
  | recv hw | drained hw | cancelled hw | writePart hw | writeAll hw | writeErr _ hw | release hw | account hw
  | writeFailed _ hw | closeWrite hw | writerReported hw => cases hwriter.symm.trans hw

theorem step_written (h : d.Step opts sh m sh' d') : d.written <+: d'.written := by
  cases h with
  | writePart | writeAll | writeErr => exact List.prefix_append ..
  | reported | writerReported => simp
  | _ => exact List.prefix_rfl

theorem step_received (h : d.Step opts sh m sh' d') :
    (∃ bytes err, m = .read bytes err ∧ d'.received = d.received ++ bytes ∧ d'.readErr = err) ∨
      (d'.received = d.received ∧ d'.readErr = d.readErr) := by
  cases h with
  | data err => exact .inl ⟨_, err, rfl, rfl, rfl⟩
  | noData err => exact .inl ⟨[], err, rfl, (List.append_nil _).symm, rfl⟩
  | reported | writerReported => simp
  | _ => exact .inr ⟨rfl, rfl⟩

/-- Nothing is queued, neither goroutine has a chunk in hand, and neither has failed. -/
def Direction.resting (d : Direction) : Bool :=
  d.chunks = [] && d.reader.chunk = [] && d.writer.chunk = [] && !d.reader.failed && !d.writer.failed

theorem Direction.Inv.written_of_resting {rest : List Nat} {p : BufferPool} (hi : d.Inv rest p)
    (h : d.resting = true) : d.written = d.received := by
  simp only [resting, Bool.and_eq_true, decide_eq_true_eq, Bool.not_eq_true'] at h
  obtain ⟨⟨⟨⟨hq, hr⟩, hw⟩, hrf⟩, hwf⟩ := h
  have hempty : d.inFlight p = [] := by
    rw [inFlight, hq, hr]
    cases hpc : d.writer with
    | write chunk k =>
      rw [hpc] at hw
      cases hw
    | _ => rfl
  have hall := hi.flow.whole hwf hrf
  rwa [hempty, List.append_nil] at hall

namespace TwoWay

variable {w w' : TwoWay}

theorem timedOut_iff : w.timedOut = true ↔ ∃ side, (w.dir side).readErr = some .timeout := by
  simp only [timedOut, Bool.or_eq_true, decide_eq_true_eq]
  constructor
  · rintro (h | h)
    · exact ⟨.sent, h⟩
    · exact ⟨.received, h⟩
  · rintro ⟨side, h⟩
    cases side with
    | sent => exact .inl h
    | received => exact .inr h

theorem delivered_iff : w.delivered = true ↔ ∀ side, (w.dir side).written = (w.dir side).received := by
  simp only [delivered, Bool.and_eq_true, decide_eq_true_eq]
  constructor
  · rintro ⟨hs, hr⟩ side
    cases side with
    | sent => exact hs
    | received => exact hr
  · exact fun h => ⟨h .sent, h .received⟩

def Orderly (w : TwoWay) : Prop := ∀ side, (w.dir side).Inv (w.rest side) w.shared.pool

theorem Orderly.move (hi : w.Orderly) {side : Side} {shared : Shared}
    (h : (w.dir side).Step opts w.shared m shared d') :
    TwoWay.Orderly { w with shared, dir := Function.update w.dir side d' } := by
  have hmine := (hi side).step h
  have hother : (w.dir side.other).Inv (w.others ++ d'.held) shared.pool := by
    refine (hi side.other).frame ?_ fun c hc => ?_
    · refine hmine.owned.owns.perm ?_
      simp only [TwoWay.rest, List.append_assoc]
      exact List.perm_append_comm.append_left w.others
    · exact step_keeps (hi side).owned h (.inl (List.mem_append_right _ (onWay_held hc)))
  intro side'
  cases side <;> cases side' <;> first | exact hmine | exact hother

theorem Orderly.other (hi : w.Orderly) {pool : BufferPool} {others : List Nat}
    (hu : w.shared.pool.OtherUse w.others pool others) :
    TwoWay.Orderly { w with shared := { w.shared with pool }, others } := by
  intro side
  have hside := hi side
  refine hside.frame ?_ fun c hc => hu.data fun hm => ?_
  · have h := hside.owned.owns
    rw [TwoWay.rest, List.append_assoc] at h ⊢
    exact hu.owns h
  · exact hside.owned.not_rest hc (List.mem_append_left _ hm)

theorem inv_move (hi : w.Inv) {side : Side} {shared : Shared} (h : (w.dir side).Step opts w.shared m shared d') :
    TwoWay.Inv { w with shared, dir := Function.update w.dir side d' } := by
  have hstats := step_stats h
  refine ⟨Orderly.move hi.dirs h, fun side' => ?_, fun side' ho => ?_, fun he => ?_, hi.caller⟩
  · by_cases hs : side' = side
    · subst hs
      simpa using (hi.timeouts side').step (hi.dirs side').ends h
    · simpa [hs] using (hi.timeouts side').mono hstats
  · by_cases hs : side' = side
    · subst hs
      exact absurd (hi.finished side' ho).1 (not_returned_of_step h)
    · simpa [hs] using hi.finished side' ho
  · refine (hi.err he).imp (fun ht => ?_) fun hw => Nat.lt_of_lt_of_le hw hstats
    obtain ⟨side', hr⟩ := timedOut_iff.1 ht
    refine timedOut_iff.2 ⟨side', ?_⟩
    by_cases hs : side' = side
    · subst hs
      simpa using step_readErr (hi.timeouts side') h hr
    · simpa [hs] using hr

theorem inv_other (hi : w.Inv) {pool : BufferPool} {others : List Nat}
    (hu : w.shared.pool.OtherUse w.others pool others) :
    TwoWay.Inv { w with shared := { w.shared with pool }, others } :=
  ⟨Orderly.other hi.dirs hu, hi.timeouts, hi.finished, hi.err, hi.caller⟩

theorem inv_returned (hi : w.Inv) {side : Side} (hr : (w.dir side).returned = true) :
    ({ w with finished := Function.update w.finished side true }.record (w.dir side).err).Inv := by
  have hover : ∀ side', Function.update w.finished side true side' = true →
      (w.dir side').returned = true ∧ ((w.dir side').err ≠ none → w.err.or (w.dir side).err ≠ none) := by
    intro side' ho
    by_cases hs : side' = side
    · subst hs
      exact ⟨hr, fun he h => he (Option.or_eq_none_iff.1 h).2⟩
    · rw [Function.update_of_ne hs] at ho
      exact ⟨(hi.finished side' ho).1, fun he h => (hi.finished side' ho).2 he (Option.or_eq_none_iff.1 h).1⟩
  cases he : (w.dir side).err with
  | none =>
    simp only [he, Option.or_none] at hover
    exact ⟨hi.dirs, hi.timeouts, hover, hi.err, hi.caller⟩
  | some e =>
    rw [he] at hover
    refine ⟨fun side' => (hi.dirs side').cancel .canceled, fun side' => (hi.timeouts side').cancel, hover, fun ht => ?_,
      hi.caller⟩
    cases hw : w.err with
    | some e' =>
      simp only [record, hw, Option.some_or] at ht
      exact hi.err (hw.trans ht)
    | none =>
      simp only [record, hw, Option.none_or] at ht
      exact ((hi.timeouts side).err (he.trans ht)).imp_left fun h => timedOut_iff.2 ⟨side, h⟩

/-- The call's context is not cancelled, the first `Read` that fails with a timeout
brings no data and finds both directions at rest, and after it no `Read` brings data. -/
def harmless (w : TwoWay) : TwoWayLabel → Bool
  | .move _ (.read bytes err) =>
    if w.timedOut then bytes = []
    else err ≠ some .timeout || (bytes = [] && (w.dir .sent).resting && (w.dir .received).resting)
  | .cancel _ => false
  | _ => true

theorem inv_step (hi : w.Inv) {l : TwoWayLabel} (hl : w.harmless l = true) (h : w.step opts l = some w') : w'.Inv := by
  cases stepped h with
  | move hm => exact inv_move hi hm
  | returned hr => exact inv_returned hi hr
  | cancel e => cases hl
  | other _ hu => exact inv_other hi hu

/-! ## No silent loss -/

/-- A harmless move after which a `Read` has timed out finds everything written, and adds nothing. -/
theorem quiet_of_timedOut (hi : w.Inv) (hd : w.timedOut = true → w.delivered = true) {side : Side}
    (hl : w.harmless (.move side m) = true) {shared : Shared} (h : (w.dir side).Step opts w.shared m shared d')
    (ht : TwoWay.timedOut { w with shared, dir := Function.update w.dir side d' } = true) :
    w.delivered = true ∧ d'.received = (w.dir side).received := by
  obtain ⟨side', hside⟩ := timedOut_iff.1 ht
  -- unless this move is the timeout, it was there before
  have hbefore : (w.dir side).readErr = d'.readErr ∨ d'.readErr ≠ some .timeout → w.timedOut = true := by
    intro hcase
    refine timedOut_iff.2 ⟨side', ?_⟩
    by_cases hs : side' = side
    · subst hs
      simp only [Function.update_self] at hside
      rcases hcase with he | hne
      · exact he.trans hside
      · exact absurd hside hne
    · simpa [hs] using hside
  rcases step_received h with ⟨bytes, err, rfl, hrec, herr⟩ | ⟨hrec, herr⟩
  · simp only [harmless] at hl
    split at hl
    · rename_i htime
      exact ⟨hd htime, by rw [hrec, of_decide_eq_true hl, List.append_nil]⟩
    · -- the first timeout, at rest
      rename_i hnot
      simp only [Bool.or_eq_true, Bool.and_eq_true, decide_eq_true_eq] at hl
      rcases hl with hne | ⟨⟨hnil, hsent⟩, hreceived⟩
      · exact absurd (hbefore (.inr (herr ▸ hne))) hnot
      · refine ⟨delivered_iff.2 fun side' => (hi.dirs side').written_of_resting ?_, by rw [hrec, hnil, List.append_nil]⟩
        cases side' with
        | sent => exact hsent
        | received => exact hreceived
  · exact ⟨hd (hbefore (.inl herr.symm)), hrec⟩

/-- After a read timeout everything is written, and stays so. -/
theorem delivered_step (hi : w.Inv) (hd : w.timedOut = true → w.delivered = true) {l : TwoWayLabel}
    (hl : w.harmless l = true) (h : w.step opts l = some w') : w'.timedOut = true → w'.delivered = true := by
  cases stepped h with
  | @move side m shared d' hstep =>
    intro ht
    obtain ⟨hall, hrec⟩ := quiet_of_timedOut hi hd hl hstep ht
    rw [delivered_iff] at hall ⊢
    intro side'
    by_cases hs : side' = side
    · subst hs
      -- nothing new was received, and what is written only grows: it stays the whole of it
      have hsent := ((inv_move hi hstep).dirs side').flow.sent
      simp only [Function.update_self] at hsent ⊢
      rw [hrec, ← hall side'] at hsent ⊢
      exact hsent.eq_of_length_le (step_written hstep).length_le
    · simpa [hs] using hall side'
  | @returned side hr =>
    cases (w.dir side).err <;> exact hd
  | cancel e => cases hl
  | other _ hu => exact hd

theorem inv_init {p : BufferPool} {others : List Nat} (ho : p.Owns others) :
    TwoWay.Inv { shared := { pool := p }, others } := by
  refine ⟨fun side => inv_start ?_, fun side => ⟨fun _ => rfl, ?_, ?_, ?_, ?_⟩, ?_, ?_, rfl⟩
  · simpa [TwoWay.rest, Direction.held, ReaderPc.held, WriterPc.held] using ho
  all_goals simp [ReaderPc.ending, WriterPc.ending]

theorem err_of_result (hc : w.callerErr = none) (h : w.result = some none) :
    (∀ side, w.finished side = true) ∧ (w.err = none ∨ (w.err = some .timeout ∧ w.shared.stats.writeTimeouts = 0)) := by
  unfold result at h
  split at h
  · rename_i hover
    rw [Bool.and_eq_true] at hover
    refine ⟨fun side => by cases side <;> simp [hover], ?_⟩
    simp only [hc, ne_eq, not_true_eq_false, and_false, if_false, Option.some.injEq] at h
    split at h
    · exact .inr ‹_›
    · exact .inl h
  · cases h

/-- In a run all of whose steps are harmless, a call that returns nil has
written, in both directions, every byte it read. -/
theorem nil_result_delivered (opts : RelayOptions) {p : BufferPool} {others : List Nat} (ho : p.Owns others)
    {ls : List TwoWayLabel} {w : TwoWay}
    (h : Run (TwoWay.step opts) (fun w l => w.harmless l = true) { shared := { pool := p }, others } ls w)
    (hr : w.result = some none) (side : Side) : (w.dir side).written = (w.dir side).received := by
  have hinv : w.Inv ∧ (w.timedOut = true → w.delivered = true) := by
    refine h.inv (fun w => w.Inv ∧ (w.timedOut = true → w.delivered = true)) ⟨inv_init ho, fun ht => ?_⟩ ?_
    · cases ht
    · rintro w l w' ⟨hi, hd⟩ hok hst
      exact ⟨inv_step hi hok hst, delivered_step hi hd hok hst⟩
  obtain ⟨hi, hd⟩ := hinv
  obtain ⟨hover, herr | ⟨herr, hzero⟩⟩ := err_of_result hi.caller hr
  · -- two clean ends
    obtain ⟨hret, hnone⟩ := hi.finished side (hover side)
    have hdir : (w.dir side).err = none := by
      by_contra hne
      exact hnone hne herr
    exact ((hi.dirs side).delivered hret hdir).2.1
  · -- an idle timeout that is not reported
    rcases hi.err herr with ht | hw
    · exact delivered_iff.1 (hd ht) side
    · omega

/-- A direction whose `Read` fails, and whose writer sees the cancelled context. -/
def failRead (e : RelayErr) : List Move :=
  [.get none, .read [] (some e), .reader, .reader, .reader, .reader, .writerCancelled, .writer, .writer]

/-- `a` sends a byte and then nothing until its deadline; `written` is what the writer does in between. -/
def idleRun (written : List Move) : List TwoWayLabel :=
  let sent : List Move := [.get none, .read [7] none, .reader, .send, .reader] ++ written ++ failRead .timeout
  sent.map (.move .sent) ++ [.returned .sent] ++ (failRead .closed).map (.move .received) ++ [.returned .received]

/-- The byte is written before the deadline passes. -/
theorem nil_result_delivered_idle :
    ∃ w, Run (TwoWay.step {}) (fun w l => w.harmless l = true) {} (idleRun [.recv, .write 1 none, .writer, .writer]) w ∧
      w.result = some none ∧ (w.dir .sent).received = [7] ∧ (w.dir .sent).written = (w.dir .sent).received := by
  have hrun : ∃ w, Run (TwoWay.step {}) (fun w l => w.harmless l = true) {}
      (idleRun [.recv, .write 1 none, .writer, .writer]) w ∧
      (w.result = some none ∧ (w.dir .sent).received = [7]) := run_checked_any (by decide +kernel)
  obtain ⟨w, hr, hres, hrec⟩ := hrun
  exact ⟨w, hr, hres, hrec,
    nil_result_delivered {} ⟨List.nodup_nil, fun i hi => absurd hi List.not_mem_nil⟩ hr hres .sent⟩

/-- The byte is still in the queue when the deadline passes: it is gone, and the call reports no error. -/
theorem idle_timeout_loses_queued_byte :
    ∃ w, Run (TwoWay.step {}) (fun _ _ => True) {} (idleRun []) w ∧ w.callerErr = none ∧ w.result = some none ∧
      (w.dir .sent).received = [7] ∧ (w.dir .sent).written = [] :=
  run_any (by decide +kernel)

end TwoWay

end TunnelEdge.Relay
