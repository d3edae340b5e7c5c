import TunnelEdge.Relay.Endpoints
/-!
# What a bandwidth limit changes

`BidirectionalWithBandwidthLimit` runs the relay over ends that are wrapped in a
`bandwidthLimitedRWC`. Besides the speed this changes two things. A `Read` that
returns more than the burst comes with an error. And the wrapper hides
`CloseWrite`, so a writer that is through closes the end for good, also for the
reader of the other direction. Where neither matters, the call takes the same
steps as without the limit.
-/

namespace TunnelEdge.Relay

open GoLib

/-- No `Read` returns more than the limit, and a writer closes an end only after its reader has had the last `Read`. -/
def spares (bandwidthBps : Int) (c : TwoWay) : LinkLabel → Bool
  | .call (.move _ (.read bytes _)) => bytes.length ≤ bandwidthBps
  | .call (.move side .writer) => !(c.dir side).writer.closing || (c.dir side.other).reader.readsNoMore
  | _ => true

def Link.steady (bandwidthBps : Int) (w : Link) (l : LinkLabel) : Bool := calm l && spares bandwidthBps w.call l

def TwoWay.outcome (c : TwoWay) : Option (Option RelayErr × List UInt8 × List UInt8) :=
  c.result.map fun r => (r, (c.dir .sent).written, (c.dir .received).written)

/-- The endpoint is open, can be half-closed, and has no limiter. -/
def Endpoint.opened (e : Endpoint) : Bool := e = { input := e.input, ending := e.ending, writeErr := e.writeErr }

variable {bandwidthBps : Int} {reader reader' : ReaderPc} {e e' : Endpoint} {w w' : Link} {c c' : TwoWay}
  {inputs : Side → List UInt8}

/-! ## The same call over both ends -/

/-- An end behind the limiter, and the same end without it. They may differ in whether they are closed once nobody
reads from them. -/
structure SameEnd (bandwidthBps : Int) (reader : ReaderPc) (e e' : Endpoint) : Prop where
  stream : e.input = e'.input ∧ e.ending = e'.ending ∧ e.writeErr = e'.writeErr
  limited : e.burst = some (min64 bandwidthBps (32 * 1024)) ∧ e.closeWriter = false
  plain : e'.burst = none ∧ e'.closeWriter = true
  closed : reader.readsNoMore = true ∨ e.closed = e'.closed
  shut : (e.closed || e.shut) = (e'.closed || e'.shut)

structure Alike (bandwidthBps : Int) (w w' : Link) : Prop where
  call : w.call = w'.call
  ends : ∀ side, SameEnd bandwidthBps (w.call.dir side).reader (w.ends side) (w'.ends side)

namespace SameEnd

theorem mono (h : SameEnd bandwidthBps reader e e') (hr : reader.readsNoMore = true → reader'.readsNoMore = true) :
    SameEnd bandwidthBps reader' e e' :=
  { h with closed := h.closed.imp_left hr }

theorem produced (h : SameEnd bandwidthBps reader e e') (n : Nat) :
    SameEnd bandwidthBps reader (e.produced n) (e'.produced n) :=
  { h with stream := ⟨congrArg (List.drop n) h.stream.1, h.stream.2⟩ }

theorem close (h : SameEnd bandwidthBps reader e e') : SameEnd bandwidthBps reader e.close e'.close :=
  { h with closed := .inr rfl, shut := rfl }

theorem closeWrite (h : SameEnd bandwidthBps reader e e') (hr : reader.readsNoMore = true) :
    SameEnd bandwidthBps reader e.closeWrite e'.closeWrite := by
  have hlimited : e.closeWrite = e.close := by simp [Endpoint.closeWrite, h.limited.2]
  have hplain : e'.closeWrite = { e' with shut := true } := by simp [Endpoint.closeWrite, h.plain.2]
  rw [hlimited, hplain]
  exact { h with closed := .inl hr, shut := (Bool.or_true _).symm }

theorem reads (h : SameEnd bandwidthBps reader e e') (hr : reader.readsNoMore = false) (bytes : List UInt8)
    (err : Option RelayErr) : e.reads bytes err = e'.reads bytes err := by
  have hclosed : e.closed = e'.closed := h.closed.resolve_left (by rw [hr]; exact Bool.false_ne_true)
  unfold Endpoint.reads
  rw [hclosed, h.stream.1, h.stream.2.1]

theorem writes (h : SameEnd bandwidthBps reader e e') (n : Nat) (err : Option RelayErr) :
    e.writes n err = e'.writes n err := by
  unfold Endpoint.writes
  rw [h.shut, h.stream.2.2]

end SameEnd

theorem throttled_eq {bytes : List UInt8} (err : Option RelayErr) (hb : bytes.length ≤ bandwidthBps)
    (hlen : bytes.length ≤ defaultRelayBufferSize) :
    throttled (some (min64 bandwidthBps (32 * 1024))) bytes err = err := by
  have hburst : ¬min64 bandwidthBps (32 * 1024) < bytes.length := by
    unfold min64 defaultRelayBufferSize at *
    split <;> omega
  simp only [throttled, waitN, if_neg hburst, Option.none_or, ite_self]

theorem read_none {side : Side} {bytes : List UInt8}
    (h : ¬((∃ buf, (c.dir side).reader = .read buf) ∧ bytes.length ≤ defaultRelayBufferSize)) (err : Option RelayErr) :
    c.step {} (.move side (.read bytes err)) = none := by
  refine Option.map_eq_none_iff.2 ?_
  simp only [Direction.step]
  split
  · rename_i buf hr
    exact if_neg fun hlen => h ⟨⟨buf, hr⟩, hlen⟩
  · rfl

namespace Alike

theorem callStep (h : Alike bandwidthBps w w') {l : TwoWayLabel} (hl : spares bandwidthBps w.call (.call l) = true) :
    (w.answered l).bind (w.call.step {}) = (w'.answered l).bind (w'.call.step {}) := by
  rw [← h.call]
  unfold Link.answered
  split
  · rename_i side bytes err
    have hend := h.ends side
    by_cases hread : (∃ buf, (w.call.dir side).reader = .read buf) ∧ bytes.length ≤ defaultRelayBufferSize
    · obtain ⟨⟨buf, hr⟩, hlen⟩ := hread
      have hmore : (w.call.dir side).reader.readsNoMore = false := by rw [hr]; rfl
      have hpass := throttled_eq err (of_decide_eq_true hl) hlen
      rw [hend.reads hmore, hend.limited.1, hend.plain.1, hpass]
      rfl
    · -- the reader is elsewhere, or has no room for so many bytes
      have hnone := read_none hread
      split <;> split <;> simp [hnone]
  · rename_i side n err
    rw [(h.ends side.other).writes]
  · rfl

theorem ends_step (h : Alike bandwidthBps w w') {l : TwoWayLabel} (hl : spares bandwidthBps w.call (.call l) = true)
    {l' : TwoWayLabel} (hc : w.call.step {} l' = some c') (side : Side) :
    SameEnd bandwidthBps (c'.dir side).reader (w.endsAfter l side) (w'.endsAfter l side) := by
  have hstays : (w.call.dir side).reader.readsNoMore = true → (c'.dir side).reader.readsNoMore = true :=
    TwoWay.readsNoMore_step hc
  have hend := h.ends side
  unfold Link.endsAfter
  rw [← h.call]
  split
  · split
    · exact (hend.produced _).mono hstays
    · exact hend.mono hstays
  · rename_i side'
    split
    · rename_i hs
      obtain ⟨rfl, hclosing⟩ := hs
      have hover : (w.call.dir side).reader.readsNoMore = true := by simpa [spares, hclosing] using hl
      exact (hend.closeWrite hover).mono hstays
    · exact hend.mono hstays
  · exact hend.mono hstays

theorem step (h : Alike bandwidthBps w w') {l : LinkLabel} (hl : spares bandwidthBps w.call l = true) :
    (w.step l = none ∧ w'.step l = none) ∨
      ∃ w₁ w₁', w.step l = some w₁ ∧ w'.step l = some w₁' ∧ Alike bandwidthBps w₁ w₁' := by
  cases l with
  | closer =>
    simp only [Link.step, ← h.call]
    split
    · exact .inr ⟨_, _, rfl, rfl, rfl, fun side => (h.ends side).close⟩
    · exact .inl ⟨rfl, rfl⟩
  | call l =>
    have hsame := h.callStep hl
    simp only [Link.step, ← hsame]
    cases hc : (w.answered l).bind (w.call.step {}) with
    | none => exact .inl ⟨rfl, rfl⟩
    | some c' =>
      obtain ⟨l', -, hl'⟩ := Option.bind_eq_some_iff.1 hc
      exact .inr ⟨_, _, rfl, rfl, rfl, h.ends_step hl hl'⟩

end Alike

theorem alike_start (hpos : 0 < bandwidthBps) (pool : BufferPool) (others : List Nat) {ends : Side → Endpoint}
    (hends : ∀ side, (ends side).opened = true) :
    Alike bandwidthBps (bidirectionalWithBandwidthLimit pool others bandwidthBps ends)
      (bidirectionalWithIdleTimeout pool others ends) := by
  refine ⟨rfl, fun side => ?_⟩
  have hopen := of_decide_eq_true (hends side)
  have hlimited : (bidirectionalWithBandwidthLimit pool others bandwidthBps ends).ends side =
      bandwidthLimitedRWC bandwidthBps (ends side) := by
    simp [bidirectionalWithBandwidthLimit, bidirectionalWithIdleTimeout, hpos]
  rw [hlimited]
  change SameEnd bandwidthBps .get _ (ends side)
  rw [hopen]
  refine ⟨⟨rfl, rfl, rfl⟩, ⟨?_, rfl⟩, ⟨rfl, rfl⟩, .inr rfl, rfl⟩
  simp [bandwidthLimitedRWC, newBandwidthReader, Int.not_le.2 hpos]

/-! ## The call goes on until it returns -/

/-- A move of which the ends know nothing. -/
def Move.inner : Move → Bool
  | .read .. | .write .. | .enqueueTimeout => false
  | _ => true

def Link.Able (bandwidthBps : Int) (w : Link) : Prop :=
  ∃ l : LinkLabel, l.own = true ∧ w.steady bandwidthBps l = true ∧ w.step l ≠ none

theorem able_inner (side : Side) (m : Move) (hm : m.inner = true)
    (hclose : m = .writer → (w.call.dir side).writer.closing = true →
      (w.call.dir side.other).reader.readsNoMore = true)
    (h : (w.call.dir side).step {} w.call.shared m ≠ none) : w.Able bandwidthBps := by
  refine ⟨.call (.move side m), rfl, ?_, ?_⟩
  · cases m with
    | read | write | enqueueTimeout => cases hm
    | writer =>
      simp only [Link.steady, spares, calm, Bool.true_and, Bool.or_eq_true, Bool.not_eq_true']
      cases hw : (w.call.dir side).writer.closing with
      | false => exact .inl rfl
      | true => exact .inr (hclose rfl hw)
    | _ => rfl
  · have hans : w.answered (.move side m) = some (.move side m) := by
      cases m with
      | read | write => cases hm
      | _ => rfl
    simpa [Link.step, hans, TwoWay.step] using h

theorem able_write (hs : w.Sound inputs) {side : Side} {chunk : RelayChunk} {k : Nat}
    (hw : (w.call.dir side).writer = .write chunk k) : w.Able bandwidthBps := by
  have hopen : (w.ends side.other).shut = false := by
    cases hsh : (w.ends side.other).shut with
    | false => rfl
    | true =>
      have hpast := hs.shut side hsh
      rw [hw] at hpast
      cases hpast
  have hwrites : (w.ends side.other).writes (chunk.n - k) none = true := by
    rw [of_decide_eq_true (hs.ends side.other), hopen]
    rfl
  refine ⟨.call (.move side (.write (chunk.n - k) none)), rfl, rfl, ?_⟩
  simp [Link.step, Link.answered, hwrites, TwoWay.step, Direction.step, hw]

theorem able_read (hs : w.Sound inputs) (hpos : 0 < bandwidthBps) {side : Side} {buf : Nat}
    (hr : (w.call.dir side).reader = .read buf) : w.Able bandwidthBps := by
  have hplain := of_decide_eq_true (hs.ends side)
  have hburst : (w.ends side).burst = none := by rw [hplain]
  have hgiven : ∀ bytes err, (w.ends side).reads bytes err = true → bytes.length ≤ 1 → err ≠ some .timeout →
      w.Able bandwidthBps := by
    intro bytes err hreads hlen herr
    refine ⟨.call (.move side (.read bytes err)), rfl, ?_, ?_⟩
    · simp only [Link.steady, calm, spares, Bool.and_eq_true, decide_eq_true_eq]
      exact ⟨herr, by omega⟩
    · have hroom : bytes.length ≤ defaultRelayBufferSize := Nat.le_trans hlen (by decide)
      simp [Link.step, Link.answered, hreads, hburst, TwoWay.step, Direction.step, hr, hroom]
  cases hin : (w.ends side).input with
  | nil =>
    rw [hin] at hplain
    exact hgiven [] (some .eof) (by rw [hplain]; rfl) (Nat.zero_le 1) (by simp)
  | cons b rest =>
    rw [hin] at hplain
    refine hgiven [b] none ?_ (Nat.le_refl 1) (by simp)
    rw [hplain]
    simp [Endpoint.reads]

theorem able_writer (hs : w.Sound inputs) {side : Side}
    (hnext : (w.call.dir side).chunks ≠ [] ∨ (w.call.dir side).closed = true)
    (hclose : (w.call.dir side).writer.closing = true → (w.call.dir side.other).reader.readsNoMore = true)
    (hdone : ∀ r, (w.call.dir side).writer ≠ .done r) : w.Able bandwidthBps := by
  have hwriter : stepWriter {} w.call.shared (w.call.dir side) ≠ none → w.Able bandwidthBps :=
    fun h => able_inner side .writer rfl (fun _ => hclose) h
  cases hw : (w.call.dir side).writer with
  | select =>
    refine able_inner side .recv rfl (fun h => by cases h) ?_
    cases hq : (w.call.dir side).chunks with
    | nil =>
      have hclosed := hnext.resolve_left fun h => h hq
      simp [Direction.step, hw, hq, hclosed]
    | cons chunk rest => simp [Direction.step, hw, hq]
  | write chunk k => exact able_write hs hw
  | account chunk err => cases err <;> exact hwriter (by simp [stepWriter, hw])
  | release | closeWrite | report => exact hwriter (by simp [stepWriter, hw])
  | done r => exact absurd hw (hdone r)

theorem clean_of_sound {pc : WriterPc} (hs : pc.sound = true) (h : pc.closing = true ∨ ∃ r, pc = .done r) :
    pc.clean = true := by
  cases pc with
  | closeWrite | done => exact hs
  | _ =>
    rcases h with h | ⟨r, h⟩
    · cases h
    · cases h

theorem able_reader (hs : w.Sound inputs) (hpos : 0 < bandwidthBps) {side : Side}
    (hdone : ∀ r, (w.call.dir side).reader ≠ .done r) : w.Able bandwidthBps := by
  have hsound := (hs.dirs side).reader
  have hreader : stepReader {} w.call.shared (w.call.dir side) ≠ none → w.Able bandwidthBps :=
    fun h => able_inner side .reader rfl (fun h => by cases h) h
  cases hr : (w.call.dir side).reader with
  | get =>
    refine able_inner side (.get none) rfl (fun h => by cases h) ?_
    simp [Direction.step, hr, getRelayBuffer, BufferPool.get]
  | read buf => exact able_read hs hpos hr
  | offer chunk err =>
    by_cases hroom : (w.call.dir side).chunks.length < defaultRelayQueueSize
    · refine able_inner side .send rfl (fun h => by cases h) ?_
      simp [Direction.step, hr, hroom]
    · -- the queue is full, and its writer is still at work
      have hfull : (w.call.dir side).chunks ≠ [] := by
        intro h
        rw [h] at hroom
        exact hroom (by decide)
      have hends := (hs.call.dirs side).ends
      have hopen : (w.call.dir side).writer.clean = false := by
        cases hc : (w.call.dir side).writer.clean with
        | false => rfl
        | true => exact absurd (hends.drained hc).1 hfull
      have hworks : ¬((w.call.dir side).writer.closing = true ∨ ∃ r, (w.call.dir side).writer = .done r) := by
        intro hend
        rw [clean_of_sound (hs.dirs side).writer hend] at hopen
        cases hopen
      exact able_writer hs (.inl hfull) (fun hclosing => absurd (.inl hclosing) hworks)
        fun r hw => hworks (.inr ⟨r, hw⟩)
  | check err => cases err <;> exact hreader (by simp [stepReader, hr])
  | observe | recycle | close | report | stopped | expired => exact hreader (by simp [stepReader, hr])
  | done r => exact absurd hr (hdone r)

theorem able_of_running (hs : w.Sound inputs) (hpos : 0 < bandwidthBps) (h : w.call.result = none) :
    w.Able bandwidthBps := by
  by_cases hreading : ∃ side, ∀ r, (w.call.dir side).reader ≠ .done r
  · obtain ⟨side, hdone⟩ := hreading
    exact able_reader hs hpos hdone
  · have hread : ∀ side, ∃ r, (w.call.dir side).reader = .done r := by
      intro side
      by_contra hne
      exact hreading ⟨side, fun r hr => hne ⟨r, hr⟩⟩
    obtain ⟨side, hside⟩ : ∃ side, w.call.finished side = false := by
      by_contra hne
      have hall : ∀ side, w.call.finished side = true := fun side => by
        by_contra hf
        exact hne ⟨side, Bool.eq_false_iff.2 hf⟩
      simp [TwoWay.result, hall] at h
    obtain ⟨r, hr⟩ := hread side
    obtain ⟨r', hr'⟩ := hread side.other
    by_cases hwriting : ∀ r, (w.call.dir side).writer ≠ .done r
    · refine able_writer hs (.inr ?_) (fun _ => by rw [hr']; rfl) hwriting
      rw [(hs.call.dirs side).ends.closed, hr]
      rfl
    · obtain ⟨r'', hw⟩ := not_forall.1 hwriting
      refine ⟨.call (.returned side), rfl, rfl, ?_⟩
      simp [Link.step, Link.answered, TwoWay.step, Direction.returned, hr, not_not.1 hw, hside]

theorem Alike.steady (h : Alike bandwidthBps w w') (l : LinkLabel) :
    w.steady bandwidthBps l = w'.steady bandwidthBps l := by
  unfold Link.steady
  rw [h.call]

theorem Alike.able (h : Alike bandwidthBps w w') (hable : w'.Able bandwidthBps) : w.Able bandwidthBps := by
  obtain ⟨l, hown, hok, hstep⟩ := hable
  rw [← h.steady] at hok
  refine ⟨l, hown, hok, fun hnone => ?_⟩
  rcases h.step (Bool.and_eq_true_iff.1 hok).2 with ⟨-, h'⟩ | ⟨w₁, -, h', -⟩
  · exact hstep h'
  · cases hnone.symm.trans h'

/-! ## Speed, not content -/

section Main

variable {pool : BufferPool} {others : List Nat} {ends : Side → Endpoint} {ls : List LinkLabel}

/-- Under the condition each call follows the other. -/
theorem runs_alike (hpos : 0 < bandwidthBps) (hends : ∀ side, (ends side).opened = true) (ls : List LinkLabel) :
    (∀ w, Run Link.step (fun w l => w.steady bandwidthBps l = true)
        (bidirectionalWithBandwidthLimit pool others bandwidthBps ends) ls w →
      ∃ w', Run Link.step (fun w l => w.steady bandwidthBps l = true)
        (bidirectionalWithIdleTimeout pool others ends) ls w' ∧ Alike bandwidthBps w w') ∧
    ∀ w', Run Link.step (fun w l => w.steady bandwidthBps l = true)
        (bidirectionalWithIdleTimeout pool others ends) ls w' →
      ∃ w, Run Link.step (fun w l => w.steady bandwidthBps l = true)
        (bidirectionalWithBandwidthLimit pool others bandwidthBps ends) ls w ∧ Alike bandwidthBps w w' := by
  refine run_lockstep (alike_start hpos pool others hends) ?_ ?_ ls
  · intro w w' l hsame
    rw [hsame.steady]
  · intro w w' l hsame hok
    exact hsame.step (Bool.and_eq_true_iff.1 hok).2

theorem run_sound (ho : pool.Owns others) (hends : ∀ side, ends side = { input := inputs side })
    (h : Run Link.step (fun _ l => calm l = true) (bidirectionalWithIdleTimeout pool others ends) ls w) :
    w.Sound inputs :=
  h.inv (Link.Sound inputs) (Link.sound_start ho hends) fun _ _ _ hs hl hst => hs.step hl hst

theorem Link.Sound.outcome_eq (hs : w.Sound inputs) (h : w.call.outcome ≠ none) :
    w.call.outcome = some (none, inputs .sent, inputs .received) := by
  have hr : w.call.result ≠ none := fun hr => h (by rw [TwoWay.outcome, hr]; rfl)
  obtain ⟨hnil, hwritten⟩ := hs.outcome hr
  rw [TwoWay.outcome, hnil, hwritten, hwritten]
  rfl

/-- Where no `Read` returns more than the limit, and no end is closed by its writer before its reader has had the
last `Read`, the call with the limit goes through the same states as the one without. Over reliable ends it goes on
until it returns, and then it has returned and delivered what the call without the limit returns and delivers,
whatever the interleaving of either. -/
theorem limit_changes_only_speed (hpos : 0 < bandwidthBps) (ho : pool.Owns others)
    (hends : ∀ side, (ends side).opened = true) :
    (∀ ls c,
      (∃ w, Run Link.step (fun w l => w.steady bandwidthBps l = true)
        (bidirectionalWithBandwidthLimit pool others bandwidthBps ends) ls w ∧ w.call = c) ↔
      ∃ w, Run Link.step (fun w l => w.steady bandwidthBps l = true)
        (bidirectionalWithIdleTimeout pool others ends) ls w ∧ w.call = c) ∧
    ((∀ side, (ends side).reliable = true) → ∀ ls w,
      Run Link.step (fun w l => w.steady bandwidthBps l = true)
        (bidirectionalWithBandwidthLimit pool others bandwidthBps ends) ls w →
      (w.call.outcome = none → w.Able bandwidthBps) ∧
      ∀ ls' w', Run Link.step (fun _ l => calm l = true) (bidirectionalWithIdleTimeout pool others ends) ls' w' →
        w.call.outcome ≠ none → w'.call.outcome ≠ none → w.call.outcome = w'.call.outcome) := by
  refine ⟨fun ls c => ⟨?_, ?_⟩, fun hrel ls w h => ?_⟩
  · rintro ⟨w, h, rfl⟩
    obtain ⟨w', h', hsame⟩ := (runs_alike hpos hends ls).1 w h
    exact ⟨w', h', hsame.call.symm⟩
  · rintro ⟨w', h', rfl⟩
    obtain ⟨w, h, hsame⟩ := (runs_alike hpos hends ls).2 w' h'
    exact ⟨w, h, hsame.call⟩
  · have hplain : ∀ side, ends side = { input := (ends side).input } := by
      intro side
      have hopen := of_decide_eq_true (hends side)
      have hsound := of_decide_eq_true (hrel side)
      rw [hopen] at hsound
      rw [hopen]
      exact hsound
    obtain ⟨w₁, h₁, hsame⟩ := (runs_alike hpos hends ls).1 w h
    have hs₁ := run_sound ho hplain (h₁.mono fun _ _ hok => (Bool.and_eq_true_iff.1 hok).1)
    refine ⟨fun hnone => hsame.able (able_of_running hs₁ hpos ?_), fun ls' w' h' hw hw' => ?_⟩
    · rw [← hsame.call]
      exact Option.map_eq_none_iff.1 hnone
    · have hs' := run_sound ho hplain h'
      rw [hs'.outcome_eq hw']
      rw [hsame.call] at hw ⊢
      exact hs₁.outcome_eq hw

end Main

/-- The moves of a direction that reads these bytes at once, and then EOF. -/
def reading (bytes : List UInt8) : List Move :=
  [.get none, .read bytes none, .reader, .send, .reader, .get none, .read [] (some .eof), .reader, .reader, .reader,
    .reader]

def writing (n : Nat) : List Move := [.recv, .write n none, .writer, .writer, .recv, .writer, .writer]

def movesOf (side : Side) (ms : List Move) : List LinkLabel := ms.map fun m => .call (.move side m)

def exchange : List LinkLabel :=
  movesOf .sent (reading [1, 2]) ++ movesOf .received (reading [3]) ++ movesOf .sent (writing 2) ++
    .call (.returned .sent) :: movesOf .received (writing 1) ++ [.call (.returned .received)]

def exchangeEnds : Side → Endpoint
  | .sent => { input := [1, 2] }
  | .received => { input := [3] }

theorem limit_changes_only_speed_exchange :
    ∃ w : Link, w.call.outcome = some (none, [1, 2], [3]) ∧
      ∃ w', Run Link.step (fun w l => w.steady 5 l = true) (bidirectionalWithIdleTimeout {} [] exchangeEnds)
          exchange w' ∧
        w'.call = w.call := by
  obtain ⟨w, hrun, hout⟩ := run_checked_any (P := fun w : Link => w.call.outcome = some (none, [1, 2], [3]))
    (show (exec (checked Link.step (Link.steady 5)) (bidirectionalWithBandwidthLimit {} [] 5 exchangeEnds) exchange).any
      _ = true by decide +kernel)
  have hown : BufferPool.Owns {} [] := ⟨List.nodup_nil, fun i hi => absurd hi List.not_mem_nil⟩
  have hopen : ∀ side, (exchangeEnds side).opened = true := fun side => by cases side <;> rfl
  exact ⟨w, hout, ((limit_changes_only_speed (by decide) hown hopen).1 exchange w.call).1 ⟨w, hrun, rfl⟩⟩

def answerEnds : Side → Endpoint
  | .sent => { input := [] }
  | .received => { input := [7] }

/-- The direction from `a` has an empty stream and returns; the other one makes these moves and returns. -/
def answerRun (received : List Move) : List LinkLabel :=
  movesOf .sent [.get none, .read [] (some .eof), .reader, .reader, .reader, .reader, .recv, .writer, .writer] ++
    .call (.returned .sent) :: movesOf .received received ++ [.call (.returned .received)]

/-- Both bytes of `a` come with one `Read`. -/
def burstRun : List LinkLabel :=
  movesOf .received (reading [3]) ++ movesOf .sent [.get none, .read [1, 2] none, .reader, .send, .reader, .reader,
    .reader, .writerCancelled, .writer, .writer] ++ .call (.returned .sent) ::
    movesOf .received [.writerCancelled, .writer, .writer] ++ [.call (.returned .received)]

/-- Without a limit the byte of `b` comes. With one, large as it may be, `b` is closed as soon as `a` has nothing to
send, and the call fails. With a limit of one byte a second the two bytes of `a` are too many for one `Read`. -/
theorem limit_loses_bytes :
    (∃ w, Run Link.step (fun _ l => calm l = true) (bidirectionalWithIdleTimeout {} [] answerEnds)
        (answerRun (reading [7] ++ writing 1)) w ∧ w.call.outcome = some (none, [], [7])) ∧
    (∃ w, Run Link.step (fun _ l => calm l = true) (bidirectionalWithBandwidthLimit {} [] 1000 answerEnds)
        (answerRun (TwoWay.failRead .closed)) w ∧ w.call.outcome = some (some .closed, [], [])) ∧
    (∃ w, Run Link.step (fun _ l => calm l = true) (bidirectionalWithIdleTimeout {} [] exchangeEnds) exchange w ∧
      w.call.outcome = some (none, [1, 2], [3])) ∧
    ∃ w, Run Link.step (fun _ l => calm l = true) (bidirectionalWithBandwidthLimit {} [] 1 exchangeEnds) burstRun w ∧
      w.call.outcome = some (some .other, [], []) := by
  refine ⟨run_checked_any ?_, run_checked_any ?_, run_checked_any ?_, run_checked_any ?_⟩
  all_goals decide +kernel

end TunnelEdge.Relay
